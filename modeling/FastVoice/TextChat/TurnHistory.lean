import Mathlib.Data.List.Perm.Basic
import FastVoice.TextChat.Requests

/-! # The turns of a session under concurrent requests

A document that is written over the row keeps what its request has read. It keeps what the row holds if
the row holds nothing that the request has not read.
-/
namespace FastVoice.TextChat
open Async

section Documents

variable {J : Type}

def SessionData.allTurns (d : SessionData J) : List (Turn J) :=
  d.turns ++ d.discardedFuture.flatMap DiscardedFuture.turns

def SessionData.turnIds (d : SessionData J) : List Nat := d.allTurns.map Turn.id

def Keeps (d d' : SessionData J) : Prop :=
  ∀ turn ∈ d.allTurns, ∃ other ∈ d'.allTurns, other.id = turn.id ∧
    (turn.status = .completed →
      other.status = .completed ∧ other.assistantMessage = turn.assistantMessage)

instance (d d' : SessionData J) : Decidable (Keeps d d') :=
  inferInstanceAs (Decidable (∀ turn ∈ d.allTurns, ∃ other ∈ d'.allTurns, _ ∧ _))

theorem keeps_refl (d : SessionData J) : Keeps d d := fun turn hTurn => ⟨turn, hTurn, rfl, fun h => ⟨h, rfl⟩⟩

theorem Keeps.trans {d d' d'' : SessionData J} (h : Keeps d d') (h' : Keeps d' d'') : Keeps d d'' := by
  intro turn hTurn
  obtain ⟨middle, hMiddle, hId, hDone⟩ := h turn hTurn
  obtain ⟨last, hLast, hId', hDone'⟩ := h' middle hMiddle
  refine ⟨last, hLast, hId'.trans hId, fun hCompleted => ?_⟩
  obtain ⟨hMiddleDone, hMessage⟩ := hDone hCompleted
  obtain ⟨hLastDone, hMessage'⟩ := hDone' hMiddleDone
  exact ⟨hLastDone, hMessage'.trans hMessage⟩

theorem Keeps.turnIds {d d' : SessionData J} (h : Keeps d d') {id : Nat} (hId : id ∈ d.turnIds) :
    id ∈ d'.turnIds := by
  obtain ⟨turn, hTurn, rfl⟩ := List.mem_map.mp hId
  obtain ⟨other, hOther, hSame, -⟩ := h turn hTurn
  exact List.mem_map.mpr ⟨other, hOther, hSame⟩

theorem splitAtTurn_append {id : Nat} {turns activeTurns futureTurns : List (Turn J)}
    (h : splitAtTurn id turns = some (activeTurns, futureTurns)) : activeTurns ++ futureTurns = turns := by
  induction turns generalizing activeTurns with
  | nil => cases h
  | cons turn turns ih =>
    rw [splitAtTurn] at h
    split at h
    · cases h
      rfl
    · obtain ⟨⟨rest, future⟩, hRest, hParts⟩ := Option.map_eq_some_iff.mp h
      cases hParts
      exact congrArg (turn :: ·) (ih hRest)

theorem truncate_perm {d : SessionData J} {activeTurns : List (Turn J)}
    {discardedFuture : List (DiscardedFuture J)}
    (h : truncateTextChatFutureTurns d = some (activeTurns, discardedFuture)) :
    (activeTurns ++ discardedFuture.flatMap DiscardedFuture.turns).Perm d.allTurns := by
  rw [truncateTextChatFutureTurns] at h
  split at h
  · cases h
    exact .refl _
  · obtain ⟨⟨active, future⟩, hSplit, hParts⟩ := Option.map_eq_some_iff.mp h
    cases hParts
    rw [SessionData.allTurns, ← splitAtTurn_append hSplit, List.append_assoc]
    refine List.Perm.append_left activeTurns ?_
    split
    · rename_i hEmpty
      rw [List.isEmpty_iff.mp hEmpty]
      exact .refl _
    · rw [List.flatMap_append]
      simpa using List.perm_append_comm

theorem allTurns_mapLast {d : SessionData J} (f : Turn J → Turn J) (status : SessionStatus)
    (h : lastPending d.turns = true) : ∃ turns turn, d.turns = turns ++ [turn] ∧ turn.status = .pending ∧
      (d.mapLast f status).allTurns =
        turns ++ [f turn] ++ d.discardedFuture.flatMap DiscardedFuture.turns := by
  rw [lastPending] at h
  obtain ⟨turn, hLast, hPending⟩ := (Option.any_eq_true _ _).mp h
  refine ⟨d.turns.dropLast, turn, ?_, of_decide_eq_true hPending, ?_⟩
  · exact (List.dropLast_append_getLast? turn hLast).symm
  · simp [SessionData.allTurns, SessionData.mapLast, hLast]

theorem mapLast_keeps {d : SessionData J} {f : Turn J → Turn J} (hId : ∀ turn, (f turn).id = turn.id)
    (status : SessionStatus) (h : lastPending d.turns = true) :
    Keeps d (d.mapLast f status) ∧ (d.mapLast f status).turnIds = d.turnIds := by
  obtain ⟨turns, turn, hTurns, hPending, hAll⟩ := allTurns_mapLast f status h
  constructor
  · intro other hOther
    rw [hAll]
    rw [SessionData.allTurns, hTurns, List.mem_append, List.mem_append, List.mem_singleton] at hOther
    obtain (hOther | rfl) | hOther := hOther
    · exact ⟨other, by simp [hOther], rfl, fun hDone => ⟨hDone, rfl⟩⟩
    · refine ⟨f other, by simp, hId other, fun hDone => ?_⟩
      rw [hPending] at hDone
      cases hDone
    · exact ⟨other, by simp [hOther], rfl, fun hDone => ⟨hDone, rfl⟩⟩
  · rw [SessionData.turnIds, SessionData.turnIds, hAll, SessionData.allTurns, hTurns]
    simp [hId]

theorem Rewrites.keeps {loaded d : SessionData J} {unsaved : Option Nat}
    (h : Rewrites loaded unsaved d) : Keeps loaded d := by
  cases h with
  | append id text hTurns =>
    intro turn hTurn
    refine ⟨turn, ?_, rfl, fun hDone => ⟨hDone, rfl⟩⟩
    have hMem := (truncate_perm hTurns).mem_iff.mpr hTurn
    simp only [SessionData.allTurns, appendedSessionData, List.mem_append] at hMem ⊢
    tauto
  | rewind cursorTurnId => exact keeps_refl loaded
  | complete execution status hStatus hPending => exact (mapLast_keeps (Turn.complete_id execution) status hPending).1
  | fail message hPending => exact (mapLast_keeps (Turn.fail_id message) .error hPending).1
  | close => exact keeps_refl loaded

theorem Rewrites.turnIds {loaded d : SessionData J} {unsaved : Option Nat}
    (h : Rewrites loaded unsaved d) : d.turnIds.Perm (unsaved.toList ++ loaded.turnIds) := by
  cases h with
  | append id text hTurns =>
    have hIds := (truncate_perm hTurns).map Turn.id
    rw [SessionData.turnIds, SessionData.turnIds]
    refine List.Perm.trans ?_ (hIds.cons id)
    simp only [SessionData.allTurns, appendedSessionData, List.map_append, List.append_assoc]
    exact List.perm_middle
  | rewind cursorTurnId => exact .refl _
  | complete execution status hStatus hPending =>
    rw [(mapLast_keeps (Turn.complete_id execution) status hPending).2]
    exact .refl _
  | fail message hPending =>
    rw [(mapLast_keeps (Turn.fail_id message) .error hPending).2]
    exact .refl _
  | close => exact .refl _

end Documents

section Statements

variable {ι J : Type} [DecidableEq ι]

/-- The turn of a request that has gone well occurs once, and a completed turn is never replaced by
an older version of it. -/
structure TurnsKept (cfg : ChatConfig ι J) : Prop where
  kept : ∀ proc value, (cfg.procs proc).result? = some (.ok value) →
    ∀ id ∈ drawnBy proc cfg.shared, cfg.shared.state.session.sessionData.turnIds.count id = 1
  final : ∀ entry ∈ cfg.shared.history, ∀ turn ∈ entry.found.session.sessionData.allTurns,
    turn.status = .completed → ∀ other ∈ cfg.shared.state.session.sessionData.allTurns,
      other.id = turn.id →
        other.status = .completed ∧ other.assistantMessage = turn.assistantMessage

/-- A document is written over a row that holds nothing that its request has not read. -/
def WritesWhatItRead (proc : ι) (s : ChatRecord ι J) (command : ChatCommand J) : Prop :=
  (s.state.savedBy command).isSome →
    ∀ read ∈ loadedBy proc s, Keeps s.state.session.sessionData read

instance (proc : ι) (s : ChatRecord ι J) (command : ChatCommand J) :
    Decidable (WritesWhatItRead proc s command) :=
  inferInstanceAs (Decidable (_ → _))

def chatDiscipline (ι J : Type) [DecidableEq ι] :
    System.Discipline ι (ChatCommand.Reply (J := J)) ChatError (ChatRecord ι J) (Outside J) where
  call proc command outcome s := outcome.executed = true → WritesWhatItRead proc s command
  environment _ _ := True

instance (proc : ι) (command : ChatCommand J) (outcome : Outcome ChatError) (s : ChatRecord ι J) :
    Decidable ((chatDiscipline ι J).call proc command outcome s) :=
  inferInstanceAs (Decidable (_ → _))

instance (outside : Outside J) (s : ChatRecord ι J) :
    Decidable ((chatDiscipline ι J).environment outside s) := isTrue trivial

end Statements

section Steps

variable {ι J : Type} {s s' : ChatRecord ι J} {t : ι → ChatStage J} {proc : ι}

structure Sound (t : ι → ChatStage J) (last : Nat) (d : SessionData J) : Prop where
  nodup : d.turnIds.Nodup
  old : ∀ id ∈ d.turnIds, id ≤ last
  free : ∀ proc id, (t proc).unsaved = some id → id ∉ d.turnIds

variable [DecidableEq ι]

structure ChatConsistent (s : ChatRecord ι J) (t : ι → ChatStage J) : Prop where
  knows : KnowsHistory s t
  row : Sound t s.state.lastTurnId s.state.session.sessionData
  loaded : ∀ proc d, (t proc).loaded = some d → Sound t s.state.lastTurnId d
  unsaved : ∀ proc id, (t proc).unsaved = some id → id ≤ s.state.lastTurnId ∧
    ∀ other, other ≠ proc → (t other).unsaved ≠ some id
  added : ∀ proc id, (t proc).added = some id → id ∈ s.state.session.sessionData.turnIds
  kept : ∀ entry ∈ s.history, Keeps entry.found.session.sessionData s.state.session.sessionData

theorem Sound.draws {stage : ChatStage J} {last last' : Nat} {d : SessionData J} (h : Sound t last d)
    (hDraws : Draws (t proc) stage last last') : Sound (Function.update t proc stage) last' d where
  nodup := h.nodup
  old id hId := Nat.le_trans (h.old id hId) hDraws.grows
  free other id hUnsaved hId := by
    by_cases hOther : other = proc
    · subst hOther
      rw [Function.update_self] at hUnsaved
      obtain hSame | ⟨hLast, -⟩ := hDraws.unsaved id hUnsaved
      · exact h.free other id hSame hId
      · have hOld := h.old id hId
        omega
    · rw [Function.update_of_ne hOther] at hUnsaved
      exact h.free other id hUnsaved hId

namespace ChatConsistent

theorem step (h : ChatConsistent s t) {stage : ChatStage J}
    {entry : Entry ι (ChatCommand J) ChatError (ChatStore J) (Outside J)}
    (hHistory : s'.history = entry :: s.history) (hFound : entry.found = s.state)
    (hKnows : KnowsHistory s' (Function.update t proc stage))
    (hDraws : Draws (t proc) stage s.state.lastTurnId s'.state.lastTurnId)
    (hRow : Sound (Function.update t proc stage) s'.state.lastTurnId s'.state.session.sessionData)
    (hLoaded : ∀ d, stage.loaded = some d → Sound t s.state.lastTurnId d)
    (hAdded : ∀ id, stage.added = some id → id ∈ s'.state.session.sessionData.turnIds)
    (hKeeps : Keeps s.state.session.sessionData s'.state.session.sessionData) :
    ChatConsistent s' (Function.update t proc stage) where
  knows := hKnows
  row := hRow
  loaded other d hRead := by
    by_cases hOther : other = proc
    · subst hOther
      rw [Function.update_self] at hRead
      exact (hLoaded d hRead).draws hDraws
    · rw [Function.update_of_ne hOther] at hRead
      exact (h.loaded other d hRead).draws hDraws
  unsaved other id hUnsaved := by
    by_cases hOther : other = proc
    · subst hOther
      rw [Function.update_self] at hUnsaved
      obtain hSame | ⟨hLast, hNew⟩ := hDraws.unsaved id hUnsaved
      · obtain ⟨hOld, hElse⟩ := h.unsaved other id hSame
        refine ⟨Nat.le_trans hOld hDraws.grows, fun third hThird => ?_⟩
        rw [Function.update_of_ne hThird]
        exact hElse third hThird
      · refine ⟨hNew, fun third hThird hSame => ?_⟩
        rw [Function.update_of_ne hThird] at hSame
        have hOld := (h.unsaved third id hSame).1
        omega
    · rw [Function.update_of_ne hOther] at hUnsaved
      obtain ⟨hOld, hElse⟩ := h.unsaved other id hUnsaved
      refine ⟨Nat.le_trans hOld hDraws.grows, fun third hThird hSame => ?_⟩
      by_cases hProc : third = proc
      · subst hProc
        rw [Function.update_self] at hSame
        obtain hSame | ⟨hLast, -⟩ := hDraws.unsaved id hSame
        · exact hElse third hThird hSame
        · omega
      · rw [Function.update_of_ne hProc] at hSame
        exact hElse third hThird hSame
  added other id hOwn := by
    by_cases hOther : other = proc
    · subst hOther
      rw [Function.update_self] at hOwn
      exact hAdded id hOwn
    · rw [Function.update_of_ne hOther] at hOwn
      exact hKeeps.turnIds (h.added other id hOwn)
  kept other hOther := by
    rw [hHistory] at hOther
    obtain rfl | hOther := List.mem_cons.mp hOther
    · exact hFound ▸ hKeeps
    · exact (h.kept other hOther).trans hKeeps

theorem sound_rewrites (h : ChatConsistent s t) {stage : ChatStage J} {read d : SessionData J}
    (hRead : Sound t s.state.lastTurnId read) (hRewrites : Rewrites read (t proc).unsaved d)
    (hUnsaved : stage.unsaved = none) : Sound (Function.update t proc stage) s.state.lastTurnId d := by
  have hIds := hRewrites.turnIds
  have hMem : ∀ id, id ∈ d.turnIds → (t proc).unsaved = some id ∨ id ∈ read.turnIds := by
    intro id hId
    obtain hId | hId := List.mem_append.mp (hIds.mem_iff.mp hId)
    · exact .inl (Option.mem_toList.mp hId)
    · exact .inr hId
  constructor
  · rw [hIds.nodup_iff]
    cases hOwn : (t proc).unsaved with
    | none => exact hRead.nodup
    | some id => exact List.nodup_cons.mpr ⟨hRead.free proc id hOwn, hRead.nodup⟩
  · intro id hId
    obtain hOwn | hOld := hMem id hId
    · exact (h.unsaved proc id hOwn).1
    · exact hRead.old id hOld
  · intro other id hOther hId
    by_cases hSame : other = proc
    · subst hSame
      rw [Function.update_self, hUnsaved] at hOther
      cases hOther
    · rw [Function.update_of_ne hSame] at hOther
      obtain hOwn | hOld := hMem id hId
      · exact (h.unsaved proc id hOwn).2 other hSame hOther
      · exact hRead.free other id hOther hOld

theorem call (h : ChatConsistent s t) {command : ChatCommand J} {outcome : Outcome ChatError}
    (hPermits : (t proc).Permits command) (hDiscipline : (chatDiscipline ι J).call proc command outcome s) :
    ChatConsistent ((textChat ι J).recorded.perform proc command outcome s).2
      (Function.update t proc ((chatProtocol J).next (t proc) command
        ((textChat ι J).recorded.perform proc command outcome s).1)) := by
  have hKnows := knowsHistory_call outcome h.knows hPermits
  rw [chatRecord_call] at hKnows ⊢
  cases chatMoves outcome s.state hPermits with
  | quiet hSaved hDocument hDraws hLoaded hAdded =>
    refine h.step rfl rfl hKnows hDraws ?_ (fun d hRead => ?_) (fun id hId => ?_) ?_
    · exact hDocument ▸ h.row.draws hDraws
    · obtain hSame | rfl := hLoaded d hRead
      · exact h.loaded proc d hSame
      · exact h.row
    · exact hDocument ▸ h.added proc id (hAdded id hId)
    · exact hDocument ▸ keeps_refl _
  | saves read d hExecuted hSaved hRead hRewrites hDocument hLast hUnsaved hLoaded hAdded =>
    have hSound := h.loaded proc read hRead
    have hRow := h.sound_rewrites hSound hRewrites hUnsaved
    have hKeeps : Keeps s.state.session.sessionData d := by
      refine Keeps.trans ?_ hRewrites.keeps
      refine hDiscipline hExecuted (by rw [hSaved]; rfl) read ?_
      cases hStage : t proc with
      | stopped =>
        rw [hStage] at hRead
        cases hRead
      | active loaded unsaved added =>
        rw [hStage] at hRead
        exact (h.knows proc loaded unsaved added hStage).1 ▸ hRead
    refine h.step rfl rfl hKnows (draws_same hLast (.inr hUnsaved)) ?_ (fun other hOther => ?_)
      (fun id hId => ?_) ?_
    · exact hLast.symm ▸ hDocument.symm ▸ hRow
    · exact hLoaded other hOther ▸ hSound
    · rw [hDocument]
      obtain hOwn | hKept := hAdded id hId
      · exact hRewrites.turnIds.mem_iff.mpr (List.mem_append_left _ (Option.mem_toList.mpr hOwn))
      · exact hKeeps.turnIds (h.added proc id hKept)
    · exact hDocument.symm ▸ hKeeps

theorem environment (h : ChatConsistent s t) {outside : Outside J}
    (hMove : (textChat ι J).recorded.environment outside s = some s') : ChatConsistent s' t := by
  have hOwn := own_environment hMove
  cases hMove
  refine ⟨fun proc loaded unsaved added hStage => ?_, h.row, h.loaded, h.unsaved, h.added, ?_⟩
  · rw [loadedBy, drawnBy, hOwn proc]
    exact h.knows proc loaded unsaved added hStage
  · intro entry hEntry
    obtain rfl | hEntry := List.mem_cons.mp hEntry
    · exact keeps_refl _
    · exact h.kept entry hEntry

end ChatConsistent

end Steps

section Runs

variable {ι J : Type} [DecidableEq ι]

theorem chatConsistent_created (outside : Outside J) :
    ChatConsistent (⟨.created outside, []⟩ : ChatRecord ι J) fun _ => .active none none none where
  knows := by
    rintro proc loaded unsaved added hStage
    cases hStage
    exact ⟨rfl, rfl⟩
  row := by
    constructor
    · exact List.nodup_singleton 1
    · intro id hId
      rw [List.mem_singleton.mp hId]
      exact Nat.le_refl 1
    · intro proc id hId
      cases hId
  loaded proc d hRead := by cases hRead
  unsaved proc id hId := by cases hId
  added proc id hId := by cases hId
  kept entry hEntry := by cases hEntry

/-- No turn is lost in a run whose requests write nothing over what they have not read. -/
theorem turns_kept (helpers : ChatHelpers J) (requests : ι → ChatRequest) (outside : Outside J)
    {events : List (Event ι ChatError (Outside J))} {last : ChatConfig ι J}
    (hFollows : (textChat ι J).recorded.Follows (chatDiscipline ι J)
      (chatRequests helpers requests outside) events)
    (hRun : (textChat ι J).recorded.run (chatRequests helpers requests outside) events = some last) :
    TurnsKept last := by
  obtain ⟨t, h, hObeys⟩ := System.ghost_invariant (P := fun _ => chatProtocol J)
    (J := ChatConsistent)
    (fun proc command outcome s t h hPermits hDiscipline => h.call hPermits hDiscipline)
    (fun outside s s' t h _ hMove => h.environment hMove)
    hFollows hRun (fun proc => (requests proc).obeys helpers) (chatConsistent_created outside)
  constructor
  · intro proc value hResult id hDrawn
    obtain ⟨loaded, added, hStage⟩ := (hObeys proc).result hResult
    rw [← (h.knows proc loaded none added hStage).2, Option.none_or] at hDrawn
    refine List.count_eq_one_of_mem h.row.nodup (h.added proc id ?_)
    rw [hStage]
    exact hDrawn
  · intro entry hEntry turn hTurn hDone other hOther hId
    obtain ⟨kept, hKept, hSame, hKeptDone⟩ := h.kept entry hEntry turn hTurn
    have hEq := List.inj_on_of_nodup_map h.row.nodup hOther hKept (hId.trans hSame.symm)
    exact hEq ▸ hKeptDone hDone

end Runs

def plainHelpers : ChatHelpers Unit := ⟨fun _ => (), fun usageInfo _ => usageInfo, fun _ => (), fun _ _ => ()⟩

def plainOutside : Outside Unit where
  execution := ⟨some "Hello", [], (), defaultTextChatCheckpoint, ∅, false⟩
  durationSeconds := ()
  quotaError := none

def twoMessages : ChatConfig Bool Unit :=
  chatRequests plainHelpers (fun _ => .message "Hi" none) plainOutside

def chatStep (first : Bool) : Event Bool ChatError (Outside Unit) := .resume first .reply

theorem turns_kept_in_turn : ∃ last,
    (textChat Bool Unit).recorded.run twoMessages
      (List.replicate 10 (chatStep true) ++ List.replicate 10 (chatStep false)) = some last ∧
    TurnsKept last := by
  have hEnds : ((textChat Bool Unit).recorded.run twoMessages
      (List.replicate 10 (chatStep true) ++ List.replicate 10 (chatStep false))).isSome = true := by
    decide +kernel
  obtain ⟨last, hLast⟩ := Option.isSome_iff_exists.mp hEnds
  exact ⟨last, hLast, turns_kept plainHelpers _ plainOutside (by decide +kernel) hLast⟩

def lateMessage : List (Event Bool ChatError (Outside Unit)) :=
  [chatStep false] ++ List.replicate 10 (chatStep true) ++ List.replicate 9 (chatStep false)

theorem answered_turn_lost : ¬ ∀ (helpers : ChatHelpers Unit) (requests : Bool → ChatRequest)
    (outside : Outside Unit) (events : List (Event Bool ChatError (Outside Unit)))
    (last : ChatConfig Bool Unit),
    (textChat Bool Unit).recorded.run (chatRequests helpers requests outside) events = some last →
    TurnsKept last := by
  intro h
  have hEnds : ((textChat Bool Unit).recorded.run twoMessages lateMessage).any (fun last =>
      (last.procs true).result?.any (fun result => result.toBool) &&
        (drawnBy true last.shared).any fun id =>
          decide (id ∉ last.shared.state.session.sessionData.turnIds)) = true := by
    decide +kernel
  obtain ⟨last, hLast, hLost⟩ := (Option.any_eq_true _ _).mp hEnds
  obtain ⟨hResult, hLost⟩ := Bool.and_eq_true_iff.mp hLost
  obtain ⟨id, hDrawn, hNot⟩ := (Option.any_eq_true _ _).mp hLost
  obtain ⟨result, hFinished, hOk⟩ := (Option.any_eq_true _ _).mp hResult
  cases result with
  | error error => cases hOk
  | ok value =>
    have hCount := (h _ _ _ _ last hLast).kept true value hFinished id hDrawn
    rw [List.count_eq_zero.mpr (of_decide_eq_true hNot)] at hCount
    cases hCount

end FastVoice.TextChat
