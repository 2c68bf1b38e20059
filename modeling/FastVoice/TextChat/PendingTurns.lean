import FastVoice.TextChat.TurnHistory

/-! # Which turns can be pending

Every request but a message changes the last turn at most. A message puts a pending turn behind the
active ones, whatever the last of them is.
-/
namespace FastVoice.TextChat
open Async

section Documents

variable {J : Type}

/-- Every turn but the last is completed or failed. -/
def OnlyLastPending (d : SessionData J) : Prop := ∀ turn ∈ d.turns.dropLast, turn.status ≠ .pending

instance (d : SessionData J) : Decidable (OnlyLastPending d) :=
  inferInstanceAs (Decidable (∀ turn ∈ d.turns.dropLast, turn.status ≠ .pending))

/-- The active turns that a message would extend do not end with a pending one. -/
def EndsAnswered (d : SessionData J) : Prop :=
  ∀ parts ∈ truncateTextChatFutureTurns d, lastPending parts.1 = false

instance (d : SessionData J) : Decidable (EndsAnswered d) :=
  inferInstanceAs (Decidable (∀ parts ∈ truncateTextChatFutureTurns d, lastPending parts.1 = false))

theorem active_prefix {d : SessionData J} {activeTurns : List (Turn J)}
    {discardedFuture : List (DiscardedFuture J)}
    (h : truncateTextChatFutureTurns d = some (activeTurns, discardedFuture)) :
    ∃ futureTurns, activeTurns ++ futureTurns = d.turns := by
  rw [truncateTextChatFutureTurns] at h
  split at h
  · cases h
    exact ⟨[], List.append_nil _⟩
  · obtain ⟨⟨active, future⟩, hSplit, hParts⟩ := Option.map_eq_some_iff.mp h
    cases hParts
    exact ⟨future, splitAtTurn_append hSplit⟩

theorem mem_dropLast_of_prefix {turns futureTurns : List (Turn J)} {turn : Turn J}
    (h : turn ∈ turns.dropLast) : turn ∈ (turns ++ futureTurns).dropLast := by
  cases futureTurns with
  | nil => simpa using h
  | cons next futureTurns =>
    rw [List.dropLast_append_of_ne_nil (List.cons_ne_nil _ _)]
    exact List.mem_append_left _ (List.dropLast_subset _ h)

theorem onlyLastPending_append {d : SessionData J} (h : OnlyLastPending d)
    {activeTurns : List (Turn J)} {discardedFuture : List (DiscardedFuture J)}
    (hTurns : truncateTextChatFutureTurns d = some (activeTurns, discardedFuture)) (turn : Turn J) :
    OnlyLastPending (appendedSessionData activeTurns discardedFuture turn) ↔
      lastPending activeTurns = false := by
  obtain ⟨futureTurns, hAll⟩ := active_prefix hTurns
  have hActive : ∀ turn ∈ activeTurns.dropLast, turn.status ≠ .pending := fun turn hTurn =>
    h turn (hAll ▸ mem_dropLast_of_prefix hTurn)
  rw [OnlyLastPending, appendedSessionData, List.dropLast_concat, lastPending]
  cases hEnd : activeTurns.getLast? with
  | none =>
    rw [List.getLast?_eq_none_iff.mp hEnd]
    exact iff_of_true (fun _ hMem => absurd hMem List.not_mem_nil) rfl
  | some last =>
    rw [Option.any_some, decide_eq_false_iff_not]
    constructor
    · intro hAnswered
      exact hAnswered last (List.mem_of_getLast? hEnd)
    · intro hLast turn hTurn
      rw [← List.dropLast_append_getLast? last hEnd] at hTurn
      obtain hTurn | hTurn := List.mem_append.mp hTurn
      · exact hActive turn hTurn
      · rw [List.mem_singleton.mp hTurn]
        exact hLast

theorem Rewrites.onlyLastPending_iff {loaded d : SessionData J} {unsaved : Option Nat}
    (h : Rewrites loaded unsaved d) (hLoaded : OnlyLastPending loaded) :
    OnlyLastPending d ↔ (d.status = .pendingAssistantTurn → EndsAnswered loaded) := by
  have hMapLast : ∀ (f : Turn J → Turn J) (status : SessionStatus),
      lastPending loaded.turns = true → OnlyLastPending (loaded.mapLast f status) := by
    intro f status hPending turn hTurn
    obtain ⟨last, hLast, -⟩ := (Option.any_eq_true _ _).mp hPending
    rw [SessionData.mapLast, hLast] at hTurn
    exact hLoaded turn (by simpa using hTurn)
  cases h with
  | append id text hTurns =>
    rw [onlyLastPending_append hLoaded hTurns]
    simp [appendedSessionData, EndsAnswered, hTurns]
  | rewind cursorTurnId =>
    refine iff_of_true hLoaded fun hStatus => ?_
    rw [SessionData.rewindTo] at hStatus
    dsimp only at hStatus
    split at hStatus <;> cases hStatus
  | complete execution status hStatus hPending =>
    exact iff_of_true (hMapLast _ _ hPending) fun hSame => absurd hSame hStatus
  | fail message hPending => exact iff_of_true (hMapLast _ _ hPending) fun h => by cases h
  | close => exact iff_of_true hLoaded fun h => by cases h

end Documents

section Runs

variable {ι J : Type} [DecidableEq ι]

def ExtendsAnswered (proc : ι) (s : ChatRecord ι J) (command : ChatCommand J) : Prop :=
  ∀ d ∈ s.state.savedBy command, d.status = .pendingAssistantTurn →
    ∀ read ∈ loadedBy proc s, EndsAnswered read

instance (proc : ι) (s : ChatRecord ι J) (command : ChatCommand J) :
    Decidable (ExtendsAnswered proc s command) :=
  inferInstanceAs (Decidable (∀ d ∈ s.state.savedBy command, _ → _))

def pendingDiscipline (ι J : Type) [DecidableEq ι] :
    System.Discipline ι (ChatCommand.Reply (J := J)) ChatError (ChatRecord ι J) (Outside J) where
  call proc command outcome s := outcome.executed = true → ExtendsAnswered proc s command
  environment _ _ := True

instance (proc : ι) (command : ChatCommand J) (outcome : Outcome ChatError) (s : ChatRecord ι J) :
    Decidable ((pendingDiscipline ι J).call proc command outcome s) :=
  inferInstanceAs (Decidable (_ → _))

instance (outside : Outside J) (s : ChatRecord ι J) :
    Decidable ((pendingDiscipline ι J).environment outside s) := isTrue trivial

structure ReadsInOrder (s : ChatRecord ι J) (t : ι → ChatStage J) : Prop where
  knows : KnowsHistory s t
  loaded : ∀ proc d, (t proc).loaded = some d → OnlyLastPending d

theorem onlyLastPending_call {s : ChatRecord ι J} {t : ι → ChatStage J} {proc : ι}
    {command : ChatCommand J} {outcome : Outcome ChatError} (h : ReadsInOrder s t)
    (hRow : OnlyLastPending s.state.session.sessionData) (hPermits : (t proc).Permits command) :
    ReadsInOrder ((textChat ι J).recorded.perform proc command outcome s).2
        (Function.update t proc ((chatProtocol J).next (t proc) command
          ((textChat ι J).recorded.perform proc command outcome s).1)) ∧ (OnlyLastPending
          ((textChat ι J).recorded.perform proc command outcome s).2.state.session.sessionData ↔
        (pendingDiscipline ι J).call proc command outcome s) := by
  have hKnows := knowsHistory_call outcome h.knows hPermits
  rw [chatRecord_call] at hKnows ⊢
  have hOthers : (∀ d, ((chatProtocol J).next (t proc) command
      (resultOf outcome command s.state)).loaded = some d → OnlyLastPending d) →
      ∀ other d, (Function.update t proc ((chatProtocol J).next (t proc) command
        (resultOf outcome command s.state)) other).loaded = some d → OnlyLastPending d :=
    fun hOwn => (Function.forall_update_iff t fun _ stage =>
      ∀ d, stage.loaded = some d → OnlyLastPending d).mpr ⟨hOwn, fun other _ => h.loaded other⟩
  cases chatMoves outcome s.state hPermits with
  | quiet hSaved hDocument hDraws hLoaded hAdded =>
    refine ⟨⟨hKnows, hOthers fun d hRead => ?_⟩, iff_of_true (hDocument ▸ hRow) fun hExecuted => ?_⟩
    · obtain hSame | rfl := hLoaded d hRead
      · exact h.loaded proc d hSame
      · exact hRow
    · rw [ExtendsAnswered, hSaved hExecuted]
      exact nofun
  | saves read d hExecuted hSaved hRead hRewrites hDocument hLast hUnsaved hLoaded hAdded =>
    have hReadInOrder := h.loaded proc read hRead
    refine ⟨⟨hKnows, hOthers fun other hOther => hLoaded other hOther ▸ hReadInOrder⟩, ?_⟩
    have hLoadedBy : loadedBy proc s = some read := by
      cases hStage : t proc with
      | stopped =>
        rw [hStage] at hRead
        cases hRead
      | active loaded unsaved added =>
        rw [hStage] at hRead
        exact (h.knows proc loaded unsaved added hStage).1 ▸ hRead
    rw [hDocument, hRewrites.onlyLastPending_iff hReadInOrder]
    simp [pendingDiscipline, hExecuted, ExtendsAnswered, hSaved, hLoadedBy]

/-- Only the newest turn is pending, throughout a run, exactly when each message extends active turns
that do not end with a pending one. -/
theorem only_last_pending_iff (helpers : ChatHelpers J) (requests : ι → ChatRequest)
    (outside : Outside J) {events : List (Event ι ChatError (Outside J))} {last : ChatConfig ι J}
    (hRun : (textChat ι J).recorded.run (chatRequests helpers requests outside) events = some last) :
    (∀ n mid, (textChat ι J).recorded.run (chatRequests helpers requests outside) (events.take n) =
        some mid → OnlyLastPending mid.shared.state.session.sessionData) ↔
      (textChat ι J).recorded.Follows (pendingDiscipline ι J)
        (chatRequests helpers requests outside) events := by
  have hStart : ReadsInOrder (⟨.created outside, []⟩ : ChatRecord ι J)
      fun _ => .active none none none :=
    ⟨(chatConsistent_created outside).knows, fun proc d hRead => by cases hRead⟩
  refine System.ghost_throughout_iff (P := fun _ => chatProtocol J) (J := ReadsInOrder)
    (fun proc command outcome s t h hRow hPermits => onlyLastPending_call h hRow hPermits)
    (fun outside s s' t h hRow hMove => ?_) hRun (fun proc => (requests proc).obeys helpers) hStart
    (List.forall_mem_nil _)
  have hOwn := own_environment hMove
  cases hMove
  refine ⟨⟨fun proc loaded unsaved added hStage => ?_, h.loaded⟩, iff_of_true hRow trivial⟩
  rw [loadedBy, drawnBy, hOwn proc]
  exact h.knows proc loaded unsaved added hStage

end Runs

def openedChat : ChatConfig (Fin 3) Unit :=
  chatRequests plainHelpers (fun proc => if proc = 0 then .execute else .message "Hi" none)
    plainOutside

def turnStep (proc : Fin 3) : Event (Fin 3) ChatError (Outside Unit) := .resume proc .reply

theorem only_last_pending_in_turn : ∃ last,
    (textChat (Fin 3) Unit).recorded.run openedChat
      (List.replicate 6 (turnStep 0) ++ List.replicate 10 (turnStep 1)) = some last ∧
    OnlyLastPending last.shared.state.session.sessionData := by
  have hEnds : ((textChat (Fin 3) Unit).recorded.run openedChat
      (List.replicate 6 (turnStep 0) ++ List.replicate 10 (turnStep 1))).isSome = true := by
    decide +kernel
  obtain ⟨last, hLast⟩ := Option.isSome_iff_exists.mp hEnds
  have hAll := (only_last_pending_iff plainHelpers _ plainOutside hLast).mpr (by decide +kernel)
  exact ⟨last, hLast, hAll 16 last hLast⟩

theorem message_behind_pending_turn : ¬ ∀ (helpers : ChatHelpers Unit)
    (requests : Fin 3 → ChatRequest) (outside : Outside Unit)
    (events : List (Event (Fin 3) ChatError (Outside Unit))) (last : ChatConfig (Fin 3) Unit),
    (textChat (Fin 3) Unit).recorded.run (chatRequests helpers requests outside) events = some last →
    OnlyLastPending last.shared.state.session.sessionData := by
  intro h
  have hEnds : ((textChat (Fin 3) Unit).recorded.run openedChat (List.replicate 6 (turnStep 0) ++
      List.replicate 5 (turnStep 1) ++ List.replicate 4 (turnStep 2))).any (fun last =>
        decide (¬OnlyLastPending last.shared.state.session.sessionData)) = true := by
    decide +kernel
  obtain ⟨last, hLast, hPending⟩ := (Option.any_eq_true _ _).mp hEnds
  exact of_decide_eq_true hPending (h _ _ _ _ last hLast)

end FastVoice.TextChat
