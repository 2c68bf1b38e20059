import FastVoice.TextChat.TurnHistory

/-! # The checkpoint after a rewind

A new message starts from the checkpoint of the last completed turn that is kept. Without one it starts
from the session's, which the discarded turns have written.
-/
namespace FastVoice.TextChat
open Async

section Checkpoints

variable {J : Type}

def Checkpoint.content (checkpoint : Checkpoint J) :
    List J × Option String × Dict String J × Dict String J :=
  (checkpoint.messages, checkpoint.currentNodeId, checkpoint.gatheredContext, checkpoint.toolState)

def lastCompletedCheckpoint (turns : List (Turn J)) : Option (Checkpoint J) :=
  (turns.reverse.find? fun turn => turn.status = .completed).bind Turn.checkpointAfterTurn

def rewindAndAppend (helpers : ChatHelpers J) (turnId : Nat) (userText : String) :
    ChatMethod J (LoadedSession J) := do
  let loaded ← loadSession
  let rewound ← rewindTextChatSessionState helpers loaded (some turnId) none
  appendTextChatUserMessage rewound userText none

def checkpointAfterRewind (helpers : ChatHelpers J) (turnId : Nat) (userText : String)
    (s : ChatStore J) : Option (Checkpoint J) :=
  match ((rewindAndAppend helpers turnId userText).eval ChatStore.execute s).1 with
  | .ok loaded =>
    some (resolveCheckpointForPendingTurn loaded.session.sessionData loaded.session.checkpoint)
  | .error _ => none

theorem any_id_of_splitAtTurn {turnId : Nat} {turns activeTurns futureTurns : List (Turn J)}
    (h : splitAtTurn turnId turns = some (activeTurns, futureTurns)) :
    (turns.any fun turn => turn.id = turnId) = true := by
  induction turns generalizing activeTurns futureTurns with
  | nil => cases h
  | cons turn turns ih =>
    rw [splitAtTurn] at h
    rw [List.any_cons]
    split at h
    · rename_i hId
      rw [decide_eq_true hId, Bool.true_or]
    · obtain ⟨⟨rest, future⟩, hRest, -⟩ := Option.map_eq_some_iff.mp h
      rw [ih hRest, Bool.or_true]

theorem truncate_rewindTo {d : SessionData J} {turnId : Nat} {activeTurns futureTurns : List (Turn J)}
    (h : splitAtTurn turnId d.turns = some (activeTurns, futureTurns)) : ∃ discardedFuture,
      truncateTextChatFutureTurns (d.rewindTo (some turnId)) = some (activeTurns, discardedFuture) :=
  ⟨_, congrArg (Option.map _) h⟩

theorem resolve_append (sessionData : SessionData J) (checkpoint : Checkpoint J)
    {turns : List (Turn J)} {turn : Turn J} (hTurns : sessionData.turns = turns ++ [turn])
    (hPending : turn.status = .pending) : resolveCheckpointForPendingTurn sessionData checkpoint =
      (lastCompletedCheckpoint turns).getD checkpoint := by
  have hLast : lastPending sessionData.turns = true := by
    rw [lastPending, hTurns, List.getLast?_concat]
    exact decide_eq_true hPending
  rw [resolveCheckpointForPendingTurn, if_pos hLast, hTurns, List.dropLast_concat]
  rfl

theorem eval_rewind (helpers : ChatHelpers J) {s : ChatStore J} (cursorTurnId : Option Nat)
    (hCursor : validateTextChatTurnCursor s.session.sessionData cursorTurnId = true) :
    ∃ s', (rewindTextChatSessionState helpers ⟨s.session, s.run⟩ cursorTurnId none).eval
        ChatStore.execute s = (.ok ⟨s'.session, s'.run⟩, s') ∧
      s'.session.sessionData = s.session.sessionData.rewindTo cursorTurnId ∧
      s'.session.checkpoint = s.session.checkpoint := by
  rw [rewindTextChatSessionState, if_pos hCursor]
  exact ⟨_, rfl, rfl, rfl⟩

theorem eval_append {s : ChatStore J} (userText : String) {activeTurns : List (Turn J)}
    {discardedFuture : List (DiscardedFuture J)} (hTurns : truncateTextChatFutureTurns s.session.sessionData =
      some (activeTurns, discardedFuture)) :
    ∃ s', (appendTextChatUserMessage ⟨s.session, s.run⟩ userText none).eval ChatStore.execute s =
        (.ok ⟨s'.session, s'.run⟩, s') ∧
      s'.session.sessionData = appendedSessionData activeTurns discardedFuture
        (buildPendingTextChatTurn (s.lastTurnId + 1) (some userText)) ∧
      s'.session.checkpoint.content = s.session.checkpoint.content := by
  rw [appendTextChatUserMessage, hTurns]
  exact ⟨_, rfl, rfl, rfl⟩

theorem checkpointAfterRewind_content (helpers : ChatHelpers J) {turnId : Nat} (userText : String)
    {s : ChatStore J} {activeTurns futureTurns : List (Turn J)}
    (h : splitAtTurn turnId s.session.sessionData.turns = some (activeTurns, futureTurns)) :
    ∃ checkpoint, checkpointAfterRewind helpers turnId userText s = some checkpoint ∧ checkpoint.content =
        ((lastCompletedCheckpoint activeTurns).getD s.session.checkpoint).content := by
  obtain ⟨discardedFuture, hTruncate⟩ := truncate_rewindTo h
  obtain ⟨s₁, hRewind, hData₁, hCheckpoint₁⟩ := eval_rewind helpers (some turnId)
    (any_id_of_splitAtTurn h)
  obtain ⟨s₂, hAppend, hData₂, hCheckpoint₂⟩ := eval_append userText (hData₁ ▸ hTruncate)
  have hRun : (rewindAndAppend helpers turnId userText).eval ChatStore.execute s =
      (.ok ⟨s₂.session, s₂.run⟩, s₂) := by
    have hLoad : (loadSession (J := J)).eval ChatStore.execute s = (.ok ⟨s.session, s.run⟩, s) := rfl
    rw [rewindAndAppend, Program.eval_bind hLoad, Program.eval_bind hRewind, hAppend]
  refine ⟨_, by rw [checkpointAfterRewind, hRun], ?_⟩
  dsimp only
  rw [hData₂, resolve_append _ _ rfl rfl]
  cases lastCompletedCheckpoint activeTurns with
  | none => rw [Option.getD_none, Option.getD_none, hCheckpoint₂, hCheckpoint₁]
  | some checkpoint => rfl

/-- What a rewind forgets: two histories with the same turns up to the rewound one continue from the
same checkpoint exactly if a kept turn has stored one or the discarded turns have left the same. -/
theorem rewind_forgets_iff (helpers : ChatHelpers J) (turnId : Nat) (userText : String)
    (s s' : ChatStore J) (activeTurns futureTurns futureTurns' : List (Turn J))
    (h : splitAtTurn turnId s.session.sessionData.turns = some (activeTurns, futureTurns))
    (h' : splitAtTurn turnId s'.session.sessionData.turns = some (activeTurns, futureTurns')) :
    (∃ checkpoint, checkpointAfterRewind helpers turnId userText s = some checkpoint ∧
      ∃ checkpoint', checkpointAfterRewind helpers turnId userText s' = some checkpoint' ∧
        checkpoint.content = checkpoint'.content) ↔
      (lastCompletedCheckpoint activeTurns).isSome = true ∨
        s.session.checkpoint.content = s'.session.checkpoint.content := by
  obtain ⟨checkpoint, hResolved, hContent⟩ := checkpointAfterRewind_content helpers userText h
  obtain ⟨checkpoint', hResolved', hContent'⟩ := checkpointAfterRewind_content helpers userText h'
  have hSame : (∃ checkpoint, checkpointAfterRewind helpers turnId userText s = some checkpoint ∧
      ∃ checkpoint', checkpointAfterRewind helpers turnId userText s' = some checkpoint' ∧
        checkpoint.content = checkpoint'.content) ↔ checkpoint.content = checkpoint'.content := by
    rw [hResolved, hResolved']
    constructor
    · rintro ⟨_, ⟨⟩, _, ⟨⟩, hEq⟩
      exact hEq
    · intro hEq
      exact ⟨_, rfl, _, rfl, hEq⟩
  rw [hSame, hContent, hContent']
  cases lastCompletedCheckpoint activeTurns with
  | none => simp
  | some checkpoint => simp

end Checkpoints

def talkingOutside : Outside Nat where
  execution := ⟨some "Hello", [], 0, ⟨none, some "agent", [1], ∅, ∅⟩, ∅, false⟩
  durationSeconds := 0
  quotaError := none

def natHelpers : ChatHelpers Nat := ⟨fun _ => 0, fun usageInfo _ => usageInfo, fun _ => 0, fun _ _ => 0⟩

def openedTalk : ChatConfig Bool Nat :=
  chatRequests natHelpers (fun opening => if opening then .execute else .message "Hi" none)
    talkingOutside

def talkStep (opening : Bool) : Event Bool ChatError (Outside Nat) := .resume opening .reply

def answeredOpening : List (Event Bool ChatError (Outside Nat)) := List.replicate 6 (talkStep true)

def failedOpening : List (Event Bool ChatError (Outside Nat)) :=
  [talkStep true, .resume true (.fail (.exception "no model") false), talkStep true]

def answeredMessage : List (Event Bool ChatError (Outside Nat)) := List.replicate 10 (talkStep false)

def talkAfter (events : List (Event Bool ChatError (Outside Nat))) : Option (ChatStore Nat) :=
  ((textChat Bool Nat).recorded.run openedTalk events).map fun last => last.shared.state

def keptTurns (events : List (Event Bool ChatError (Outside Nat))) : Option (List (Turn Nat)) :=
  (talkAfter events).bind fun s => (splitAtTurn 1 s.session.sessionData.turns).map Prod.fst

theorem keptTurns_eq_some {events : List (Event Bool ChatError (Outside Nat))}
    {activeTurns : List (Turn Nat)} (h : keptTurns events = some activeTurns) :
    ∃ s futureTurns, talkAfter events = some s ∧
      splitAtTurn 1 s.session.sessionData.turns = some (activeTurns, futureTurns) := by
  obtain ⟨s, hTalk, hKept⟩ := Option.bind_eq_some_iff.mp h
  obtain ⟨⟨kept, futureTurns⟩, hSplit, hEq⟩ := Option.map_eq_some_iff.mp hKept
  cases hEq
  exact ⟨s, futureTurns, hTalk, hSplit⟩

theorem rewind_forgets_answered : ∃ s s' : ChatStore Nat,
    talkAfter answeredOpening = some s ∧ talkAfter (answeredOpening ++ answeredMessage) = some s' ∧
      ∃ checkpoint, checkpointAfterRewind natHelpers 1 "Again" s = some checkpoint ∧
        ∃ checkpoint', checkpointAfterRewind natHelpers 1 "Again" s' = some checkpoint' ∧
          checkpoint.content = checkpoint'.content := by
  have hKept : (keptTurns answeredOpening).any
      (fun turns => (lastCompletedCheckpoint turns).isSome) = true := by decide +kernel
  obtain ⟨turns, hTurns, hStored⟩ := (Option.any_eq_true _ _).mp hKept
  have hSame : keptTurns (answeredOpening ++ answeredMessage) = keptTurns answeredOpening := by
    decide +kernel
  obtain ⟨s, futureTurns, hTalk, hSplit⟩ := keptTurns_eq_some hTurns
  obtain ⟨s', futureTurns', hTalk', hSplit'⟩ := keptTurns_eq_some (hSame.trans hTurns)
  exact ⟨s, s', hTalk, hTalk', (rewind_forgets_iff natHelpers 1 "Again" s s' turns futureTurns
    futureTurns' hSplit hSplit').mpr (.inl hStored)⟩

theorem rewind_to_failed_turn_remembers : ¬ ∀ (helpers : ChatHelpers Nat)
    (requests : Bool → ChatRequest) (outside : Outside Nat) (turnId : Nat) (userText : String)
    (events events' : List (Event Bool ChatError (Outside Nat))) (last last' : ChatConfig Bool Nat),
    (textChat Bool Nat).recorded.run (chatRequests helpers requests outside) events = some last →
    (textChat Bool Nat).recorded.run (chatRequests helpers requests outside) events' = some last' →
    ∀ activeTurns futureTurns futureTurns',
      splitAtTurn turnId last.shared.state.session.sessionData.turns =
        some (activeTurns, futureTurns) →
      splitAtTurn turnId last'.shared.state.session.sessionData.turns =
        some (activeTurns, futureTurns') →
      (checkpointAfterRewind helpers turnId userText last.shared.state).map Checkpoint.content =
        (checkpointAfterRewind helpers turnId userText last'.shared.state).map Checkpoint.content := by
  intro h
  have hKept : (keptTurns failedOpening).isSome = true := by decide +kernel
  obtain ⟨turns, hTurns⟩ := Option.isSome_iff_exists.mp hKept
  have hSame : keptTurns (failedOpening ++ answeredMessage) = keptTurns failedOpening := by
    decide +kernel
  have hDiffer : ((talkAfter failedOpening).bind (checkpointAfterRewind natHelpers 1 "Again")).map
      Checkpoint.content ≠ ((talkAfter (failedOpening ++ answeredMessage)).bind
        (checkpointAfterRewind natHelpers 1 "Again")).map Checkpoint.content := by
    decide +kernel
  obtain ⟨s, futureTurns, hTalk, hSplit⟩ := keptTurns_eq_some hTurns
  obtain ⟨s', futureTurns', hTalk', hSplit'⟩ := keptTurns_eq_some (hSame.trans hTurns)
  obtain ⟨last, hRun, hLast⟩ := Option.map_eq_some_iff.mp hTalk
  obtain ⟨last', hRun', hLast'⟩ := Option.map_eq_some_iff.mp hTalk'
  subst hLast hLast'
  rw [hTalk, hTalk'] at hDiffer
  exact hDiffer (h _ _ _ _ _ _ _ _ _ hRun hRun' _ _ _ hSplit hSplit')

end FastVoice.TextChat
