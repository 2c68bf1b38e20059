import FastVoice.TextChat.Session

/-! # What the requests on a session write

Each document that a request writes is made of the one that it has read last: a message extends its
active turns, a rewind moves its cursor, and a run of the assistant changes its last turn.
-/
namespace FastVoice.TextChat
open Async

section

variable {J : Type}

inductive Rewrites (loaded : SessionData J) : Option Nat → SessionData J → Prop
  | append (id : Nat) (text : String) {activeTurns : List (Turn J)}
      {discardedFuture : List (DiscardedFuture J)}
      (h : truncateTextChatFutureTurns loaded = some (activeTurns, discardedFuture)) :
      Rewrites loaded (some id)
        (appendedSessionData activeTurns discardedFuture (buildPendingTextChatTurn id (some text)))
  | rewind (cursorTurnId : Option Nat) : Rewrites loaded none (loaded.rewindTo cursorTurnId)
  | complete (execution : TextChatTurnExecutionResult J) (status : SessionStatus)
      (hStatus : status ≠ .pendingAssistantTurn) (h : lastPending loaded.turns = true) :
      Rewrites loaded none (loaded.mapLast (Turn.complete execution) status)
  | fail (message : String) (h : lastPending loaded.turns = true) :
      Rewrites loaded none (loaded.mapLast (Turn.fail message) .error)
  | close : Rewrites loaded none { loaded with status := .completed }

/-- What a request has read last, the turn it has drawn and not saved yet, and the turn it has saved.
A request that fails anywhere but in the run of the assistant writes nothing more. -/
inductive ChatStage (J : Type) where
  | active (loaded : Option (SessionData J)) (unsaved added : Option Nat)
  | stopped

def ChatStage.Permits : ChatStage J → ChatCommand J → Prop
  | .active _ unsaved added, .newTurnId => unsaved = none ∧ added = none
  | .active loaded unsaved _, .updateWorkflowRunTextSession sessionData _ _ =>
    ∃ read ∈ loaded, Rewrites read unsaved sessionData ∧ sessionData.status ≠ .completed
  | .active loaded unsaved _, .completeWorkflowRunTextSession sessionData _ _ _ _ _ state =>
    ∃ read ∈ loaded, unsaved = none ∧ Rewrites read none sessionData ∧
      sessionData.status = .completed ∧ state = .completed
  | .active _ _ _, _ => True
  | .stopped, _ => False

def ChatStage.after (loaded : Option (SessionData J)) (unsaved added : Option Nat) :
    (command : ChatCommand J) → command.Reply → ChatStage J
  | .getWorkflowRunTextSession => fun read => .active (some read.session.sessionData) unsaved added
  | .newTurnId => fun id => .active loaded (some id) added
  | .updateWorkflowRunTextSession _ _ _ => fun
    | .saved => .active loaded none (unsaved.or added)
    | .conflict _ => .active loaded unsaved added
  | _ => fun _ => .active loaded unsaved added

def chatProtocol (J : Type) : Protocol (ChatCommand.Reply (J := J)) ChatError (ChatStage J) where
  permits := ChatStage.Permits
  next
    | .active loaded unsaved added, command, .ok reply =>
      ChatStage.after loaded unsaved added command reply
    | .active loaded unsaved added, .runPendingTurn _ _, .error _ => .active loaded unsaved added
    | _, _, .error _ => .stopped
    | .stopped, _, .ok _ => .stopped

abbrev ChatMethod.Obeys {α : Type} (method : ChatMethod J α)
    (post : Except ChatError α → ChatStage J → Prop) (stage : ChatStage J) : Prop :=
  Program.Obeys (chatProtocol J) post method stage

def SavesItsTurn {α : Type} : Except ChatError α → ChatStage J → Prop
  | .ok _, stage => ∃ loaded added, stage = .active loaded none added
  | .error _, _ => True

def Reads (result : Except ChatError (LoadedSession J)) (stage : ChatStage J) : Prop :=
  ∀ read, result = .ok read → ∃ added, stage = .active (some read.session.sessionData) none added

theorem obeys_loadSession (loaded : Option (SessionData J)) (added : Option Nat) :
    (loadSession : ChatMethod J (LoadedSession J)).Obeys Reads (.active loaded none added) := by
  refine Program.obeys_call trivial fun result => ?_
  rintro read rfl
  exact ⟨added, rfl⟩

theorem reads_savesItsTurn (result : Except ChatError (LoadedSession J)) (stage : ChatStage J)
    (h : Reads result stage) : SavesItsTurn result stage := by
  cases result with
  | ok read =>
    obtain ⟨added, hStage⟩ := h read rfl
    exact ⟨_, added, hStage⟩
  | error error => trivial

theorem reads_error (error : ChatError) (stage : ChatStage J) : Reads (J := J) (.error error) stage := by
  intro read hRead
  cases hRead

theorem obeys_orConflict {α : Type} {expectedRevision : Option Int} {result : SaveResult}
    {next : ChatMethod J α} {post : Except ChatError α → ChatStage J → Prop}
    {stage : ChatStage J} (hError : ∀ error stage, post (.error error) stage)
    (hNext : result = .saved → next.Obeys post stage) :
    ChatMethod.Obeys (orConflict expectedRevision result >>= fun _ => next) post stage := by
  cases result with
  | saved => exact hNext rfl
  | conflict actualRevision => exact hError _ _

/-! ## The requests -/

variable {helpers : ChatHelpers J} {loaded : LoadedSession J} {added : Option Nat}

theorem obeys_appendTextChatUserMessage (userText : String) (expectedRevision : Option Int) :
    (appendTextChatUserMessage loaded userText expectedRevision).Obeys Reads
      (.active (some loaded.session.sessionData) none none) := by
  rw [appendTextChatUserMessage]
  split
  · exact reads_error _ _
  · rename_i activeTurns discardedFuture hTurns
    refine Program.obeys_call_bind ⟨rfl, rfl⟩ (fun id => ?_) fun error => reads_error error _
    refine Program.obeys_call_bind ⟨_, rfl, .append id userText hTurns, nofun⟩ (fun result => ?_)
      fun error => reads_error error _
    refine obeys_orConflict reads_error fun hSaved => ?_
    subst hSaved
    exact obeys_loadSession _ _

theorem obeys_rewindTextChatSessionState (cursorTurnId : Option Nat) (expectedRevision : Option Int) :
    (rewindTextChatSessionState helpers loaded cursorTurnId expectedRevision).Obeys Reads
      (.active (some loaded.session.sessionData) none none) := by
  rw [rewindTextChatSessionState]
  split
  · have hStatus : (loaded.session.sessionData.rewindTo cursorTurnId).status ≠ .completed := by
      rw [SessionData.rewindTo]
      dsimp only
      split <;> exact nofun
    refine Program.obeys_call_bind ⟨_, rfl, .rewind cursorTurnId, hStatus⟩ (fun result => ?_)
      fun error => reads_error error _
    refine obeys_orConflict reads_error fun hSaved => ?_
    subst hSaved
    exact Program.obeys_call_bind trivial (fun _ => obeys_loadSession _ _) fun error => reads_error error _
  · exact reads_error _ _

theorem obeys_afterCompletion (read : Option (SessionData J)) :
    (afterCompletion : ChatMethod J (LoadedSession J)).Obeys Reads (.active read none added) := by
  refine Program.obeys_call_bind trivial (fun _ => ?_) fun error => reads_error error _
  exact Program.obeys_call_bind trivial (fun _ => obeys_loadSession _ _) fun error => reads_error error _

theorem obeys_completeTextChatSession (expectedRevision : Option Int) (completionReason : String) :
    (completeTextChatSession helpers loaded expectedRevision completionReason).Obeys Reads
      (.active (some loaded.session.sessionData) none added) := by
  rw [completeTextChatSession]
  split
  · exact Program.obeys_call_bind trivial (fun _ => obeys_loadSession _ _) fun error => reads_error error _
  · refine Program.obeys_call_bind trivial (fun durationSeconds => ?_) fun error => reads_error error _
    refine Program.obeys_call_bind ⟨_, rfl, rfl, .close, rfl, rfl⟩ (fun result => ?_) fun error => reads_error error _
    exact obeys_orConflict reads_error fun _ => obeys_afterCompletion _

theorem obeys_markPendingTurnFailed (session : TextSession J) (errorMessage : String) :
    (markPendingTurnFailed session errorMessage).Obeys (fun _ _ => True)
      (.active (some session.sessionData) none added) := by
  rw [markPendingTurnFailed]
  split
  · rename_i hPending
    exact Program.obeys_call_bind ⟨_, rfl, .fail errorMessage hPending, nofun⟩ (fun _ => trivial)
      fun _ => trivial
  · trivial

theorem obeys_executeTextChatPendingTurn (session : TextSession J) :
    (executeTextChatPendingTurn session).Obeys
      (fun _ stage => stage = .active (some session.sessionData) none added)
      (.active (some session.sessionData) none added) := by
  rw [executeTextChatPendingTurn]
  split
  · split
    · refine Program.obeys_call trivial fun result => ?_
      cases result <;> rfl
    · rfl
  · rfl

def KeepsStage (stage : ChatStage J) :
    Except ChatError (TextChatTurnExecutionResult J) → ChatStage J → Prop
  | .ok _, t => t = stage
  | .error _, _ => True

theorem obeys_runOrFail : ChatMethod.Obeys ((executeTextChatPendingTurn loaded.session).tryCatch
      (runFailed loaded.session)) (KeepsStage (.active (some loaded.session.sessionData) none added))
      (.active (some loaded.session.sessionData) none added) := by
  refine (obeys_executeTextChatPendingTurn loaded.session).tryCatch
    (fun _ _ hStage => hStage) fun error stage hStage => ?_
  subst hStage
  unfold runFailed
  split
  · trivial
  · exact (obeys_markPendingTurnFailed loaded.session _).bind (fun _ _ _ => trivial)
      fun _ _ _ => trivial

theorem obeys_executePendingTextChatTurn : (executePendingTextChatTurn helpers loaded).Obeys Reads
      (.active (some loaded.session.sessionData) none added) := by
  refine obeys_runOrFail.bind (fun execution stage hStage => ?_) fun error stage _ =>
    reads_error error stage
  subst hStage
  split
  · rename_i hPending
    refine Program.obeys_call_bind trivial (fun durationSeconds => ?_) fun error =>
      reads_error error _
    have hRewrites := Rewrites.complete execution
      (if execution.isCompleted then .completed else .idle) (by split <;> exact nofun) hPending
    split
    · rename_i hCompleted
      have hState : execution.state = .completed := by
        rw [TextChatTurnExecutionResult.state, if_pos hCompleted]
      refine Program.obeys_call_bind ⟨_, rfl, rfl, hRewrites, if_pos hCompleted, hState⟩
        (fun result => ?_) fun error => reads_error error _
      exact obeys_orConflict reads_error fun _ => obeys_afterCompletion _
    · rename_i hOpen
      have hStatus : (if execution.isCompleted then SessionStatus.completed else .idle) ≠
          .completed := by
        rw [if_neg hOpen]
        exact nofun
      refine Program.obeys_call_bind ⟨_, rfl, hRewrites, hStatus⟩ (fun result => ?_)
        fun error => reads_error error _
      refine obeys_orConflict reads_error fun hSaved => ?_
      subst hSaved
      exact Program.obeys_call_bind trivial (fun _ => obeys_loadSession _ _) fun error =>
        reads_error error _
  · exact reads_error _ _

theorem ChatRequest.obeys (helpers : ChatHelpers J) (request : ChatRequest) :
    (request.method helpers).Obeys SavesItsTurn (.active none none none) := by
  have hError : ∀ (error : ChatError) (stage : ChatStage J),
      SavesItsTurn (α := LoadedSession J) (.error error) stage := fun _ _ => trivial
  refine Program.Obeys.weaken ?_ reads_savesItsTurn
  cases request with
  | message text expectedRevision =>
    refine Program.obeys_call_bind trivial (fun read => ?_) fun error => reads_error error _
    split
    · exact reads_error _ _
    · refine Program.obeys_call_bind trivial (fun quotaError => ?_) fun error => reads_error error _
      split
      · exact reads_error _ _
      · refine (obeys_appendTextChatUserMessage text expectedRevision).bind
          (fun appended stage hStage => ?_) fun error stage _ => reads_error error stage
        obtain ⟨added, rfl⟩ := hStage appended rfl
        exact obeys_executePendingTextChatTurn
  | rewind cursorTurnId expectedRevision =>
    refine Program.obeys_call_bind trivial (fun read => ?_) fun error => reads_error error _
    split
    · exact reads_error _ _
    · exact obeys_rewindTextChatSessionState cursorTurnId expectedRevision
  | close expectedRevision completionReason =>
    refine Program.obeys_call_bind trivial (fun read => ?_) fun error => reads_error error _
    exact obeys_completeTextChatSession expectedRevision completionReason
  | execute =>
    refine Program.obeys_call_bind trivial (fun read => ?_) fun error => reads_error error _
    exact obeys_executePendingTextChatTurn

end

/-! ## Runs of requests -/

section Runs

variable {ι J : Type}

abbrev ChatRecord (ι J : Type) := Recorded ι (ChatCommand J) ChatError (ChatStore J) (Outside J)

abbrev ChatConfig (ι J : Type) :=
  Config ι (ChatCommand.Reply (J := J)) ChatError (LoadedSession J) (ChatRecord ι J)

def chatRequests (helpers : ChatHelpers J) (requests : ι → ChatRequest) (outside : Outside J) :
    ChatConfig ι J where
  shared := ⟨.created outside, []⟩
  procs proc := (requests proc).method helpers

def ChatStore.savedBy (s : ChatStore J) : ChatCommand J → Option (SessionData J)
  | .updateWorkflowRunTextSession sessionData _ expectedRevision =>
    if s.Expected expectedRevision then some sessionData else none
  | .completeWorkflowRunTextSession sessionData _ expectedRevision _ _ _ _ =>
    if s.Expected expectedRevision then some sessionData else none
  | _ => none

theorem sessionData_execute (command : ChatCommand J) (s : ChatStore J) :
    (ChatStore.execute command s).2.session.sessionData = (s.savedBy command).getD s.session.sessionData := by
  cases command with
  | updateWorkflowRunTextSession sessionData checkpoint expectedRevision =>
    rw [ChatStore.execute, ChatStore.savedBy]
    split <;> rfl
  | completeWorkflowRunTextSession sessionData checkpoint expectedRevision =>
    rw [ChatStore.execute, ChatStore.savedBy]
    split <;> rfl
  | _ => rfl

theorem lastTurnId_execute (command : ChatCommand J) (s : ChatStore J) :
    (ChatStore.execute command s).2.lastTurnId =
      match command with
      | .newTurnId => s.lastTurnId + 1
      | _ => s.lastTurnId := by
  cases command with
  | updateWorkflowRunTextSession sessionData checkpoint expectedRevision =>
    rw [ChatStore.execute]
    split <;> rfl
  | completeWorkflowRunTextSession sessionData checkpoint expectedRevision =>
    rw [ChatStore.execute]
    split <;> rfl
  | _ => rfl

abbrev ChatCall (J : Type) := ChatCommand J × Outcome ChatError × ChatStore J

def readBy : ChatCall J → Option (SessionData J)
  | (.getWorkflowRunTextSession, .reply, found) => some found.session.sessionData
  | _ => none

def drawnIn : ChatCall J → Option Nat
  | (.newTurnId, .reply, found) => some (found.lastTurnId + 1)
  | _ => none

variable [DecidableEq ι]

def loadedBy (proc : ι) (s : ChatRecord ι J) : Option (SessionData J) :=
  (s.own proc).findSome? readBy

def drawnBy (proc : ι) (s : ChatRecord ι J) : Option Nat := (s.own proc).findSome? drawnIn

def ChatStage.loaded : ChatStage J → Option (SessionData J)
  | .active loaded _ _ => loaded
  | .stopped => none

def ChatStage.unsaved : ChatStage J → Option Nat
  | .active _ unsaved _ => unsaved
  | .stopped => none

def ChatStage.added : ChatStage J → Option Nat
  | .active _ _ added => added
  | .stopped => none

def KnowsHistory (s : ChatRecord ι J) (t : ι → ChatStage J) : Prop :=
  ∀ proc loaded unsaved added, t proc = .active loaded unsaved added →
    loaded = loadedBy proc s ∧ unsaved.or added = drawnBy proc s

omit [DecidableEq ι] in
theorem knowsHistory_reply {s : ChatStore J} {calls : List (ChatCall J)}
    {read loaded : Option (SessionData J)} {draft kept unsaved added : Option Nat}
    {command : ChatCommand J} (hRead : read = calls.findSome? readBy)
    (hDrawn : draft.or kept = calls.findSome? drawnIn)
    (hPermits : (ChatStage.active read draft kept).Permits command)
    (hAfter : ChatStage.after read draft kept command (ChatStore.execute command s).1 =
      .active loaded unsaved added) : loaded = ((command, .reply, s) :: calls).findSome? readBy ∧
      unsaved.or added = ((command, .reply, s) :: calls).findSome? drawnIn := by
  rw [List.findSome?_cons, List.findSome?_cons]
  cases command with
  | newTurnId =>
    obtain ⟨rfl, rfl⟩ := hPermits
    cases hAfter
    exact ⟨hRead, rfl⟩
  | updateWorkflowRunTextSession sessionData checkpoint expectedRevision =>
    dsimp only [ChatStage.after] at hAfter
    split at hAfter
    · cases hAfter
      exact ⟨hRead, hDrawn⟩
    · cases hAfter
      exact ⟨hRead, hDrawn⟩
  | getWorkflowRunTextSession =>
    cases hAfter
    exact ⟨rfl, hDrawn⟩
  | _ =>
    cases hAfter
    exact ⟨hRead, hDrawn⟩

theorem knowsHistory_call {s : ChatRecord ι J} {t : ι → ChatStage J} {proc : ι}
    {command : ChatCommand J} (outcome : Outcome ChatError) (h : KnowsHistory s t)
    (hPermits : (t proc).Permits command) :
    KnowsHistory ((textChat ι J).recorded.perform proc command outcome s).2
      (Function.update t proc ((chatProtocol J).next (t proc) command
        ((textChat ι J).recorded.perform proc command outcome s).1)) := by
  intro other loaded unsaved added hOther
  by_cases hSame : other = proc
  · subst hSame
    rw [Function.update_self] at hOther
    rw [loadedBy, drawnBy, own_perform, List.findSome?_cons, List.findSome?_cons]
    cases hStage : t other with
    | stopped =>
      rw [hStage] at hPermits
      cases hPermits
    | active read draft kept =>
      obtain ⟨hRead, hDrawn⟩ := h other read draft kept hStage
      rw [hStage] at hOther hPermits
      cases outcome with
      | reply => exact knowsHistory_reply hRead hDrawn hPermits hOther
      | fail error applied =>
        cases command with
        | runPendingTurn turn checkpoint =>
          cases hOther
          exact ⟨hRead, hDrawn⟩
        | _ => cases hOther
  · rw [Function.update_of_ne hSame] at hOther
    obtain ⟨hLoaded, hDrawn⟩ := h other loaded unsaved added hOther
    rw [loadedBy, drawnBy, own_perform_of_ne hSame]
    exact ⟨hLoaded, hDrawn⟩

/-! ## What one call does -/

structure Draws (old new : ChatStage J) (last last' : Nat) : Prop where
  grows : last ≤ last'
  unsaved : ∀ id, new.unsaved = some id → old.unsaved = some id ∨ last < id ∧ id ≤ last'

omit [DecidableEq ι] in
theorem draws_same {old new : ChatStage J} {last last' : Nat} (hLast : last' = last)
    (h : new.unsaved = old.unsaved ∨ new.unsaved = none) : Draws old new last last' := by
  refine ⟨Nat.le_of_eq hLast.symm, fun id hId => ?_⟩
  obtain h | h := h
  · exact .inl (h ▸ hId)
  · rw [h] at hId
    cases hId

def stateAfter (outcome : Outcome ChatError) (command : ChatCommand J) (s : ChatStore J) :
    ChatStore J :=
  if outcome.executed then (ChatStore.execute command s).2 else s

def resultOf (outcome : Outcome ChatError) (command : ChatCommand J) (s : ChatStore J) :
    Except ChatError command.Reply :=
  match outcome with
  | .reply => .ok (ChatStore.execute command s).1
  | .fail error _ => .error error

omit [DecidableEq ι] in
theorem chatRecord_call (proc : ι) (command : ChatCommand J) (outcome : Outcome ChatError)
    (s : ChatRecord ι J) : (textChat ι J).recorded.perform proc command outcome s =
      (resultOf outcome command s.state,
        ⟨stateAfter outcome command s.state, .call proc command outcome s.state :: s.history⟩) := by
  cases outcome <;> rfl

inductive ChatMoves (command : ChatCommand J) (outcome : Outcome ChatError)
    (old new : ChatStage J) (s s' : ChatStore J) : Prop
  | quiet (hSaved : outcome.executed = true → s.savedBy command = none)
      (hDocument : s'.session.sessionData = s.session.sessionData)
      (hDraws : Draws old new s.lastTurnId s'.lastTurnId)
      (hLoaded : ∀ d, new.loaded = some d → old.loaded = some d ∨ d = s.session.sessionData)
      (hAdded : ∀ id, new.added = some id → old.added = some id)
  | saves (read d : SessionData J) (hExecuted : outcome.executed = true)
      (hSaved : s.savedBy command = some d) (hRead : old.loaded = some read)
      (hRewrites : Rewrites read old.unsaved d) (hDocument : s'.session.sessionData = d)
      (hLast : s'.lastTurnId = s.lastTurnId) (hUnsaved : new.unsaved = none)
      (hLoaded : ∀ d, new.loaded = some d → d = read)
      (hAdded : ∀ id, new.added = some id → old.unsaved = some id ∨ old.added = some id)

section Moves

variable {command : ChatCommand J} {outcome : Outcome ChatError} {loaded : Option (SessionData J)}
  {unsaved added : Option Nat} {s : ChatStore J}

theorem next_error (loaded : Option (SessionData J)) (unsaved added : Option Nat)
    (command : ChatCommand J) (error : ChatError) :
    (chatProtocol J).next (.active loaded unsaved added) command (.error error) = .stopped ∨
      (chatProtocol J).next (.active loaded unsaved added) command (.error error) =
        .active loaded unsaved added := by
  cases command with
  | runPendingTurn turn checkpoint => exact .inr rfl
  | _ => exact .inl rfl

theorem chatMoves_saves (hExecuted : outcome.executed = true) {d : SessionData J}
    (hSaved : s.savedBy command = some d)
    (hPermits : (ChatStage.active loaded unsaved added).Permits command) :
    ChatMoves command outcome (.active loaded unsaved added)
      ((chatProtocol J).next (.active loaded unsaved added) command (resultOf outcome command s)) s
      (stateAfter outcome command s) := by
  have hDocument : (stateAfter outcome command s).session.sessionData = d := by
    rw [stateAfter, if_pos hExecuted, sessionData_execute, hSaved]
    rfl
  obtain ⟨read, hRead, hRewrites, hLast, hOk⟩ : ∃ read, loaded = some read ∧
      Rewrites read unsaved d ∧ (ChatStore.execute command s).2.lastTurnId = s.lastTurnId ∧
      ChatStage.after loaded unsaved added command (ChatStore.execute command s).1 =
        .active loaded none (unsaved.or added) := by
    cases command with
    | updateWorkflowRunTextSession sessionData checkpoint expectedRevision =>
      obtain ⟨read, hRead, hRewrites, -⟩ := hPermits
      rw [ChatStore.savedBy] at hSaved
      split at hSaved
      · rename_i hExpected
        cases hSaved
        refine ⟨read, hRead, hRewrites, lastTurnId_execute _ s, ?_⟩
        rw [ChatStore.execute, if_pos hExpected]
        rfl
      · cases hSaved
    | completeWorkflowRunTextSession sessionData checkpoint expectedRevision =>
      obtain ⟨read, hRead, rfl, hRewrites, -⟩ := hPermits
      rw [ChatStore.savedBy] at hSaved
      split at hSaved
      · cases hSaved
        exact ⟨read, hRead, hRewrites, lastTurnId_execute _ s, rfl⟩
      · cases hSaved
    | _ => cases hSaved
  have hAfter : (stateAfter outcome command s).lastTurnId = s.lastTurnId := by
    rw [stateAfter, if_pos hExecuted]
    exact hLast
  subst hRead
  cases outcome with
  | reply =>
    refine .saves read d rfl hSaved rfl hRewrites hDocument hAfter ?_ ?_ ?_
    all_goals rw [resultOf, show (chatProtocol J).next (.active (some read) unsaved added) command
      (.ok (ChatStore.execute command s).1) = _ from hOk]
    · rfl
    · rintro other hOther
      exact (Option.some.inj hOther).symm
    · intro id hId
      obtain hDraft | ⟨-, hKept⟩ := Option.or_eq_some_iff.mp hId
      · exact .inl hDraft
      · exact .inr hKept
  | fail error applied =>
    have hStopped : (chatProtocol J).next (.active (some read) unsaved added) command
        (.error error) = .stopped := by
      cases command with
      | runPendingTurn turn checkpoint => cases hSaved
      | _ => rfl
    refine .saves read d hExecuted hSaved rfl hRewrites hDocument hAfter ?_ ?_ ?_
    all_goals rw [resultOf, hStopped]
    · rfl
    · exact nofun
    · exact nofun

theorem chatMoves_quiet (hSaved : outcome.executed = true → s.savedBy command = none)
    (hPermits : (ChatStage.active loaded unsaved added).Permits command) :
    ChatMoves command outcome (.active loaded unsaved added)
      ((chatProtocol J).next (.active loaded unsaved added) command (resultOf outcome command s)) s
      (stateAfter outcome command s) := by
  have hDocument : (stateAfter outcome command s).session.sessionData = s.session.sessionData := by
    rw [stateAfter]
    split
    · rename_i hExecuted
      rw [sessionData_execute, hSaved hExecuted]
      rfl
    · rfl
  have hGrows : s.lastTurnId ≤ (stateAfter outcome command s).lastTurnId := by
    rw [stateAfter]
    split
    · rw [lastTurnId_execute]
      split <;> omega
    · exact Nat.le_refl _
  cases outcome with
  | fail error applied =>
    obtain hNext | hNext := next_error loaded unsaved added command error
    · refine .quiet hSaved hDocument ⟨hGrows, ?_⟩ ?_ ?_
      all_goals
        rw [resultOf, hNext]
        exact nofun
    · refine .quiet hSaved hDocument ⟨hGrows, ?_⟩ ?_ ?_
      all_goals rw [resultOf, hNext]
      · exact fun id hId => .inl hId
      · exact fun d hRead => .inl hRead
      · exact fun id hId => hId
  | reply =>
    cases command with
    | newTurnId =>
      refine .quiet hSaved hDocument ⟨Nat.le_succ _, ?_⟩ (fun d hRead => .inl hRead) fun id hId => hId
      intro id hId
      cases hId
      exact .inr ⟨Nat.lt_succ_self _, Nat.le_refl _⟩
    | getWorkflowRunTextSession =>
      refine .quiet hSaved hDocument ⟨hGrows, fun id hId => .inl hId⟩ ?_ fun id hId => hId
      rintro d hRead
      exact .inr (Option.some.inj hRead).symm
    | updateWorkflowRunTextSession sessionData checkpoint expectedRevision =>
      have hConflict : ¬s.Expected expectedRevision = true := by
        intro hExpected
        have hNone := hSaved rfl
        rw [ChatStore.savedBy, if_pos hExpected] at hNone
        cases hNone
      have hExecute : ChatStore.execute
          (.updateWorkflowRunTextSession sessionData checkpoint expectedRevision) s =
            (.conflict s.session.revision, s) := by
        rw [ChatStore.execute, if_neg hConflict]
      have hSame : stateAfter .reply
          (.updateWorkflowRunTextSession sessionData checkpoint expectedRevision) s = s := by
        rw [stateAfter, hExecute]
        rfl
      rw [hSame, resultOf, hExecute]
      exact .quiet hSaved rfl ⟨Nat.le_refl _, fun id hId => .inl hId⟩ (fun d hRead => .inl hRead)
        fun id hId => hId
    | completeWorkflowRunTextSession sessionData checkpoint expectedRevision =>
      exact .quiet hSaved hDocument ⟨hGrows, fun id hId => .inl hId⟩ (fun d hRead => .inl hRead)
        fun id hId => hId
    | _ =>
      exact .quiet hSaved hDocument ⟨hGrows, fun id hId => .inl hId⟩
        (fun d hRead => .inl hRead) fun id hId => hId

theorem chatMoves (outcome : Outcome ChatError) (s : ChatStore J) {stage : ChatStage J}
    (hPermits : stage.Permits command) : ChatMoves command outcome stage
      ((chatProtocol J).next stage command (resultOf outcome command s)) s
      (stateAfter outcome command s) := by
  cases stage with
  | stopped => cases hPermits
  | active loaded unsaved added =>
    cases hSaved : s.savedBy command with
    | none => exact chatMoves_quiet (fun _ => hSaved) hPermits
    | some d =>
      cases hExecuted : outcome.executed with
      | true => exact chatMoves_saves hExecuted hSaved hPermits
      | false =>
        refine chatMoves_quiet (fun hYes => ?_) hPermits
        rw [hExecuted] at hYes
        cases hYes

end Moves

end Runs

end FastVoice.TextChat
