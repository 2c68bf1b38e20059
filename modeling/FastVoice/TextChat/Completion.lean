import FastVoice.TextChat.TurnHistory

/-! # A completed text chat

A completion writes the session and its run in one transaction. The other writes come in two, and the one
to the run looks at nothing.
-/
namespace FastVoice.TextChat
open Async

section Statements

variable {ι J : Type}

abbrev ChatEntry (ι J : Type) := Entry ι (ChatCommand J) ChatError (ChatStore J) (Outside J)

def isCompletion : ChatEntry ι J → Bool
  | .call _ (.completeWorkflowRunTextSession _ _ expectedRevision _ _ _ _) outcome found =>
    outcome.executed && found.Expected expectedRevision
  | _ => false

def runWriter : ChatEntry ι J → Option ι
  | .call proc (.updateWorkflowRun _ _ _ _ _) outcome _ => if outcome.executed then some proc else none
  | .call proc (.completeWorkflowRunTextSession _ _ expectedRevision _ _ _ _) outcome found =>
    if outcome.executed && found.Expected expectedRevision then some proc else none
  | _ => none

variable [DecidableEq ι]

def isLoadOf (proc : ι) : ChatEntry ι J → Bool
  | .call caller .getWorkflowRunTextSession .reply _ => caller = proc
  | _ => false

/-- No chat has been completed since the request has read the session. -/
def readsSinceCompletion (proc : ι) (history : List (ChatEntry ι J)) : Bool :=
  !(history.takeWhile fun entry => !isLoadOf proc entry).any isCompletion

def NoStaleWrites : List (ChatEntry ι J) → Prop
  | [] => True
  | entry :: earlier => (∀ proc ∈ runWriter entry, readsSinceCompletion proc earlier = true) ∧
      NoStaleWrites earlier

structure CompletionFinal (s : ChatRecord ι J) : Prop where
  completed : s.history.any isCompletion = true → s.state.run.isCompleted = true ∧
    s.state.run.state = .completed ∧ s.state.session.sessionData.status = .completed
  fresh : NoStaleWrites s.history

/-- After a completion nothing is written but another completion, by a request that has read the
session since. -/
def RespectsCompletion (proc : ι) (s : ChatRecord ι J) : ChatCommand J → Prop
  | .updateWorkflowRunTextSession _ _ expectedRevision =>
    s.state.Expected expectedRevision = true → s.history.any isCompletion = false
  | .updateWorkflowRun _ _ _ _ _ => s.history.any isCompletion = false
  | .completeWorkflowRunTextSession _ _ expectedRevision _ _ _ _ =>
    s.state.Expected expectedRevision = true → readsSinceCompletion proc s.history = true
  | _ => True

instance (proc : ι) (s : ChatRecord ι J) (command : ChatCommand J) :
    Decidable (RespectsCompletion proc s command) := by
  unfold RespectsCompletion
  split <;> infer_instance

def completionDiscipline (ι J : Type) [DecidableEq ι] :
    System.Discipline ι (ChatCommand.Reply (J := J)) ChatError (ChatRecord ι J) (Outside J) where
  call proc command outcome s := outcome.executed = true → RespectsCompletion proc s command
  environment _ _ := True

instance (proc : ι) (command : ChatCommand J) (outcome : Outcome ChatError) (s : ChatRecord ι J) :
    Decidable ((completionDiscipline ι J).call proc command outcome s) :=
  inferInstanceAs (Decidable (_ → _))

instance (outside : Outside J) (s : ChatRecord ι J) :
    Decidable ((completionDiscipline ι J).environment outside s) := isTrue trivial

end Statements

section Steps

variable {ι J : Type}

def EndsBoth : ChatCommand J → Prop
  | .completeWorkflowRunTextSession sessionData _ _ _ _ _ state =>
    sessionData.status = .completed ∧ state = .completed
  | _ => True

theorem ChatRequest.issues (helpers : ChatHelpers J) (request : ChatRequest) :
    (request.method helpers).Issues EndsBoth := by
  refine (request.obeys helpers).issues fun stage command hPermits => ?_
  cases command with
  | completeWorkflowRunTextSession sessionData checkpoint expectedRevision =>
    cases stage with
    | stopped => cases hPermits
    | active loaded unsaved added =>
      obtain ⟨read, hRead, hUnsaved, hRewrites, hStatus, hState⟩ := hPermits
      exact ⟨hStatus, hState⟩
  | _ => trivial

def SameEnd (s s' : ChatStore J) : Prop :=
  s'.run = s.run ∧ s'.session.sessionData.status = s.session.sessionData.status

variable [DecidableEq ι] {s : ChatRecord ι J} {proc : ι} {command : ChatCommand J}
  {outcome : Outcome ChatError}

theorem CompletionFinal.step (h : CompletionFinal s) {state : ChatStore J} {entry : ChatEntry ι J}
    (hFresh : ∀ proc ∈ runWriter entry, readsSinceCompletion proc s.history = true)
    (hEnd : isCompletion entry = false → s.history.any isCompletion = true → SameEnd s.state state)
    (hCompletion : isCompletion entry = true → state.run.isCompleted = true ∧
      state.run.state = .completed ∧ state.session.sessionData.status = .completed) :
    CompletionFinal (⟨state, entry :: s.history⟩ : ChatRecord ι J) where
  completed := by
    rw [List.any_cons, Bool.or_eq_true]
    intro hAny
    cases hEntry : isCompletion entry with
    | true => exact hCompletion hEntry
    | false =>
      rw [hEntry] at hAny
      have hBefore := hAny.resolve_left Bool.false_ne_true
      obtain ⟨hRun, hStatus⟩ := hEnd hEntry hBefore
      rw [hRun, hStatus]
      exact h.completed hBefore
  fresh := ⟨hFresh, h.fresh⟩

theorem CompletionFinal.quiet (h : CompletionFinal s) {state : ChatStore J} {entry : ChatEntry ι J}
    (hWriter : runWriter entry = none) (hEntry : isCompletion entry = false) (hSame : SameEnd s.state state) :
    CompletionFinal (⟨state, entry :: s.history⟩ : ChatRecord ι J) := by
  refine h.step ?_ (fun _ _ => hSame) fun hYes => ?_
  · rw [hWriter]
    exact nofun
  · rw [hEntry] at hYes
    cases hYes

theorem CompletionFinal.early (h : CompletionFinal s) {state : ChatStore J} {entry : ChatEntry ι J}
    (hEntry : isCompletion entry = false) (hNone : s.history.any isCompletion = false) :
    CompletionFinal (⟨state, entry :: s.history⟩ : ChatRecord ι J) := by
  refine h.step (fun proc _ => ?_) (fun _ hAny => ?_) fun hYes => ?_
  · rw [readsSinceCompletion, Bool.not_eq_true']
    rw [List.any_eq_false] at hNone ⊢
    exact fun entry hMem => hNone entry (List.takeWhile_subset _ hMem)
  · rw [hNone] at hAny
    cases hAny
  · rw [hEntry] at hYes
    cases hYes

theorem completionFinal_call (h : CompletionFinal s) (hEnds : EndsBoth command)
    (hDiscipline : (completionDiscipline ι J).call proc command outcome s) :
    CompletionFinal ((textChat ι J).recorded.perform proc command outcome s).2 := by
  rw [chatRecord_call]
  cases hExecuted : outcome.executed with
  | false =>
    have hSame : stateAfter outcome command s.state = s.state := by rw [stateAfter, hExecuted]; rfl
    rw [hSame]
    refine h.quiet ?_ ?_ ⟨rfl, rfl⟩
    all_goals cases command <;> simp [runWriter, isCompletion, hExecuted]
  | true =>
    have hRespects := hDiscipline hExecuted
    have hAfter : stateAfter outcome command s.state = (ChatStore.execute command s.state).2 :=
      if_pos hExecuted
    rw [hAfter]
    cases command with
    | updateWorkflowRun => exact h.early rfl hRespects
    | updateWorkflowRunTextSession sessionData checkpoint expectedRevision =>
      cases hExpected : s.state.Expected expectedRevision with
      | true => exact h.early rfl (hRespects hExpected)
      | false =>
        refine h.quiet rfl rfl ?_
        rw [ChatStore.execute, hExpected]
        exact ⟨rfl, rfl⟩
    | completeWorkflowRunTextSession sessionData checkpoint expectedRevision =>
      cases hExpected : s.state.Expected expectedRevision with
      | true =>
        refine h.step (fun writer hWriter => ?_) (fun hNot => ?_) fun _ => ?_
        · simp only [runWriter, hExecuted, hExpected, Bool.and_self, if_true, Option.mem_def,
            Option.some.injEq] at hWriter
          exact hWriter ▸ hRespects hExpected
        · simp [isCompletion, hExecuted, hExpected] at hNot
        · rw [ChatStore.execute, if_pos hExpected]
          exact ⟨rfl, hEnds.2, hEnds.1⟩
      | false =>
        refine h.quiet ?_ ?_ ?_
        · simp [runWriter, hExpected]
        · simp [isCompletion, hExpected]
        · rw [ChatStore.execute, hExpected]
          exact ⟨rfl, rfl⟩
    | _ => exact h.quiet rfl rfl ⟨rfl, rfl⟩

theorem completionFinal_environment {s' : ChatRecord ι J} {outside : Outside J}
    (h : CompletionFinal s) (hMove : (textChat ι J).recorded.environment outside s = some s') :
    CompletionFinal s' := by
  cases hMove
  exact h.quiet rfl rfl ⟨rfl, rfl⟩

end Steps

section Runs

variable {ι J : Type} [DecidableEq ι]

/-- A completed chat stays completed in every run in which a request that has read the session before
a completion writes nothing after it, and one that has read it since can only complete it again. -/
theorem completion_final (helpers : ChatHelpers J) (requests : ι → ChatRequest) (outside : Outside J)
    {events : List (Event ι ChatError (Outside J))} {last : ChatConfig ι J}
    (hFollows : (textChat ι J).recorded.Follows (completionDiscipline ι J)
      (chatRequests helpers requests outside) events)
    (hRun : (textChat ι J).recorded.run (chatRequests helpers requests outside) events = some last) :
    CompletionFinal last.shared := by
  have hStart : CompletionFinal (⟨.created outside, []⟩ : ChatRecord ι J) :=
    ⟨fun hAny => (Bool.false_ne_true hAny).elim, trivial⟩
  exact (System.shared_invariant (P := fun _ => EndsBoth)
    (fun _ _ _ _ h hEnds hDiscipline => completionFinal_call h hEnds hDiscipline)
    (fun _ _ _ h _ hMove => completionFinal_environment h hMove) hFollows hRun
    (fun proc => (requests proc).issues helpers) hStart).1

end Runs

def messageAndEnd : ChatConfig Bool Unit :=
  chatRequests plainHelpers
    (fun first => if first then .message "Hi" none else .close none "user_hangup") plainOutside

theorem completion_final_after_message : ∃ last,
    (textChat Bool Unit).recorded.run messageAndEnd
      (List.replicate 10 (chatStep true) ++ List.replicate 6 (chatStep false)) = some last ∧
    CompletionFinal last.shared := by
  have hEnds : ((textChat Bool Unit).recorded.run messageAndEnd
      (List.replicate 10 (chatStep true) ++ List.replicate 6 (chatStep false))).isSome = true := by
    decide +kernel
  obtain ⟨last, hLast⟩ := Option.isSome_iff_exists.mp hEnds
  exact ⟨last, hLast, completion_final plainHelpers _ plainOutside (by decide +kernel) hLast⟩

theorem completed_run_is_running : ¬ ∀ (helpers : ChatHelpers Unit) (requests : Bool → ChatRequest)
    (outside : Outside Unit) (events : List (Event Bool ChatError (Outside Unit)))
    (last : ChatConfig Bool Unit),
    (textChat Bool Unit).recorded.run (chatRequests helpers requests outside) events = some last →
    CompletionFinal last.shared := by
  intro h
  have hEnds : ((textChat Bool Unit).recorded.run messageAndEnd (List.replicate 8 (chatStep true) ++
      List.replicate 6 (chatStep false) ++ [chatStep true])).any (fun last =>
        last.shared.history.any isCompletion &&
          decide (last.shared.state.run.state = .running)) = true := by
    decide +kernel
  obtain ⟨last, hLast, hBoth⟩ := (Option.any_eq_true _ _).mp hEnds
  obtain ⟨hCompletion, hRunning⟩ := Bool.and_eq_true_iff.mp hBoth
  have hState := ((h _ _ _ _ last hLast).completed hCompletion).2.1
  rw [of_decide_eq_true hRunning] at hState
  cases hState

end FastVoice.TextChat
