import FastVoice.Campaign.Operations

/-! # The life cycle of a campaign

Every state write is unconditional and follows an earlier read. As long as each write that changes
the column finds a state which its operation's own check would have accepted, the states only move
forward: a terminal state stays, and a paused campaign runs again only by a resume.
-/
namespace FastVoice.Campaign
open Async

namespace CampaignState

def terminal (state : CampaignState) : Bool := state = .completed || state = .failed

def rank : CampaignState → Nat
  | .created => 0
  | .syncing => 1
  | .running => 2
  | .paused => 2
  | .completed => 3
  | .failed => 3

end CampaignState

def CampaignStore.state? (s : CampaignStore) : Option CampaignState := s.campaign.map CampaignRow.state

namespace Operation

def isPause : Operation → Bool
  | .pauseCampaign => true
  | _ => false

def isResume : Operation → Bool
  | .resumeCampaign => true
  | _ => false

/-- Whether the operation's check for writing the new state accepts the found one. The sync has no
check but is documented to start in `syncing`; an error handler accepts every state that is not
terminal. -/
def accepts : Operation → (new found : CampaignState) → Bool
  | .startCampaign, _, found => found = .created
  | .pauseCampaign, _, found => found = .running || found = .syncing
  | .resumeCampaign, _, found => found = .paused
  | .syncCampaignSource, .failed, found => !found.terminal
  | .syncCampaignSource, _, found => found = .syncing
  | .processCampaignBatch _ _, .failed, found => !found.terminal
  | .processCampaignBatch _ _, _, found => found = .running
  | .processBatch _ _, _, found => found = .running
  | .recordAndEvaluate _ _, _, found => found = .running
  | .handleEvent _, _, found => found = .running || found = .syncing
  | .releaseLockAfterDelay, _, _ => false
  | .checkStaleCampaigns, .completed, found => found = .running
  | .checkStaleCampaigns, _, found => found = .running || found = .syncing

/-- A write that changes the state column finds the new state already stored, or a state that the
operation accepts. -/
def Checked (operation : Operation) : CampaignCommand → Outcome Error → CampaignStore → Prop
  | .commitCampaign loaded changes, outcome, found => outcome.executed = true →
      ∀ new ∈ changes.state, loaded.state ≠ new →
        ∀ row ∈ found.campaign, row.state = new ∨ operation.accepts new row.state = true
  | _, _, _ => True

instance (operation : Operation) (command : CampaignCommand) (outcome : Outcome Error)
    (found : CampaignStore) : Decidable (operation.Checked command outcome found) :=
  match command with
  | .commitCampaign loaded changes => inferInstanceAs (Decidable (outcome.executed = true →
      ∀ new ∈ changes.state, loaded.state ≠ new →
        ∀ row ∈ found.campaign, row.state = new ∨ operation.accepts new row.state = true))
  | .redis _ | .breaker _ | .service _ | .now | .memory _ | .getCampaignById
  | .getCampaignsByStatus _ | .loadCampaign | .refreshCampaign | .incrementPoolExhausted
  | .resetPoolExhausted | .claimQueuedRuns _ _ | .updateQueuedRun _ _
  | .returnProcessingQueuedRuns _ | .getQueuedRunById _ | .createQueuedRun _
  | .getQueuedRunsCount _ | .getScheduledRunsCount _ | .createWorkflowRun _ => isTrue trivial

/-- Whether a pause has returned since the last write of a resume, after one more call. -/
def marksPaused : Operation → CampaignCommand → Outcome Error → Bool → Bool
  | .pauseCampaign, .refreshCampaign, .reply, _ => true
  | .resumeCampaign, .commitCampaign _ _, outcome, before => before && !outcome.executed
  | _, _, _, before => before

end Operation

section Statements

variable {ι : Type} (calls : ι → Operation)

def checkedWrites :
    System.Discipline ι CampaignCommand.Reply Error (CampaignTrace ι) CampaignMove where
  call proc command outcome trace := (calls proc).Checked command outcome trace.state
  environment _ _ := True

instance (proc : ι) (command : CampaignCommand) (outcome : Outcome Error) (trace : CampaignTrace ι) :
    Decidable ((checkedWrites calls).call proc command outcome trace) :=
  inferInstanceAs (Decidable ((calls proc).Checked command outcome trace.state))

instance (move : CampaignMove) (trace : CampaignTrace ι) :
    Decidable ((checkedWrites calls).environment move trace) := isTrue trivial

/-- A `pause_campaign` call has returned, and no `resume_campaign` call has written since. -/
def pausedSince : List (CampaignEntry ι) → Bool
  | [] => false
  | .call caller command outcome _ :: older =>
    (calls caller).marksPaused command outcome (pausedSince older)
  | .environment _ _ :: older => pausedSince older

end Statements

theorem legal_write {op : Operation} {new found : CampaignState} (hWrites : op.writes new = true)
    (hAccepts : op.accepts new found = true) : found.terminal = false ∧ found.rank ≤ new.rank ∧
      (new = .running → op.isResume = true ∨ found.rank < 2) := by
  cases op <;> cases new <;> first
    | (cases hWrites; done)
    | cases found <;> first
      | (cases hAccepts; done)
      | exact ⟨rfl, by decide, fun _ => .inl rfl⟩
      | exact ⟨rfl, by decide, fun _ => .inr (by decide)⟩
      | exact ⟨rfl, by decide, fun hEq => by cases hEq⟩

theorem state_commit {s : CampaignStore} {row : CampaignRow} (hRow : s.campaign = some row)
    (loaded : CampaignRow) (changes : CampaignChanges) :
    (s.execute (.commitCampaign loaded changes)).2.state? =
      some (written row.state loaded.state changes.state) := by
  simp [CampaignStore.state?, CampaignStore.execute, hRow, CampaignRow.write]

theorem state_execute (command : CampaignCommand) (s : CampaignStore) :
    (s.execute command).2.state? = s.state? ∨ ∃ loaded changes new row,
      command = .commitCampaign loaded changes ∧ new ∈ changes.state ∧ loaded.state ≠ new ∧
      row ∈ s.campaign ∧ (s.execute command).2.state? = some new := by
  cases command with
  | commitCampaign loaded changes =>
    cases hRow : s.campaign with
    | none =>
      left
      simp [CampaignStore.state?, CampaignStore.execute, hRow]
    | some row =>
      rw [state_commit hRow]
      have hBefore : s.state? = some row.state := by simp [CampaignStore.state?, hRow]
      rw [hBefore]
      cases hNew : changes.state with
      | none => exact .inl rfl
      | some new =>
        by_cases hSame : new = loaded.state
        · exact .inl (by rw [written, if_pos hSame])
        · right
          exact ⟨loaded, changes, new, row, rfl, hNew, fun hEq => hSame hEq.symm, rfl,
            by rw [written, if_neg hSame]⟩
  | incrementPoolExhausted =>
    left
    simp only [CampaignStore.state?, CampaignStore.execute, Option.map_map]
    rfl
  | resetPoolExhausted =>
    left
    simp only [CampaignStore.state?, CampaignStore.execute, Option.map_map]
    rfl
  | createQueuedRun run =>
    left
    simp only [CampaignStore.execute, CampaignStore.createQueuedRun]
    split <;> rfl
  | _ => exact .inl rfl

theorem state_environment {move : CampaignMove} {s s' : CampaignStore}
    (h : s.environment move = some s') : s'.state? = s.state? := by
  cases move with
  | redis move =>
    obtain ⟨keyspace, -, rfl⟩ := Option.map_eq_some_iff.mp h
    rfl
  | edit settings =>
    cases h
    simp only [CampaignStore.state?, CampaignStore.edit, Option.map_map]
    rfl
  | insertQueuedRun run =>
    obtain ⟨-, h⟩ := Option.ite_none_right_eq_some.mp h
    cases h
    simp only [CampaignStore.createQueuedRun]
    split <;> rfl
  | answer answers =>
    cases h
    rfl
  | draw random locked =>
    cases h
    rfl

def Forward (before after : Option CampaignState) : Prop :=
  after = before ∨ ∃ found new, before = some found ∧ after = some new ∧ found.terminal = false ∧
    found.rank ≤ new.rank

theorem perform_forward {ι : Type} {op : Operation} {proc : ι} {command : CampaignCommand}
    {outcome : Outcome Error} {s : CampaignStore} (hAllowed : op.Allowed command)
    (hChecked : op.Checked command outcome s) :
    Forward s.state? ((campaignServices ι).perform proc command outcome s).2.state? ∧
      (((campaignServices ι).perform proc command outcome s).2.state? = some .running →
        s.state? ≠ some .running → (∃ found ∈ s.state?, found.rank < 2) ∨
          ∃ loaded changes, command = .commitCampaign loaded changes ∧ op.isResume = true ∧
            outcome.executed = true) := by
  rw [perform_executed]
  split
  · rename_i hExecuted
    obtain hSame | ⟨loaded, changes, new, row, rfl, hNew, hLoaded, hRow, hState⟩ :=
      state_execute command s
    · rw [hSame]
      exact ⟨.inl rfl, fun hRunning hNot => absurd hRunning hNot⟩
    · rw [hState]
      have hFound : s.state? = some row.state := by
        rw [CampaignStore.state?, Option.mem_def.mp hRow]
        rfl
      obtain hStored | hAccepts := hChecked hExecuted new hNew hLoaded row hRow
      · rw [hFound, hStored]
        exact ⟨.inl rfl, fun hRunning hNot => absurd hRunning hNot⟩
      · obtain ⟨hOpen, hRank, hRuns⟩ := legal_write (hAllowed new hNew) hAccepts
        refine ⟨.inr ⟨row.state, new, hFound, rfl, hOpen, hRank⟩, fun hRunning _ => ?_⟩
        obtain hResume | hEarly := hRuns (Option.some.inj hRunning)
        · exact .inr ⟨loaded, changes, rfl, hResume, hExecuted⟩
        · exact .inl ⟨row.state, hFound, hEarly⟩
  · exact ⟨.inl rfl, fun hRunning hNot => absurd hRunning hNot⟩

def pausePermits (seen : Option CampaignState) : CampaignCommand → Prop
  | .commitCampaign loaded _ => seen = some loaded.state
  | .refreshCampaign => seen = some .paused
  | _ => True

def seenAfter (seen : Option CampaignState) :
    (command : CampaignCommand) → Except Error command.Reply → Option CampaignState
  | .loadCampaign, .ok (some row) => some row.state
  | .commitCampaign _ changes, .ok _ => changes.state
  | _, _ => seen

def lifecycleProtocol (op : Operation) :
    Protocol CampaignCommand.Reply Error (Option CampaignState) where
  permits seen command := op.Allowed command ∧ (op.isPause = true → pausePermits seen command)
  next := seenAfter

theorem pauseCampaign_obeys :
    pauseCampaign.Obeys (lifecycleProtocol .pauseCampaign) (fun _ _ => True) none := by
  have hUpdate : (updateCampaign { state := some .paused }).Obeys
      (lifecycleProtocol .pauseCampaign) (fun _ _ => True) none := by
    simp only [updateCampaign, Program.call_bind]
    refine ⟨⟨trivial, fun _ => trivial⟩, fun result => ?_⟩
    cases result with
    | error error => trivial
    | ok campaign =>
      cases campaign with
      | none => trivial
      | some campaign =>
        have hWrites : Operation.pauseCampaign.Allowed
            (.commitCampaign campaign { state := some .paused }) := by
          rintro state ⟨⟩
          rfl
        simp only [Program.proceed_ok]
        refine ⟨⟨hWrites, fun _ => rfl⟩, fun result => ?_⟩
        cases result with
        | error error => trivial
        | ok _ => exact Program.obeys_call ⟨trivial, fun _ => rfl⟩ fun _ => trivial
  simp only [pauseCampaign, getCampaignById, Program.call_bind]
  refine ⟨⟨trivial, fun _ => trivial⟩, fun result => ?_⟩
  cases result with
  | error error => trivial
  | ok campaign =>
    cases campaign with
    | none => trivial
    | some campaign =>
      simp only [Program.proceed_ok]
      split
      · exact hUpdate
      · trivial

theorem method_obeys (op : Operation) : op.method.Obeys (lifecycleProtocol op) (fun _ _ => True) none := by
  by_cases hPause : op.isPause = true
  · cases op <;> first
      | (cases hPause; done)
      | exact pauseCampaign_obeys
  · exact (operation_issues op).obeys (T := fun _ => True)
      (fun _ _ _ hAllowed => ⟨⟨hAllowed, fun h => absurd h hPause⟩, fun _ => trivial⟩) trivial

section Invariant

variable {ι : Type} {calls : ι → Operation} {trace trace' : CampaignTrace ι}
  {seen : ι → Option CampaignState}

structure LifecycleInvariant (calls : ι → Operation) (trace : CampaignTrace ι)
    (seen : ι → Option CampaignState) : Prop where
  passed : ∀ proc, (calls proc).isPause = true → ∀ state ∈ seen proc,
    ∃ now ∈ trace.state.state?, state.rank ≤ now.rank
  paused : pausedSince calls trace.history = true → ∃ now ∈ trace.state.state?, 2 ≤ now.rank
  terminal : ∀ entry ∈ trace.history, ∀ state ∈ entry.found.state?, state.terminal = true →
    trace.state.state? = some state

theorem Forward.rank {before after : Option CampaignState} (h : Forward before after) {n : Nat}
    (hRank : ∃ now ∈ before, n ≤ now.rank) : ∃ now ∈ after, n ≤ now.rank := by
  obtain ⟨now, hNow, hLe⟩ := hRank
  obtain rfl | ⟨found, new, hFound, rfl, -, hForward⟩ := h
  · exact ⟨now, hNow, hLe⟩
  · obtain rfl : now = found := Option.some.inj (hNow.symm.trans hFound)
    exact ⟨new, rfl, hLe.trans hForward⟩

theorem Forward.terminal {before after : Option CampaignState} (h : Forward before after)
    {state : CampaignState} (hBefore : before = some state) (hTerminal : state.terminal = true) :
    after = some state := by
  obtain rfl | ⟨found, new, hFound, -, hOpen, -⟩ := h
  · exact hBefore
  · obtain rfl : state = found := Option.some.inj (hBefore.symm.trans hFound)
    rw [hTerminal] at hOpen
    cases hOpen

theorem LifecycleInvariant.terminal_push (h : LifecycleInvariant calls trace seen)
    {entry : CampaignEntry ι} (hFound : entry.found = trace.state)
    (hForward : Forward trace.state.state? trace'.state.state?) :
    ∀ other ∈ entry :: trace.history, ∀ state ∈ other.found.state?, state.terminal = true →
      trace'.state.state? = some state := by
  intro other hOther state hState hTerminal
  obtain rfl | hOther := List.mem_cons.mp hOther
  · rw [hFound] at hState
    exact hForward.terminal hState hTerminal
  · exact hForward.terminal (h.terminal other hOther state hState hTerminal) hTerminal

theorem LifecycleInvariant.passed_own (h : LifecycleInvariant calls trace seen) {proc : ι}
    {command : CampaignCommand} {outcome : Outcome Error} (hPause : (calls proc).isPause = true)
    (hPermits : (lifecycleProtocol (calls proc)).permits (seen proc) command)
    (hForward : Forward trace.state.state?
      ((campaignServices ι).perform proc command outcome trace.state).2.state?) :
    ∀ state ∈ seenAfter (seen proc) command ((campaignServices ι).perform proc command outcome trace.state).1,
      ∃ now ∈ ((campaignServices ι).perform proc command outcome trace.state).2.state?,
        state.rank ≤ now.rank := by
  have hOld : ∀ state ∈ seen proc,
      ∃ now ∈ ((campaignServices ι).perform proc command outcome trace.state).2.state?,
        state.rank ≤ now.rank :=
    fun state hState => hForward.rank (h.passed proc hPause state hState)
  have hPausePermits := hPermits.2 hPause
  intro state hState
  cases outcome with
  | fail error applied =>
    have hSame : seenAfter (seen proc) command (.error error) = seen proc := by
      cases command <;> rfl
    exact hOld state (hSame ▸ hState)
  | reply =>
    cases command with
    | loadCampaign =>
      cases hRow : trace.state.campaign with
      | none =>
        simp only [campaignServices, System.ofServer, CampaignStore.execute, hRow] at hState
        exact hOld state hState
      | some row =>
        simp only [campaignServices, System.ofServer, CampaignStore.execute, hRow] at hState
        obtain rfl : row.state = state := Option.some.inj hState
        refine ⟨row.state, ?_, le_rfl⟩
        simp [campaignServices, System.ofServer, CampaignStore.execute, CampaignStore.state?, hRow]
    | commitCampaign loaded changes =>
      obtain ⟨now, hNow, hRank⟩ := h.passed proc hPause loaded.state hPausePermits
      obtain ⟨row, hRow, rfl⟩ := Option.map_eq_some_iff.mp hNow
      have hNew : changes.state = some state := hState
      by_cases hSame : state = loaded.state
      · exact hForward.rank ⟨row.state, hNow, hSame ▸ hRank⟩
      · refine ⟨state, (state_commit hRow loaded changes).trans ?_, le_rfl⟩
        rw [hNew, written, if_neg hSame]
    | _ => exact hOld state hState

theorem LifecycleInvariant.environment (h : LifecycleInvariant calls trace seen) {move : CampaignMove}
    (hMove : (campaignServices ι).recorded.environment move trace = some trace') :
    LifecycleInvariant calls trace' seen := by
  have hState : trace'.state.state? = trace.state.state? :=
    state_environment (environment_recorded hMove)
  have hHistory : trace'.history = .environment move trace.state :: trace.history := by
    obtain ⟨state, -, rfl⟩ := Option.map_eq_some_iff.mp hMove
    rfl
  have hForward : Forward trace.state.state? trace'.state.state? := .inl hState
  refine ⟨fun proc hPause state hSeen => hForward.rank (h.passed proc hPause state hSeen),
    fun hPaused => ?_, ?_⟩
  · rw [hHistory] at hPaused
    exact hForward.rank (h.paused hPaused)
  · rw [hHistory]
    exact h.terminal_push rfl hForward

theorem lifecycleInvariant_start (calls : ι → Operation) (start : CampaignStore) :
    LifecycleInvariant calls ⟨start, []⟩ fun _ => none where
  passed _ _ _ hState := by cases hState
  paused hPaused := by cases hPaused
  terminal _ hEntry := by cases hEntry

variable [DecidableEq ι]

theorem LifecycleInvariant.call (h : LifecycleInvariant calls trace seen) {proc : ι}
    {command : CampaignCommand} {outcome : Outcome Error}
    (hPermits : (lifecycleProtocol (calls proc)).permits (seen proc) command)
    (hChecked : (calls proc).Checked command outcome trace.state) :
    LifecycleInvariant calls ((campaignServices ι).recorded.perform proc command outcome trace).2
      (Function.update seen proc (seenAfter (seen proc) command
        ((campaignServices ι).recorded.perform proc command outcome trace).1)) := by
  obtain ⟨hForward, -⟩ := @perform_forward ι _ proc _ _ _ hPermits.1 hChecked
  refine ⟨fun other hPause => ?_, fun hPaused => ?_, h.terminal_push rfl hForward⟩
  · by_cases hOther : other = proc
    · subst hOther
      rw [Function.update_self]
      exact h.passed_own hPause hPermits hForward
    · rw [Function.update_of_ne hOther]
      exact fun state hState => hForward.rank (h.passed other hPause state hState)
  · by_cases hBefore : pausedSince calls trace.history = true
    · exact hForward.rank (h.paused hBefore)
    · have hMarks : (calls proc).marksPaused command outcome (pausedSince calls trace.history) =
          true := hPaused
      rw [Bool.eq_false_iff.mpr hBefore] at hMarks
      cases hOp : calls proc with
      | pauseCampaign =>
        rw [hOp] at hMarks
        cases command with
        | refreshCampaign =>
          have hPause : (calls proc).isPause = true := by rw [hOp]; rfl
          have hSeen : seen proc = some .paused := hPermits.2 hPause
          exact hForward.rank (h.passed proc hPause .paused hSeen)
        | _ => cases hMarks
      | resumeCampaign =>
        rw [hOp] at hMarks
        cases command <;> cases hMarks
      | _ =>
        rw [hOp] at hMarks
        cases hMarks

end Invariant

/-- In a run of checked writes a terminal state never changes, and no step makes a campaign run
while a pause has returned and no resume has written since. -/
theorem lifecycle_forward {ι : Type} [DecidableEq ι] (calls : ι → Operation)
    (start : CampaignStore)
    {last : Config ι CampaignCommand.Reply Error Unit (CampaignTrace ι)}
    {events : List (Event ι Error CampaignMove)}
    (hFollows : (campaignServices ι).recorded.Follows (checkedWrites calls)
      ⟨⟨start, []⟩, fun proc => (calls proc).method⟩ events)
    (hRun : (campaignServices ι).recorded.run ⟨⟨start, []⟩, fun proc => (calls proc).method⟩
      events = some last) :
    (∀ entry ∈ last.shared.history, ∀ state ∈ entry.found.state?, state.terminal = true →
      last.shared.state.state? = some state) ∧
    ∀ event next, (checkedWrites calls).Allows last event →
      (campaignServices ι).recorded.step last event = some next →
      pausedSince calls last.shared.history = true → pausedSince calls next.shared.history = true →
      last.shared.state.state? ≠ some .running → next.shared.state.state? ≠ some .running := by
  obtain ⟨seen, hInvariant, hObeys⟩ := System.ghost_invariant
    (P := fun proc => lifecycleProtocol (calls proc)) (J := LifecycleInvariant calls)
    (fun proc command outcome trace seen h hPermits hChecked => h.call hPermits hChecked)
    (fun move trace trace' seen h _ hMove => h.environment hMove)
    hFollows hRun (fun proc => method_obeys (calls proc))
    (lifecycleInvariant_start calls start)
  refine ⟨hInvariant.terminal, fun event next hAllows hStep hPaused hPaused' hNot hRunning => ?_⟩
  obtain ⟨proc, outcome, command, resume, rfl, hProc, rfl⟩ | ⟨move, shared, rfl, hMove, rfl⟩ :=
    System.step_cases hStep
  · have hOwn := hObeys proc
    rw [hProc] at hOwn
    have hChecked := hAllows command (by rw [hProc]; rfl)
    obtain ⟨now, hNow, hLate⟩ := hInvariant.paused hPaused
    obtain ⟨found, hFound, hEarly⟩ | ⟨loaded, changes, rfl, hResume, hExecuted⟩ :=
      (perform_forward hOwn.1.1 hChecked).2 hRunning hNot
    · obtain rfl : now = found := Option.some.inj (hNow.symm.trans hFound)
      omega
    · have hMarks : (calls proc).marksPaused (.commitCampaign loaded changes) outcome
          (pausedSince calls last.shared.history) = true := hPaused'
      cases hOp : calls proc with
      | resumeCampaign =>
        rw [hOp] at hMarks
        simp [Operation.marksPaused, hExecuted] at hMarks
      | _ =>
        rw [hOp] at hResume
        cases hResume
  · exact hNot ((state_environment (environment_recorded hMove)).symm.trans hRunning)

def syncAndPause : Fin 2 → Operation
  | 0 => .syncCampaignSource
  | 1 => .pauseCampaign

theorem lifecycle_forward_completed :
    ∃ last : Config (Fin 2) CampaignCommand.Reply Error Unit (CampaignTrace (Fin 2)),
      (campaignServices (Fin 2)).recorded.run
        ⟨⟨.fresh ⟨1, UnixTime.one_pos⟩ (.plain .syncing) [] 0, []⟩, fun proc => (syncAndPause proc).method⟩
        ([0, 0, 0, 0, 0, 1].map fun proc => .resume proc .reply) = some last ∧
      last.shared.state.state? = some .completed := by
  have hEnds : ((campaignServices (Fin 2)).recorded.run
      ⟨⟨.fresh ⟨1, UnixTime.one_pos⟩ (.plain .syncing) [] 0, []⟩, fun proc => (syncAndPause proc).method⟩
      ([0, 0, 0, 0, 0, 1].map fun proc => .resume proc .reply)).any (fun last =>
        last.shared.history.head?.any fun entry => decide (entry.found.state? = some .completed)) =
      true := by decide +kernel
  obtain ⟨last, hRun, hLast⟩ := (Option.any_eq_true _ _).mp hEnds
  obtain ⟨entry, hEntry, hFound⟩ := (Option.any_eq_true _ _).mp hLast
  exact ⟨last, hRun, (lifecycle_forward syncAndPause _ (by decide +kernel) hRun).1 entry
    (List.mem_of_mem_head? hEntry) .completed (of_decide_eq_true hFound) rfl⟩

def pauseDuringSync : List (Event (Fin 2) Error CampaignMove) :=
  [0, 1, 1, 1, 1, 0, 0, 0].map fun proc => .resume proc .reply

theorem lifecycle_not_forward :
    ¬∀ (calls : Fin 2 → Operation) (start : CampaignStore)
      (last : Config (Fin 2) CampaignCommand.Reply Error Unit (CampaignTrace (Fin 2)))
      (events : List (Event (Fin 2) Error CampaignMove)),
      (campaignServices (Fin 2)).recorded.run ⟨⟨start, []⟩, fun proc => (calls proc).method⟩
        events = some last →
      (∀ entry ∈ last.shared.history, ∀ state ∈ entry.found.state?, state.terminal = true →
        last.shared.state.state? = some state) ∧
      ∀ event next, (campaignServices (Fin 2)).recorded.step last event = some next →
        pausedSince calls last.shared.history = true →
        pausedSince calls next.shared.history = true →
        last.shared.state.state? ≠ some .running → next.shared.state.state? ≠ some .running := by
  intro h
  have hEnds : ((campaignServices (Fin 2)).recorded.run
      ⟨⟨.fresh ⟨1, UnixTime.one_pos⟩ (.plain .syncing) [] 1, []⟩, fun proc => (syncAndPause proc).method⟩
      pauseDuringSync).any (fun last =>
        decide (pausedSince syncAndPause last.shared.history = true ∧
          last.shared.state.state? ≠ some .running) &&
        ((campaignServices (Fin 2)).recorded.step last (.resume 0 .reply)).any fun next =>
          decide (pausedSince syncAndPause next.shared.history = true ∧
            next.shared.state.state? = some .running)) = true := by decide +kernel
  obtain ⟨last, hRun, hLast⟩ := (Option.any_eq_true _ _).mp hEnds
  obtain ⟨hBefore, hAfter⟩ := Bool.and_eq_true_iff.mp hLast
  obtain ⟨hPaused, hNot⟩ := of_decide_eq_true hBefore
  obtain ⟨next, hStep, hNext⟩ := (Option.any_eq_true _ _).mp hAfter
  obtain ⟨hPaused', hRunning⟩ := of_decide_eq_true hNext
  exact (h syncAndPause _ last pauseDuringSync hRun).2 _ next hStep hPaused hPaused' hNot hRunning

end FastVoice.Campaign
