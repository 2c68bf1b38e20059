import FastVoice.Engine.EndCall

/-! # A call ends

The call that sets the flag queues one terminal frame before it returns, and no other call queues any,
exactly in the runs in which the prompts of the node it extracts from can be rendered and the tags it finds
can take the disposition.
-/
namespace FastVoice.Engine
open Python Async

inductive EndStage where
  | waiting
  | disposing
  | queued
  | over
  deriving DecidableEq

def endStages : Protocol EndCallReply EndCallError EndStage where
  permits stage cmd :=
    match cmd with
    | .dispose => stage = .waiting
    | _ => stage = .disposing
  next stage cmd :=
    match cmd with
    | .dispose => fun result =>
      match result with
      | .ok (.first _) => .disposing
      | _ => .over
    | .prepareExtraction => fun result =>
      match result with
      | .ok (.ok _) => stage
      | _ => .over
    | .recordDisposition _ => fun result =>
      match result with
      | .ok (.ok _) => stage
      | _ => .over
    | .queueFrame _ => fun result => if result.isOk then .queued else .over
    | .awaitPendingExtractions => fun result => if result.isOk then stage else .over
    | .finishExtraction => fun result => if result.isOk then stage else .over
    | _ => fun _ => stage

def Settled (stage : EndStage) : Prop := stage = .queued ∨ stage = .over

section Method

def StillDisposing {α : Type} (result : Except EndCallError α) (stage : EndStage) : Prop :=
  match result with
  | .ok _ => stage = .disposing
  | .error _ => stage = .over

theorem caught_obeys (cmd : EndCallCommand) {fallback : EndCallReply cmd}
    (hPermits : endStages.permits .disposing cmd)
    (hStay : ∀ result, endStages.next .disposing cmd result = .disposing) :
    ((endCallStep cmd).tryCatch fun _ => .ret fallback).Obeys endStages StillDisposing .disposing := by
  have hCall : (endCallStep cmd).Obeys endStages (fun _ stage => stage = .disposing) .disposing :=
    Program.obeys_call hPermits hStay
  apply hCall.tryCatch
  · exact fun _ _ hStage => hStage
  · exact fun _ _ hStage => hStage

theorem extractNow_obeys : extractNow.Obeys endStages StillDisposing .disposing := by
  refine Program.obeys_call_bind rfl (fun prepared => ?_) fun _ => rfl
  cases prepared with
  | error error => rfl
  | ok extraction =>
    cases extraction with
    | none => rfl
    | some extraction => exact caught_obeys (.performExtraction extraction) rfl fun _ => rfl

theorem performFinalVariableExtraction_obeys (done : Bool) :
    (performFinalVariableExtraction done).Obeys endStages StillDisposing .disposing := by
  cases done with
  | true => rfl
  | false =>
    refine Program.obeys_call_bind rfl (fun _ => ?_) fun _ => rfl
    apply Program.Obeys.bind extractNow_obeys
    · intro _ stage hStage
      obtain rfl : stage = .disposing := hStage
      apply Program.obeys_call rfl
      rintro (_ | _)
      · rfl
      · rfl
    · exact fun _ _ hStage => hStage

theorem extractAtEnd_obeys (reasons : EndTaskReasons) (reason : String) (done : Bool) :
    (extractAtEnd reasons reason done).Obeys endStages StillDisposing .disposing := by
  unfold extractAtEnd
  split
  · rfl
  · exact performFinalVariableExtraction_obeys done

theorem finishCall_obeys (reason : String) (abortImmediately : Bool) :
    (finishCall reason abortImmediately).Obeys endStages (fun _ stage => Settled stage) .disposing := by
  refine Program.obeys_call_bind rfl (fun recorded => ?_) fun _ => .inr rfl
  cases recorded with
  | error _ => exact .inr rfl
  | ok _ =>
    apply Program.Obeys.bind (caught_obeys .updateWorkflowRun rfl fun _ => rfl)
    · intro _ stage hStage
      obtain rfl : stage = .disposing := hStage
      apply Program.obeys_call rfl
      rintro (_ | _)
      · exact .inr rfl
      · exact .inl rfl
    · exact fun _ _ hStage => .inr hStage

theorem endCallWithReason_obeys (reasons : EndTaskReasons) (reason : String) (abortImmediately : Bool) :
    (endCallWithReason reasons reason abortImmediately).Obeys endStages (fun _ stage => Settled stage)
      .waiting := by
  refine Program.obeys_call_bind rfl (fun disposal => ?_) fun _ => .inr rfl
  cases disposal with
  | alreadyDisposed => exact .inr rfl
  | first done =>
    apply Program.Obeys.bind (extractAtEnd_obeys reasons reason done)
    · intro _ stage hStage
      obtain rfl : stage = .disposing := hStage
      exact finishCall_obeys reason abortImmediately
    · exact fun _ _ hStage => .inr hStage

end Method

section Runs

variable {ι : Type} {ending : Ending} {answers : Answers ι} {s : CallState ι} {stages : ι → EndStage}

structure Disposes (s : CallState ι) (stages : ι → EndStage) : Prop where
  waiting : s.disposedBy = none → s.frames = [] ∧ ∀ proc, stages proc = .waiting
  others : ∀ proc, stages proc = .disposing ∨ stages proc = .queued → s.disposedBy = some proc
  started : ∀ proc, s.disposedBy = some proc → stages proc ≠ .waiting
  frames : ∀ proc, s.disposedBy = some proc →
    s.frames.length = if stages proc = .queued then 1 else 0

variable (ending) in
def Ends (s : CallState ι) : EndCallCommand → Prop
  | .prepareExtraction => ExtractionRenders ending.host s.currentNode
  | .recordDisposition reason =>
    (dispositionOf s.gathered reason).truthy = true →
      (appendTag ending.sameValue (dispositionOf s.gathered reason) (tagsOf s.gathered)).isOk = true
  | _ => True

instance (cmd : EndCallCommand) : Decidable (Ends ending s cmd) := by
  cases cmd <;> simp only [Ends] <;> infer_instance

theorem Disposes.own (h : Disposes s stages) {proc : ι} (hStage : stages proc = .disposing) :
    s.disposedBy = some proc ∧ s.frames = [] := by
  have hBy := h.others proc (.inl hStage)
  have hFrames := h.frames proc hBy
  rw [hStage, if_neg (by decide)] at hFrames
  exact ⟨hBy, List.length_eq_zero_iff.mp hFrames⟩

theorem next_prepared (prepared : Except RenderError (Option Extraction)) :
    endStages.next .disposing .prepareExtraction (.ok prepared) =
      if prepared.isOk then .disposing else .over := by
  cases prepared <;> rfl

theorem next_recorded (reason : String) (recorded : Except Unit Unit) :
    endStages.next .disposing (.recordDisposition reason) (.ok recorded) =
      if recorded.isOk then .disposing else .over := by
  cases recorded <;> rfl

theorem isOk_recordDisposition {sameValue : Json → Json → Bool} {reason : String} {gathered : Gathered} :
    (recordDisposition sameValue reason gathered).1.isOk = true ↔
      ((dispositionOf gathered reason).truthy = true →
        (appendTag sameValue (dispositionOf gathered reason) (tagsOf gathered)).isOk = true) := by
  unfold recordDisposition
  dsimp only
  split
  · rename_i hTruthy
    cases appendTag sameValue (dispositionOf gathered reason) (tagsOf gathered) <;>
      simp [Except.isOk, Except.toBool, hTruthy]
  · rename_i hFalse
    exact iff_of_true rfl fun hTruthy => absurd hTruthy hFalse

def EndCallCommand.queues : EndCallCommand → List TerminalFrame
  | .queueFrame frame => [frame]
  | _ => []

variable (ending answers s) in
theorem perform_spec (proc : ι) {cmd : EndCallCommand} (outcome : Outcome EndCallError)
    (hCmd : endStages.permits .disposing cmd) :
    endStages.next .disposing cmd (performEndCall ending answers proc outcome cmd s).1 =
        (if Ends ending s cmd then if cmd.queues = [] then .disposing else .queued else .over) ∧
      (performEndCall ending answers proc outcome cmd s).2.disposedBy = s.disposedBy ∧
      (performEndCall ending answers proc outcome cmd s).2.frames = s.frames ++ cmd.queues := by
  cases cmd with
  | dispose => cases hCmd
  | prepareExtraction =>
    refine ⟨(next_prepared _).trans ?_, rfl, (List.append_nil _).symm⟩
    exact if_congr (isOk_prepareExtraction s.currentNode) rfl rfl
  | recordDisposition reason =>
    refine ⟨(next_recorded reason _).trans ?_, rfl, (List.append_nil _).symm⟩
    exact if_congr isOk_recordDisposition rfl rfl
  | queueFrame frame => exact ⟨rfl, rfl, rfl⟩
  | awaitPendingExtractions => exact ⟨rfl, rfl, (List.append_nil _).symm⟩
  | finishExtraction => exact ⟨rfl, rfl, (List.append_nil _).symm⟩
  | performExtraction extraction => cases outcome <;> exact ⟨rfl, rfl, (List.append_nil _).symm⟩
  | updateWorkflowRun => cases outcome <;> exact ⟨rfl, rfl, (List.append_nil _).symm⟩

variable (ending s) in
theorem queues_cases (cmd : EndCallCommand) :
    cmd.queues = [] ∨ cmd.queues.length = 1 ∧ Ends ending s cmd := by
  cases cmd with
  | queueFrame frame => exact .inr ⟨rfl, trivial⟩
  | _ => exact .inl rfl

variable [DecidableEq ι]

theorem Disposes.advance (h : Disposes s stages) {proc : ι} (hStage : stages proc = .disposing)
    {s' : CallState ι} {stage : EndStage} (hBy : s'.disposedBy = s.disposedBy) (hNot : stage ≠ .waiting)
    (hFrames : s'.frames.length = if stage = .queued then 1 else 0) :
    Disposes s' (Function.update stages proc stage) := by
  obtain ⟨hOwn, -⟩ := h.own hStage
  have hOnly : ∀ other, s'.disposedBy = some other → other = proc := by
    intro other hOther
    rw [hBy, hOwn] at hOther
    exact (Option.some.inj hOther).symm
  constructor
  · intro hNone
    rw [hBy, hOwn] at hNone
    cases hNone
  · intro other hOther
    rw [hBy]
    by_cases hSame : other = proc
    · rw [hSame, hOwn]
    · rw [Function.update_of_ne hSame] at hOther
      exact h.others other hOther
  · intro other hOther
    rw [hOnly other hOther, Function.update_self]
    exact hNot
  · intro other hOther
    rw [hOnly other hOther, Function.update_self]
    exact hFrames

theorem Disposes.late (h : Disposes s stages) {proc owner : ι} (hStage : stages proc = .waiting)
    (hBy : s.disposedBy = some owner) : Disposes s (Function.update stages proc .over) := by
  have hOther : ∀ other, s.disposedBy = some other → other ≠ proc := by
    rintro other hOther rfl
    exact h.started other hOther hStage
  constructor
  · intro hNone
    rw [hBy] at hNone
    cases hNone
  · intro other hActive
    by_cases hSame : other = proc
    · rw [hSame, Function.update_self] at hActive
      obtain hActive | hActive := hActive <;> cases hActive
    · rw [Function.update_of_ne hSame] at hActive
      exact h.others other hActive
  · intro other hOwner
    rw [Function.update_of_ne (hOther other hOwner)]
    exact h.started other hOwner
  · intro other hOwner
    rw [Function.update_of_ne (hOther other hOwner)]
    exact h.frames other hOwner

theorem Disposes.first (h : Disposes s stages) (hNone : s.disposedBy = none) (proc : ι) :
    Disposes { s with disposedBy := some proc, mutePipeline := true }
      (Function.update stages proc .disposing) := by
  obtain ⟨hFrames, hWaiting⟩ := h.waiting hNone
  constructor
  · intro hBy
    cases hBy
  · intro other hActive
    by_cases hSame : other = proc
    · rw [hSame]
    · rw [Function.update_of_ne hSame, hWaiting other] at hActive
      obtain hActive | hActive := hActive <;> cases hActive
  · rintro other ⟨⟩
    rw [Function.update_self]
    decide
  · rintro other ⟨⟩
    rw [Function.update_self]
    exact congrArg List.length hFrames

theorem permits_cases {stage : EndStage} {cmd : EndCallCommand} (h : endStages.permits stage cmd) :
    cmd = .dispose ∧ stage = .waiting ∨ endStages.permits .disposing cmd ∧ stage = .disposing := by
  cases cmd with
  | dispose => exact .inl ⟨rfl, h⟩
  | _ => exact .inr ⟨rfl, h⟩

variable (ending answers) in
theorem disposes_perform {proc : ι} {cmd : EndCallCommand} (outcome : Outcome EndCallError)
    (h : Disposes s stages) (hPermits : endStages.permits (stages proc) cmd) :
    Disposes (performEndCall ending answers proc outcome cmd s).2 (Function.update stages proc
      (endStages.next (stages proc) cmd (performEndCall ending answers proc outcome cmd s).1)) := by
  obtain ⟨rfl, hStage⟩ | ⟨hCmd, hStage⟩ := permits_cases hPermits
  · simp only [performEndCall]
    cases hBy : s.disposedBy with
    | some owner => exact h.late hStage hBy
    | none => exact h.first hBy proc
  · obtain ⟨-, hFrames⟩ := h.own hStage
    obtain ⟨hNext, hBy, hQueued⟩ := perform_spec ending answers s proc outcome hCmd
    rw [hStage, hNext]
    refine h.advance hStage hBy ?_ ?_
    · split
      · split <;> decide
      · decide
    · rw [hQueued, hFrames, List.nil_append]
      obtain hNone | ⟨hOne, hEnds⟩ := queues_cases ending s cmd
      · rw [hNone, if_pos rfl]
        split <;> rfl
      · have hSome : cmd.queues ≠ [] := by
          intro hNone
          rw [hNone] at hOne
          cases hOne
        rw [if_pos hEnds, if_neg hSome, hOne]
        rfl

/-- One terminal frame at most, and one exactly once the call that set the flag has ended. -/
def CallEnds (cfg : Config ι EndCallReply EndCallError Unit (CallState ι)) : Prop :=
  cfg.shared.frames.length ≤ 1 ∧ ∀ proc, cfg.shared.disposedBy = some proc →
    (cfg.procs proc).finished = true → cfg.shared.frames.length = 1

def AtStages (cfg : Config ι EndCallReply EndCallError Unit (CallState ι)) : Prop :=
  ∃ stages, Disposes cfg.shared stages ∧
    ∀ proc, (cfg.procs proc).Obeys endStages (fun _ stage => Settled stage) (stages proc)

variable {cfg : Config ι EndCallReply EndCallError Unit (CallState ι)}

omit [DecidableEq ι] in
theorem callEnds_iff (h : Disposes cfg.shared stages)
    (hObeys : ∀ proc, (cfg.procs proc).Obeys endStages (fun _ stage => Settled stage) (stages proc)) :
    CallEnds cfg ↔ ∀ proc, cfg.shared.disposedBy = some proc → stages proc ≠ .over := by
  constructor
  · rintro ⟨-, hOne⟩ proc hBy hOver
    have hFinished : (cfg.procs proc).finished = true := by
      have hOwn := hObeys proc
      rw [hOver] at hOwn
      cases hProgram : cfg.procs proc with
      | ret value => rfl
      | raise error => rfl
      | await cmd resume =>
        rw [hProgram] at hOwn
        obtain ⟨-, hStage⟩ | ⟨-, hStage⟩ := permits_cases hOwn.1 <;> cases hStage
    have hFrames := h.frames proc hBy
    rw [hOne proc hBy hFinished, hOver] at hFrames
    exact absurd hFrames (by decide)
  · intro hAlive
    constructor
    · cases hBy : cfg.shared.disposedBy with
      | none => simp [(h.waiting hBy).1]
      | some proc =>
        rw [h.frames proc hBy]
        split <;> decide
    · intro proc hBy hFinished
      have hSettled : Settled (stages proc) := by
        obtain ⟨result, hResult⟩ := Program.result_of_finished hFinished
        exact (hObeys proc).result hResult
      obtain hQueued | hOver := hSettled
      · rw [h.frames proc hBy, if_pos hQueued]
      · exact absurd hOver (hAlive proc hBy)

variable (ι ending) in
/-- Each step of a disposal finds what it needs. -/
def endsEach : System.Discipline ι EndCallReply EndCallError (CallState ι) Interference where
  call _ cmd _ s := Ends ending s cmd
  environment _ _ := True

instance (proc : ι) (cmd : EndCallCommand) (outcome : Outcome EndCallError) (s : CallState ι) :
    Decidable ((endsEach ι ending).call proc cmd outcome s) := inferInstanceAs (Decidable (Ends ending s cmd))

instance (move : Interference) (s : CallState ι) : Decidable ((endsEach ι ending).environment move s) :=
  isTrue trivial

theorem alive_perform {proc : ι} {cmd : EndCallCommand} (outcome : Outcome EndCallError)
    (h : Disposes s stages) (hPermits : endStages.permits (stages proc) cmd)
    (hAlive : ∀ owner, s.disposedBy = some owner → stages owner ≠ .over) :
    (∀ owner, (performEndCall ending answers proc outcome cmd s).2.disposedBy = some owner →
        Function.update stages proc (endStages.next (stages proc) cmd
          (performEndCall ending answers proc outcome cmd s).1) owner ≠ .over) ↔ Ends ending s cmd := by
  obtain ⟨rfl, hStage⟩ | ⟨hCmd, hStage⟩ := permits_cases hPermits
  · refine iff_of_true ?_ trivial
    simp only [performEndCall]
    cases hBy : s.disposedBy with
    | some owner =>
      rintro other hOther
      have hOwner : s.disposedBy = some other := hBy.trans (hBy.symm.trans hOther)
      have hNe : other ≠ proc := by
        rintro rfl
        exact h.started other hOwner hStage
      rw [Function.update_of_ne hNe]
      exact hAlive other hOwner
    | none =>
      rintro other ⟨⟩
      rw [Function.update_self]
      exact fun hOver => EndStage.noConfusion hOver
  · obtain ⟨hOwn, -⟩ := h.own hStage
    obtain ⟨hNext, hBy, -⟩ := perform_spec ending answers s proc outcome hCmd
    rw [hStage, hNext, hBy, hOwn]
    constructor
    · intro hAll
      by_contra hNot
      exact hAll proc rfl (by rw [Function.update_self, if_neg hNot])
    · rintro hEnds other ⟨⟩
      rw [Function.update_self, if_pos hEnds]
      split <;> decide

def endingCalls (engine : Ending) (calls : ι → String × Bool) (s : CallState ι) :
    Config ι EndCallReply EndCallError Unit (CallState ι) where
  shared := s
  procs proc := endCallWithReason engine.reasons (calls proc).1 (calls proc).2

/-- In every interleaving of calls of the method the first one queues one terminal frame before it returns
and the others none, exactly if each step of the disposal finds prompts that can be rendered and tags that
take the disposition. -/
theorem call_ends_iff (engine : Ending) (answers : Answers ι) (calls : ι → String × Bool)
    (hFresh : s.disposedBy = none) (hFrames : s.frames = [])
    {events : List (Event ι EndCallError Interference)}
    {last : Config ι EndCallReply EndCallError Unit (CallState ι)}
    (hRun : (endCallSystem engine answers).run (endingCalls engine calls s) events = some last) :
    (∀ n mid, (endCallSystem engine answers).run (endingCalls engine calls s) (events.take n) = some mid →
        CallEnds mid) ↔
      (endCallSystem engine answers).Follows (endsEach ι engine) (endingCalls engine calls s) events := by
  have hStart : Disposes s fun _ : ι => EndStage.waiting := by
    constructor
    · exact fun _ => ⟨hFrames, fun _ => rfl⟩
    · rintro proc (hActive | hActive) <;> cases hActive
    · intro proc hBy
      rw [hFresh] at hBy
      cases hBy
    · intro proc hBy
      rw [hFresh] at hBy
      cases hBy
  have hObeys : ∀ proc, ((endingCalls engine calls s).procs proc).Obeys endStages
      (fun _ stage => Settled stage) .waiting :=
    fun proc => endCallWithReason_obeys engine.reasons (calls proc).1 (calls proc).2
  refine System.everywhere_iff_of_step (K := AtStages) ?_ hRun ⟨_, hStart, hObeys⟩
    ((callEnds_iff hStart hObeys).mpr fun _ _ hOver => EndStage.noConfusion hOver)
  rintro cfg event next ⟨stages, hDisposes, hObeys⟩ hEnds hStep
  have hAlive := (callEnds_iff hDisposes hObeys).mp hEnds
  obtain ⟨proc, outcome, cmd, resume, rfl, hProc, rfl⟩ | ⟨move, shared, rfl, hMove, rfl⟩ :=
    System.step_cases hStep
  · have hOwn := hObeys proc
    rw [hProc] at hOwn
    have hNext := disposes_perform engine answers outcome hDisposes hOwn.1
    have hAfter := hOwn.2 (performEndCall engine answers proc outcome cmd cfg.shared).1
    have hObeysNext : ∀ other, (Function.update cfg.procs proc
        (resume (performEndCall engine answers proc outcome cmd cfg.shared).1) other).Obeys endStages
          (fun _ stage => Settled stage) (Function.update stages proc _ other) :=
      System.obeys_update (P := fun _ => endStages) hObeys hAfter
    have hAllows : (endsEach ι engine).Allows cfg (.resume proc outcome) ↔ Ends engine cfg.shared cmd := by
      rw [System.Discipline.Allows, hProc]
      simp [Program.pending, endsEach]
    refine ⟨⟨_, hNext, hObeysNext⟩, (callEnds_iff hNext hObeysNext).trans ?_⟩
    exact (alive_perform outcome hDisposes hOwn.1 hAlive).trans hAllows.symm
  · cases hMove
    refine ⟨⟨stages, ⟨hDisposes.waiting, hDisposes.others, hDisposes.started, hDisposes.frames⟩, hObeys⟩, ?_⟩
    exact iff_of_true hEnds trivial

end Runs

def utcOnly : Host where
  lower := id
  title := id
  zone key := if key = "UTC" then some ("2025-01-06 10:00:00 UTC", "Monday") else none

def utcEnding : Ending := ⟨utcOnly, ⟨"pipeline_error", "voicemail_detected"⟩, fun _ _ => false⟩

def extractingNode (prompt : String) : DefinitionNode where
  id := "1"
  type := .agentNode
  data :=
    { extractionEnabled := true
      extractionPrompt := some prompt
      extractionVariables := [⟨"city", none⟩] }

def inNode (prompt : String) : CallState Bool where
  currentNode := some (extractingNode prompt)
  callContextVars := .obj []
  gathered := []

def hangups (proc : Bool) : String × Bool := if proc then ("user_hangup", true) else ("end_call", false)

def ends (proc : Bool) : Event Bool EndCallError Interference := .resume proc .reply

theorem callEnds_with_weekday : ∃ last,
    (endCallSystem utcEnding fun _ _ => .obj [("city", .str "Pune")]).run
      (endingCalls utcEnding hangups (inNode "Today is \x7b\x7bcurrent_weekday\x7d\x7d."))
      ([true, true, false, true, true, true, true, true, true].map ends) = some last ∧ CallEnds last := by
  have hEnds : ((endCallSystem utcEnding fun _ _ => .obj [("city", .str "Pune")]).run
      (endingCalls utcEnding hangups (inNode "Today is \x7b\x7bcurrent_weekday\x7d\x7d."))
      ([true, true, false, true, true, true, true, true, true].map ends)).isSome = true := by decide +kernel
  obtain ⟨last, hLast⟩ := Option.isSome_iff_exists.mp hEnds
  have hAll := (call_ends_iff utcEnding _ hangups rfl rfl hLast).mpr (by decide +kernel)
  exact ⟨last, hLast, hAll 9 last hLast⟩

theorem disposed_call_keeps_running : ¬ ∀ (engine : Ending) (answers : Answers Bool)
    (calls : Bool → String × Bool) (s : CallState Bool), s.disposedBy = none → s.frames = [] →
    ∀ (events : List (Event Bool EndCallError Interference)) last,
      (endCallSystem engine answers).run (endingCalls engine calls s) events = some last → CallEnds last := by
  intro h
  have hEnds : ((endCallSystem utcEnding fun _ _ => .null).run (endingCalls utcEnding hangups
      (inNode "\x7b\x7bcurrent_time_Mars/Base\x7d\x7d \x7b\x7bcurrent_weekday\x7d\x7d"))
      ([true, true, true].map ends)).any (fun last => last.shared.disposedBy == some true &&
        (last.procs true).finished && last.shared.frames.isEmpty) = true := by
    decide +kernel
  obtain ⟨last, hLast, hLeft⟩ := (Option.any_eq_true _ _).mp hEnds
  simp only [Bool.and_eq_true, beq_iff_eq, List.isEmpty_iff] at hLeft
  obtain ⟨⟨hBy, hFinished⟩, hNone⟩ := hLeft
  have hOne := (h _ _ _ _ rfl rfl _ last hLast).2 true hBy hFinished
  rw [hNone] at hOne
  cases hOne

end FastVoice.Engine
