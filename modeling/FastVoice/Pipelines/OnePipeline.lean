import Mathlib.Data.Fintype.Basic
import FastVoice.Pipelines.Stages

/-! # One pipeline for a run

The guard of a media socket is a read of the state and a later write of it, and the mapping that guards an
offer expires: two handlers may be let in. A handler that is let in only while no other is active keeps the run
to one pipeline.
-/
namespace FastVoice.Pipelines
open Async

variable {ι : Type} [DecidableEq ι]

abbrev EntryRecord (ι : Type) := Recorded ι EntryCommand Error (EntryStore ι) EntryMove

def stages (s : EntryRecord ι) : ι → Stage := (entryServices ι).ghosts entryProtocol .idle s

def Starts : Entry ι EntryCommand Error (EntryStore ι) EntryMove → Prop
  | .call _ .startPipeline outcome _ => outcome.executed = true
  | _ => False

structure OnePipeline (s : EntryRecord ι) : Prop where
  atMostOne : s.state.executing.length ≤ 1
  startedOpen : ∀ entry ∈ s.history, Starts entry → entry.found.row.isCompleted = false
  staysCompleted : ∀ entry ∈ s.history, entry.found.row.state = .completed → s.state.row.state ≠ .running

/-- A handler is let in while no handler is active, no completed run is set to running, and a run is not completed
between the moment a handler finds it open and the start of its pipeline. -/
def Orderly (s : EntryRecord ι) : EntryCommand → Outcome Error → Prop
  | .setRunning, outcome => (outcome.executed = true → s.state.row.state ≠ .completed) ∧
      (outcome = .reply → ∀ proc, (stages s proc).active = false)
  | .bindWorkflowRun, outcome =>
      outcome = .reply → s.state.bound = false → ∀ proc, (stages s proc).active = false
  | .completeRun, outcome => outcome.executed = true → ∀ proc, stages s proc ≠ .loaded
  | _, _ => True

def orderlyDiscipline : System.Discipline ι EntryCommand.Reply Error (EntryRecord ι) EntryMove where
  call _ command outcome s := Orderly s command outcome
  environment _ _ := True

structure Exclusive (s : EntryStore ι) (stages : ι → Stage) : Prop where
  nodup : s.executing.Nodup
  executing : ∀ proc ∈ s.executing, stages proc = .executing
  alone : ∀ proc other, (stages proc).active = true → (stages other).active = true → proc = other
  openRun : ∀ proc, stages proc = .loaded → s.row.isCompleted = false

def result (s : EntryStore ι) (proc : ι) (command : EntryCommand) (outcome : Outcome Error) :
    Except Error command.Reply :=
  ((entryServices ι).perform proc command outcome s).1

namespace Stage

variable {stage : Stage} {command : EntryCommand} {s : EntryStore ι} {proc : ι} {outcome : Outcome Error}

theorem active_next (h : (stage.next command (result s proc command outcome)).active = true) :
    stage.active = true ∨ (command = .setRunning ∧ outcome = .reply) ∨
      (command = .bindWorkflowRun ∧ outcome = .reply ∧ s.bound = false) := by
  obtain ⟨row, bound, executing⟩ := s
  cases stage <;> cases command <;> cases outcome <;>
    simp_all [next, active, result, entryServices, EntryStore.reply, Outcome.raised] <;> grind

theorem loaded_next (h : stage.next command (result s proc command outcome) = .loaded) :
    stage = .loaded ∨ (command = .getWorkflowRun ∧ s.row.isCompleted = false) := by
  obtain ⟨⟨state, isCompleted⟩, bound, executing⟩ := s
  cases stage <;> cases command <;> cases outcome <;>
    simp_all [next, result, entryServices, EntryStore.reply, Outcome.raised] <;> grind

theorem executing_next (h : stage.permits command) (hStage : stage = .executing) :
    command = .endPipeline ∨ stage.next command (result s proc command outcome) = .executing := by
  subst hStage
  cases command with
  | endPipeline => exact .inl rfl
  | setRunning => cases h
  | bindWorkflowRun => cases h
  | startPipeline => cases h
  | getWorkflowRun => exact .inr rfl
  | completeRun => exact .inr rfl
  | getWorkflowSlotMapping => exact .inr rfl
  | deleteWorkflowSlotMapping => exact .inr rfl
  | other => exact .inr rfl

end Stage

def left (s : EntryStore ι) (proc : ι) (command : EntryCommand) (outcome : Outcome Error) : EntryStore ι :=
  ((entryServices ι).perform proc command outcome s).2

theorem left_of_applied {s : EntryStore ι} {proc : ι} {command : EntryCommand} {outcome : Outcome Error}
    (h : applied command outcome = true) : left s proc command outcome = s.after proc command := if_pos h

theorem left_of_not_applied {s : EntryStore ι} {proc : ι} {command : EntryCommand} {outcome : Outcome Error}
    (h : applied command outcome = false) : left s proc command outcome = s :=
  if_neg (Bool.eq_false_iff.mp h)

section Step

variable {s : EntryRecord ι} {proc : ι} {command : EntryCommand} {outcome : Outcome Error}

theorem stages_perform (proc : ι) (command : EntryCommand) (outcome : Outcome Error) (s : EntryRecord ι) :
    stages ((entryServices ι).recorded.perform proc command outcome s).2 =
      Function.update (stages s) proc ((stages s proc).next command (result s.state proc command outcome)) :=
  System.ghosts_perform proc command outcome s

theorem mem_executing {other : ι} (h : other ∈ (left s.state proc command outcome).executing) :
    (other ∈ s.state.executing ∧ (other = proc → command ≠ .endPipeline)) ∨
      (other = proc ∧ command = .startPipeline) := by
  cases hApplied : applied command outcome with
  | false =>
    rw [left_of_not_applied hApplied] at h
    refine .inl ⟨h, fun _ hEnd => ?_⟩
    subst hEnd
    simp [applied] at hApplied
  | true =>
    rw [left_of_applied hApplied] at h
    cases command with
    | startPipeline =>
      rcases List.mem_cons.mp h with rfl | hOld
      · exact .inr ⟨rfl, rfl⟩
      · exact .inl ⟨hOld, fun _ hEnd => EntryCommand.noConfusion hEnd⟩
    | endPipeline =>
      obtain ⟨hOld, hNe⟩ := List.mem_filter.mp h
      exact .inl ⟨hOld, fun hEq _ => of_decide_eq_true hNe hEq⟩
    | getWorkflowRun => exact .inl ⟨h, fun _ hEnd => EntryCommand.noConfusion hEnd⟩
    | setRunning => exact .inl ⟨h, fun _ hEnd => EntryCommand.noConfusion hEnd⟩
    | completeRun => exact .inl ⟨h, fun _ hEnd => EntryCommand.noConfusion hEnd⟩
    | bindWorkflowRun => exact .inl ⟨h, fun _ hEnd => EntryCommand.noConfusion hEnd⟩
    | getWorkflowSlotMapping => exact .inl ⟨h, fun _ hEnd => EntryCommand.noConfusion hEnd⟩
    | deleteWorkflowSlotMapping => exact .inl ⟨h, fun _ hEnd => EntryCommand.noConfusion hEnd⟩
    | other => exact .inl ⟨h, fun _ hEnd => EntryCommand.noConfusion hEnd⟩

theorem nodup_executing (h : Exclusive s.state (stages s)) (hPermits : (stages s proc).permits command) :
    (left s.state proc command outcome).executing.Nodup := by
  cases hApplied : applied command outcome with
  | false =>
    rw [left_of_not_applied hApplied]
    exact h.nodup
  | true =>
    rw [left_of_applied hApplied]
    cases command with
    | startPipeline =>
      refine List.nodup_cons.mpr ⟨fun hMem => ?_, h.nodup⟩
      have hLoaded : stages s proc = .loaded := hPermits
      rw [h.executing proc hMem] at hLoaded
      cases hLoaded
    | endPipeline => exact h.nodup.filter _
    | getWorkflowRun => exact h.nodup
    | setRunning => exact h.nodup
    | completeRun => exact h.nodup
    | bindWorkflowRun => exact h.nodup
    | getWorkflowSlotMapping => exact h.nodup
    | deleteWorkflowSlotMapping => exact h.nodup
    | other => exact h.nodup

theorem isCompleted_left (h : (left s.state proc command outcome).row.isCompleted = true) :
    s.state.row.isCompleted = true ∨ (command = .completeRun ∧ outcome.executed = true) := by
  cases hApplied : applied command outcome with
  | false =>
    rw [left_of_not_applied hApplied] at h
    exact .inl h
  | true =>
    rw [left_of_applied hApplied] at h
    cases command with
    | completeRun => exact .inr ⟨rfl, by simpa [applied] using hApplied⟩
    | setRunning => exact .inl h
    | startPipeline => exact .inl h
    | endPipeline => exact .inl h
    | getWorkflowRun => exact .inl h
    | bindWorkflowRun => exact .inl h
    | getWorkflowSlotMapping => exact .inl h
    | deleteWorkflowSlotMapping => exact .inl h
    | other => exact .inl h

theorem state_left (h : s.state.row.state = .completed) (hOrderly : Orderly s command outcome) :
    (left s.state proc command outcome).row.state = .completed := by
  cases hApplied : applied command outcome with
  | false =>
    rw [left_of_not_applied hApplied]
    exact h
  | true =>
    rw [left_of_applied hApplied]
    cases command with
    | setRunning => exact absurd h (hOrderly.1 (by simpa [applied] using hApplied))
    | completeRun => rfl
    | startPipeline => exact h
    | endPipeline => exact h
    | getWorkflowRun => exact h
    | bindWorkflowRun => exact h
    | getWorkflowSlotMapping => exact h
    | deleteWorkflowSlotMapping => exact h
    | other => exact h

theorem active_alone (h : Exclusive s.state (stages s)) (hOrderly : Orderly s command outcome) {other : ι}
    (hOther : (stages s other).active = true)
    (hActive : ((stages s proc).next command (result s.state proc command outcome)).active = true) :
    other = proc := by
  rcases Stage.active_next hActive with hOld | ⟨rfl, rfl⟩ | ⟨rfl, rfl, hFree⟩
  · exact h.alone other proc hOther hOld
  · exact absurd hOther (by simp [hOrderly.2 rfl other])
  · exact absurd hOther (by simp [hOrderly rfl hFree other])

theorem exclusive_step (h : Exclusive s.state (stages s)) (hPermits : (stages s proc).permits command)
    (hOrderly : Orderly s command outcome) : Exclusive (left s.state proc command outcome)
      (Function.update (stages s) proc
        ((stages s proc).next command (result s.state proc command outcome))) := by
  constructor
  case nodup => exact nodup_executing h hPermits
  case executing =>
    intro other hOther
    rcases mem_executing hOther with ⟨hOld, hEnd⟩ | ⟨rfl, rfl⟩
    · rcases eq_or_ne other proc with rfl | hNe
      · rw [Function.update_self]
        exact (Stage.executing_next hPermits (h.executing other hOld)).resolve_left (hEnd rfl)
      · rw [Function.update_of_ne hNe]
        exact h.executing other hOld
    · have hLoaded : stages s other = .loaded := hPermits
      rw [Function.update_self, hLoaded]
      rfl
  case alone =>
    intro first second hFirst hSecond
    rcases eq_or_ne first proc with rfl | hNe
    · rw [Function.update_self] at hFirst
      rcases eq_or_ne second first with rfl | hNe'
      · rfl
      · rw [Function.update_of_ne hNe'] at hSecond
        exact (active_alone h hOrderly hSecond hFirst).symm
    · rw [Function.update_of_ne hNe] at hFirst
      rcases eq_or_ne second proc with rfl | hNe'
      · rw [Function.update_self] at hSecond
        exact active_alone h hOrderly hFirst hSecond
      · rw [Function.update_of_ne hNe'] at hSecond
        exact h.alone first second hFirst hSecond
  case openRun =>
    intro other hLoaded
    have hFound : s.state.row.isCompleted = false := by
      rcases eq_or_ne other proc with rfl | hNe
      · rw [Function.update_self] at hLoaded
        rcases Stage.loaded_next hLoaded with hOld | ⟨-, hOpen⟩
        · exact h.openRun other hOld
        · exact hOpen
      · rw [Function.update_of_ne hNe] at hLoaded
        exact h.openRun other hLoaded
    by_contra hCompleted
    rcases isCompleted_left (Bool.eq_true_of_not_eq_false hCompleted) with hOld | ⟨rfl, hExecuted⟩
    · rw [hFound] at hOld
      cases hOld
    · rcases eq_or_ne other proc with rfl | hNe
      · rw [Function.update_self] at hLoaded
        rcases Stage.loaded_next hLoaded with hOld | ⟨hRead, -⟩
        · exact hOrderly hExecuted other hOld
        · cases hRead
      · rw [Function.update_of_ne hNe] at hLoaded
        exact hOrderly hExecuted other hLoaded

end Step

structure Kept (s : EntryRecord ι) : Prop where
  exclusive : Exclusive s.state (stages s)
  startedOpen : ∀ entry ∈ s.history, Starts entry → entry.found.row.isCompleted = false
  staysCompleted : ∀ entry ∈ s.history, entry.found.row.state = .completed → s.state.row.state = .completed

theorem Kept.onePipeline {s : EntryRecord ι} (h : Kept s) : OnePipeline s := by
  constructor
  case atMostOne =>
    have hActive : ∀ proc ∈ s.state.executing, (stages s proc).active = true := by
      intro proc hProc
      rw [h.exclusive.executing proc hProc]
      rfl
    have hNodup := h.exclusive.nodup
    rcases hExecuting : s.state.executing with _ | ⟨first, _ | ⟨second, rest⟩⟩
    · exact Nat.zero_le 1
    · exact le_refl 1
    · rw [hExecuting] at hActive hNodup
      have hSame := h.exclusive.alone first second (hActive first (by simp)) (hActive second (by simp))
      exact absurd hNodup (by simp [hSame])
  case startedOpen => exact h.startedOpen
  case staysCompleted =>
    intro entry hEntry hCompleted
    rw [h.staysCompleted entry hEntry hCompleted]
    decide

theorem kept_call {s : EntryRecord ι} {proc : ι} {command : EntryCommand} {outcome : Outcome Error} (h : Kept s)
    (hPermits : (stages s proc).permits command) (hOrderly : Orderly s command outcome) :
    Kept ((entryServices ι).recorded.perform proc command outcome s).2 := by
  constructor
  case exclusive =>
    rw [stages_perform]
    exact exclusive_step h.exclusive hPermits hOrderly
  case startedOpen =>
    intro entry hEntry hStarts
    rcases List.mem_cons.mp hEntry with rfl | hOld
    · cases command with
      | startPipeline => exact h.exclusive.openRun proc hPermits
      | _ => cases hStarts
    · exact h.startedOpen entry hOld hStarts
  case staysCompleted =>
    intro entry hEntry hCompleted
    apply state_left ?_ hOrderly
    rcases List.mem_cons.mp hEntry with rfl | hOld
    · exact hCompleted
    · exact h.staysCompleted entry hOld hCompleted

theorem kept_environment {s s' : EntryRecord ι} {move : EntryMove} (h : Kept s)
    (hMove : (entryServices ι).recorded.environment move s = some s') : Kept s' := by
  have hStages : stages s' = stages s := System.ghosts_environment hMove
  cases move with
  | expire =>
    obtain rfl := Option.some.inj hMove
    constructor
    case exclusive =>
      rw [hStages]
      exact ⟨h.exclusive.nodup, h.exclusive.executing, h.exclusive.alone, h.exclusive.openRun⟩
    case startedOpen =>
      intro entry hEntry hStarts
      rcases List.mem_cons.mp hEntry with rfl | hOld
      · cases hStarts
      · exact h.startedOpen entry hOld hStarts
    case staysCompleted =>
      intro entry hEntry hCompleted
      rcases List.mem_cons.mp hEntry with rfl | hOld
      · exact hCompleted
      · exact h.staysCompleted entry hOld hCompleted

def startedHandlers (row : RunRow) (bound : Bool) (handlers : ι → Handler) :
    Config ι EntryCommand.Reply Error Unit (EntryRecord ι) where
  shared := ⟨⟨row, bound, []⟩, []⟩
  procs := fun proc => (handlers proc).method

/-- However the handlers of a run interleave, at most one pipeline executes for it, none starts after the run has been
completed, and a completed run does not return to running, as long as every step is orderly. -/
theorem one_pipeline_of_orderly (row : RunRow) (bound : Bool) (handlers : ι → Handler)
    (events : List (Event ι Error EntryMove)) (last : Config ι EntryCommand.Reply Error Unit (EntryRecord ι))
    (hRun : (entryServices ι).recorded.run (startedHandlers row bound handlers) events = some last)
    (hFollows : (entryServices ι).recorded.Follows orderlyDiscipline (startedHandlers row bound handlers) events) :
    OnePipeline last.shared := by
  apply Kept.onePipeline
  refine System.recorded_invariant (P := entryProtocol) (t := .idle) ?_ ?_ hFollows hRun
    (fun proc => method_reaches (handlers proc)) rfl ?_
  · intro proc command outcome s hKept hPermits hOrderly
    exact kept_call hKept hPermits hOrderly
  · intro move s s' hKept _ hMove
    exact kept_environment hKept hMove
  · refine ⟨⟨List.nodup_nil, ?_, ?_, ?_⟩, ?_, ?_⟩
    · rintro proc ⟨⟩
    · rintro proc other hProc
      cases hProc
    · rintro proc hLoaded
      cases hLoaded
    · rintro entry ⟨⟩
    · rintro entry ⟨⟩

instance [Fintype ι] (s : EntryRecord ι) (command : EntryCommand) (outcome : Outcome Error) :
    Decidable (Orderly s command outcome) :=
  match command with
  | .setRunning => inferInstanceAs (Decidable ((outcome.executed = true → s.state.row.state ≠ .completed) ∧
      (outcome = .reply → ∀ proc, (stages s proc).active = false)))
  | .bindWorkflowRun => inferInstanceAs (Decidable
      (outcome = .reply → s.state.bound = false → ∀ proc, (stages s proc).active = false))
  | .completeRun => inferInstanceAs (Decidable (outcome.executed = true → ∀ proc, stages s proc ≠ .loaded))
  | .getWorkflowRun | .getWorkflowSlotMapping | .deleteWorkflowSlotMapping | .startPipeline | .endPipeline
  | .other => isTrue trivial

instance [Fintype ι] (proc : ι) (command : EntryCommand) (outcome : Outcome Error) (s : EntryRecord ι) :
    Decidable (orderlyDiscipline.call proc command outcome s) :=
  inferInstanceAs (Decidable (Orderly s command outcome))

instance (move : EntryMove) (s : EntryRecord ι) : Decidable (orderlyDiscipline.environment move s) :=
  isTrue trivial

def twoSockets : Bool → Handler := fun _ => .mediaSocket true true

def secondSocketRejected : List (Event Bool Error EntryMove) :=
  List.replicate 10 (.resume false .reply) ++ List.replicate 3 (.resume true .reply) ++
    List.replicate 6 (.resume false .reply)

theorem second_socket_rejected : ∃ last,
    (entryServices Bool).recorded.run (startedHandlers ⟨.initialized, false⟩ true twoSockets) secondSocketRejected =
      some last ∧ OnePipeline last.shared :=
  ⟨_, rfl, one_pipeline_of_orderly ⟨.initialized, false⟩ true twoSockets secondSocketRejected _ rfl
    (by decide +kernel)⟩

def bothSocketsRead : List (Event Bool Error EntryMove) :=
  [.resume false .reply, .resume true .reply] ++ List.replicate 9 (.resume false .reply) ++
    List.replicate 9 (.resume true .reply)

theorem two_pipelines_execute :
    ¬ ∀ (ι : Type) [DecidableEq ι] (row : RunRow) (bound : Bool) (handlers : ι → Handler)
      (events : List (Event ι Error EntryMove)) (last : Config ι EntryCommand.Reply Error Unit (EntryRecord ι)),
      (entryServices ι).recorded.run (startedHandlers row bound handlers) events = some last →
        OnePipeline last.shared := by
  intro hAll
  have hRun : ∃ last, (entryServices Bool).recorded.run
      (startedHandlers ⟨.initialized, false⟩ true twoSockets) bothSocketsRead = some last ∧
        last.shared.state.executing.length = 2 := ⟨_, rfl, rfl⟩
  obtain ⟨last, hLast, hTwo⟩ := hRun
  have hOne := (hAll Bool ⟨.initialized, false⟩ true twoSockets bothSocketsRead last hLast).atMostOne
  omega

end FastVoice.Pipelines
