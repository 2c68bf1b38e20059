import Mathlib.Logic.Function.Basic
import FastVoice.Async.Program

/-! # Interleaved runs of coroutines over one shared state

Each await is one atomic step of the server that owns the shared state. Between two steps any
other coroutine or the environment may move. A run is a list of events, so that statements about
all runs are statements about all event lists.
-/
namespace FastVoice.Async

variable {ι Cmd : Type} {Reply : Cmd → Type} {ε α σ Env : Type}

/-- How one await ends: with its reply, or with an exception delivered there. In the second case
`applied` says whether the server had already executed the command. -/
inductive Outcome (ε : Type) where
  | reply
  | fail (error : ε) (applied : Bool)
  deriving DecidableEq

def Outcome.executed : Outcome ε → Bool
  | .reply => true
  | .fail _ applied => applied

def Outcome.raised : Outcome ε → Option ε
  | .reply => none
  | .fail error _ => some error

structure System (ι : Type) (Reply : Cmd → Type) (ε σ Env : Type) where
  perform : ι → (cmd : Cmd) → Outcome ε → σ → Except ε (Reply cmd) × σ
  environment : Env → σ → Option σ

structure Config (ι : Type) (Reply : Cmd → Type) (ε α σ : Type) where
  shared : σ
  procs : ι → Program Reply ε α

inductive Event (ι ε Env : Type) where
  | resume (proc : ι) (outcome : Outcome ε)
  | environment (event : Env)
  deriving DecidableEq

namespace System

/-- A server that executes commands the same way for every caller. -/
def ofServer (execute : (cmd : Cmd) → σ → Reply cmd × σ) (environment : Env → σ → Option σ) :
    System ι Reply ε σ Env where
  perform _ cmd outcome s :=
    match outcome with
    | .reply => (.ok (execute cmd s).1, (execute cmd s).2)
    | .fail error applied => (.error error, if applied then (execute cmd s).2 else s)
  environment := environment

variable [DecidableEq ι]

def step (S : System ι Reply ε σ Env) (cfg : Config ι Reply ε α σ) :
    Event ι ε Env → Option (Config ι Reply ε α σ)
  | .resume proc outcome =>
    match cfg.procs proc with
    | .await cmd resume =>
      let after := S.perform proc cmd outcome cfg.shared
      some ⟨after.2, Function.update cfg.procs proc (resume after.1)⟩
    | _ => none
  | .environment event =>
    (S.environment event cfg.shared).map fun shared => ⟨shared, cfg.procs⟩

def run (S : System ι Reply ε σ Env) (cfg : Config ι Reply ε α σ) :
    List (Event ι ε Env) → Option (Config ι Reply ε α σ)
  | [] => some cfg
  | event :: events => (S.step cfg event).bind fun next => S.run next events

/-- What a run is allowed to do at each step, judged in the state before the step. -/
structure Discipline (ι : Type) (Reply : Cmd → Type) (ε σ Env : Type) where
  call : ι → (cmd : Cmd) → Outcome ε → σ → Prop
  environment : Env → σ → Prop

def Discipline.free : Discipline ι Reply ε σ Env := ⟨fun _ _ _ _ => True, fun _ _ => True⟩

/-- No await fails. -/
def Discipline.reliable : Discipline ι Reply ε σ Env :=
  ⟨fun _ _ outcome _ => outcome = .reply, fun _ _ => True⟩

def Discipline.Allows (D : Discipline ι Reply ε σ Env) (cfg : Config ι Reply ε α σ) :
    Event ι ε Env → Prop
  | .resume proc outcome => ∀ cmd ∈ (cfg.procs proc).pending, D.call proc cmd outcome cfg.shared
  | .environment event => D.environment event cfg.shared

/-- Every step of the run meets the discipline. -/
def Follows (S : System ι Reply ε σ Env) (D : Discipline ι Reply ε σ Env) :
    Config ι Reply ε α σ → List (Event ι ε Env) → Prop
  | _, [] => True
  | cfg, event :: events =>
    D.Allows cfg event ∧ ∀ next, S.step cfg event = some next → S.Follows D next events

section Decidability

instance [DecidableEq ε] (proc : ι) (cmd : Cmd) (outcome : Outcome ε) (s : σ) :
    Decidable ((@Discipline.reliable ι Cmd Reply ε σ Env).call proc cmd outcome s) :=
  inferInstanceAs (Decidable (outcome = .reply))

instance (event : Env) (s : σ) :
    Decidable ((@Discipline.reliable ι Cmd Reply ε σ Env).environment event s) :=
  isTrue trivial

variable (S : System ι Reply ε σ Env) (D : Discipline ι Reply ε σ Env)
  [∀ proc cmd outcome s, Decidable (D.call proc cmd outcome s)]
  [∀ event s, Decidable (D.environment event s)]

instance (cfg : Config ι Reply ε α σ) (event : Event ι ε Env) : Decidable (D.Allows cfg event) :=
  match event with
  | .resume proc outcome =>
    inferInstanceAs (Decidable (∀ cmd ∈ (cfg.procs proc).pending, D.call proc cmd outcome cfg.shared))
  | .environment event => inferInstanceAs (Decidable (D.environment event cfg.shared))

def decidableFollows : (cfg : Config ι Reply ε α σ) → (events : List (Event ι ε Env)) →
    Decidable (S.Follows D cfg events)
  | _, [] => isTrue trivial
  | cfg, event :: events =>
    match hStep : S.step cfg event with
    | none => decidable_of_iff (D.Allows cfg event) (by simp [Follows, hStep])
    | some next =>
      have := decidableFollows next events
      decidable_of_iff (D.Allows cfg event ∧ S.Follows D next events) (by simp [Follows, hStep])

instance (cfg : Config ι Reply ε α σ) (events : List (Event ι ε Env)) :
    Decidable (S.Follows D cfg events) := decidableFollows S D cfg events

end Decidability

theorem step_cases {S : System ι Reply ε σ Env} {cfg next : Config ι Reply ε α σ}
    {event : Event ι ε Env} (h : S.step cfg event = some next) :
    (∃ proc outcome cmd resume, event = .resume proc outcome ∧ cfg.procs proc = .await cmd resume ∧
      next = ⟨(S.perform proc cmd outcome cfg.shared).2,
        Function.update cfg.procs proc (resume (S.perform proc cmd outcome cfg.shared).1)⟩) ∨
    ∃ move shared, event = .environment move ∧ S.environment move cfg.shared = some shared ∧
      next = ⟨shared, cfg.procs⟩ := by
  cases event with
  | resume proc outcome =>
    left
    rw [step] at h
    split at h
    · rename_i cmd resume hProc
      exact ⟨proc, outcome, cmd, resume, rfl, hProc, (Option.some.inj h).symm⟩
    · cases h
  | environment move =>
    right
    obtain ⟨shared, hShared, hNext⟩ := Option.map_eq_some_iff.mp h
    exact ⟨move, shared, rfl, hShared, hNext.symm⟩

theorem run_induction {S : System ι Reply ε σ Env} {D : Discipline ι Reply ε σ Env}
    {P : Config ι Reply ε α σ → Prop}
    (hStep : ∀ cfg event next, P cfg → D.Allows cfg event → S.step cfg event = some next → P next)
    {cfg last : Config ι Reply ε α σ} {events : List (Event ι ε Env)}
    (hFollows : S.Follows D cfg events) (hRun : S.run cfg events = some last) (h : P cfg) : P last := by
  induction events generalizing cfg with
  | nil => exact Option.some.inj hRun ▸ h
  | cons event events ih =>
    obtain ⟨next, hNext, hRest⟩ := Option.bind_eq_some_iff.mp hRun
    exact ih (hFollows.2 next hNext) hRest (hStep cfg event next h hFollows.1 hNext)

theorem Follows.mono {S : System ι Reply ε σ Env} {D D' : Discipline ι Reply ε σ Env}
    (hCall : ∀ proc cmd outcome s, D.call proc cmd outcome s → D'.call proc cmd outcome s)
    (hEnv : ∀ move s, D.environment move s → D'.environment move s)
    {cfg : Config ι Reply ε α σ} {events : List (Event ι ε Env)} (h : S.Follows D cfg events) :
    S.Follows D' cfg events := by
  induction events generalizing cfg with
  | nil => trivial
  | cons event events ih =>
    refine ⟨?_, fun next hNext => ih (h.2 next hNext)⟩
    cases event with
    | resume proc outcome => exact fun cmd hCmd => hCall proc cmd outcome _ (h.1 cmd hCmd)
    | environment move => exact hEnv move _ h.1

theorem follows_free (S : System ι Reply ε σ Env) (cfg : Config ι Reply ε α σ)
    (events : List (Event ι ε Env)) : S.Follows .free cfg events := by
  induction events generalizing cfg with
  | nil => trivial
  | cons event events ih =>
    refine ⟨?_, fun next _ => ih next⟩
    cases event with
    | resume proc outcome => exact fun _ _ => trivial
    | environment move => trivial

theorem issues_update {P : ι → Cmd → Prop} {procs : ι → Program Reply ε α} {proc : ι}
    {next : Program Reply ε α} (h : ∀ proc, (procs proc).Issues (P proc))
    (hNext : next.Issues (P proc)) (other : ι) : (Function.update procs proc next other).Issues (P other) :=
  (Function.forall_update_iff procs fun proc program => program.Issues (P proc)).mpr
    ⟨hNext, fun other _ => h other⟩ other

/-- An invariant of the shared state that no command the programs can issue and no environment
move can break; the programs keep issuing only such commands. -/
theorem shared_invariant {S : System ι Reply ε σ Env} {D : Discipline ι Reply ε σ Env}
    {I : σ → Prop} {P : ι → Cmd → Prop}
    (hCall : ∀ proc cmd outcome s, I s → P proc cmd → D.call proc cmd outcome s →
      I (S.perform proc cmd outcome s).2)
    (hEnv : ∀ move s s', I s → D.environment move s → S.environment move s = some s' → I s')
    {cfg last : Config ι Reply ε α σ} {events : List (Event ι ε Env)}
    (hFollows : S.Follows D cfg events) (hRun : S.run cfg events = some last)
    (hIssues : ∀ proc, (cfg.procs proc).Issues (P proc)) (h : I cfg.shared) :
    I last.shared ∧ ∀ proc, (last.procs proc).Issues (P proc) := by
  refine run_induction
    (P := fun cfg => I cfg.shared ∧ ∀ proc, (cfg.procs proc).Issues (P proc))
    ?_ hFollows hRun ⟨h, hIssues⟩
  intro cfg event next ⟨hI, hIssues⟩ hAllows hStep
  obtain ⟨proc, outcome, cmd, resume, rfl, hProc, rfl⟩ | ⟨move, shared, rfl, hMove, rfl⟩ :=
    step_cases hStep
  · have hOwn := hIssues proc
    rw [hProc] at hOwn
    refine ⟨hCall proc cmd outcome _ hI hOwn.1 (hAllows cmd (by rw [hProc]; rfl)), ?_⟩
    exact issues_update hIssues (hOwn.2 _)
  · exact ⟨hEnv move _ _ hI hAllows hMove, hIssues⟩

/-- A property that each step keeps exactly when it meets the discipline holds throughout a run exactly
when the run follows the discipline. Each step also keeps `K`. -/
theorem everywhere_iff_of_step {S : System ι Reply ε σ Env} {D : Discipline ι Reply ε σ Env}
    {K I : Config ι Reply ε α σ → Prop}
    (hStep : ∀ cfg event next, K cfg → I cfg → S.step cfg event = some next →
      K next ∧ (I next ↔ D.Allows cfg event))
    {cfg last : Config ι Reply ε α σ} {events : List (Event ι ε Env)}
    (hRun : S.run cfg events = some last) (hK : K cfg) (h : I cfg) :
    (∀ n mid, S.run cfg (events.take n) = some mid → I mid) ↔ S.Follows D cfg events := by
  induction events generalizing cfg with
  | nil =>
    refine ⟨fun _ => trivial, fun _ n mid hMid => ?_⟩
    rw [List.take_nil] at hMid
    exact Option.some.inj hMid ▸ h
  | cons event events ih =>
    obtain ⟨next, hNext, hRest⟩ := Option.bind_eq_some_iff.mp hRun
    obtain ⟨hKNext, hIff⟩ := hStep cfg event next hK h hNext
    constructor
    · intro hAll
      have hHolds : I next := hAll 1 next (Option.bind_eq_some_iff.mpr ⟨next, hNext, rfl⟩)
      refine ⟨hIff.mp hHolds, fun other hOther => ?_⟩
      obtain rfl : next = other := Option.some.inj (hNext.symm.trans hOther)
      exact (ih hRest hKNext hHolds).mp fun n mid hMid =>
        hAll (n + 1) mid (Option.bind_eq_some_iff.mpr ⟨next, hNext, hMid⟩)
    · rintro ⟨hAllows, hFollows⟩ n mid hMid
      cases n with
      | zero => exact Option.some.inj hMid ▸ h
      | succ n =>
        obtain ⟨other, hOther, hMid⟩ := Option.bind_eq_some_iff.mp hMid
        obtain rfl : next = other := Option.some.inj (hNext.symm.trans hOther)
        exact (ih hRest hKNext (hIff.mpr hAllows)).mpr (hFollows next hNext) n mid hMid

theorem throughout_iff_of_step {S : System ι Reply ε σ Env} {D : Discipline ι Reply ε σ Env}
    {K : Config ι Reply ε α σ → Prop} {I : σ → Prop}
    (hStep : ∀ cfg event next, K cfg → I cfg.shared → S.step cfg event = some next →
      K next ∧ (I next.shared ↔ D.Allows cfg event))
    {cfg last : Config ι Reply ε α σ} {events : List (Event ι ε Env)}
    (hRun : S.run cfg events = some last) (hK : K cfg) (h : I cfg.shared) :
    (∀ n mid, S.run cfg (events.take n) = some mid → I mid.shared) ↔ S.Follows D cfg events :=
  everywhere_iff_of_step (I := fun cfg => I cfg.shared) hStep hRun hK h

theorem throughout_iff {S : System ι Reply ε σ Env} {D : Discipline ι Reply ε σ Env} {I : σ → Prop}
    {P : ι → Cmd → Prop} (hCall : ∀ proc cmd outcome s, I s → P proc cmd →
      (I (S.perform proc cmd outcome s).2 ↔ D.call proc cmd outcome s))
    (hEnv : ∀ move s s', I s → S.environment move s = some s' → (I s' ↔ D.environment move s))
    {cfg last : Config ι Reply ε α σ} {events : List (Event ι ε Env)}
    (hRun : S.run cfg events = some last) (hIssues : ∀ proc, (cfg.procs proc).Issues (P proc))
    (h : I cfg.shared) :
    (∀ n mid, S.run cfg (events.take n) = some mid → I mid.shared) ↔ S.Follows D cfg events := by
  refine throughout_iff_of_step (K := fun cfg => ∀ proc, (cfg.procs proc).Issues (P proc)) ?_
    hRun hIssues h
  intro cfg event next hIssues hI hStep
  obtain ⟨proc, outcome, cmd, resume, rfl, hProc, rfl⟩ | ⟨move, shared, rfl, hMove, rfl⟩ :=
    step_cases hStep
  · have hOwn := hIssues proc
    rw [hProc] at hOwn
    refine ⟨issues_update hIssues (hOwn.2 _), (hCall proc cmd outcome _ hI hOwn.1).trans ?_⟩
    simp [Discipline.Allows, hProc, Program.pending]
  · exact ⟨hIssues, hEnv move _ _ hI hMove⟩

end System

/-- One recorded step, with the shared state it found. -/
inductive Entry (ι Cmd ε σ Env : Type) where
  | call (caller : ι) (cmd : Cmd) (outcome : Outcome ε) (found : σ)
  | environment (event : Env) (found : σ)

def Entry.found : Entry ι Cmd ε σ Env → σ
  | .call _ _ _ found => found
  | .environment _ found => found

/-- A shared state with the steps that led to it, latest first. -/
structure Recorded (ι Cmd ε σ Env : Type) where
  state : σ
  history : List (Entry ι Cmd ε σ Env)

namespace System

def recorded (S : System ι Reply ε σ Env) : System ι Reply ε (Recorded ι Cmd ε σ Env) Env where
  perform proc cmd outcome s :=
    ((S.perform proc cmd outcome s.state).1,
      ⟨(S.perform proc cmd outcome s.state).2, .call proc cmd outcome s.state :: s.history⟩)
  environment move s :=
    (S.environment move s.state).map fun state => ⟨state, .environment move s.state :: s.history⟩

end System

def Recorded.own [DecidableEq ι] (s : Recorded ι Cmd ε σ Env) (proc : ι) :
    List (Cmd × Outcome ε × σ) :=
  s.history.filterMap fun
    | .call caller cmd outcome found => if caller = proc then some (cmd, outcome, found) else none
    | .environment _ _ => none

section Own

variable [DecidableEq ι] {S : System ι Reply ε σ Env} {s s' : Recorded ι Cmd ε σ Env} {proc : ι}

theorem own_perform (cmd : Cmd) (outcome : Outcome ε) :
    (S.recorded.perform proc cmd outcome s).2.own proc = (cmd, outcome, s.state) :: s.own proc := by
  simp [Recorded.own, System.recorded]

theorem own_perform_of_ne {other : ι} (h : other ≠ proc) (cmd : Cmd) (outcome : Outcome ε) :
    (S.recorded.perform proc cmd outcome s).2.own other = s.own other := by
  simp [Recorded.own, System.recorded, h.symm]

omit [DecidableEq ι] in
theorem environment_recorded {move : Env} (h : S.recorded.environment move s = some s') :
    S.environment move s.state = some s'.state := by
  obtain ⟨state, hState, rfl⟩ := Option.map_eq_some_iff.mp h
  exact hState

theorem own_environment {move : Env} (h : S.recorded.environment move s = some s') (proc : ι) :
    s'.own proc = s.own proc := by
  obtain ⟨state, -, rfl⟩ := Option.map_eq_some_iff.mp h
  rfl

end Own

end FastVoice.Async
