import FastVoice.Async.Protocol

/-! # One coroutine among the others

What one coroutine ensures as long as the others keep to what it relies on. The proof follows the
syntax of its program, by `bind` and `tryCatch`, and holds of every run of the whole system.
-/
namespace FastVoice.Async

variable {ι Cmd : Type} {Reply : Cmd → Type} {ε α β σ Env : Type}

/-- A coroutine of a system, how its awaits may end, and what it relies on between them. -/
structure Party (ι : Type) (Reply : Cmd → Type) (ε σ Env : Type) where
  system : System ι Reply ε σ Env
  proc : ι
  allows : Cmd → Outcome ε → Prop
  relies : σ → σ → Prop
  refl : ∀ s, relies s s
  trans : ∀ {s s' s''}, relies s s' → relies s' s'' → relies s s''

def Party.discipline [DecidableEq ι] (P : Party ι Reply ε σ Env) : System.Discipline ι Reply ε σ Env where
  call proc cmd outcome s :=
    if proc = P.proc then P.allows cmd outcome
    else P.relies s (P.system.perform proc cmd outcome s).2
  environment move s := ∀ s', P.system.environment move s = some s' → P.relies s s'

theorem Party.discipline_own [DecidableEq ι] (P : Party ι Reply ε σ Env) {cmd : Cmd}
    {outcome : Outcome ε} {s : σ} : P.discipline.call P.proc cmd outcome s ↔ P.allows cmd outcome := by
  simp [discipline]

namespace Program

variable (P : Party ι Reply ε σ Env)

/-- From this state on, however the others interfere, the program ends in `post` if it ends. -/
def Ensures (post : Except ε α → σ → Prop) : Program Reply ε α → σ → Prop
  | .ret value, s => post (.ok value) s
  | .raise error, s => post (.error error) s
  | .await cmd resume, s => ∀ s', P.relies s s' → ∀ outcome, P.allows cmd outcome →
      (resume (P.system.perform P.proc cmd outcome s').1).Ensures post
        (P.system.perform P.proc cmd outcome s').2

variable {P}

theorem ensures_call {cmd : Cmd} {post : Except ε (Reply cmd) → σ → Prop} {s : σ}
    (h : ∀ s', P.relies s s' → ∀ outcome, P.allows cmd outcome →
      post (P.system.perform P.proc cmd outcome s').1 (P.system.perform P.proc cmd outcome s').2) :
    (call cmd : Program Reply ε (Reply cmd)).Ensures P post s := by
  intro s' hRelies outcome hAllows
  have hPost := h s' hRelies outcome hAllows
  cases hResult : (P.system.perform P.proc cmd outcome s').1 with
  | ok value =>
    rw [hResult] at hPost
    exact hPost
  | error error =>
    rw [hResult] at hPost
    exact hPost

theorem Ensures.weaken {post post' : Except ε α → σ → Prop} {program : Program Reply ε α} {s : σ}
    (h : program.Ensures P post s) (hPost : ∀ result s, post result s → post' result s) :
    program.Ensures P post' s := by
  induction program generalizing s with
  | ret value => exact hPost _ s h
  | raise error => exact hPost _ s h
  | await cmd resume ih =>
    intro s' hRelies outcome hAllows
    exact ih _ (h s' hRelies outcome hAllows)

theorem Ensures.bind {mid : Except ε α → σ → Prop} {post : Except ε β → σ → Prop}
    {program : Program Reply ε α} {next : α → Program Reply ε β} {s : σ}
    (h : program.Ensures P mid s) (hNext : ∀ value s, mid (.ok value) s → (next value).Ensures P post s)
    (hRaise : ∀ error s, mid (.error error) s → post (.error error) s) :
    (program >>= next).Ensures P post s := by
  induction program generalizing s with
  | ret value => exact hNext value s h
  | raise error => exact hRaise error s h
  | await cmd resume ih =>
    intro s' hRelies outcome hAllows
    exact ih _ (h s' hRelies outcome hAllows)

theorem Ensures.tryCatch {mid post : Except ε α → σ → Prop} {program : Program Reply ε α}
    {handler : ε → Program Reply ε α} {s : σ} (h : program.Ensures P mid s)
    (hRet : ∀ value s, mid (.ok value) s → post (.ok value) s)
    (hHandler : ∀ error s, mid (.error error) s → (handler error).Ensures P post s) :
    (program.tryCatch handler).Ensures P post s := by
  induction program generalizing s with
  | ret value => exact hRet value s h
  | raise error => exact hHandler error s h
  | await cmd resume ih =>
    intro s' hRelies outcome hAllows
    exact ih _ (h s' hRelies outcome hAllows)

theorem Ensures.raises {post : Except ε α → σ → Prop} {R : ε → Prop} {program : Program Reply ε α}
    {s : σ} (h : program.Ensures P post s) (hRaises : program.Raises R) :
    program.Ensures P (fun result s => post result s ∧ ∀ error, result = .error error → R error) s := by
  induction program generalizing s with
  | ret value => exact ⟨h, fun _ => nofun⟩
  | raise error => exact ⟨h, fun _ hEq => Except.error.inj hEq ▸ hRaises⟩
  | await cmd resume ih =>
    intro s' hRelies outcome hAllows
    exact ih _ (h s' hRelies outcome hAllows) (hRaises _)

theorem ensures_invariant {I : σ → Prop} {s : σ} (program : Program Reply ε α)
    (hStable : ∀ s s', I s → P.relies s s' → I s')
    (hKeep : ∀ cmd outcome s, I s → I (P.system.perform P.proc cmd outcome s).2) (hI : I s) :
    program.Ensures P (fun _ s => I s) s := by
  induction program generalizing s with
  | ret value => exact hI
  | raise error => exact hI
  | await cmd resume ih =>
    intro s' hRelies outcome _
    exact ih _ (hKeep cmd outcome s' (hStable s s' hI hRelies))

theorem Transparent.ensures {error : ε} {Q : Cmd → Prop} {I L : σ → Prop}
    {program : Program Reply ε α} {s : σ} (h : program.Transparent error (· ≠ error))
    (hIssues : program.Issues Q) (hStable : ∀ s s', I s → P.relies s s' → I s')
    (hRaised : ∀ cmd outcome s other,
      (P.system.perform P.proc cmd outcome s).1 = .error other ↔ outcome.raised = some other)
    (hKeep : ∀ cmd outcome s, Q cmd → I s → outcome.raised ≠ some error →
      I (P.system.perform P.proc cmd outcome s).2)
    (hLost : ∀ cmd outcome s, Q cmd → I s → outcome.raised = some error →
      L (P.system.perform P.proc cmd outcome s).2) (hI : I s) : program.Ensures P (fun result s =>
      result = .error error ∧ L s ∨ result ≠ .error error ∧ I s) s := by
  induction program generalizing s with
  | ret value => exact .inr ⟨by simp, hI⟩
  | raise other => exact .inr ⟨fun hEq => h (Except.error.inj hEq), hI⟩
  | await cmd resume ih =>
    intro s' hRelies outcome _
    have hBefore := hStable s s' hI hRelies
    by_cases hError : outcome.raised = some error
    · rw [(hRaised cmd outcome s' error).mpr hError, h.1]
      exact .inl ⟨rfl, hLost cmd outcome s' hIssues.1 hBefore hError⟩
    · have hOther : ∀ other, (P.system.perform P.proc cmd outcome s').1 = .error other →
          other ≠ error := by
        rintro other hResult rfl
        exact hError ((hRaised cmd outcome s' other).mp hResult)
      exact ih _ (h.2 _ hOther) (hIssues.2 _) (hKeep cmd outcome s' hIssues.1 hBefore hError)

end Program

namespace Party

variable [DecidableEq ι] {P : Party ι Reply ε σ Env}

theorem run_ensures {post : Except ε α → σ → Prop}
    (hStable : ∀ result s s', post result s → P.relies s s' → post result s')
    {cfg last : Config ι Reply ε α σ} {events : List (Event ι ε Env)}
    (hFollows : P.system.Follows P.discipline cfg events) (hRun : P.system.run cfg events = some last)
    (h : (cfg.procs P.proc).Ensures P post cfg.shared) {result : Except ε α}
    (hResult : (last.procs P.proc).result? = some result) : post result last.shared := by
  have hEnsures := System.run_induction
    (P := fun cfg => ∃ s, P.relies s cfg.shared ∧ (cfg.procs P.proc).Ensures P post s)
    (S := P.system) (D := P.discipline) ?_ hFollows hRun ⟨_, P.refl _, h⟩
  · obtain ⟨s, hRelies, hEnds⟩ := hEnsures
    cases hProgram : last.procs P.proc with
    | ret value =>
      rw [hProgram] at hEnds hResult
      cases hResult
      exact hStable _ s _ hEnds hRelies
    | raise error =>
      rw [hProgram] at hEnds hResult
      cases hResult
      exact hStable _ s _ hEnds hRelies
    | await cmd resume =>
      rw [hProgram] at hResult
      cases hResult
  · rintro cfg event next ⟨s, hRelies, hEnds⟩ hAllows hStep
    obtain ⟨proc, outcome, cmd, resume, rfl, hProc, rfl⟩ | ⟨move, shared, rfl, hMove, rfl⟩ :=
      System.step_cases hStep
    · have hCall := hAllows cmd (by rw [hProc]; rfl)
      by_cases hOwn : proc = P.proc
      · subst hOwn
        rw [hProc] at hEnds
        refine ⟨_, P.refl _, ?_⟩
        simp only [Function.update_self]
        exact hEnds cfg.shared hRelies outcome (P.discipline_own.mp hCall)
      · refine ⟨s, P.trans hRelies ?_, ?_⟩
        · exact (if_neg hOwn).mp hCall
        · simp only [Function.update_of_ne (Ne.symm hOwn)]
          exact hEnds
    · exact ⟨s, P.trans hRelies (hAllows shared hMove), hEnds⟩

end Party

end FastVoice.Async
