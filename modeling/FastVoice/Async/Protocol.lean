import FastVoice.Async.System

/-! # Protocols with ghost states

A protocol annotates a coroutine with a ghost state that each await advances: it says which command
may come next and in which ghost states the coroutine may end. Obedience is proved along the syntax
of a program, by `bind` and `tryCatch`; an invariant over the shared state and the ghost states of
all coroutines then holds after every run.
-/
namespace FastVoice.Async

variable {ι Cmd : Type} {Reply : Cmd → Type} {ε α β σ Env θ : Type}

structure Protocol (Reply : Cmd → Type) (ε θ : Type) where
  permits : θ → Cmd → Prop
  next : θ → (cmd : Cmd) → Except ε (Reply cmd) → θ

namespace Program

variable (P : Protocol Reply ε θ)

/-- From this ghost state on the program issues what the protocol permits and ends in `post`. -/
def Obeys (post : Except ε α → θ → Prop) : Program Reply ε α → θ → Prop
  | .ret value, t => post (.ok value) t
  | .raise error, t => post (.error error) t
  | .await cmd resume, t => P.permits t cmd ∧
      ∀ result, (resume result).Obeys post (P.next t cmd result)

variable {P}

theorem obeys_call {cmd : Cmd} {post : Except ε (Reply cmd) → θ → Prop} {t : θ}
    (hPermits : P.permits t cmd) (hPost : ∀ result, post result (P.next t cmd result)) :
    (call cmd : Program Reply ε (Reply cmd)).Obeys P post t := by
  refine ⟨hPermits, fun result => ?_⟩
  cases result with
  | ok value => exact hPost (.ok value)
  | error error => exact hPost (.error error)

theorem obeys_call_bind {cmd : Cmd} {next : Reply cmd → Program Reply ε α}
    {post : Except ε α → θ → Prop} {t : θ} (hPermits : P.permits t cmd)
    (hNext : ∀ reply, (next reply).Obeys P post (P.next t cmd (.ok reply)))
    (hRaise : ∀ error, post (.error error) (P.next t cmd (.error error))) :
    (call cmd >>= next).Obeys P post t := by
  rw [call_bind]
  refine ⟨hPermits, fun result => ?_⟩
  cases result with
  | ok reply => exact hNext reply
  | error error => exact hRaise error

theorem Obeys.weaken {post post' : Except ε α → θ → Prop} {program : Program Reply ε α} {t : θ}
    (h : program.Obeys P post t) (hPost : ∀ result t, post result t → post' result t) :
    program.Obeys P post' t := by
  induction program generalizing t with
  | ret value => exact hPost _ t h
  | raise error => exact hPost _ t h
  | await cmd resume ih => exact ⟨h.1, fun result => ih result (h.2 result)⟩

theorem Obeys.bind {mid : Except ε α → θ → Prop} {post : Except ε β → θ → Prop}
    {program : Program Reply ε α} {next : α → Program Reply ε β} {t : θ}
    (h : program.Obeys P mid t) (hNext : ∀ value t, mid (.ok value) t → (next value).Obeys P post t)
    (hRaise : ∀ error t, mid (.error error) t → post (.error error) t) :
    (program >>= next).Obeys P post t := by
  induction program generalizing t with
  | ret value => exact hNext value t h
  | raise error => exact hRaise error t h
  | await cmd resume ih => exact ⟨h.1, fun result => ih result (h.2 result)⟩

theorem Obeys.tryCatch {mid post : Except ε α → θ → Prop} {program : Program Reply ε α}
    {handler : ε → Program Reply ε α} {t : θ} (h : program.Obeys P mid t)
    (hRet : ∀ value t, mid (.ok value) t → post (.ok value) t)
    (hHandler : ∀ error t, mid (.error error) t → (handler error).Obeys P post t) :
    (program.tryCatch handler).Obeys P post t := by
  induction program generalizing t with
  | ret value => exact hRet value t h
  | raise error => exact hHandler error t h
  | await cmd resume ih => exact ⟨h.1, fun result => ih result (h.2 result)⟩

theorem Issues.obeys {Q : Cmd → Prop} {T : θ → Prop} {program : Program Reply ε α} {t : θ}
    (h : program.Issues Q)
    (hStay : ∀ t cmd, T t → Q cmd → P.permits t cmd ∧ ∀ result, T (P.next t cmd result))
    (hT : T t) : program.Obeys P (fun _ t => T t) t := by
  induction program generalizing t with
  | ret value => exact hT
  | raise error => exact hT
  | await cmd resume ih =>
    obtain ⟨hPermits, hNext⟩ := hStay t cmd hT h.1
    exact ⟨hPermits, fun result => ih result (h.2 result) (hNext result)⟩

theorem Obeys.issues {Q : Cmd → Prop} {post : Except ε α → θ → Prop} {program : Program Reply ε α}
    {t : θ} (h : program.Obeys P post t) (hPermits : ∀ t cmd, P.permits t cmd → Q cmd) :
    program.Issues Q := by
  induction program generalizing t with
  | ret value => trivial
  | raise error => trivial
  | await cmd resume ih => exact ⟨hPermits t cmd h.1, fun result => ih result (h.2 result)⟩

theorem Transparent.obeys {Q : Cmd → Prop} {error : ε} {R : ε → Prop} {t t' void : θ}
    {program : Program Reply ε α} (h : program.Transparent error R) (hIssues : program.Issues Q)
    (hPermits : ∀ cmd, Q cmd → P.permits t cmd)
    (hStay : ∀ cmd result, Q cmd → (∀ other, result = .error other → R other) →
      P.next t cmd result = t ∨ P.next t cmd result = void)
    (hError : ∀ cmd, Q cmd → P.next t cmd (.error error) = t')
    (hOther : ∀ cmd other, Q cmd → other ≠ error → ¬R other → P.next t cmd (.error other) = void)
    (hVoid : ∀ cmd, P.permits void cmd ∧ ∀ result, P.next void cmd result = void) :
    program.Obeys P (fun result s => result = .error error ∧ s = t' ∨
      (∀ other, result = .error other → R other) ∧ s = t ∨ s = void) t := by
  have hAll : ∀ program : Program Reply ε α, program.Obeys P (fun result s =>
      result = .error error ∧ s = t' ∨ (∀ other, result = .error other → R other) ∧ s = t ∨
        s = void) void := by
    intro program
    induction program with
    | ret value => exact .inr (.inr rfl)
    | raise other => exact .inr (.inr rfl)
    | await cmd resume ih =>
      refine ⟨(hVoid cmd).1, fun result => ?_⟩
      rw [(hVoid cmd).2 result]
      exact ih result
  induction program with
  | ret value =>
    refine .inr (.inl ⟨?_, rfl⟩)
    rintro other ⟨⟩
  | raise other => exact .inr (.inl ⟨fun _ hEq => Except.error.inj hEq ▸ h, rfl⟩)
  | await cmd resume ih =>
    refine ⟨hPermits cmd hIssues.1, fun result => ?_⟩
    by_cases hResult : ∀ other, result = .error other → R other
    · obtain hSame | hGone := hStay cmd result hIssues.1 hResult
      · rw [hSame]
        exact ih result (h.2 result hResult) (hIssues.2 result)
      · rw [hGone]
        exact hAll _
    · simp only [not_forall] at hResult
      obtain ⟨other, rfl, hNot⟩ := hResult
      by_cases hEq : other = error
      · subst hEq
        rw [hError cmd hIssues.1, h.1]
        exact .inl ⟨rfl, rfl⟩
      · rw [hOther cmd other hIssues.1 hEq hNot]
        exact hAll _

theorem Obeys.embed {Cmd' : Type} {Reply' : Cmd' → Type} {inject : Cmd → Cmd'}
    {reply : ∀ cmd, Reply' (inject cmd) → Reply cmd} {P' : Protocol Reply' ε θ}
    {post : Except ε α → θ → Prop} {program : Program Reply ε α} {t : θ} (h : program.Obeys P post t)
    (hPermits : ∀ t cmd, P.permits t cmd → P'.permits t (inject cmd))
    (hNext : ∀ t cmd result, P'.next t (inject cmd) result = P.next t cmd (result.map (reply cmd))) :
    (program.embed inject reply).Obeys P' post t := by
  induction program generalizing t with
  | ret value => exact h
  | raise error => exact h
  | await cmd resume ih =>
    refine ⟨hPermits t cmd h.1, fun result => ?_⟩
    rw [hNext]
    exact ih _ (h.2 _)

theorem Obeys.result {post : Except ε α → θ → Prop} {program : Program Reply ε α} {t : θ}
    {result : Except ε α} (h : program.Obeys P post t) (hResult : program.result? = some result) :
    post result t := by
  cases program with
  | ret value => cases hResult; exact h
  | raise error => cases hResult; exact h
  | await cmd resume => cases hResult

end Program

namespace System

variable [DecidableEq ι]

theorem obeys_update {P : ι → Protocol Reply ε θ} {post : ι → Except ε α → θ → Prop}
    {procs : ι → Program Reply ε α} {t : ι → θ} {proc : ι} {next : Program Reply ε α} {tNext : θ}
    (h : ∀ proc, (procs proc).Obeys (P proc) (post proc) (t proc))
    (hNext : next.Obeys (P proc) (post proc) tNext) (other : ι) :
    (Function.update procs proc next other).Obeys (P other) (post other)
      (Function.update t proc tNext other) := by
  by_cases hOther : other = proc
  · subst hOther
    simp only [Function.update_self]
    exact hNext
  · simp only [Function.update_of_ne hOther]
    exact h other

/-- An invariant over the shared state and all ghost states, kept by every permitted command and by
every environment move, holds after every disciplined run of obedient programs. -/
theorem ghost_invariant {S : System ι Reply ε σ Env} {D : Discipline ι Reply ε σ Env}
    {P : ι → Protocol Reply ε θ} {J : σ → (ι → θ) → Prop} {post : ι → Except ε α → θ → Prop}
    (hCall : ∀ proc cmd outcome s t, J s t → (P proc).permits (t proc) cmd → D.call proc cmd outcome s →
      J (S.perform proc cmd outcome s).2
        (Function.update t proc ((P proc).next (t proc) cmd (S.perform proc cmd outcome s).1)))
    (hEnv : ∀ move s s' t, J s t → D.environment move s → S.environment move s = some s' → J s' t)
    {cfg last : Config ι Reply ε α σ} {events : List (Event ι ε Env)} {t : ι → θ}
    (hFollows : S.Follows D cfg events) (hRun : S.run cfg events = some last)
    (hObeys : ∀ proc, (cfg.procs proc).Obeys (P proc) (post proc) (t proc)) (hJ : J cfg.shared t) :
    ∃ t, J last.shared t ∧ ∀ proc, (last.procs proc).Obeys (P proc) (post proc) (t proc) := by
  refine run_induction (P := fun cfg => ∃ t, J cfg.shared t ∧
    ∀ proc, (cfg.procs proc).Obeys (P proc) (post proc) (t proc)) ?_ hFollows hRun ⟨t, hJ, hObeys⟩
  rintro cfg event next ⟨t, hJ, hObeys⟩ hAllows hStep
  obtain ⟨proc, outcome, cmd, resume, rfl, hProc, rfl⟩ | ⟨move, shared, rfl, hMove, rfl⟩ :=
    step_cases hStep
  · have hOwn := hObeys proc
    rw [hProc] at hOwn
    refine ⟨_, hCall proc cmd outcome _ t hJ hOwn.1 (hAllows cmd (by rw [hProc]; rfl)), ?_⟩
    exact obeys_update hObeys (hOwn.2 _)
  · exact ⟨t, hEnv move _ _ t hJ hAllows hMove, hObeys⟩

theorem ghost_throughout_iff {S : System ι Reply ε σ Env} {D : Discipline ι Reply ε σ Env}
    {P : ι → Protocol Reply ε θ} {I : σ → Prop} {J : σ → (ι → θ) → Prop} {post : ι → Except ε α → θ → Prop}
    (hCall : ∀ proc cmd outcome s t, J s t → I s → (P proc).permits (t proc) cmd →
      J (S.perform proc cmd outcome s).2
          (Function.update t proc ((P proc).next (t proc) cmd (S.perform proc cmd outcome s).1)) ∧
        (I (S.perform proc cmd outcome s).2 ↔ D.call proc cmd outcome s))
    (hEnv : ∀ move s s' t, J s t → I s → S.environment move s = some s' →
      J s' t ∧ (I s' ↔ D.environment move s))
    {cfg last : Config ι Reply ε α σ} {events : List (Event ι ε Env)} {t : ι → θ}
    (hRun : S.run cfg events = some last)
    (hObeys : ∀ proc, (cfg.procs proc).Obeys (P proc) (post proc) (t proc)) (hJ : J cfg.shared t)
    (h : I cfg.shared) :
    (∀ n mid, S.run cfg (events.take n) = some mid → I mid.shared) ↔ S.Follows D cfg events := by
  refine throughout_iff_of_step (K := fun cfg => ∃ t, J cfg.shared t ∧
    ∀ proc, (cfg.procs proc).Obeys (P proc) (post proc) (t proc)) ?_ hRun ⟨t, hJ, hObeys⟩ h
  rintro cfg event next ⟨t, hJ, hObeys⟩ hI hStep
  obtain ⟨proc, outcome, cmd, resume, rfl, hProc, rfl⟩ | ⟨move, shared, rfl, hMove, rfl⟩ :=
    step_cases hStep
  · have hOwn := hObeys proc
    rw [hProc] at hOwn
    obtain ⟨hJNext, hIff⟩ := hCall proc cmd outcome _ t hJ hI hOwn.1
    refine ⟨⟨_, hJNext, obeys_update hObeys (hOwn.2 _)⟩, hIff.trans ?_⟩
    simp [Discipline.Allows, hProc, Program.pending]
  · obtain ⟨hJNext, hIff⟩ := hEnv move _ _ t hJ hI hMove
    exact ⟨⟨t, hJNext, hObeys⟩, hIff⟩

def ghostAfter (S : System ι Reply ε σ Env) (P : Protocol Reply ε θ) (t : θ) (proc : ι) :
    List (Cmd × Outcome ε × σ) → θ
  | [] => t
  | (cmd, outcome, found) :: earlier =>
    P.next (ghostAfter S P t proc earlier) cmd (S.perform proc cmd outcome found).1

def ghosts (S : System ι Reply ε σ Env) (P : Protocol Reply ε θ) (t : θ)
    (s : Recorded ι Cmd ε σ Env) (proc : ι) : θ := S.ghostAfter P t proc (s.own proc)

section Ghosts

variable {S : System ι Reply ε σ Env} {P : Protocol Reply ε θ} {t : θ}

theorem ghosts_perform (proc : ι) (cmd : Cmd) (outcome : Outcome ε) (s : Recorded ι Cmd ε σ Env) :
    S.ghosts P t (S.recorded.perform proc cmd outcome s).2 = Function.update (S.ghosts P t s) proc
      (P.next (S.ghosts P t s proc) cmd (S.perform proc cmd outcome s.state).1) := by
  funext other
  by_cases hOther : other = proc
  · subst hOther
    rw [Function.update_self, ghosts, own_perform]
    rfl
  · rw [Function.update_of_ne hOther, ghosts, own_perform_of_ne hOther]
    rfl

theorem ghosts_environment {move : Env} {s s' : Recorded ι Cmd ε σ Env}
    (h : S.recorded.environment move s = some s') : S.ghosts P t s' = S.ghosts P t s := by
  funext proc
  rw [ghosts, own_environment h]
  rfl

theorem recorded_invariant {D : Discipline ι Reply ε (Recorded ι Cmd ε σ Env) Env}
    {I : Recorded ι Cmd ε σ Env → Prop} {post : ι → Except ε α → θ → Prop}
    (hCall : ∀ proc cmd outcome s, I s → P.permits (S.ghosts P t s proc) cmd →
      D.call proc cmd outcome s → I (S.recorded.perform proc cmd outcome s).2)
    (hEnv : ∀ move s s', I s → D.environment move s → S.recorded.environment move s = some s' → I s')
    {cfg last : Config ι Reply ε α (Recorded ι Cmd ε σ Env)} {events : List (Event ι ε Env)}
    (hFollows : S.recorded.Follows D cfg events) (hRun : S.recorded.run cfg events = some last)
    (hObeys : ∀ proc, (cfg.procs proc).Obeys P (post proc) t)
    (hFresh : cfg.shared.history = []) (hI : I cfg.shared) : I last.shared := by
  have hStart : (fun _ => t) = S.ghosts P t cfg.shared := by
    funext proc
    rw [ghosts, Recorded.own, hFresh]
    rfl
  have hLast : ∃ t', (t' = S.ghosts P t last.shared ∧ I last.shared) ∧
      ∀ proc, (last.procs proc).Obeys P (post proc) (t' proc) := by
    apply ghost_invariant (P := fun _ => P) (J := fun s t' => t' = S.ghosts P t s ∧ I s) ?_ ?_
      hFollows hRun hObeys ⟨hStart, hI⟩
    · rintro proc cmd outcome s _ ⟨rfl, hI⟩ hPermits hAllows
      exact ⟨(ghosts_perform proc cmd outcome s).symm, hCall proc cmd outcome s hI hPermits hAllows⟩
    · rintro move s s' _ ⟨rfl, hI⟩ hAllows hMove
      exact ⟨(ghosts_environment hMove).symm, hEnv move s s' hI hAllows hMove⟩
  obtain ⟨_, hLast, -⟩ := hLast
  exact hLast.2

end Ghosts

end System

end FastVoice.Async

/-! # Runs of one coroutine

What its awaits deliver, by their number and command. Which await is the next one depends on what the ones before
it delivered, so a condition on the deliveries is followed along the run.
-/
namespace FastVoice.Async

variable {Cmd : Type} {Reply : Cmd → Type} {ε α θ : Type}

abbrev Deliveries (Reply : Cmd → Type) (ε : Type) := Nat → (cmd : Cmd) → Except ε (Reply cmd)

def judging (P : Protocol Reply ε θ) (allows : θ → (cmd : Cmd) → Except ε (Reply cmd) → Prop) :
    Protocol Reply ε (θ × Prop) where
  permits s cmd := P.permits s.1 cmd
  next s cmd result := (P.next s.1 cmd result, s.2 ∧ allows s.1 cmd result)

namespace Program

variable (P : Protocol Reply ε θ) (deliver : Deliveries Reply ε)

def runFrom : Program Reply ε α → Nat → θ → Except ε α × θ
  | .ret value, _, t => (.ok value, t)
  | .raise error, _, t => (.error error, t)
  | .await cmd resume, n, t => (resume (deliver n cmd)).runFrom (n + 1) (P.next t cmd (deliver n cmd))

def Follows (allows : θ → (cmd : Cmd) → Except ε (Reply cmd) → Prop) : Program Reply ε α → Nat → θ → Prop
  | .ret _, _, _ => True
  | .raise _, _, _ => True
  | .await cmd resume, n, t => allows t cmd (deliver n cmd) ∧
      (resume (deliver n cmd)).Follows allows (n + 1) (P.next t cmd (deliver n cmd))

variable {P} {allows : θ → (cmd : Cmd) → Except ε (Reply cmd) → Prop}
  {post : Except ε α → θ × Prop → Prop}

theorem Obeys.runFrom {program : Program Reply ε α} {t : θ} {noted : Prop} (n : Nat)
    (h : program.Obeys (judging P allows) post (t, noted)) :
    ∃ judged, (judged ↔ noted ∧ program.Follows P deliver allows n t) ∧
      post (program.runFrom P deliver n t).1 ((program.runFrom P deliver n t).2, judged) := by
  induction program generalizing n t noted with
  | ret value => exact ⟨noted, (and_iff_left trivial).symm, h⟩
  | raise error => exact ⟨noted, (and_iff_left trivial).symm, h⟩
  | await cmd resume ih =>
    obtain ⟨judged, hJudged, hPost⟩ := ih (deliver n cmd) (n + 1) (h.2 (deliver n cmd))
    exact ⟨judged, hJudged.trans and_assoc, hPost⟩

end Program

end FastVoice.Async
