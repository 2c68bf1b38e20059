import Mathlib.Logic.Basic

/-! # Coroutines that suspend at named commands

A program is the tree of everything one coroutine can do: it returns, it raises, or it awaits a
command and resumes with a reply or with an exception delivered at that await. Exceptions are
data of an arbitrary type, so a cancellation is one of them and a handler chooses what it catches.
-/
namespace FastVoice.Async

variable {Cmd : Type} {Reply : Cmd → Type} {ε α β : Type}

inductive Program (Reply : Cmd → Type) (ε α : Type) where
  | ret (value : α)
  | raise (error : ε)
  | await (cmd : Cmd) (resume : Except ε (Reply cmd) → Program Reply ε α)

namespace Program

def bind : Program Reply ε α → (α → Program Reply ε β) → Program Reply ε β
  | .ret value, next => next value
  | .raise error, _ => .raise error
  | .await cmd resume, next => .await cmd fun result => (resume result).bind next

def tryCatch : Program Reply ε α → (ε → Program Reply ε α) → Program Reply ε α
  | .ret value, _ => .ret value
  | .raise error, handler => handler error
  | .await cmd resume, handler => .await cmd fun result => (resume result).tryCatch handler

def proceed (next : β → Program Reply ε α) : Except ε β → Program Reply ε α
  | .ok value => next value
  | .error error => .raise error

instance : Monad (Program Reply ε) where
  pure := .ret
  bind := bind

/-- `await cmd` with nothing around it. -/
def call (cmd : Cmd) : Program Reply ε (Reply cmd) := .await cmd (proceed .ret)

/-- Run alone against a server, without a failure. -/
def eval {σ : Type} (execute : (cmd : Cmd) → σ → Reply cmd × σ) :
    Program Reply ε α → σ → Except ε α × σ
  | .ret value, s => (.ok value, s)
  | .raise error, s => (.error error, s)
  | .await cmd resume, s => (resume (.ok (execute cmd s).1)).eval execute (execute cmd s).2

def pending : Program Reply ε α → Option Cmd
  | .await cmd _ => some cmd
  | _ => none

def finished : Program Reply ε α → Bool
  | .await _ _ => false
  | _ => true

def result? : Program Reply ε α → Option (Except ε α)
  | .ret value => some (.ok value)
  | .raise error => some (.error error)
  | .await _ _ => none

theorem result_of_finished {program : Program Reply ε α} (h : program.finished = true) :
    ∃ result, program.result? = some result := by
  cases program with
  | ret value => exact ⟨_, rfl⟩
  | raise error => exact ⟨_, rfl⟩
  | await cmd resume => cases h

@[simp] theorem pure_eq (value : α) : (pure value : Program Reply ε α) = .ret value := rfl

@[simp] theorem ret_bind (value : α) (next : α → Program Reply ε β) :
    (Program.ret value >>= next : Program Reply ε β) = next value := rfl

@[simp] theorem raise_bind (error : ε) (next : α → Program Reply ε β) :
    (Program.raise error >>= next : Program Reply ε β) = .raise error := rfl

@[simp] theorem await_bind (cmd : Cmd) (resume : Except ε (Reply cmd) → Program Reply ε α)
    (next : α → Program Reply ε β) : (Program.await cmd resume >>= next : Program Reply ε β) =
      .await cmd fun result => resume result >>= next := rfl

@[simp] theorem proceed_ok (next : β → Program Reply ε α) (value : β) :
    proceed next (.ok value) = next value := rfl

@[simp] theorem proceed_error (next : β → Program Reply ε α) (error : ε) :
    proceed next (.error error) = (.raise error : Program Reply ε α) := rfl

@[simp] theorem call_bind (cmd : Cmd) (next : Reply cmd → Program Reply ε α) :
    (call cmd >>= next : Program Reply ε α) = .await cmd (proceed next) := by
  simp only [call, await_bind]
  congr 1
  funext result
  cases result <;> rfl

@[simp] theorem tryCatch_ret (value : α) (handler : ε → Program Reply ε α) :
    (Program.ret value).tryCatch handler = .ret value := rfl

@[simp] theorem tryCatch_raise (error : ε) (handler : ε → Program Reply ε α) :
    (Program.raise error).tryCatch handler = handler error := rfl

@[simp] theorem tryCatch_await (cmd : Cmd) (resume : Except ε (Reply cmd) → Program Reply ε α)
    (handler : ε → Program Reply ε α) : (Program.await cmd resume).tryCatch handler =
      .await cmd fun result => (resume result).tryCatch handler := rfl

section Eval

variable {σ : Type} {execute : (cmd : Cmd) → σ → Reply cmd × σ}

@[simp] theorem eval_ret (value : α) (s : σ) :
    (Program.ret value : Program Reply ε α).eval execute s = (.ok value, s) := rfl

@[simp] theorem eval_call (cmd : Cmd) (s : σ) : (call cmd : Program Reply ε (Reply cmd)).eval execute s =
      (.ok (execute cmd s).1, (execute cmd s).2) := rfl

@[simp] theorem eval_await (cmd : Cmd) (resume : Except ε (Reply cmd) → Program Reply ε α) (s : σ) :
    (Program.await cmd resume).eval execute s =
      (resume (.ok (execute cmd s).1)).eval execute (execute cmd s).2 := rfl

theorem eval_bind {program : Program Reply ε α} {next : α → Program Reply ε β} {s s' : σ} {value : α}
    (h : program.eval execute s = (.ok value, s')) :
    (program >>= next).eval execute s = (next value).eval execute s' := by
  induction program generalizing s with
  | ret other =>
    cases h
    rfl
  | raise error => cases h
  | await cmd resume ih => exact ih _ h

theorem eval_tryCatch {program : Program Reply ε α} {handler : ε → Program Reply ε α} {s s' : σ}
    {value : α} (h : program.eval execute s = (.ok value, s')) :
    (program.tryCatch handler).eval execute s = (.ok value, s') := by
  induction program generalizing s with
  | ret other => exact h
  | raise error => cases h
  | await cmd resume ih => exact ih _ h

def Smooth : Program Reply ε α → Prop
  | .ret _ => True
  | .raise _ => False
  | .await _ resume => ∀ value, (resume (.ok value)).Smooth

theorem smooth_call (cmd : Cmd) : (call cmd : Program Reply ε (Reply cmd)).Smooth := fun _ => trivial

theorem Smooth.bind {program : Program Reply ε α} {next : α → Program Reply ε β}
    (h : program.Smooth) (hNext : ∀ value, (next value).Smooth) : (program >>= next).Smooth := by
  induction program with
  | ret value => exact hNext value
  | raise error => exact h.elim
  | await cmd resume ih => exact fun value => ih _ (h value)

theorem Smooth.tryCatch {program : Program Reply ε α} {handler : ε → Program Reply ε α}
    (h : program.Smooth) : (program.tryCatch handler).Smooth := by
  induction program with
  | ret value => trivial
  | raise error => exact h.elim
  | await cmd resume ih => exact fun value => ih _ (h value)

theorem Smooth.eval {program : Program Reply ε α} (h : program.Smooth) (s : σ) :
    ∃ value, (program.eval execute s).1 = .ok value := by
  induction program generalizing s with
  | ret value => exact ⟨value, rfl⟩
  | raise error => exact h.elim
  | await cmd resume ih => exact ih _ (h _) _

end Eval

def Issues (P : Cmd → Prop) : Program Reply ε α → Prop
  | .ret _ => True
  | .raise _ => True
  | .await cmd resume => P cmd ∧ ∀ result, (resume result).Issues P

theorem Issues.mono {P Q : Cmd → Prop} {program : Program Reply ε α} (h : program.Issues P)
    (hPQ : ∀ cmd, P cmd → Q cmd) : program.Issues Q := by
  induction program with
  | ret value => trivial
  | raise error => trivial
  | await cmd resume ih => exact ⟨hPQ cmd h.1, fun result => ih result (h.2 result)⟩

theorem issues_call {P : Cmd → Prop} {cmd : Cmd} (h : P cmd) :
    (call cmd : Program Reply ε (Reply cmd)).Issues P := by
  refine ⟨h, fun result => ?_⟩
  cases result <;> trivial

theorem Issues.bind {P : Cmd → Prop} {program : Program Reply ε α}
    {next : α → Program Reply ε β} (h : program.Issues P) (hNext : ∀ value, (next value).Issues P) :
    (program >>= next).Issues P := by
  induction program with
  | ret value => exact hNext value
  | raise error => trivial
  | await cmd resume ih => exact ⟨h.1, fun result => ih result (h.2 result)⟩

theorem Issues.tryCatch {P : Cmd → Prop} {program : Program Reply ε α}
    {handler : ε → Program Reply ε α} (h : program.Issues P)
    (hHandler : ∀ error, (handler error).Issues P) : (program.tryCatch handler).Issues P := by
  induction program with
  | ret value => trivial
  | raise error => exact hHandler error
  | await cmd resume ih => exact ⟨h.1, fun result => ih result (h.2 result)⟩

def Raises (R : ε → Prop) : Program Reply ε α → Prop
  | .ret _ => True
  | .raise error => R error
  | .await _ resume => ∀ result, (resume result).Raises R

theorem Issues.eval {σ : Type} {execute : (cmd : Cmd) → σ → Reply cmd × σ} {P : Cmd → Prop}
    {I : σ → Prop} {program : Program Reply ε α} (h : program.Issues P)
    (hKeep : ∀ cmd s, P cmd → I s → I (execute cmd s).2) {s : σ} (hI : I s) :
    I (program.eval execute s).2 := by
  induction program generalizing s with
  | ret value => exact hI
  | raise error => exact hI
  | await cmd resume ih => exact ih _ (h.2 _) (hKeep cmd s h.1 hI)

/-- A program over some of the commands of a larger server. -/
def embed {Cmd' : Type} {Reply' : Cmd' → Type} (inject : Cmd → Cmd')
    (reply : ∀ cmd, Reply' (inject cmd) → Reply cmd) : Program Reply ε α → Program Reply' ε α
  | .ret value => .ret value
  | .raise error => .raise error
  | .await cmd resume =>
    .await (inject cmd) fun result => (resume (result.map (reply cmd))).embed inject reply

theorem embed_bind {Cmd' : Type} {Reply' : Cmd' → Type} {inject : Cmd → Cmd'}
    {reply : ∀ cmd, Reply' (inject cmd) → Reply cmd} (program : Program Reply ε α)
    (next : α → Program Reply ε β) : (program >>= next).embed inject reply =
      program.embed inject reply >>= fun value => (next value).embed inject reply := by
  induction program with
  | ret value => rfl
  | raise error => rfl
  | await cmd resume ih => exact congrArg (Program.await (inject cmd)) (funext fun result => ih _)

theorem embed_tryCatch {Cmd' : Type} {Reply' : Cmd' → Type} {inject : Cmd → Cmd'}
    {reply : ∀ cmd, Reply' (inject cmd) → Reply cmd} (program : Program Reply ε α)
    (handler : ε → Program Reply ε α) : (program.tryCatch handler).embed inject reply =
      (program.embed inject reply).tryCatch fun error => (handler error).embed inject reply := by
  induction program with
  | ret value => rfl
  | raise error => rfl
  | await cmd resume ih => exact congrArg (Program.await (inject cmd)) (funext fun result => ih _)

theorem embed_issues {Cmd' : Type} {Reply' : Cmd' → Type} {inject : Cmd → Cmd'}
    {reply : ∀ cmd, Reply' (inject cmd) → Reply cmd} {P : Cmd' → Prop} (h : ∀ cmd, P (inject cmd))
    (program : Program Reply ε α) : (program.embed inject reply).Issues P := by
  induction program with
  | ret value => trivial
  | raise error => trivial
  | await cmd resume ih => exact ⟨h cmd, fun result => ih (result.map (reply cmd))⟩

theorem Issues.embed {Cmd' : Type} {Reply' : Cmd' → Type} {inject : Cmd → Cmd'}
    {reply : ∀ cmd, Reply' (inject cmd) → Reply cmd} {P : Cmd' → Prop} {program : Program Reply ε α}
    (h : program.Issues fun cmd => P (inject cmd)) : (program.embed inject reply).Issues P := by
  induction program with
  | ret value => trivial
  | raise error => trivial
  | await cmd resume ih => exact ⟨h.1, fun result => ih (result.map (reply cmd)) (h.2 _)⟩

theorem eval_embed {Cmd' σ σ' : Type} {Reply' : Cmd' → Type} {inject : Cmd → Cmd'}
    {reply : ∀ cmd, Reply' (inject cmd) → Reply cmd} {execute : (cmd : Cmd) → σ → Reply cmd × σ}
    {execute' : (cmd : Cmd') → σ' → Reply' cmd × σ'} (get : σ' → σ) (set : σ → σ' → σ')
    (hGet : ∀ part s, get (set part s) = part) (hSelf : ∀ s, set (get s) s = s)
    (hSet : ∀ first second s, set second (set first s) = set second s)
    (hExecute : ∀ cmd s, reply cmd (execute' (inject cmd) s).1 = (execute cmd (get s)).1 ∧
      (execute' (inject cmd) s).2 = set (execute cmd (get s)).2 s) (program : Program Reply ε α) (s : σ') :
    (program.embed inject reply).eval execute' s =
      ((program.eval execute (get s)).1, set (program.eval execute (get s)).2 s) := by
  induction program generalizing s with
  | ret value => exact Prod.ext rfl (hSelf s).symm
  | raise error => exact Prod.ext rfl (hSelf s).symm
  | await cmd resume ih =>
    obtain ⟨hReply, hState⟩ := hExecute cmd s
    show ((resume (.ok (reply cmd (execute' (inject cmd) s).1))).embed inject reply).eval execute'
      (execute' (inject cmd) s).2 = _
    rw [ih, hState, hGet, hSet, hReply]
    rfl

/-- The exception, delivered at any await, ends the program at once. If the awaits raise no other
exceptions than those of `R`, neither does the program. -/
def Transparent (error : ε) (R : ε → Prop) : Program Reply ε α → Prop
  | .ret _ => True
  | .raise other => R other
  | .await _ resume => resume (.error error) = .raise error ∧
      ∀ result, (∀ other, result = .error other → R other) → (resume result).Transparent error R

section Transparent

variable {error : ε} {R : ε → Prop}

theorem transparent_call (cmd : Cmd) : (call cmd : Program Reply ε (Reply cmd)).Transparent error R := by
  refine ⟨rfl, fun result h => ?_⟩
  cases result with
  | ok value => trivial
  | error other => exact h other rfl

theorem Transparent.bind {program : Program Reply ε α} {next : α → Program Reply ε β}
    (h : program.Transparent error R) (hNext : ∀ value, (next value).Transparent error R) :
    (program >>= next).Transparent error R := by
  induction program with
  | ret value => exact hNext value
  | raise other => exact h
  | await cmd resume ih =>
    refine ⟨?_, fun result hResult => ih result (h.2 result hResult)⟩
    show (resume (.error error) >>= next) = _
    rw [h.1]
    rfl

theorem Transparent.tryCatch {program : Program Reply ε α} {handler : ε → Program Reply ε α}
    (h : program.Transparent error R) (hError : handler error = .raise error)
    (hHandler : ∀ other, R other → (handler other).Transparent error R) :
    (program.tryCatch handler).Transparent error R := by
  induction program with
  | ret value => trivial
  | raise other => exact hHandler other h
  | await cmd resume ih =>
    refine ⟨?_, fun result hResult => ih result (h.2 result hResult)⟩
    show (resume (.error error)).tryCatch handler = _
    rw [h.1]
    exact hError

theorem Transparent.embed {Cmd' : Type} {Reply' : Cmd' → Type} {inject : Cmd → Cmd'}
    {reply : ∀ cmd, Reply' (inject cmd) → Reply cmd} {program : Program Reply ε α}
    (h : program.Transparent error R) : (program.embed inject reply).Transparent error R := by
  induction program with
  | ret value => trivial
  | raise other => exact h
  | await cmd resume ih =>
    refine ⟨?_, fun result hResult => ih _ (h.2 _ ?_)⟩
    · show (resume (.error error)).embed inject reply = _
      rw [h.1]
      rfl
    · intro other hOther
      cases result with
      | ok value => cases hOther
      | error error => exact hResult other (congrArg Except.error (Except.error.inj hOther))

end Transparent

end Program

end FastVoice.Async
