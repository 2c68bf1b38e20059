import Mathlib.Algebra.Order.Field.Rat
import FastVoice.Async.Protocol

/-! # What the Python runtime supplies

The clock, and the exception classes that the handlers of the call path tell apart.
`asyncio.CancelledError` is not an `Exception`, so an `except Exception` lets it through.
-/
namespace FastVoice

/-- A reading of `time.time()`: seconds since the epoch. -/
abbrev UnixTime := {t : ℚ // 0 < t}

theorem UnixTime.one_pos : (0 : ℚ) < 1 := by decide

theorem UnixTime.add_pos (time : UnixTime) (seconds : Nat) : 0 < time.val + seconds :=
  add_pos_of_pos_of_nonneg time.property (Nat.cast_nonneg seconds)

theorem neZero_two : NeZero 2 := ⟨by decide⟩

theorem neZero_four : NeZero 4 := ⟨by decide⟩

inductive Error where
  | cancelledError
  | callConcurrencyLimitError (organizationId : Nat) (source : String) (maxConcurrent : Nat)
  | workflowRunSlotAlreadyBoundError (workflowRunId : Nat)
  | concurrentSlotAcquisitionError (organizationId campaignId : Nat)
  | phoneNumberPoolExhaustedError (organizationId : Nat)
  | valueError (message : String)
  | timeoutError (message : String)
  | exception
  deriving DecidableEq

namespace Error

def isException : Error → Bool
  | .cancelledError => false
  | _ => true

@[simp] theorem isException_iff (error : Error) : error.isException = true ↔ error ≠ .cancelledError := by
  cases error <;> simp [isException]

end Error

section

open Async

variable {Cmd : Type} {Reply : Cmd → Type} {α θ : Type}

def orElse (program : Program Reply Error α) (fallback : α) : Program Reply Error α :=
  program.tryCatch fun error => if error.isException then .ret fallback else .raise error

theorem orElse_issues {P : Cmd → Prop} {program : Program Reply Error α} {fallback : α}
    (h : program.Issues P) : (orElse program fallback).Issues P := by
  refine h.tryCatch fun error => ?_
  split <;> trivial

theorem orElse_raises (program : Program Reply Error α) (fallback : α) :
    (orElse program fallback).Raises (· = .cancelledError) := by
  induction program with
  | ret value => trivial
  | raise error =>
    rw [orElse, Program.tryCatch_raise]
    split
    · trivial
    · rename_i hError
      exact not_not.mp fun hOther => hError (error.isException_iff.mpr hOther)
  | await cmd resume ih => exact fun result => ih result

theorem eval_orElse {σ : Type} (execute : (cmd : Cmd) → σ → Reply cmd × σ)
    (program : Program Reply Error α) (fallback : α) (s : σ) :
    ((orElse program fallback).eval execute s).2 = (program.eval execute s).2 := by
  induction program generalizing s with
  | ret value => rfl
  | raise error =>
    simp only [orElse, Program.tryCatch_raise]
    split <;> rfl
  | await cmd resume ih => exact ih _ _

theorem orElse_obeys {P : Protocol Reply Error θ} {post : Except Error α → θ → Prop}
    {program : Program Reply Error α} {fallback : α} {t : θ} (h : program.Obeys P post t)
    (hFallback : ∀ error t, post (.error error) t → post (.ok fallback) t) :
    (orElse program fallback).Obeys P post t := by
  refine h.tryCatch (fun _ _ hPost => hPost) fun error t hPost => ?_
  split
  · exact hFallback error t hPost
  · exact hPost

end

end FastVoice

/-! # Cleaning up behind a program -/
namespace FastVoice
open Async

variable {Cmd θ : Type} {Reply : Cmd → Type} {P : Protocol Reply Error θ} {S T : θ → Prop} {t : θ}

def andFinally (body last : Program Reply Error Unit) : Program Reply Error Unit := do
  body.tryCatch fun error => do
    last
    .raise error
  last

theorem andFinally_obeys {body last : Program Reply Error Unit} (hBody : body.Obeys P (fun _ t => S t) t)
    (hLast : ∀ t, S t → last.Obeys P (fun _ t => T t) t) :
    (andFinally body last).Obeys P (fun _ t => T t) t := by
  have hTry : (body.tryCatch fun error => do
      last
      .raise error).Obeys P (fun result t =>
        (∃ value, result = .ok value ∧ S t) ∨ (∃ error, result = .error error ∧ T t)) t := by
    refine Program.Obeys.tryCatch hBody (fun value t h => .inl ⟨value, rfl, h⟩) fun error t h => ?_
    exact Program.Obeys.bind (hLast t h) (fun _ t h => .inr ⟨error, rfl, h⟩)
      fun other t h => .inr ⟨other, rfl, h⟩
  refine hTry.bind ?_ ?_
  · rintro value t (⟨_, -, h⟩ | ⟨_, hError, -⟩)
    · exact hLast t h
    · cases hError
  · rintro error t (⟨_, hValue, -⟩ | ⟨_, -, h⟩)
    · cases hValue
    · exact h

end FastVoice
