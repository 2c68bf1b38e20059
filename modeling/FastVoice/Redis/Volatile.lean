import Mathlib.Algebra.Order.Ring.Rat
import Mathlib.Logic.Function.Basic
import Mathlib.Order.Defs.LinearOrder

/-! # String keys that expire

`SETEX`, `GET` and `DEL`. A key is found until the clock reaches its deadline.
-/
namespace FastVoice.Redis

structure Expiring (κ ν : Type) where
  clock : ℚ
  entries : κ → Option (ν × ℚ)

namespace Expiring

variable {κ ν : Type} [DecidableEq κ] (s : Expiring κ ν)

def setex (key : κ) (ttl : Int) (value : ν) : Option (Expiring κ ν) :=
  if 0 < ttl then some { s with entries := Function.update s.entries key (some (value, s.clock + ttl)) } else none

def get (key : κ) : Option ν :=
  (s.entries key).bind fun entry => if s.clock < entry.2 then some entry.1 else none

def delete (key : κ) : Expiring κ ν := { s with entries := Function.update s.entries key none }

variable {s} {key other : κ} {value : ν}

omit [DecidableEq κ] in
theorem get_eq_some_iff : s.get key = some value ↔
    ∃ deadline, s.entries key = some (value, deadline) ∧ s.clock < deadline := by
  unfold get
  cases hEntry : s.entries key with
  | none => simp
  | some entry =>
    obtain ⟨found, deadline⟩ := entry
    simp only [Option.bind_some, Option.some.injEq, Prod.mk.injEq]
    constructor
    · intro h
      split at h
      · rename_i hLive
        exact ⟨deadline, ⟨Option.some.inj h, rfl⟩, hLive⟩
      · cases h
    · rintro ⟨_, ⟨rfl, rfl⟩, hLive⟩
      exact if_pos hLive

end Expiring

end FastVoice.Redis

/-! # Keys with a time to live

A key that does not exist is read as the default value. Deleting the last element of a collection
deletes its key, and with the key the deadline; an expired key is purged when the clock passes its
deadline, which no command can tell from a purge at the next access.
-/
namespace FastVoice.Redis

structure Volatile (α τ : Type) where
  value : α
  deadline : Option τ

namespace Volatile

variable {α τ : Type} [Inhabited α]

instance : Inhabited (Volatile α τ) := ⟨⟨default, none⟩⟩

def put [DecidableEq α] (key : Volatile α τ) (value : α) : Volatile α τ :=
  if value = default then default else ⟨value, key.deadline⟩

def expire [DecidableEq α] (key : Volatile α τ) (deadline : τ) : Volatile α τ :=
  if key.value = default then key else ⟨key.value, some deadline⟩

def purge [LT τ] [DecidableLT τ] (key : Volatile α τ) (now : τ) : Volatile α τ :=
  if ∃ deadline ∈ key.deadline, deadline < now then default else key

@[simp] theorem value_default : (default : Volatile α τ).value = default := rfl

@[simp] theorem deadline_default : (default : Volatile α τ).deadline = none := rfl

section Writes

variable [DecidableEq α]

@[simp] theorem value_put (key : Volatile α τ) (value : α) : (key.put value).value = value := by
  unfold put
  split
  · rename_i h
    exact h.symm
  · rfl

@[simp] theorem value_expire (key : Volatile α τ) (deadline : τ) :
    (key.expire deadline).value = key.value := by
  unfold expire
  split <;> rfl

theorem deadline_expire (key : Volatile α τ) (deadline : τ) (h : key.value ≠ default) :
    (key.expire deadline).deadline = some deadline := by
  rw [expire, if_neg h]

theorem deadline_put (key : Volatile α τ) (value : α) (h : value ≠ default) :
    (key.put value).deadline = key.deadline := by
  rw [put, if_neg h]

end Writes

section Purging

variable [LT τ] [DecidableLT τ]

theorem purge_eq_or (key : Volatile α τ) (now : τ) : key.purge now = key ∨ key.purge now = default := by
  unfold purge
  split
  · exact .inr rfl
  · exact .inl rfl

theorem purge_of_alive {key : Volatile α τ} {now : τ}
    (h : ∀ deadline ∈ key.deadline, ¬deadline < now) : key.purge now = key := by
  unfold purge
  rw [if_neg]
  rintro ⟨deadline, hMem, hLt⟩
  exact h deadline hMem hLt

end Purging

end Volatile

end FastVoice.Redis
