import Mathlib.Data.Finset.Card
import Mathlib.Logic.Function.Basic

/-! # Owners and what they list

A map from things to owners and, for each owner, the set of things it owns, kept by hand side by side.
-/
namespace FastVoice.Ownership

variable {ι κ : Type} [DecidableEq ι] [DecidableEq κ] {owner : κ → Option ι} {listed : ι → Finset κ}

def Mirrors (owner : κ → Option ι) (listed : ι → Finset κ) : Prop :=
  ∀ i x, x ∈ listed i ↔ owner x = some i

/-- The lists after a thing has been taken from its owner. -/
def unlist (owner : κ → Option ι) (listed : ι → Finset κ) (x : κ) : ι → Finset κ :=
  match owner x with
  | some i => Function.update listed i ((listed i).erase x)
  | none => listed

theorem unlist_of_owner {i : ι} {x : κ} (h : owner x = some i) :
    unlist owner listed x = Function.update listed i ((listed i).erase x) := by
  rw [unlist, h]

theorem unlist_of_none {x : κ} (h : owner x = none) : unlist owner listed x = listed := by
  rw [unlist, h]

theorem Mirrors.claim_iff (h : Mirrors owner listed) (i : ι) (x : κ) :
    Mirrors (Function.update owner x (some i)) (Function.update listed i (insert x (listed i))) ↔
      ∀ j, owner x = some j → j = i := by
  constructor
  · intro hAfter j hOwner
    by_contra hNe
    have hListed := hAfter j x
    rw [Function.update_of_ne hNe, Function.update_self, h j x] at hListed
    exact hNe (Option.some.inj (hListed.mp hOwner)).symm
  · intro hOwn j y
    rcases eq_or_ne j i with rfl | hNe
    · rw [Function.update_self, Finset.mem_insert, h j y]
      rcases eq_or_ne y x with rfl | hOther
      · simp
      · simp [hOther]
    · rw [Function.update_of_ne hNe, h j y]
      rcases eq_or_ne y x with rfl | hOther
      · rw [Function.update_self]
        constructor
        · exact fun hOwner => absurd (hOwn j hOwner) hNe
        · exact fun hSame => absurd (Option.some.inj hSame).symm hNe
      · rw [Function.update_of_ne hOther]

theorem Mirrors.forget (h : Mirrors owner listed) (x : κ) :
    Mirrors (Function.update owner x none) (unlist owner listed x) := by
  intro j y
  cases hOwner : owner x with
  | none =>
    rw [unlist_of_none hOwner]
    rcases eq_or_ne y x with rfl | hOther
    · simp [h j y, hOwner]
    · rw [Function.update_of_ne hOther]
      exact h j y
  | some i =>
    rw [unlist_of_owner hOwner]
    rcases eq_or_ne j i with rfl | hNe
    · rw [Function.update_self, Finset.mem_erase, h j y]
      rcases eq_or_ne y x with rfl | hOther
      · simp
      · simp [hOther]
    · rw [Function.update_of_ne hNe, h j y]
      rcases eq_or_ne y x with rfl | hOther
      · simp [hOwner, hNe.symm]
      · rw [Function.update_of_ne hOther]

theorem Mirrors.drop_iff (h : Mirrors owner listed) (i : ι) (x : κ) (hMem : x ∈ listed i) :
    Mirrors (Function.update owner x none) (Function.update listed i ∅) ↔ (listed i).card ≤ 1 := by
  rw [Finset.card_le_one]
  constructor
  · intro hAfter
    have hOnly : ∀ y ∈ listed i, y = x := by
      intro y hY
      by_contra hOther
      have hListed := hAfter i y
      rw [Function.update_self, Function.update_of_ne hOther, ← h i y] at hListed
      exact Finset.notMem_empty y (hListed.mpr hY)
    intro y hY z hZ
    rw [hOnly y hY, hOnly z hZ]
  · intro hOnly j y
    rcases eq_or_ne j i with rfl | hNe
    · rw [Function.update_self]
      rcases eq_or_ne y x with rfl | hOther
      · simp
      · rw [Function.update_of_ne hOther, ← h j y]
        have hNot : y ∉ listed j := fun hY => hOther (hOnly y hY x hMem)
        simp [hNot]
    · rw [Function.update_of_ne hNe, h j y]
      rcases eq_or_ne y x with rfl | hOther
      · simp [(h i y).mp hMem, hNe.symm]
      · rw [Function.update_of_ne hOther]

omit [DecidableEq κ] in
theorem Mirrors.drop_empty (h : Mirrors owner listed) (i : ι) (hNone : listed i = ∅) :
    Mirrors owner (Function.update listed i ∅) := by
  rw [← hNone, Function.update_eq_self]
  exact h

end FastVoice.Ownership
