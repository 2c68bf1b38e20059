import Mathlib.Data.List.AList

/-! # Dictionaries

A `dict` as an association list without repeated keys. `dict(zip(keys, values))` keeps the last
value of a key that occurs twice.
-/
namespace FastVoice

abbrev Dict (κ ν : Type) := AList fun _ : κ => ν

namespace Dict

variable {κ ν ν' : Type}

section

variable [DecidableEq κ]

instance [DecidableEq ν] : DecidableEq (Dict κ ν) := fun d e =>
  decidable_of_iff (d.entries = e.entries) AList.ext_iff.symm

def extend (d : Dict κ ν) (pairs : List (κ × ν)) : Dict κ ν :=
  pairs.foldl (fun d pair => d.insert pair.1 pair.2) d

def ofPairs (pairs : List (κ × ν)) : Dict κ ν := extend ∅ pairs

def pop (d : Dict κ ν) (key : κ) (fallback : ν) : ν × Dict κ ν :=
  ((d.lookup key).getD fallback, d.erase key)

def update (d new : Dict κ ν) : Dict κ ν := new ∪ d

@[simp] theorem lookup_update (d new : Dict κ ν) (key : κ) :
    (d.update new).lookup key = (new.lookup key).or (d.lookup key) := by
  cases hNew : new.lookup key with
  | none => rw [update, AList.lookup_union_right (AList.lookup_eq_none.mp hNew), Option.none_or]
  | some value =>
    have hMem : key ∈ new := AList.lookup_isSome.mp (by rw [hNew]; rfl)
    rw [update, AList.lookup_union_left hMem, hNew, Option.some_or]

def filterKeys (keep : κ → Bool) (d : Dict κ ν) : Dict κ ν :=
  ⟨d.entries.filter fun entry => keep entry.1, d.nodupKeys.sublist List.filter_sublist⟩

@[simp] theorem lookup_filterKeys (keep : κ → Bool) (d : Dict κ ν) (key : κ) :
    (d.filterKeys keep).lookup key = if keep key then d.lookup key else none := by
  obtain ⟨entries, hNodup⟩ := d
  simp only [filterKeys, AList.lookup]
  clear hNodup
  induction entries with
  | nil => simp
  | cons entry entries ih =>
    obtain ⟨name, value⟩ := entry
    by_cases hKey : key = name
    · subst hKey
      cases hKeep : keep key with
      | true => simp [hKeep]
      | false => simpa [hKeep] using ih
    · rw [List.dlookup_cons_ne _ _ hKey, ← ih, List.filter_cons]
      split
      · rw [List.dlookup_cons_ne _ _ hKey]
      · rfl

theorem lookup_insert_if (d : Dict κ ν) (name key : κ) (value : ν) :
    (AList.insert name value d).lookup key = if key = name then some value else d.lookup key := by
  split
  case isTrue hSame => rw [hSame, AList.lookup_insert]
  case isFalse hOther => exact AList.lookup_insert_ne hOther

def lastIdxOf (key : κ) : List κ → Nat
  | [] => 0
  | _ :: keys => if key ∈ keys then lastIdxOf key keys + 1 else 0

theorem lookup_extend (keys : List κ) (values : List ν) (d : Dict κ ν) (key : κ) (fallback : ν)
    (h : keys.length ≤ values.length) : (extend d (keys.zip values)).lookup key =
      if key ∈ keys then some (values.getD (lastIdxOf key keys) fallback) else d.lookup key := by
  induction keys generalizing values d with
  | nil => simp [extend]
  | cons first keys ih =>
    cases values with
    | nil => simp at h
    | cons value values =>
      have hRest := ih values (d.insert first value) (by simpa using h)
      have hStep : (extend d ((first :: keys).zip (value :: values))).lookup key =
          (extend (d.insert first value) (keys.zip values)).lookup key := rfl
      rw [hStep, hRest]
      by_cases hLater : key ∈ keys
      · simp [hLater, lastIdxOf]
      · rw [if_neg hLater]
        by_cases hFirst : key = first
        · subst hFirst
          simp [lastIdxOf, hLater]
        · rw [AList.lookup_insert_ne hFirst, if_neg (by simp [hFirst, hLater])]

theorem lookup_extend_of_forall_ne {pairs : List (κ × ν)} {key : κ} (h : ∀ pair ∈ pairs, key ≠ pair.1)
    (d : Dict κ ν) : (d.extend pairs).lookup key = d.lookup key := by
  induction pairs generalizing d with
  | nil => rfl
  | cons pair pairs ih =>
    have hRest := ih (fun other hOther => h other (List.mem_cons_of_mem _ hOther)) (d.insert pair.1 pair.2)
    exact hRest.trans (AList.lookup_insert_ne (h pair List.mem_cons_self))

theorem lookup_ofPairs (keys : List κ) (values : List ν) (key : κ) (fallback : ν)
    (h : keys.length ≤ values.length) : (ofPairs (keys.zip values)).lookup key =
      if key ∈ keys then some (values.getD (lastIdxOf key keys) fallback) else none := by
  rw [ofPairs, lookup_extend keys values ∅ key fallback h]
  rfl

theorem lastIdxOf_eq_idxOf (key : κ) (keys : List κ) (h : keys.count key = 1) :
    lastIdxOf key keys = keys.idxOf key := by
  induction keys with
  | nil => simp at h
  | cons first keys ih =>
    by_cases hFirst : first = key
    · subst hFirst
      have hLater : first ∉ keys := by
        rw [← List.count_eq_zero]
        simpa using h
      simp [lastIdxOf, hLater]
    · have hCount : keys.count key = 1 := by simpa [List.count_cons, hFirst] using h
      have hLater : key ∈ keys := List.count_pos_iff.mp (by omega)
      rw [lastIdxOf, if_pos hLater, ih hCount, List.idxOf_cons_ne _ hFirst]

end

def mapValues (f : ν → ν') (d : Dict κ ν) : Dict κ ν' :=
  ⟨d.entries.map (.map id fun _ => f), d.nodupKeys.map₂ fun _ => f⟩

theorem lookup_mapValues [DecidableEq κ] (f : ν → ν') (d : Dict κ ν) (key : κ) :
    (d.mapValues f).lookup key = (d.lookup key).map f := by
  exact List.dlookup_map₂ key

end Dict

end FastVoice
