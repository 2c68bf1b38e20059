import Mathlib.Data.List.Nodup
import Mathlib.Data.List.Perm.Basic
import Mathlib.Algebra.BigOperators.Group.Finset.Piecewise
import Mathlib.Algebra.GroupWithZero.Nat
import Mathlib.Data.List.Basic

/-! # The newest of the answers

Answers are numbered by the order in which they were asked for, and kept in the order in which they came,
latest first. The newest answer to a question is the one that was asked for last.
-/
namespace FastVoice.Newest

variable {α ν : Type} {read : α → Option ν} {answers : List (Nat × α)} {number own : Nat} {answer : α}
  {value : ν}

/-- This answers the question, and no answer to it was asked for later. -/
def IsNewest (read : α → Option ν) (answers : List (Nat × α)) (number : Nat) (value : ν) : Prop :=
  (∃ answer, (number, answer) ∈ answers ∧ read answer = some value) ∧
    ∀ other ∈ answers, (read other.2).isSome = true → other.1 ≤ number

theorem not_isNewest_nil : ¬IsNewest read [] number value := by
  rintro ⟨⟨answer, hAnswer, -⟩, -⟩
  cases hAnswer

theorem isNewest_cons_of_none (hRead : read answer = none) :
    IsNewest read ((own, answer) :: answers) number value ↔ IsNewest read answers number value := by
  constructor
  · rintro ⟨⟨found, hFound, hValue⟩, hLast⟩
    obtain hFirst | hRest := List.mem_cons.mp hFound
    · cases hFirst
      rw [hRead] at hValue
      cases hValue
    · exact ⟨⟨found, hRest, hValue⟩, fun other hOther => hLast other (List.mem_cons_of_mem _ hOther)⟩
  · rintro ⟨⟨found, hFound, hValue⟩, hLast⟩
    refine ⟨⟨found, List.mem_cons_of_mem _ hFound, hValue⟩, ?_⟩
    rintro other hOther hSome
    obtain rfl | hRest := List.mem_cons.mp hOther
    · rw [hRead] at hSome
      cases hSome
    · exact hLast other hRest hSome

theorem isNewest_cons_of_some {first : ν} (hRead : read answer = some first)
    (hNew : own ∉ answers.map Prod.fst) : IsNewest read ((own, answer) :: answers) number value ↔
      number = own ∧ value = first ∧ (∀ other ∈ answers, (read other.2).isSome = true → other.1 ≤ own) ∨
        own < number ∧ IsNewest read answers number value := by
  constructor
  · rintro ⟨⟨found, hFound, hValue⟩, hLast⟩
    obtain hFirst | hRest := List.mem_cons.mp hFound
    · cases hFirst
      rw [hRead] at hValue
      exact .inl ⟨rfl, (Option.some.inj hValue).symm,
        fun other hOther => hLast other (List.mem_cons_of_mem _ hOther)⟩
    · have hLe : own ≤ number := hLast (own, answer) List.mem_cons_self (by rw [hRead]; rfl)
      have hNe : own ≠ number := by
        rintro rfl
        exact hNew (List.mem_map.mpr ⟨(own, found), hRest, rfl⟩)
      exact .inr ⟨by omega, ⟨found, hRest, hValue⟩,
        fun other hOther => hLast other (List.mem_cons_of_mem _ hOther)⟩
  · rintro (⟨rfl, rfl, hLast⟩ | ⟨hLater, ⟨found, hFound, hValue⟩, hLast⟩)
    · refine ⟨⟨answer, List.mem_cons_self, hRead⟩, ?_⟩
      intro other hOther hSome
      obtain rfl | hRest := List.mem_cons.mp hOther
      · exact Nat.le_refl _
      · exact hLast other hRest hSome
    · refine ⟨⟨found, List.mem_cons_of_mem _ hFound, hValue⟩, ?_⟩
      intro other hOther hSome
      obtain rfl | hRest := List.mem_cons.mp hOther
      · exact Nat.le_of_lt hLater
      · exact hLast other hRest hSome

end FastVoice.Newest

/-! # The first answer in a set

A loop over a set asks each element and stops at the first one that answers. What it returns depends on the
order of the loop, unless all that answer give the same answer.
-/
namespace FastVoice.FirstFound

variable {α β : Type} {answer : α → Option β} {fallback : β} {l l' : List α}

def Agree (answer : α → Option β) (l : List α) : Prop :=
  ∀ a ∈ l, ∀ b ∈ l, ∀ x ∈ answer a, ∀ y ∈ answer b, x = y

theorem findSome?_of_agree (h : Agree answer l) {a : α} {x : β} (hMem : a ∈ l) (hAnswer : answer a = some x) :
    l.findSome? answer = some x := by
  cases hFound : l.findSome? answer with
  | none => exact absurd (List.findSome?_eq_none_iff.mp hFound a hMem) (by simp [hAnswer])
  | some y =>
    obtain ⟨b, hb, hy⟩ := List.exists_of_findSome?_eq_some hFound
    rw [h b hb a hMem y hy x hAnswer]

theorem Agree.perm (h : Agree answer l) (hPerm : l'.Perm l) : Agree answer l' :=
  fun a ha b hb => h a (hPerm.mem_iff.mp ha) b (hPerm.mem_iff.mp hb)

theorem findSome?_perm (h : Agree answer l) (hPerm : l'.Perm l) :
    l'.findSome? answer = l.findSome? answer := by
  cases hFound : l.findSome? answer with
  | none =>
    rw [List.findSome?_eq_none_iff] at hFound ⊢
    exact fun a ha => hFound a (hPerm.mem_iff.mp ha)
  | some x =>
    obtain ⟨a, ha, hx⟩ := List.exists_of_findSome?_eq_some hFound
    exact findSome?_of_agree (h.perm hPerm) (hPerm.mem_iff.mpr ha) hx

theorem exists_perm_first {a : α} {x : β} (hMem : a ∈ l) (hAnswer : answer a = some x) :
    ∃ first : List α, first.Perm l ∧ first.findSome? answer = some x := by
  obtain ⟨before, after, rfl⟩ := List.append_of_mem hMem
  refine ⟨a :: (before ++ after), List.perm_middle.symm, ?_⟩
  rw [List.findSome?_cons, hAnswer]

variable (fallback) in
theorem sameInEachOrder_iff : (∀ first second : List α, first.Perm l → second.Perm l →
      (first.findSome? answer).getD fallback = (second.findSome? answer).getD fallback) ↔ Agree answer l := by
  constructor
  · intro h a ha b hb x hx y hy
    obtain ⟨first, hFirst, hx⟩ := exists_perm_first ha hx
    obtain ⟨second, hSecond, hy⟩ := exists_perm_first hb hy
    have hSame := h first second hFirst hSecond
    rwa [hx, hy] at hSame
  · intro h first second hFirst hSecond
    rw [findSome?_perm h hFirst, findSome?_perm h hSecond]

end FastVoice.FirstFound

/-! # Entries grouped by a key

A list of entries, each under a key, and what stands under one of them.
-/
namespace FastVoice.Grouping

variable {α κ : Type} [DecidableEq κ]

def entriesOf (key : κ) (entries : List (α × κ)) : List α :=
  (entries.filter (·.2 = key)).map (·.1)

@[simp] theorem entriesOf_nil (key : κ) : entriesOf key ([] : List (α × κ)) = [] := rfl

theorem entriesOf_cons (key : κ) (entry : α × κ) (entries : List (α × κ)) : entriesOf key (entry :: entries) =
      if entry.2 = key then entry.1 :: entriesOf key entries else entriesOf key entries := by
  by_cases h : entry.2 = key
  · simp [entriesOf, h]
  · simp [entriesOf, h]

@[simp] theorem entriesOf_concat (key : κ) (entries : List (α × κ)) (value : α) :
    entriesOf key (entries ++ [(value, key)]) = entriesOf key entries ++ [value] := by
  simp [entriesOf]

theorem entriesOf_concat_ne {key other : κ} (h : other ≠ key) (entries : List (α × κ)) (value : α) :
    entriesOf other (entries ++ [(value, key)]) = entriesOf other entries := by
  simp [entriesOf, Ne.symm h]

theorem mem_entriesOf {key : κ} {entries : List (α × κ)} {value : α} :
    value ∈ entriesOf key entries ↔ (value, key) ∈ entries := by
  simp [entriesOf]

theorem sum_entriesOf (weight : α → Nat) {keys : List κ} (hNodup : keys.Nodup)
    {entries : List (α × κ)} (hCovered : ∀ entry ∈ entries, entry.2 ∈ keys) :
    (keys.map fun key => ((entriesOf key entries).map weight).sum).sum =
      (entries.map fun entry => weight entry.1).sum := by
  induction entries with
  | nil => simp
  | cons entry entries ih =>
    obtain ⟨hKey, hRest⟩ := List.forall_mem_cons.mp hCovered
    have hSplit : ∀ key, ((entriesOf key (entry :: entries)).map weight).sum =
        (if key = entry.2 then weight entry.1 else 0) + ((entriesOf key entries).map weight).sum := by
      intro key
      simp only [entriesOf_cons, eq_comm]
      split <;> simp
    have hOnce : (keys.map fun key => if key = entry.2 then weight entry.1 else 0).sum =
        weight entry.1 := by
      rw [← List.sum_toFinset _ hNodup, Finset.sum_ite_eq', if_pos (List.mem_toFinset.mpr hKey)]
    simp only [hSplit, List.sum_map_add, hOnce, ih hRest, List.map_cons, List.sum_cons]

section ByRank

variable {α : Type} {rank : α → Nat} {ranks : List Nat} {items : List α}

def byRank (rank : α → Nat) (ranks : List Nat) (items : List α) : List α :=
  ranks.flatMap fun k => items.filter fun item => rank item = k

theorem byRank_perm (hRanks : ranks.Nodup) (hAll : ∀ item ∈ items, rank item ∈ ranks) :
    (byRank rank ranks items).Perm items := by
  induction ranks generalizing items with
  | nil =>
    rw [List.eq_nil_iff_forall_not_mem.mpr fun item hItem => List.not_mem_nil (hAll item hItem)]
    exact .refl _
  | cons k ranks ih =>
    obtain ⟨hFirst, hRest⟩ := List.nodup_cons.mp hRanks
    have hLater : byRank rank ranks items = byRank rank ranks (items.filter fun item => !decide (rank item = k)) := by
      apply List.flatMap_congr
      intro other hOther
      rw [List.filter_filter]
      apply List.filter_congr
      intro item _
      have hNe : other ≠ k := fun hEq => hFirst (hEq ▸ hOther)
      by_cases hRank : rank item = other
      · simp [hRank, hNe]
      · simp [hRank]
    rw [byRank, List.flatMap_cons]
    refine List.Perm.trans (List.Perm.append_left _ ?_) (List.filter_append_perm _ items)
    change (byRank rank ranks items).Perm _
    rw [hLater]
    apply ih hRest
    intro item hItem
    obtain ⟨hMem, hOther⟩ := List.mem_filter.mp hItem
    exact (List.mem_cons.mp (hAll item hMem)).resolve_left (by simpa using hOther)

theorem byRank_pairwise (hRanks : ranks.Pairwise (· < ·)) :
    (byRank rank ranks items).Pairwise fun first second => rank first ≤ rank second := by
  induction ranks with
  | nil => exact List.Pairwise.nil
  | cons k ranks ih =>
    obtain ⟨hFirst, hRest⟩ := List.pairwise_cons.mp hRanks
    rw [byRank, List.flatMap_cons, List.pairwise_append]
    refine ⟨?_, ih hRest, ?_⟩
    · apply List.pairwise_of_forall_mem_list
      intro first hMem second hMem'
      have hEq : rank first = k := of_decide_eq_true (List.mem_filter.mp hMem).2
      have hEq' : rank second = k := of_decide_eq_true (List.mem_filter.mp hMem').2
      exact Nat.le_of_eq (hEq.trans hEq'.symm)
    · intro first hMem second hMem'
      obtain ⟨k', hk', hIn⟩ := List.mem_flatMap.mp hMem'
      have hEq : rank first = k := of_decide_eq_true (List.mem_filter.mp hMem).2
      have hEq' : rank second = k' := of_decide_eq_true (List.mem_filter.mp hIn).2
      rw [hEq, hEq']
      exact Nat.le_of_lt (hFirst k' hk')

end ByRank

end FastVoice.Grouping
