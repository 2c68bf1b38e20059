import Mathlib.Data.List.Nodup
import Mathlib.Data.List.Perm.Subperm
import Mathlib.Data.Set.Card
import Mathlib.Logic.Relation
import Mathlib.Order.Interval.Finset.Nat
import Mathlib.Data.List.MinMax
import Mathlib.Data.List.Sort

/-! # Keyset pagination

A page holds the first rows behind a key, in the order of their keys. A row behind the key is on the
page, or the page is full of smaller keys.
-/
namespace FastVoice.Sql

variable {Row : Type} (key : Row → Nat)

def behind (rows : List Row) (after : Nat) : List Row :=
  (rows.filter fun row => after < key row).mergeSort fun row row' => key row ≤ key row'

def page (rows : List Row) (limit after : Nat) : List Row := (behind key rows after).take limit

variable {key} {rows : List Row}

theorem mem_behind {after : Nat} {row : Row} :
    row ∈ behind key rows after ↔ row ∈ rows ∧ after < key row := by
  simp [behind]

theorem mem_of_mem_page {limit after : Nat} {row : Row} (h : row ∈ page key rows limit after) :
    row ∈ rows ∧ after < key row := mem_behind.mp (List.mem_of_mem_take h)

section Distinct

variable (hDistinct : (rows.map key).Nodup) (limit after : Nat)
include hDistinct

theorem behind_sorted : (behind key rows after).Pairwise (key · < key ·) := by
  have hWeak : (behind key rows after).Pairwise fun row row' => decide (key row ≤ key row') := by
    apply List.pairwise_mergeSort
    · intro a b c hab hbc
      simp only [decide_eq_true_eq] at hab hbc ⊢
      omega
    · intro a b
      simp only [Bool.or_eq_true, decide_eq_true_eq]
      omega
  have hKeys : ((behind key rows after).map key).Nodup :=
    ((List.mergeSort_perm _ _).map key).nodup_iff.mpr
      (hDistinct.sublist (List.filter_sublist.map key))
  apply (hWeak.and (List.pairwise_map.mp hKeys)).imp
  rintro a b ⟨hLe, hNe⟩
  simp only [decide_eq_true_eq] at hLe
  omega

theorem page_sorted : (page key rows limit after).Pairwise (key · < key ·) :=
  (behind_sorted hDistinct after).sublist (List.take_sublist _ _)

theorem page_covers {row : Row} (hRow : row ∈ rows) (hAfter : after < key row) :
    row ∈ page key rows limit after ∨ (page key rows limit after).length = limit ∧
      ∀ earlier ∈ page key rows limit after, key earlier < key row := by
  have hSorted := behind_sorted hDistinct after
  have hMem : row ∈ behind key rows after := mem_behind.mpr ⟨hRow, hAfter⟩
  rw [← List.take_append_drop limit (behind key rows after)] at hSorted hMem
  obtain hHere | hBehind := List.mem_append.mp hMem
  · exact .inl hHere
  · right
    constructor
    · have hMore := List.length_pos_of_mem hBehind
      rw [List.length_drop] at hMore
      rw [page, List.length_take]
      omega
    · intro earlier hEarlier
      exact (List.pairwise_append.mp hSorted).2.2 earlier hEarlier row hBehind

theorem key_le_getLast {last row : Row} (hLast : (page key rows limit after).getLast? = some last)
    (hRow : row ∈ page key rows limit after) : key row ≤ key last := by
  obtain ⟨start, hStart⟩ := List.getLast?_eq_some_iff.mp hLast
  have hSorted := page_sorted hDistinct limit after
  rw [hStart] at hRow hSorted
  obtain hEarlier | hSame := List.mem_append.mp hRow
  · exact Nat.le_of_lt ((List.pairwise_append.mp hSorted).2.2 row hEarlier last List.mem_cons_self)
  · exact Nat.le_of_eq (congrArg key (List.mem_singleton.mp hSame))

theorem count_page_le_one (id : Nat) : (page key rows limit after).countP (fun row => key row = id) ≤ 1 := by
  have hKeys : ((page key rows limit after).map key).Nodup :=
    List.pairwise_map.mpr ((page_sorted hDistinct limit after).imp fun h => Nat.ne_of_lt h)
  have hCount := List.nodup_iff_count_le_one.mp hKeys id
  rw [List.count, List.countP_map] at hCount
  refine Nat.le_trans (Nat.le_of_eq (List.countP_congr fun row _ => ?_)) hCount
  simp

end Distinct

theorem countP_add_length_le {keys passed : List Nat} {p q : Nat → Bool} (hKeys : keys.Nodup) (hPassed : passed.Nodup)
    (hMem : passed ⊆ keys) (hNew : ∀ key ∈ passed, p key = false) (hMono : ∀ key, p key = true → q key = true)
    (hBehind : ∀ key ∈ passed, q key = true) : keys.countP p + passed.length ≤ keys.countP q := by
  rw [List.countP_eq_length_filter, List.countP_eq_length_filter, ← List.length_append]
  apply List.Subperm.length_le
  apply List.Nodup.subperm
  · refine List.nodup_append.mpr ⟨hKeys.filter _, hPassed, fun a ha b hb hEq => ?_⟩
    have hFalse := hNew b hb
    rw [← hEq, (List.mem_filter.mp ha).2] at hFalse
    cases hFalse
  · intro key hKey
    obtain hEarlier | hHere := List.mem_append.mp hKey
    · obtain ⟨hIn, hp⟩ := List.mem_filter.mp hEarlier
      exact List.mem_filter.mpr ⟨hIn, hMono key hp⟩
    · exact List.mem_filter.mpr ⟨hMem hHere, hBehind key hHere⟩

end FastVoice.Sql

/-! # Rows that follow one another

Where each row is followed by at most one other row and each step raises a number by one, the rows
behind a given row form a chain, and a bound on the number bounds the chain.
-/
namespace FastVoice.Sql
open Relation

variable {α : Type} {follows : α → α → Prop} {generation : α → Nat}

theorem generation_lt (hStep : ∀ x y, follows x y → generation y = generation x + 1) {x y : α}
    (h : TransGen follows x y) : generation x < generation y := by
  induction h with
  | single hFirst =>
    have hNext := hStep _ _ hFirst
    omega
  | tail hBefore hLast ih =>
    have hNext := hStep _ _ hLast
    omega

theorem injOn_generation (hStep : ∀ x y, follows x y → generation y = generation x + 1)
    (hOne : ∀ x y z, follows x y → follows x z → y = z) (x : α) :
    Set.InjOn generation {y | TransGen follows x y} := by
  intro y hY
  induction hY with
  | single hFirst =>
    intro z hZ hSame
    cases hZ with
    | single hOther => exact hOne _ _ _ hFirst hOther
    | tail hBefore hLast =>
      have hLt := generation_lt hStep hBefore
      have hFirstNext := hStep _ _ hFirst
      have hLastNext := hStep _ _ hLast
      omega
  | tail hBefore hLast ih =>
    intro z hZ hSame
    have hLastNext := hStep _ _ hLast
    cases hZ with
    | single hOther =>
      have hLt := generation_lt hStep hBefore
      have hOtherNext := hStep _ _ hOther
      omega
    | tail hOtherBefore hOther =>
      have hOtherNext := hStep _ _ hOther
      have hSamePredecessor := ih hOtherBefore (by omega)
      subst hSamePredecessor
      exact hOne _ _ _ hLast hOther

theorem encard_followers_le {bound : Nat} (hStep : ∀ x y, follows x y → generation y = generation x + 1)
    (hOne : ∀ x y z, follows x y → follows x z → y = z) {x : α}
    (hBound : ∀ y, TransGen follows x y → generation y ≤ bound) :
    {y | TransGen follows x y}.encard ≤ bound := by
  have hMaps : Set.MapsTo generation {y | TransGen follows x y} (Finset.Icc 1 bound) := by
    intro y hY
    have hLt := generation_lt hStep hY
    exact Finset.mem_coe.mpr (Finset.mem_Icc.mpr ⟨by omega, hBound y hY⟩)
  calc {y | TransGen follows x y}.encard
      ≤ (Finset.Icc 1 bound : Set Nat).encard :=
        Set.encard_le_encard_of_injOn hMaps (injOn_generation hStep hOne x)
    _ = bound := by rw [Set.encard_coe_eq_coe_finsetCard, Nat.card_Icc, Nat.add_sub_cancel]

end FastVoice.Sql

/-! # Tables with a primary key

A table is a list of rows with distinct keys, in the order in which a query without an ordering
happens to return them. An update keeps the keys; an insert of an existing key is refused.
-/
namespace FastVoice.Sql

structure Table {Row : Type} (key : Row → Nat) where
  rows : List Row
  distinct : (rows.map key).Nodup

variable {Row : Type} {key : Row → Nat}

namespace Table

def empty : Table key := ⟨[], List.nodup_nil⟩

def lookup (t : Table key) (id : Nat) : Option Row := t.rows.find? fun row => key row = id

/-- An `UPDATE` of every row; one with a `WHERE` is the identity elsewhere. -/
def update (t : Table key) (f : Row → Row) (hKey : ∀ row, key (f row) = key row) : Table key where
  rows := t.rows.map f
  distinct := by
    have hMap : (t.rows.map f).map key = t.rows.map key := by simp [hKey]
    exact hMap ▸ t.distinct

def insert (t : Table key) (row : Row) : Table key :=
  if h : key row ∈ t.rows.map key then t
  else ⟨row :: t.rows, List.nodup_cons.mpr ⟨h, t.distinct⟩⟩

def delete (t : Table key) (id : Nat) : Table key where
  rows := t.rows.filter fun row => key row ≠ id
  distinct := t.distinct.sublist (List.filter_sublist.map key)

def nextKey (t : Table key) : Nat := (t.rows.map key).foldr max 0 + 1

def count (t : Table key) (p : Row → Bool) : Nat := t.rows.countP p

theorem key_of_lookup {t : Table key} {id : Nat} {row : Row} (h : t.lookup id = some row) : key row = id :=
  of_decide_eq_true (List.find?_some (p := fun row => decide (key row = id)) h)

theorem lookup_eq_some {t : Table key} {id : Nat} {row : Row} :
    t.lookup id = some row ↔ row ∈ t.rows ∧ key row = id := by
  constructor
  · intro h
    exact ⟨List.mem_of_find?_eq_some h, key_of_lookup h⟩
  · rintro ⟨hRow, rfl⟩
    obtain ⟨found, hFound⟩ : ∃ found, t.lookup (key row) = some found :=
      Option.isSome_iff_exists.mp (List.find?_isSome.mpr ⟨row, hRow, decide_eq_true rfl⟩)
    have hSame : found = row :=
      List.inj_on_of_nodup_map t.distinct (List.mem_of_find?_eq_some hFound) hRow
        (key_of_lookup hFound)
    exact hFound.trans (congrArg some hSame)

theorem lookup_of_mem {t : Table key} {row : Row} (h : row ∈ t.rows) :
    t.lookup (key row) = some row := lookup_eq_some.mpr ⟨h, rfl⟩

@[simp] theorem lookup_update (t : Table key) (f : Row → Row) (hKey : ∀ row, key (f row) = key row)
    (id : Nat) : (t.update f hKey).lookup id = (t.lookup id).map f := by
  simp only [lookup, update, List.find?_map]
  congr 2
  funext row
  simp [hKey]

theorem lookup_insert_of_ne {t : Table key} {row : Row} {id : Nat} (h : key row ≠ id) :
    (t.insert row).lookup id = t.lookup id := by
  unfold insert
  split
  · rfl
  · simp [lookup, h]

theorem lookup_insert_of_some {t : Table key} {row found : Row} {id : Nat}
    (h : t.lookup id = some found) : (t.insert row).lookup id = some found := by
  by_cases hKey : key row = id
  · have hMem : key row ∈ t.rows.map key := by
      rw [hKey]
      obtain ⟨hFound, hId⟩ := lookup_eq_some.mp h
      exact List.mem_map.mpr ⟨found, hFound, hId⟩
    rw [insert, dif_pos hMem]
    exact h
  · rw [lookup_insert_of_ne hKey]
    exact h

theorem lookup_delete_of_ne {t : Table key} {id other : Nat} (h : other ≠ id) :
    (t.delete id).lookup other = t.lookup other := by
  simp only [lookup, delete, List.find?_filter]
  congr 1
  funext row
  by_cases hRow : key row = other <;> simp [hRow, h]

theorem nextKey_free (t : Table key) : t.lookup t.nextKey = none := by
  rw [lookup, List.find?_eq_none]
  intro row hRow hKey
  have hLe : key row ≤ (t.rows.map key).foldr max 0 :=
    List.le_max_of_le' 0 (List.mem_map_of_mem hRow) le_rfl
  have hEq : key row = (t.rows.map key).foldr max 0 + 1 := of_decide_eq_true hKey
  omega

theorem nextKey_le_insert (t : Table key) (row : Row) : t.nextKey ≤ (t.insert row).nextKey := by
  unfold insert
  split
  · exact le_rfl
  · exact Nat.succ_le_succ (le_max_right (key row) _)

theorem rows_insert {t : Table key} {row : Row} (h : t.lookup (key row) = none) :
    (t.insert row).rows = row :: t.rows := by
  have hNew : key row ∉ t.rows.map key := by
    intro hMem
    obtain ⟨found, hFound, hKey⟩ := List.mem_map.mp hMem
    rw [← hKey, lookup_of_mem hFound] at h
    cases h
  rw [insert, dif_neg hNew]

theorem count_eq_zero {t : Table key} {p : Row → Bool} :
    t.count p = 0 ↔ ∀ id row, t.lookup id = some row → p row = false := by
  rw [count, List.countP_eq_zero]
  constructor
  · intro h id row hRow
    exact Bool.eq_false_iff.mpr (h row (lookup_eq_some.mp hRow).1)
  · intro h row hRow
    exact Bool.eq_false_iff.mp (h (key row) row (lookup_of_mem hRow))

theorem count_update (t : Table key) (f : Row → Row) (hKey : ∀ row, key (f row) = key row) (p : Row → Bool) :
    (t.update f hKey).count p = t.count (p ∘ f) := List.countP_map

theorem count_insert {t : Table key} {row : Row} (h : t.lookup (key row) = none) (p : Row → Bool) :
    (t.insert row).count p = t.count p + if p row then 1 else 0 := by
  rw [count, rows_insert h, List.countP_cons]
  rfl

theorem count_at {t : Table key} {id : Nat} {row : Row} (h : t.lookup id = some row) (p : Row → Bool) :
    (t.count fun other => key other = id && p other) = if p row then 1 else 0 := by
  obtain ⟨hRow, hKey⟩ := lookup_eq_some.mp h
  have hSame : ∀ other ∈ t.rows, key other = id → other = row := fun other hOther hOtherKey =>
    List.inj_on_of_nodup_map t.distinct hOther hRow (hOtherKey.trans hKey.symm)
  cases hp : p row with
  | false =>
    rw [count, if_neg Bool.false_ne_true, List.countP_eq_zero]
    intro other hOther hHere
    simp only [Bool.and_eq_true, decide_eq_true_eq] at hHere
    rw [hSame other hOther hHere.1, hp] at hHere
    cases hHere.2
  | true =>
    have hOne : (t.rows.map key).count id = 1 :=
      List.count_eq_one_of_mem t.distinct (List.mem_map.mpr ⟨row, hRow, hKey⟩)
    rw [List.count, List.countP_map] at hOne
    rw [if_pos rfl, ← hOne]
    refine List.countP_congr fun other hOther => ?_
    simp only [Bool.and_eq_true, decide_eq_true_eq, Function.comp_apply, beq_iff_eq]
    exact and_iff_left_of_imp fun hOtherKey => hSame other hOther hOtherKey ▸ hp

theorem count_delete {t : Table key} {id : Nat} {row : Row} (h : t.lookup id = some row) (p : Row → Bool) :
    (t.delete id).count p + (if p row then 1 else 0) = t.count p := by
  rw [← count_at h p, count, count, count, List.countP_eq_countP_filter_add t.rows p fun row => key row ≠ id]
  refine congrArg₂ (· + ·) rfl ?_
  rw [List.countP_filter]
  refine List.countP_congr fun other _ => ?_
  simp [and_comm]

end Table

end FastVoice.Sql
