import Mathlib.Data.Finset.Card
import Mathlib.Data.Finset.Sort
import Mathlib.Data.Set.Function

/-! # Sorted sets

A sorted set holds each member once, with one score. The commands follow the documented ones:
adding a present member overwrites its score, ranges are inclusive at both ends.
-/
namespace FastVoice.Redis

structure SortedSet (α σ : Type) where
  entries : Finset (α × σ)
  unique : Set.InjOn Prod.fst (entries : Set (α × σ))

namespace SortedSet

variable {α σ : Type}

@[ext] theorem ext {z w : SortedSet α σ} (h : z.entries = w.entries) : z = w := by
  cases z; cases w; cases h; rfl

instance [DecidableEq α] [DecidableEq σ] : DecidableEq (SortedSet α σ) := fun _ _ =>
  decidable_of_iff _ ⟨ext, congrArg entries⟩

def empty : SortedSet α σ := ⟨∅, by simp⟩

instance : Inhabited (SortedSet α σ) := ⟨empty⟩

@[simp] theorem entries_default : (default : SortedSet α σ).entries = ∅ := rfl

def restrict (z : SortedSet α σ) (p : α × σ → Prop) [DecidablePred p] : SortedSet α σ :=
  ⟨z.entries.filter p, z.unique.mono (Finset.filter_subset p z.entries)⟩

@[simp] theorem mem_restrict {z : SortedSet α σ} {p : α × σ → Prop} [DecidablePred p]
    {e : α × σ} : e ∈ (z.restrict p).entries ↔ e ∈ z.entries ∧ p e := Finset.mem_filter

theorem restrict_subset (z : SortedSet α σ) (p : α × σ → Prop) [DecidablePred p] :
    (z.restrict p).entries ⊆ z.entries := Finset.filter_subset p z.entries

theorem score_unique (z : SortedSet α σ) {m : α} {s t : σ} (hs : (m, s) ∈ z.entries)
    (ht : (m, t) ∈ z.entries) : s = t := congrArg Prod.snd (z.unique hs ht rfl)

variable [DecidableEq α]

def zrem (z : SortedSet α σ) (m : α) : SortedSet α σ := z.restrict fun e => e.1 ≠ m

@[simp] theorem mem_zrem {z : SortedSet α σ} {m : α} {e : α × σ} :
    e ∈ (z.zrem m).entries ↔ e ∈ z.entries ∧ e.1 ≠ m := mem_restrict

def Member (z : SortedSet α σ) (m : α) : Prop := m ∈ z.entries.image Prod.fst

instance (z : SortedSet α σ) (m : α) : Decidable (z.Member m) :=
  inferInstanceAs (Decidable (m ∈ z.entries.image Prod.fst))

theorem member_iff {z : SortedSet α σ} {m : α} : z.Member m ↔ ∃ s, (m, s) ∈ z.entries := by
  simp [Member]

def zcard (z : SortedSet α σ) : Nat := z.entries.card

theorem zcard_eq_members (z : SortedSet α σ) : z.zcard = (z.entries.image Prod.fst).card :=
  (Finset.card_image_of_injOn z.unique).symm

section Adding

variable [DecidableEq σ]

def zadd (z : SortedSet α σ) (s : σ) (m : α) : SortedSet α σ where
  entries := insert (m, s) (z.zrem m).entries
  unique := by
    intro e he f hf hef
    simp only [Finset.coe_insert, Set.mem_insert_iff, Finset.mem_coe, mem_zrem] at he hf
    rcases he with rfl | ⟨he, hem⟩ <;> rcases hf with rfl | ⟨hf, hfm⟩
    · rfl
    · exact absurd hef.symm hfm
    · exact absurd hef hem
    · exact z.unique he hf hef

@[simp] theorem mem_zadd {z : SortedSet α σ} {s : σ} {m : α} {e : α × σ} :
    e ∈ (z.zadd s m).entries ↔ e = (m, s) ∨ e ∈ z.entries ∧ e.1 ≠ m := by
  simp [zadd]

theorem member_zadd {z : SortedSet α σ} {s : σ} {m n : α} : (z.zadd s m).Member n ↔ n = m ∨ z.Member n := by
  simp only [member_iff, mem_zadd, Prod.mk.injEq]
  constructor
  · rintro ⟨t, ⟨h, -⟩ | ⟨h, -⟩⟩
    · exact .inl h
    · exact .inr ⟨t, h⟩
  · rintro (h | ⟨t, h⟩)
    · exact ⟨s, .inl ⟨h, rfl⟩⟩
    · by_cases hn : n = m
      · exact ⟨s, .inl ⟨hn, rfl⟩⟩
      · exact ⟨t, .inr ⟨h, hn⟩⟩

theorem zcard_zadd_of_member {z : SortedSet α σ} {s : σ} {m : α} (h : z.Member m) :
    (z.zadd s m).zcard = z.zcard := by
  have hMembers : (z.zadd s m).entries.image Prod.fst = z.entries.image Prod.fst := by
    ext n
    refine member_zadd.trans ⟨?_, .inr⟩
    rintro (rfl | hn)
    · exact h
    · exact hn
  rw [zcard_eq_members, zcard_eq_members, hMembers]

theorem zcard_zadd_of_not_member {z : SortedSet α σ} {s : σ} {m : α} (h : ¬z.Member m) :
    (z.zadd s m).zcard = z.zcard + 1 := by
  have hRest : (z.zrem m).entries = z.entries := by
    ext e
    rw [mem_zrem, and_iff_left_iff_imp]
    rintro he rfl
    exact h (member_iff.mpr ⟨e.2, he⟩)
  have hNew : (m, s) ∉ (z.zrem m).entries := by simp
  show (insert (m, s) (z.zrem m).entries).card = _
  rw [Finset.card_insert_of_notMem hNew, hRest]
  rfl

theorem zcard_zadd_eq_iff {z : SortedSet α σ} {s : σ} {m : α} :
    (z.zadd s m).zcard = z.zcard ↔ z.Member m := by
  by_cases h : z.Member m
  · simp [h, zcard_zadd_of_member]
  · simp [h, zcard_zadd_of_not_member]

def zaddNx (z : SortedSet α σ) (s : σ) (m : α) : SortedSet α σ :=
  if z.Member m then z else z.zadd s m

end Adding

section Ranges

variable [LinearOrder σ]

def zremrangebyscore (z : SortedSet α σ) (low high : σ) : SortedSet α σ :=
  z.restrict fun e => ¬(low ≤ e.2 ∧ e.2 ≤ high)

omit [DecidableEq α] in
@[simp] theorem mem_zremrangebyscore {z : SortedSet α σ} {low high : σ} {e : α × σ} :
    e ∈ (z.zremrangebyscore low high).entries ↔ e ∈ z.entries ∧ ¬(low ≤ e.2 ∧ e.2 ≤ high) :=
  mem_restrict

omit [DecidableEq α] in
theorem zremrangebyscore_of_outside {z : SortedSet α σ} {low high : σ}
    (h : ∀ e ∈ z.entries, ¬(low ≤ e.2 ∧ e.2 ≤ high)) : z.zremrangebyscore low high = z := by
  apply ext
  ext e
  rw [mem_zremrangebyscore, and_iff_left_iff_imp]
  exact h e

omit [DecidableEq α] in

def zcountFrom (z : SortedSet α σ) (low : σ) : Nat := (z.entries.filter fun e => low ≤ e.2).card

/-- `ZRANGEBYSCORE`, restricted to one score so that only the member order matters. -/
def zrangeAt [LinearOrder α] (z : SortedSet α σ) (s : σ) : List α :=
  ((z.entries.filter fun e => e.2 = s).image Prod.fst).sort (· ≤ ·)

theorem mem_zrangeAt [LinearOrder α] {z : SortedSet α σ} {s : σ} {m : α} :
    m ∈ z.zrangeAt s ↔ (m, s) ∈ z.entries := by
  simp only [zrangeAt, Finset.mem_sort, Finset.mem_image, Finset.mem_filter]
  constructor
  · rintro ⟨⟨n, t⟩, ⟨h, rfl⟩, rfl⟩
    exact h
  · intro h
    exact ⟨(m, s), ⟨h, rfl⟩, rfl⟩

/-- Give every member whose score lies in the range the score `target`. -/
def rescore (z : SortedSet α σ) (low high target : σ) : SortedSet α σ where
  entries := z.entries.image fun e => if low ≤ e.2 ∧ e.2 ≤ high then (e.1, target) else e
  unique := by
    intro e he f hf hef
    simp only [Finset.coe_image, Set.mem_image, Finset.mem_coe] at he hf
    obtain ⟨a, ha, rfl⟩ := he
    obtain ⟨b, hb, rfl⟩ := hf
    have hfst : ∀ c : α × σ, (if low ≤ c.2 ∧ c.2 ≤ high then (c.1, target) else c).1 = c.1 := by
      intro c
      split <;> rfl
    rw [z.unique ha hb (by simpa only [hfst] using hef)]

theorem mem_rescore {z : SortedSet α σ} {low high target : σ} {m : α} {s : σ} :
    (m, s) ∈ (z.rescore low high target).entries ↔ (m, s) ∈ z.entries ∧ ¬(low ≤ s ∧ s ≤ high) ∨
      s = target ∧ ∃ t, (m, t) ∈ z.entries ∧ low ≤ t ∧ t ≤ high := by
  simp only [rescore, Finset.mem_image]
  constructor
  · rintro ⟨⟨n, t⟩, h, he⟩
    split at he
    · rename_i hRange
      obtain ⟨rfl, rfl⟩ := Prod.mk.injEq .. ▸ he
      exact .inr ⟨rfl, t, h, hRange⟩
    · rename_i hRange
      obtain ⟨rfl, rfl⟩ := Prod.mk.injEq .. ▸ he
      exact .inl ⟨h, hRange⟩
  · rintro (⟨h, hRange⟩ | ⟨rfl, t, h, hRange⟩)
    · exact ⟨(m, s), h, if_neg hRange⟩
    · exact ⟨(m, t), h, if_pos hRange⟩

end Ranges

end SortedSet

end FastVoice.Redis
