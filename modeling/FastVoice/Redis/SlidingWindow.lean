import Mathlib.Algebra.Order.Group.Defs
import Mathlib.Data.Finset.Dedup
import FastVoice.Redis.SortedSet
import FastVoice.Redis.Volatile

/-! # Sorted sets of time stamps as sliding windows

A log of events is kept as a sorted set in which each time stamp is at once member and score, is
trimmed to a window before it is counted, and expires some time after the last addition. Such a set
knows which stamps occurred in the window, and not how often.
-/
namespace FastVoice.Redis

variable {τ : Type} [LinearOrder τ]

section Lifetime

variable {α : Type} [DecidableEq α] [AddCommGroup τ]

def Outlives (ttl : τ) (key : Volatile (SortedSet α τ) τ) : Prop :=
  ∀ e ∈ key.value.entries, ∀ deadline ∈ key.deadline, e.2 + ttl ≤ deadline

variable {ttl now : τ} {key : Volatile (SortedSet α τ) τ} {z : SortedSet α τ}

omit [DecidableEq α] in
theorem outlives_default (ttl : τ) : Outlives ttl (default : Volatile (SortedSet α τ) τ) := by
  simp [Outlives]

theorem Outlives.put (h : Outlives ttl key) (hSub : z.entries ⊆ key.value.entries) :
    Outlives ttl (key.put z) := by
  intro e he deadline hDeadline
  rw [Volatile.value_put] at he
  have hNonempty : z ≠ default := by
    rintro rfl
    exact absurd he (Finset.notMem_empty _)
  rw [Volatile.deadline_put _ _ hNonempty] at hDeadline
  exact h e (hSub he) deadline hDeadline

theorem outlives_expire [IsOrderedAddMonoid τ] (hNow : ∀ e ∈ key.value.entries, e.2 ≤ now) :
    Outlives ttl (key.expire (now + ttl)) := by
  intro e he deadline hDeadline
  rw [Volatile.value_expire] at he
  have hNonempty : key.value ≠ default := by
    intro hEmpty
    rw [hEmpty] at he
    exact absurd he (Finset.notMem_empty _)
  rw [Volatile.deadline_expire _ _ hNonempty] at hDeadline
  cases hDeadline
  exact add_le_add_left (hNow e he) ttl

omit [DecidableEq α] in
theorem Outlives.purge (h : Outlives ttl key) : Outlives ttl (key.purge now) := by
  obtain hPurge | hPurge := key.purge_eq_or now
  · rwa [hPurge]
  · rw [hPurge]
    exact outlives_default ttl

omit [DecidableEq α] in
theorem Outlives.mem_purge (h : Outlives ttl key) {e : α × τ} (he : e ∈ key.value.entries)
    (hYoung : now ≤ e.2 + ttl) : e ∈ (key.purge now).value.entries := by
  rw [Volatile.purge_of_alive]
  · exact he
  · exact fun deadline hDeadline => not_lt.mpr (hYoung.trans (h e he deadline hDeadline))

end Lifetime

structure Tracks (z : SortedSet τ τ) (log : List τ) (since : τ) : Prop where
  diagonal : ∀ e ∈ z.entries, e.1 = e.2
  logged : ∀ e ∈ z.entries, e.2 ∈ log
  complete : ∀ t ∈ log, since < t → (t, t) ∈ z.entries

namespace Tracks

variable {z : SortedSet τ τ} {log : List τ} {since cutoff low : τ}

theorem empty (since : τ) : Tracks (default : SortedSet τ τ) [] since :=
  ⟨by simp, by simp, by simp⟩

theorem later (h : Tracks z log since) (hSince : since ≤ cutoff) : Tracks z log cutoff :=
  ⟨h.diagonal, h.logged, fun t ht hLt => h.complete t ht (hSince.trans_lt hLt)⟩

theorem trim (h : Tracks z log since) (hSince : since ≤ cutoff) :
    Tracks (z.zremrangebyscore low cutoff) log cutoff where
  diagonal e he := h.diagonal e (SortedSet.mem_zremrangebyscore.mp he).1
  logged e he := h.logged e (SortedSet.mem_zremrangebyscore.mp he).1
  complete t ht hLt := SortedSet.mem_zremrangebyscore.mpr
    ⟨h.complete t ht (hSince.trans_lt hLt), fun hRange => absurd hRange.2 (not_le.mpr hLt)⟩

theorem add (h : Tracks z log since) (t : τ) : Tracks (z.zadd t t) (t :: log) since where
  diagonal e he := by
    obtain rfl | ⟨he, -⟩ := SortedSet.mem_zadd.mp he
    · rfl
    · exact h.diagonal e he
  logged e he := by
    obtain rfl | ⟨he, -⟩ := SortedSet.mem_zadd.mp he
    · exact List.mem_cons_self
    · exact List.mem_cons_of_mem t (h.logged e he)
  complete s hs hLt := by
    by_cases hst : s = t
    · exact SortedSet.mem_zadd.mpr (.inl (by rw [hst]))
    · have hs := (List.mem_cons.mp hs).resolve_left hst
      exact SortedSet.mem_zadd.mpr (.inr ⟨h.complete s hs hLt, hst⟩)

theorem members (h : Tracks z log cutoff) (hInside : ∀ e ∈ z.entries, cutoff < e.2) :
    z.entries.image Prod.fst = (log.filter (cutoff < ·)).toFinset := by
  ext t
  simp only [Finset.mem_image, List.mem_toFinset, List.mem_filter, decide_eq_true_eq]
  constructor
  · rintro ⟨e, he, rfl⟩
    rw [h.diagonal e he]
    exact ⟨h.logged e he, hInside e he⟩
  · rintro ⟨ht, hLt⟩
    exact ⟨(t, t), h.complete t ht hLt, rfl⟩

theorem zcard (h : Tracks z log cutoff) (hInside : ∀ e ∈ z.entries, cutoff < e.2) :
    z.zcard = (log.filter (cutoff < ·)).toFinset.card := by
  rw [SortedSet.zcard_eq_members, h.members hInside]

theorem inside_trim (h : Tracks z log since) (hLow : ∀ t ∈ log, low ≤ t) :
    ∀ e ∈ (z.zremrangebyscore low cutoff).entries, cutoff < e.2 := by
  intro e he
  obtain ⟨he, hRange⟩ := SortedSet.mem_zremrangebyscore.mp he
  exact not_le.mp fun hLe => hRange ⟨hLow _ (h.logged e he), hLe⟩

end Tracks

variable [AddCommGroup τ] [IsOrderedAddMonoid τ]

structure TracksFor (ttl : τ) (key : Volatile (SortedSet τ τ) τ) (log : List τ) (since : τ) : Prop
    extends Tracks key.value log since where
  outlives : Outlives ttl key

namespace TracksFor

variable {key : Volatile (SortedSet τ τ) τ} {log : List τ} {since cutoff low ttl now : τ}

omit [IsOrderedAddMonoid τ] in
theorem empty (ttl since : τ) : TracksFor ttl default [] since :=
  ⟨Tracks.empty since, outlives_default ttl⟩

theorem purge (h : TracksFor ttl key log since) (hSince : since ≤ cutoff)
    (hTtl : now - ttl ≤ cutoff) : TracksFor ttl (key.purge now) log cutoff where
  diagonal e he := by
    obtain hPurge | hPurge := key.purge_eq_or now
    · exact h.diagonal e (hPurge ▸ he)
    · rw [hPurge] at he
      exact absurd he (Finset.notMem_empty _)
  logged e he := by
    obtain hPurge | hPurge := key.purge_eq_or now
    · exact h.logged e (hPurge ▸ he)
    · rw [hPurge] at he
      exact absurd he (Finset.notMem_empty _)
  complete t ht hLt := h.outlives.mem_purge (h.complete t ht (hSince.trans_lt hLt))
    (sub_le_iff_le_add.mp (hTtl.trans hLt.le))
  outlives := h.outlives.purge

omit [IsOrderedAddMonoid τ] in
theorem trim (h : TracksFor ttl key log since) (hSince : since ≤ cutoff) :
    TracksFor ttl (key.put (key.value.zremrangebyscore low cutoff)) log cutoff where
  toTracks := by
    rw [Volatile.value_put]
    exact h.toTracks.trim hSince
  outlives := h.outlives.put (SortedSet.restrict_subset _ _)

theorem refresh (h : Tracks key.value log since) (hNow : ∀ t ∈ log, t ≤ now) :
    TracksFor ttl (key.expire (now + ttl)) log since where
  toTracks := by
    rw [Volatile.value_expire]
    exact h
  outlives := outlives_expire fun e he => hNow _ (h.logged e he)

theorem stamp (h : TracksFor ttl key log since) (hNow : ∀ t ∈ log, t ≤ now) :
    TracksFor ttl ((key.put (key.value.zadd now now)).expire (now + ttl)) (now :: log) since := by
  refine refresh ?_ ?_
  · rw [Volatile.value_put]
    exact h.toTracks.add now
  · intro t ht
    rcases List.mem_cons.mp ht with rfl | ht
    · exact le_rfl
    · exact hNow t ht

end TracksFor

end FastVoice.Redis
