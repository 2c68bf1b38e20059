import FastVoice.CallConcurrency.SlotSets

/-! # What the pool commands do to the numbers

A young entry has a positive score above the cutoff: its number is in use and not reclaimable.
-/
namespace FastVoice.CallConcurrency
open Redis

namespace Keyspace

def numbers (s : Keyspace) (key : PoolKey) : Finset (String × ℚ) := (s.numberPool key).value.entries

variable (s : Keyspace) (key k : PoolKey)

theorem mem_putNumbers {pool : SortedSet String ℚ} {e : String × ℚ} : e ∈ (s.putNumbers key pool).numbers k ↔
      k = key ∧ e ∈ pool.entries ∨ k ≠ key ∧ e ∈ s.numbers k := by
  unfold numbers putNumbers
  by_cases hk : k = key
  · subst hk
    simp
  · simp [hk]

theorem acquireNumber_cases :
    let reclaimed := (s.numberPool key).value.rescore 1 s.staleCutoff 0
    s.acquireNumber key = (none, s.putNumbers key reclaimed) ∨
    ∃ chosen, (chosen, 0) ∈ reclaimed.entries ∧
      s.acquireNumber key = (some chosen, s.putNumbers key (reclaimed.zadd s.clock chosen)) := by
  intro reclaimed
  simp only [acquireNumber]
  split
  · exact .inl rfl
  · rename_i chosen hChosen
    exact .inr ⟨chosen, SortedSet.mem_zrangeAt.mp (List.mem_of_getElem? hChosen), rfl⟩

variable {s key}

theorem mem_reclaimed {fromNumber : String} {score : ℚ} (h : (fromNumber, score) ∈ s.numbers key)
    (hYoung : s.staleCutoff < score) :
    (fromNumber, score) ∈ ((s.numberPool key).value.rescore 1 s.staleCutoff 0).entries :=
  SortedSet.mem_rescore.mpr (.inl ⟨h, fun hRange => absurd hRange.2 (not_le.mpr hYoung)⟩)

theorem acquireNumber_young {fromNumber : String} {score : ℚ}
    (h : (fromNumber, score) ∈ s.numbers key) (hYoung : s.staleCutoff < score) (hPos : 0 < score) :
    (s.acquireNumber key).1 ≠ some fromNumber ∧
      (fromNumber, score) ∈ (s.acquireNumber key).2.numbers key := by
  have hReclaimed := mem_reclaimed h hYoung
  obtain hAfter | ⟨chosen, hChosen, hAfter⟩ := s.acquireNumber_cases key
  · rw [hAfter]
    exact ⟨by simp, (s.mem_putNumbers key key).mpr (.inl ⟨rfl, hReclaimed⟩)⟩
  · have hNe : fromNumber ≠ chosen := by
      rintro rfl
      exact absurd (SortedSet.score_unique _ hReclaimed hChosen) hPos.ne'
    rw [hAfter]
    refine ⟨fun hEq => hNe (Option.some.inj hEq).symm, (s.mem_putNumbers key key).mpr (.inl ⟨rfl, ?_⟩)⟩
    exact SortedSet.mem_zadd.mpr (.inr ⟨hReclaimed, hNe⟩)

theorem acquireNumber_stamped {fromNumber : String} (h : (s.acquireNumber key).1 = some fromNumber) :
    (fromNumber, s.clock.val) ∈ (s.acquireNumber key).2.numbers key := by
  obtain hAfter | ⟨chosen, -, hAfter⟩ := s.acquireNumber_cases key
  · rw [hAfter] at h
    cases h
  · rw [hAfter] at h ⊢
    cases h
    exact (s.mem_putNumbers key key).mpr (.inl ⟨rfl, SortedSet.mem_zadd.mpr (.inl rfl)⟩)

theorem acquireNumber_empty (h : s.numbers key = ∅) :
    (s.acquireNumber key).1 = none ∧ (s.acquireNumber key).2.numbers key = ∅ := by
  have hReclaimed : ((s.numberPool key).value.rescore 1 s.staleCutoff 0).entries = ∅ := by
    rw [SortedSet.rescore]
    exact Finset.image_eq_empty.mpr h
  obtain hAfter | ⟨chosen, hChosen, -⟩ := s.acquireNumber_cases key
  · rw [hAfter]
    refine ⟨rfl, Finset.eq_empty_of_forall_notMem fun e he => ?_⟩
    obtain ⟨-, he⟩ | ⟨hNe, -⟩ := (s.mem_putNumbers key key).mp he
    · rw [hReclaimed] at he
      exact absurd he (Finset.notMem_empty _)
    · exact hNe rfl
  · rw [hReclaimed] at hChosen
    exact absurd hChosen (Finset.notMem_empty _)

theorem releaseNumber_other {fromNumber released : String} {score : ℚ}
    (h : (fromNumber, score) ∈ s.numbers key) (hNe : fromNumber ≠ released) :
    (fromNumber, score) ∈ (s.releaseNumber key released).2.numbers key := by
  unfold releaseNumber
  split
  · exact (s.mem_putNumbers key key).mpr (.inl ⟨rfl, SortedSet.mem_zadd.mpr (.inr ⟨h, hNe⟩)⟩)
  · exact h

theorem releaseNumber_empty {released : String} (h : s.numbers key = ∅) :
    (s.releaseNumber key released).2.numbers key = ∅ := by
  unfold releaseNumber
  split
  · rename_i hMember
    obtain ⟨score, hScore⟩ := SortedSet.member_iff.mp hMember
    have hMem : (released, score) ∈ s.numbers key := hScore
    rw [h] at hMem
    exact absurd hMem (Finset.notMem_empty _)
  · exact h

variable (s key) in
theorem advance_numbers (now : UnixTime) :
    (s.advance now).numbers key = s.numbers key ∨ (s.advance now).numbers key = ∅ := by
  unfold numbers advance
  obtain h | h := Volatile.purge_eq_or (s.numberPool key) now.val <;> simp [h]

end Keyspace

def Command.writesNumbers : Command → Option PoolKey
  | .addNumbers key _ => some key
  | .acquireNumber key => some key
  | .releaseNumber key _ => some key
  | _ => none

theorem execute_numbers {command : Command} {key : PoolKey} (h : command.writesNumbers ≠ some key)
    (s : Keyspace) : (execute command s).2.numbers key = s.numbers key := by
  have hPut : ∀ (k : PoolKey) (pool : SortedSet String ℚ), some k ≠ some key →
      (s.putNumbers k pool).numbers key = s.numbers key := by
    intro k pool hk
    ext e
    have hNe : key ≠ k := fun hEq => hk (congrArg some hEq.symm)
    simp [Keyspace.mem_putNumbers, hNe]
  cases command with
  | addNumbers k fromNumbers => exact hPut k _ h
  | acquireNumber k =>
    obtain hAfter | ⟨chosen, -, hAfter⟩ := s.acquireNumber_cases k
    all_goals
      simp only [execute, hAfter]
      exact hPut k _ h
  | releaseNumber k fromNumber =>
    simp only [execute, Keyspace.releaseNumber]
    split
    · exact hPut k _ h
    · rfl
  | expireNumbers k =>
    by_cases hk : key = k
    · subst hk
      simp [execute, Keyspace.numbers]
    · simp [execute, Keyspace.numbers, hk]
  | acquireConcurrent organizationId maxConcurrent scopeKey scopeMaxConcurrent =>
    have hPool := (s.acquireConcurrent_frame organizationId maxConcurrent scopeKey
      scopeMaxConcurrent).2.2.2
    exact congrArg (fun pool : PoolKey → NumberPool => (pool key).value.entries) hPool
  | storeSlotMappingIfAbsent run mapping =>
    obtain ⟨-, hAfter⟩ | ⟨-, hAfter⟩ := storeSlotMappingIfAbsent_cases s run mapping
    · simp only [execute, hAfter]
    · simp only [execute, hAfter]
      rfl
  | _ => rfl

end FastVoice.CallConcurrency
