import FastVoice.CallConcurrency.RateLimiter

/-! # What the slot commands do to the three kinds of sets

Membership after each command, in terms of membership before it, and the four ways the acquire
script can end. Everything that is proved about slots uses these and not the scripts.
-/
namespace FastVoice.CallConcurrency
open Redis

namespace Keyspace

def slots (s : Keyspace) (key : ConcurrentKey) : Finset (SlotId × ℚ) :=
  (s.concurrent key).value.entries

def fleetSlots (s : Keyspace) : Finset ((Nat × SlotId) × ℚ) := s.fleet.value.entries

variable (s : Keyspace) (key k : ConcurrentKey) (slotId : SlotId) (organizationId : Nat)

theorem mem_pruneConcurrent {e : SlotId × ℚ} : e ∈ (s.pruneConcurrent key).slots k ↔
    e ∈ s.slots k ∧ (k = key → ¬(0 ≤ e.2 ∧ e.2 ≤ s.staleCutoff)) := by
  unfold slots pruneConcurrent
  by_cases hk : k = key
  · subst hk
    simp
  · simp [hk]

theorem mem_addConcurrent {e : SlotId × ℚ} : e ∈ (s.addConcurrent key slotId).slots k ↔
    k = key ∧ e = (slotId, s.clock.val) ∨ e ∈ s.slots k ∧ (k = key → e.1 ≠ slotId) := by
  unfold slots addConcurrent
  by_cases hk : k = key
  · subst hk
    simp
  · simp [hk]

theorem mem_zremConcurrent {e : SlotId × ℚ} : e ∈ (s.zremConcurrent key slotId).slots k ↔
    e ∈ s.slots k ∧ (k = key → e.1 ≠ slotId) := by
  unfold slots zremConcurrent
  by_cases hk : k = key
  · subst hk
    simp
  · simp [hk]

theorem mem_mirrorFleet {e : (Nat × SlotId) × ℚ} : e ∈ (s.mirrorFleet organizationId slotId).fleetSlots ↔
      e = ((organizationId, slotId), s.clock.val) ∨
      e ∈ s.fleetSlots ∧ ¬(0 ≤ e.2 ∧ e.2 ≤ s.staleCutoff) ∧ e.1 ≠ (organizationId, slotId) := by
  simp [fleetSlots, mirrorFleet, and_assoc]

theorem mem_zremFleet {e : (Nat × SlotId) × ℚ} : e ∈ (s.zremFleet organizationId slotId).fleetSlots ↔
      e ∈ s.fleetSlots ∧ e.1 ≠ (organizationId, slotId) := by
  simp [fleetSlots, zremFleet]

@[simp] theorem slots_mirrorFleet :
    (s.mirrorFleet organizationId slotId).slots k = s.slots k := rfl

def counted (s : Keyspace) (organizationId : Nat) : Keyspace :=
  { s with issued := s.issued + 1 }.pruneConcurrent (.organization organizationId)

@[simp] theorem staleCutoff_counted : (s.counted organizationId).staleCutoff = s.staleCutoff := rfl

theorem mem_counted {e : SlotId × ℚ} : e ∈ (s.counted organizationId).slots k ↔
    e ∈ s.slots k ∧ (k = .organization organizationId → ¬(0 ≤ e.2 ∧ e.2 ≤ s.staleCutoff)) :=
  mem_pruneConcurrent { s with issued := s.issued + 1 } (.organization organizationId) k

theorem acquireConcurrent_cases (maxConcurrent : Nat) (scopeKey : Option String) (scopeMaxConcurrent : Nat) :
    let org := ConcurrentKey.organization organizationId
    let counted := s.counted organizationId
    let after := s.acquireConcurrent organizationId maxConcurrent scopeKey scopeMaxConcurrent
    (maxConcurrent ≤ (counted.slots org).card ∧ after = (none, counted)) ∨
    (∃ scope, scopeConcurrentKey scopeKey = some scope ∧ (counted.slots org).card < maxConcurrent ∧
      scopeMaxConcurrent ≤ ((counted.pruneConcurrent scope).slots scope).card ∧
      after = (none, counted.pruneConcurrent scope)) ∨
    (scopeConcurrentKey scopeKey = none ∧ (counted.slots org).card < maxConcurrent ∧
      after = (some (s.nextSlotId, (counted.slots org).card + 1),
        (counted.addConcurrent org s.nextSlotId).mirrorFleet organizationId s.nextSlotId)) ∨
    ∃ scope, scopeConcurrentKey scopeKey = some scope ∧ (counted.slots org).card < maxConcurrent ∧
      ((counted.pruneConcurrent scope).slots scope).card < scopeMaxConcurrent ∧
      after = (some (s.nextSlotId, (counted.slots org).card + 1),
        (((counted.pruneConcurrent scope).addConcurrent scope s.nextSlotId).addConcurrent org
          s.nextSlotId).mirrorFleet organizationId s.nextSlotId) := by
  intro org counted after
  by_cases hOrg : maxConcurrent ≤ (counted.slots org).card
  · exact .inl ⟨hOrg, if_pos hOrg⟩
  · have hAfter : after = _ := if_neg hOrg
    cases hScope : scopeConcurrentKey scopeKey with
    | none =>
      rw [hScope] at hAfter
      exact .inr (.inr (.inl ⟨rfl, not_le.mp hOrg, hAfter⟩))
    | some scope =>
      rw [hScope] at hAfter
      by_cases hFull : scopeMaxConcurrent ≤ ((counted.pruneConcurrent scope).slots scope).card
      · exact .inr (.inl ⟨scope, rfl, not_le.mp hOrg, hFull, hAfter.trans (if_pos hFull)⟩)
      · exact .inr (.inr (.inr ⟨scope, rfl, not_le.mp hOrg, not_le.mp hFull,
          hAfter.trans (if_neg hFull)⟩))

theorem scopeConcurrentKey_eq_some {scopeKey : Option String} {key : ConcurrentKey}
    (h : scopeConcurrentKey scopeKey = some key) : ∃ scope, scopeKey = some scope ∧ key = .scope scope := by
  cases scopeKey with
  | none => cases h
  | some scope =>
    rw [scopeConcurrentKey] at h
    split at h
    · cases h
    · exact ⟨scope, rfl, (Option.some.inj h).symm⟩

theorem acquireConcurrent_frame (maxConcurrent : Nat) (scopeKey : Option String) (scopeMaxConcurrent : Nat) :
    let after := (s.acquireConcurrent organizationId maxConcurrent scopeKey scopeMaxConcurrent).2
    after.clock = s.clock ∧ after.issued = s.issued + 1 ∧ after.slotMapping = s.slotMapping ∧
      after.numberPool = s.numberPool := by
  obtain ⟨-, hAfter⟩ | ⟨scope, -, -, -, hAfter⟩ | ⟨-, -, hAfter⟩ | ⟨scope, -, -, -, hAfter⟩ :=
    s.acquireConcurrent_cases organizationId maxConcurrent scopeKey scopeMaxConcurrent
  all_goals
    rw [hAfter]
    exact ⟨rfl, rfl, rfl, rfl⟩

theorem acquireConcurrent_slots {maxConcurrent : Nat} {scopeKey : Option String}
    {scopeMaxConcurrent : Nat} {e : SlotId × ℚ}
    (he : e ∈ (s.acquireConcurrent organizationId maxConcurrent scopeKey
      scopeMaxConcurrent).2.slots k) : e ∈ s.slots k ∨ e.1 = s.nextSlotId := by
  obtain ⟨-, hAfter⟩ | ⟨scope, -, -, -, hAfter⟩ | ⟨-, -, hAfter⟩ | ⟨scope, -, -, -, hAfter⟩ :=
    s.acquireConcurrent_cases organizationId maxConcurrent scopeKey scopeMaxConcurrent
  all_goals
    rw [hAfter] at he
    simp only [slots_mirrorFleet, mem_addConcurrent, mem_pruneConcurrent, mem_counted] at he
    grind

theorem acquireConcurrent_other {other : Nat} (h : other ≠ organizationId) (maxConcurrent : Nat)
    (scopeKey : Option String) (scopeMaxConcurrent : Nat) :
    (s.acquireConcurrent organizationId maxConcurrent scopeKey scopeMaxConcurrent).2.slots
      (.organization other) = s.slots (.organization other) := by
  have hCounted : (s.counted organizationId).slots (.organization other) =
      s.slots (.organization other) := by
    ext e
    simp [mem_counted, h]
  obtain ⟨-, hAfter⟩ | ⟨scope, hScope, -, -, hAfter⟩ | ⟨-, -, hAfter⟩ | ⟨scope, hScope, -, -, hAfter⟩ :=
    s.acquireConcurrent_cases organizationId maxConcurrent scopeKey scopeMaxConcurrent
  · rw [hAfter, hCounted]
  · obtain ⟨scope, -, rfl⟩ := scopeConcurrentKey_eq_some hScope
    rw [hAfter, ← hCounted]
    ext e
    simp [mem_pruneConcurrent]
  · rw [hAfter, ← hCounted]
    ext e
    simp [mem_addConcurrent, h]
  · obtain ⟨scope, -, rfl⟩ := scopeConcurrentKey_eq_some hScope
    rw [hAfter, ← hCounted]
    ext e
    simp [mem_addConcurrent, mem_pruneConcurrent, h]

theorem advance_slots_subset (now : UnixTime) : (s.advance now).slots k ⊆ s.slots k := by
  unfold slots advance
  obtain h | h := Volatile.purge_eq_or (s.concurrent k) now.val <;> simp [h]

theorem advance_fleetSlots_subset (now : UnixTime) : (s.advance now).fleetSlots ⊆ s.fleetSlots := by
  unfold fleetSlots advance
  obtain h | h := Volatile.purge_eq_or s.fleet now.val <;> simp [h]

end Keyspace

def Command.TouchesSlots : Command → Prop
  | .acquireConcurrent _ _ _ _ => True
  | .zremConcurrent _ _ => True
  | .zremFleet _ _ => True
  | .pruneConcurrent _ => True
  | _ => False

theorem execute_frame {command : Command} (h : ¬command.TouchesSlots) (s : Keyspace) :
    (execute command s).2.concurrent = s.concurrent ∧ (execute command s).2.fleet = s.fleet ∧
      (execute command s).2.clock = s.clock ∧ (execute command s).2.issued = s.issued := by
  cases command <;>
    first
    | exact absurd trivial h
    | (simp only [execute, Keyspace.storeSlotMappingIfAbsent, Keyspace.acquireNumber,
        Keyspace.releaseNumber]
       split <;> exact ⟨rfl, rfl, rfl, rfl⟩)
    | exact ⟨rfl, rfl, rfl, rfl⟩

theorem execute_slots {command : Command} {s : Keyspace} {key : ConcurrentKey} {e : SlotId × ℚ}
    (he : e ∈ (execute command s).2.slots key) : e ∈ s.slots key ∨ e.1 = s.nextSlotId := by
  by_cases hTouches : command.TouchesSlots
  · cases command with
    | acquireConcurrent organizationId maxConcurrent scopeKey scopeMaxConcurrent =>
      exact s.acquireConcurrent_slots key organizationId he
    | zremConcurrent k slotId => exact .inl ((s.mem_zremConcurrent k key slotId).mp he).1
    | zremFleet => exact .inl he
    | pruneConcurrent k => exact .inl ((s.mem_pruneConcurrent k key).mp he).1
    | _ => exact hTouches.elim
  · rw [Keyspace.slots, (execute_frame hTouches s).1] at he
    exact .inl he

theorem execute_clock (command : Command) (s : Keyspace) : (execute command s).2.clock = s.clock := by
  by_cases hTouches : command.TouchesSlots
  · cases command with
    | acquireConcurrent organizationId maxConcurrent scopeKey scopeMaxConcurrent =>
      exact (s.acquireConcurrent_frame _ _ _ _).1
    | zremConcurrent => rfl
    | zremFleet => rfl
    | pruneConcurrent => rfl
    | _ => exact hTouches.elim
  · exact (execute_frame hTouches s).2.2.1

theorem execute_issued (command : Command) (s : Keyspace) : s.issued ≤ (execute command s).2.issued := by
  by_cases hTouches : command.TouchesSlots
  · cases command with
    | acquireConcurrent organizationId maxConcurrent scopeKey scopeMaxConcurrent =>
      exact (s.acquireConcurrent_frame _ _ _ _).2.1.ge.trans' (Nat.le_succ _)
    | zremConcurrent => exact le_rfl
    | zremFleet => exact le_rfl
    | pruneConcurrent => exact le_rfl
    | _ => exact hTouches.elim
  · exact (execute_frame hTouches s).2.2.2.ge

theorem execute_slotMapping {command : Command}
    (hStore : ∀ workflowRunId mapping, command ≠ .storeSlotMappingIfAbsent workflowRunId mapping)
    (hDelete : ∀ workflowRunId, command ≠ .deleteSlotMapping workflowRunId) (s : Keyspace) :
    (execute command s).2.slotMapping = s.slotMapping := by
  cases command with
  | acquireConcurrent organizationId maxConcurrent scopeKey scopeMaxConcurrent =>
    exact (s.acquireConcurrent_frame _ _ _ _).2.2.1
  | storeSlotMappingIfAbsent workflowRunId mapping => exact absurd rfl (hStore workflowRunId mapping)
  | deleteSlotMapping workflowRunId => exact absurd rfl (hDelete workflowRunId)
  | acquireNumber key =>
    simp only [execute, Keyspace.acquireNumber]
    split <;> rfl
  | releaseNumber key fromNumber =>
    simp only [execute, Keyspace.releaseNumber]
    split <;> rfl
  | _ => rfl

theorem storeSlotMappingIfAbsent_cases (s : Keyspace) (workflowRunId : Nat) (mapping : SlotMapping) :
    (s.slotMapping workflowRunId).value ≠ none ∧
      s.storeSlotMappingIfAbsent workflowRunId mapping = (false, s) ∨
    (s.slotMapping workflowRunId).value = none ∧
      s.storeSlotMappingIfAbsent workflowRunId mapping = (true, { s with
        slotMapping := Function.update s.slotMapping workflowRunId
          ⟨some mapping, some (s.clock + staleCallTimeout)⟩ }) := by
  unfold Keyspace.storeSlotMappingIfAbsent
  cases hValue : (s.slotMapping workflowRunId).value with
  | none => exact .inr ⟨rfl, rfl⟩
  | some current => exact .inl ⟨by simp, rfl⟩

end FastVoice.CallConcurrency
