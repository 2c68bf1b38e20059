import Mathlib.Algebra.BigOperators.Group.Finset.Basic
import FastVoice.CallConcurrency.SlotBound
import FastVoice.Redis.SlidingWindow

/-! # The fleet mirror of the organization sets

Only young entries can be compared: each acquisition prunes its own organization set and the whole
mirror, so old entries leave them at different moments. On young entries the mirror is the union of
the organization sets, but for slots that a release has taken from the one and not yet from the
other. The two counts then differ by the entries whose age is exactly the stale call timeout.
-/
namespace FastVoice.CallConcurrency
open Async Redis

namespace Keyspace

/-- Scores are past readings, slot ids have been generated, and no key expires before its slots
are stale. -/
structure Aged (s : Keyspace) : Prop where
  slots : ∀ key, ∀ e ∈ s.slots key, 0 < e.2 ∧ e.2 ≤ s.clock.val ∧ e.1.token < s.issued
  fleet : ∀ e ∈ s.fleetSlots, 0 < e.2 ∧ e.2 ≤ s.clock.val ∧ e.1.2.token < s.issued
  slotsOutlive : ∀ key, Outlives 3600 (s.concurrent key)
  fleetOutlives : Outlives 3600 s.fleet

namespace Aged

variable {s : Keyspace}

theorem issue (h : s.Aged) : { s with issued := s.issued + 1 }.Aged where
  slots key e he := ⟨(h.slots key e he).1, (h.slots key e he).2.1,
    (h.slots key e he).2.2.trans (Nat.lt_succ_self _)⟩
  fleet e he := ⟨(h.fleet e he).1, (h.fleet e he).2.1, (h.fleet e he).2.2.trans (Nat.lt_succ_self _)⟩
  slotsOutlive := h.slotsOutlive
  fleetOutlives := h.fleetOutlives

theorem putSlots (h : s.Aged) (key : ConcurrentKey) {z : SortedSet SlotId ℚ}
    (hSub : z.entries ⊆ s.slots key) :
    { s with concurrent := Function.update s.concurrent key ((s.concurrent key).put z) }.Aged where
  slots k e he := by
    refine h.slots k e ?_
    by_cases hk : k = key
    · subst hk
      simp only [Keyspace.slots, Function.update_self, Volatile.value_put] at he
      exact hSub he
    · simpa only [Keyspace.slots, Function.update_of_ne hk] using he
  fleet := h.fleet
  slotsOutlive k := by
    by_cases hk : k = key
    · subst hk
      simp only [Function.update_self]
      exact (h.slotsOutlive k).put hSub
    · simp only [Function.update_of_ne hk]
      exact h.slotsOutlive k
  fleetOutlives := h.fleetOutlives

theorem putFleet (h : s.Aged) {z : SortedSet (Nat × SlotId) ℚ} (hSub : z.entries ⊆ s.fleetSlots) :
    { s with fleet := s.fleet.put z }.Aged where
  slots := h.slots
  fleet e he := by
    refine h.fleet e (hSub ?_)
    simpa only [Keyspace.fleetSlots, Volatile.value_put] using he
  slotsOutlive := h.slotsOutlive
  fleetOutlives := h.fleetOutlives.put hSub

theorem pruneConcurrent (h : s.Aged) (key : ConcurrentKey) : (s.pruneConcurrent key).Aged :=
  h.putSlots key (SortedSet.restrict_subset _ _)

theorem zremConcurrent (h : s.Aged) (key : ConcurrentKey) (slotId : SlotId) :
    (s.zremConcurrent key slotId).Aged := h.putSlots key (SortedSet.restrict_subset _ _)

theorem zremFleet (h : s.Aged) (organizationId : Nat) (slotId : SlotId) :
    (s.zremFleet organizationId slotId).Aged := h.putFleet (SortedSet.restrict_subset _ _)

theorem addConcurrent (h : s.Aged) (key : ConcurrentKey) {slotId : SlotId}
    (hSlot : slotId.token < s.issued) : (s.addConcurrent key slotId).Aged := by
  have hSlots : ∀ k, ∀ e ∈ (s.addConcurrent key slotId).slots k,
      0 < e.2 ∧ e.2 ≤ s.clock.val ∧ e.1.token < s.issued := by
    intro k e he
    obtain ⟨-, rfl⟩ | ⟨he, -⟩ := (s.mem_addConcurrent key k slotId).mp he
    · exact ⟨s.clock.property, le_rfl, hSlot⟩
    · exact h.slots k e he
  refine ⟨hSlots, h.fleet, fun k => ?_, h.fleetOutlives⟩
  by_cases hk : k = key
  · subst hk
    have hNow : ∀ e ∈ ((s.concurrent k).put ((s.concurrent k).value.zadd s.clock slotId)).value.entries,
        e.2 ≤ s.clock.val := by
      intro e he
      refine (hSlots k e ?_).2.1
      simpa only [Keyspace.slots, Keyspace.addConcurrent, Function.update_self,
        Volatile.value_expire] using he
    simp only [Keyspace.addConcurrent, Function.update_self]
    exact outlives_expire hNow
  · simp only [Keyspace.addConcurrent, Function.update_of_ne hk]
    exact h.slotsOutlive k

theorem mirrorFleet (h : s.Aged) (organizationId : Nat) {slotId : SlotId}
    (hSlot : slotId.token < s.issued) : (s.mirrorFleet organizationId slotId).Aged := by
  have hFleet : ∀ e ∈ (s.mirrorFleet organizationId slotId).fleetSlots,
      0 < e.2 ∧ e.2 ≤ s.clock.val ∧ e.1.2.token < s.issued := by
    intro e he
    obtain rfl | ⟨he, -⟩ := (s.mem_mirrorFleet slotId organizationId).mp he
    · exact ⟨s.clock.property, le_rfl, hSlot⟩
    · exact h.fleet e he
  refine ⟨h.slots, hFleet, h.slotsOutlive, ?_⟩
  refine outlives_expire fun e he => (hFleet e ?_).2.1
  simpa only [Keyspace.fleetSlots, Keyspace.mirrorFleet, Volatile.value_expire] using he

theorem advance (h : s.Aged) {now : UnixTime} (hNow : s.clock ≤ now) : (s.advance now).Aged where
  slots key e he := by
    obtain ⟨hPos, hLe, hToken⟩ := h.slots key e (s.advance_slots_subset key now he)
    exact ⟨hPos, hLe.trans hNow, hToken⟩
  fleet e he := by
    obtain ⟨hPos, hLe, hToken⟩ := h.fleet e (s.advance_fleetSlots_subset now he)
    exact ⟨hPos, hLe.trans hNow, hToken⟩
  slotsOutlive key := (h.slotsOutlive key).purge
  fleetOutlives := h.fleetOutlives.purge

end Aged

structure SameYoung (s s' : Keyspace) : Prop where
  clock : s.clock ≤ s'.clock
  issued : s.issued ≤ s'.issued
  slots : ∀ organizationId e, s'.staleCutoff < e.2 →
    (e ∈ s'.slots (.organization organizationId) ↔ e ∈ s.slots (.organization organizationId))
  fleet : ∀ e, s'.staleCutoff < e.2 → (e ∈ s'.fleetSlots ↔ e ∈ s.fleetSlots)

theorem young_outlives {now t : ℚ} (h : now - staleCallTimeout < t) : now ≤ t + 3600 :=
  (sub_lt_iff_lt_add.mp h).le.trans (add_le_add_right (by decide +kernel) t)

namespace SameYoung

variable {s s' s'' : Keyspace}

theorem staleCutoff (h : SameYoung s s') : s.staleCutoff ≤ s'.staleCutoff :=
  sub_le_sub_right (show s.clock.val ≤ s'.clock.val from h.clock) _

theorem trans (h : SameYoung s s') (h' : SameYoung s' s'') : SameYoung s s'' where
  clock := h.clock.trans h'.clock
  issued := h.issued.trans h'.issued
  slots organizationId e he :=
    (h'.slots organizationId e he).trans (h.slots organizationId e (h'.staleCutoff.trans_lt he))
  fleet e he := (h'.fleet e he).trans (h.fleet e (h'.staleCutoff.trans_lt he))

theorem pruneConcurrent (s : Keyspace) (key : ConcurrentKey) : SameYoung s (s.pruneConcurrent key) where
  clock := le_rfl
  issued := le_rfl
  slots _ _ hYoung := (s.mem_pruneConcurrent key _).trans
    (and_iff_left fun _ hRange => absurd hRange.2 (not_le.mpr hYoung))
  fleet _ _ := .rfl

theorem counted (s : Keyspace) (organizationId : Nat) : SameYoung s (s.counted organizationId) := by
  have hIssued : SameYoung s { s with issued := s.issued + 1 } :=
    ⟨le_rfl, Nat.le_succ _, fun _ _ _ => .rfl, fun _ _ => .rfl⟩
  exact hIssued.trans (.pruneConcurrent _ _)

theorem addScope (s : Keyspace) (scopeKey : String) (slotId : SlotId) :
    SameYoung s (s.addConcurrent (.scope scopeKey) slotId) where
  clock := le_rfl
  issued := le_rfl
  slots _ _ _ := by simp [mem_addConcurrent]
  fleet _ _ := .rfl

theorem zremScope (s : Keyspace) (scopeKey : String) (slotId : SlotId) :
    SameYoung s (s.zremConcurrent (.scope scopeKey) slotId) where
  clock := le_rfl
  issued := le_rfl
  slots _ _ _ := by simp [mem_zremConcurrent]
  fleet _ _ := .rfl

theorem advance (h : s.Aged) {now : UnixTime} (hNow : s.clock ≤ now) : SameYoung s (s.advance now) where
  clock := hNow
  issued := le_rfl
  slots organizationId e he := by
    refine ⟨fun hMem => s.advance_slots_subset _ now hMem, fun hMem => ?_⟩
    exact (h.slotsOutlive _).mem_purge hMem (young_outlives he)
  fleet e he := ⟨fun hMem => s.advance_fleetSlots_subset now hMem,
    fun hMem => h.fleetOutlives.mem_purge hMem (young_outlives he)⟩

end SameYoung

def grantSlot (s : Keyspace) (organizationId : Nat) (slotId : SlotId) : Keyspace :=
  (s.addConcurrent (.organization organizationId) slotId).mirrorFleet organizationId slotId

theorem mem_grantSlot (s : Keyspace) (organizationId k : Nat) (slotId : SlotId) {e : SlotId × ℚ} :
    e ∈ (s.grantSlot organizationId slotId).slots (.organization k) ↔
      k = organizationId ∧ e = (slotId, s.clock.val) ∨
      e ∈ s.slots (.organization k) ∧ (k = organizationId → e.1 ≠ slotId) := by
  rw [grantSlot, slots_mirrorFleet, mem_addConcurrent, ConcurrentKey.organization.injEq]

theorem mem_grantSlot_fleet (s : Keyspace) (organizationId : Nat) (slotId : SlotId) {e : (Nat × SlotId) × ℚ} :
    e ∈ (s.grantSlot organizationId slotId).fleetSlots ↔ e = ((organizationId, slotId), s.clock.val) ∨
      e ∈ s.fleetSlots ∧ ¬(0 ≤ e.2 ∧ e.2 ≤ s.staleCutoff) ∧ e.1 ≠ (organizationId, slotId) :=
  mem_mirrorFleet _ slotId organizationId

theorem acquireConcurrent_young {s : Keyspace} (h : s.Aged)
    (organizationId maxConcurrent : Nat) (scopeKey : Option String) (scopeMaxConcurrent : Nat) :
    let after := (s.acquireConcurrent organizationId maxConcurrent scopeKey scopeMaxConcurrent).2
    after.Aged ∧ (SameYoung s after ∨ ∃ base, SameYoung s base ∧ base.Aged ∧
      base.clock = s.clock ∧ s.nextSlotId.token < base.issued ∧
      after = base.grantSlot organizationId s.nextSlotId) := by
  intro after
  have hCounted : (s.counted organizationId).Aged := h.issue.pruneConcurrent _
  have hToken : s.nextSlotId.token < (s.counted organizationId).issued := Nat.lt_succ_self _
  obtain ⟨-, hAfter⟩ | ⟨scope, hScope, -, -, hAfter⟩ | ⟨-, -, hAfter⟩ | ⟨scope, hScope, -, -, hAfter⟩ :=
    s.acquireConcurrent_cases organizationId maxConcurrent scopeKey scopeMaxConcurrent
  · have hAfter : after = _ := congrArg Prod.snd hAfter
    rw [hAfter]
    exact ⟨hCounted, .inl (.counted s organizationId)⟩
  · have hAfter : after = _ := congrArg Prod.snd hAfter
    rw [hAfter]
    exact ⟨hCounted.pruneConcurrent scope,
      .inl ((SameYoung.counted s organizationId).trans (.pruneConcurrent _ scope))⟩
  · have hAfter : after = _ := congrArg Prod.snd hAfter
    rw [hAfter]
    exact ⟨(hCounted.addConcurrent _ hToken).mirrorFleet _ hToken,
      .inr ⟨_, .counted s organizationId, hCounted, rfl, hToken, rfl⟩⟩
  · have hAfter : after = _ := congrArg Prod.snd hAfter
    rw [hAfter]
    obtain ⟨scope, -, rfl⟩ := scopeConcurrentKey_eq_some hScope
    have hBase := (hCounted.pruneConcurrent (.scope scope)).addConcurrent (.scope scope) hToken
    refine ⟨(hBase.addConcurrent _ hToken).mirrorFleet _ hToken, .inr ⟨_, ?_, hBase, rfl, hToken, rfl⟩⟩
    exact ((SameYoung.counted s organizationId).trans (.pruneConcurrent _ _)).trans
      (.addScope _ scope s.nextSlotId)

end Keyspace

/-! ## The invariant -/

abbrev Due := Option (Nat × SlotId)

def mirrorProtocol : Protocol Command.Reply Error Due where
  permits due command :=
    ∀ organizationId slotId, command = .zremFleet organizationId slotId ↔
      due = some (organizationId, slotId)
  next
    | _, .zremConcurrent (.organization organizationId) slotId, .ok _ => some (organizationId, slotId)
    | _, _, _ => none

variable {ι : Type}

structure Mirrored (s : Keyspace) (due : ι → Due) : Prop extends s.Aged where
  toFleet : ∀ organizationId e, e ∈ s.slots (.organization organizationId) → s.staleCutoff < e.2 →
    ((organizationId, e.1), e.2) ∈ s.fleetSlots
  toOrganization : ∀ e ∈ s.fleetSlots, s.staleCutoff < e.2 →
    (e.1.2, e.2) ∈ s.slots (.organization e.1.1) ∨ ∃ proc, due proc = some e.1
  taken : ∀ proc organizationId slotId, due proc = some (organizationId, slotId) →
    slotId.token < s.issued ∧
      ∀ e ∈ s.slots (.organization organizationId), s.staleCutoff < e.2 → e.1 ≠ slotId

namespace Mirrored

variable {s s' : Keyspace} {due : ι → Due}

theorem of_sameYoung (h : Mirrored s due) (hSame : s.SameYoung s') (hAged : s'.Aged) : Mirrored s' due where
  toAged := hAged
  toFleet organizationId e he hYoung := by
    have hOld := (hSame.slots organizationId e hYoung).mp he
    exact (hSame.fleet _ hYoung).mpr
      (h.toFleet organizationId e hOld (hSame.staleCutoff.trans_lt hYoung))
  toOrganization e he hYoung := by
    have hOld := (hSame.fleet e hYoung).mp he
    refine (h.toOrganization e hOld (hSame.staleCutoff.trans_lt hYoung)).imp_left fun hSlot => ?_
    exact (hSame.slots _ (e.1.2, e.2) hYoung).mpr hSlot
  taken proc organizationId slotId hDue := by
    obtain ⟨hToken, hGone⟩ := h.taken proc organizationId slotId hDue
    refine ⟨hToken.trans_le hSame.issued, fun e he hYoung => ?_⟩
    exact hGone e ((hSame.slots organizationId e hYoung).mp he) (hSame.staleCutoff.trans_lt hYoung)

theorem grant (h : Mirrored s due) {organizationId : Nat} {slotId : SlotId}
    (hToken : slotId.token < s.issued) (hNew : ∀ proc k, due proc ≠ some (k, slotId))
    (hFresh : ∀ k, ∀ e ∈ s.slots (.organization k), s.staleCutoff < e.2 → e.1 ≠ slotId) :
    Mirrored (s.grantSlot organizationId slotId) due where
  toAged := (h.toAged.addConcurrent _ hToken).mirrorFleet _ hToken
  toFleet k e he hYoung := by
    rw [Keyspace.mem_grantSlot_fleet]
    obtain ⟨rfl, rfl⟩ | ⟨he, -⟩ := (s.mem_grantSlot organizationId k slotId).mp he
    · exact .inl rfl
    · refine .inr ⟨h.toFleet k e he hYoung, fun hRange => absurd hRange.2 (not_le.mpr hYoung), ?_⟩
      exact fun hEq => hFresh k e he hYoung (congrArg Prod.snd hEq)
  toOrganization e he hYoung := by
    rw [Keyspace.mem_grantSlot]
    obtain rfl | ⟨he, -, -⟩ := (s.mem_grantSlot_fleet organizationId slotId).mp he
    · exact .inl (.inl ⟨rfl, rfl⟩)
    · refine (h.toOrganization e he hYoung).imp_left fun hSlot => ?_
      exact .inr ⟨hSlot, fun _ => hFresh _ _ hSlot hYoung⟩
  taken proc k slot hDue := by
    obtain ⟨hOld, hGone⟩ := h.taken proc k slot hDue
    refine ⟨hOld, fun e he hYoung => ?_⟩
    obtain ⟨-, rfl⟩ | ⟨he, -⟩ := (s.mem_grantSlot organizationId k slotId).mp he
    · rintro rfl
      exact hNew proc k hDue
    · exact hGone e he hYoung

theorem acquireConcurrent (h : Mirrored s due) (organizationId maxConcurrent : Nat)
    (scopeKey : Option String) (scopeMaxConcurrent : Nat) :
    Mirrored (s.acquireConcurrent organizationId maxConcurrent scopeKey scopeMaxConcurrent).2 due := by
  obtain ⟨hAged, hSame | ⟨base, hSame, hBase, -, hToken, hAfter⟩⟩ :=
    Keyspace.acquireConcurrent_young h.toAged organizationId maxConcurrent scopeKey
      scopeMaxConcurrent
  · exact h.of_sameYoung hSame hAged
  · rw [hAfter]
    refine (h.of_sameYoung hSame hBase).grant hToken ?_ ?_
    · intro proc k hDue
      exact absurd (h.taken proc k _ hDue).1 (Nat.lt_irrefl _)
    · rintro k e he hYoung hEq
      have hOld := (h.slots _ e ((hSame.slots k e hYoung).mp he)).2.2
      rw [hEq] at hOld
      exact absurd hOld (Nat.lt_irrefl _)

variable [DecidableEq ι]

theorem take (h : Mirrored s due) {proc : ι} (hDue : due proc = none) (organizationId : Nat)
    {slotId : SlotId} (hToken : slotId.token < s.issued) :
    Mirrored (s.zremConcurrent (.organization organizationId) slotId)
      (Function.update due proc (some (organizationId, slotId))) where
  toAged := h.toAged.zremConcurrent _ slotId
  toFleet k e he hYoung := h.toFleet k e ((s.mem_zremConcurrent _ _ _).mp he).1 hYoung
  toOrganization e he hYoung := by
    obtain hSlot | ⟨other, hOther⟩ := h.toOrganization e he hYoung
    · by_cases hTaken : e.1 = (organizationId, slotId)
      · exact .inr ⟨proc, by rw [Function.update_self, hTaken]⟩
      · refine .inl ((s.mem_zremConcurrent _ _ _).mpr ⟨hSlot, fun hKey hSlotId => hTaken ?_⟩)
        cases hKey
        exact Prod.ext rfl hSlotId
    · have hNe : other ≠ proc := by
        rintro rfl
        rw [hDue] at hOther
        cases hOther
      exact .inr ⟨other, by rw [Function.update_of_ne hNe, hOther]⟩
  taken other k slot hOther := by
    by_cases hNe : other = proc
    · subst hNe
      rw [Function.update_self] at hOther
      cases hOther
      exact ⟨hToken, fun e he _ => ((s.mem_zremConcurrent _ _ _).mp he).2 rfl⟩
    · rw [Function.update_of_ne hNe] at hOther
      obtain ⟨hOld, hGone⟩ := h.taken other k slot hOther
      exact ⟨hOld, fun e he => hGone e ((s.mem_zremConcurrent _ _ _).mp he).1⟩

theorem clear (h : Mirrored s due) {proc : ι} {organizationId : Nat} {slotId : SlotId}
    (hDue : due proc = some (organizationId, slotId)) :
    Mirrored (s.zremFleet organizationId slotId) (Function.update due proc none) where
  toAged := h.toAged.zremFleet organizationId slotId
  toFleet k e he hYoung := by
    refine (s.mem_zremFleet slotId organizationId).mpr ⟨h.toFleet k e he hYoung, fun hEq => ?_⟩
    cases hEq
    exact (h.taken proc _ _ hDue).2 e he hYoung rfl
  toOrganization e he hYoung := by
    obtain ⟨he, hNe⟩ := (s.mem_zremFleet slotId organizationId).mp he
    refine (h.toOrganization e he hYoung).imp_right fun ⟨other, hOther⟩ => ⟨other, ?_⟩
    rw [Function.update_of_ne, hOther]
    rintro rfl
    rw [hDue] at hOther
    exact hNe (Option.some.inj hOther).symm
  taken other k slot hOther := by
    have hNe : other ≠ proc := by
      rintro rfl
      rw [Function.update_self] at hOther
      cases hOther
    rw [Function.update_of_ne hNe] at hOther
    exact h.taken other k slot hOther

end Mirrored

/-! ## Runs -/

def Command.removes : Command → Option SlotId
  | .zremConcurrent _ slotId => some slotId
  | .zremFleet _ slotId => some slotId
  | _ => none

/-- Releases do not fail, and they name slots that have been generated. -/
def completeReleases : System.Discipline ι Command.Reply Error Keyspace Move where
  call _ command outcome s :=
    ∀ slotId ∈ command.removes, outcome = .reply ∧ slotId.token < s.issued
  environment _ _ := True

theorem execute_mirrored {s : Keyspace} {due : ι → Due} (h : Mirrored s due) {command : Command}
    (hRemoves : command.removes = none) : Mirrored (execute command s).2 due := by
  by_cases hTouches : command.TouchesSlots
  · cases command with
    | acquireConcurrent organizationId maxConcurrent scopeKey scopeMaxConcurrent =>
      exact h.acquireConcurrent organizationId maxConcurrent scopeKey scopeMaxConcurrent
    | pruneConcurrent key =>
      exact h.of_sameYoung (.pruneConcurrent s key) (h.toAged.pruneConcurrent key)
    | zremConcurrent => cases hRemoves
    | zremFleet => cases hRemoves
    | _ => exact hTouches.elim
  · obtain ⟨hConcurrent, hFleet, hClock, hIssued⟩ := execute_frame hTouches s
    have hSlots : ∀ key, (execute command s).2.slots key = s.slots key := fun key => by
      rw [Keyspace.slots, hConcurrent, Keyspace.slots]
    have hFleetSlots : (execute command s).2.fleetSlots = s.fleetSlots := by
      rw [Keyspace.fleetSlots, hFleet, Keyspace.fleetSlots]
    refine h.of_sameYoung ⟨hClock.ge, hIssued.ge, ?_, ?_⟩ ⟨?_, ?_, ?_, ?_⟩
    · intro organizationId e _
      rw [hSlots]
    · intro e _
      rw [hFleetSlots]
    · rw [hClock, hIssued]
      exact fun key e he => h.slots key e (hSlots key ▸ he)
    · rw [hClock, hIssued, hFleetSlots]
      exact h.fleet
    · rw [hConcurrent]
      exact h.slotsOutlive
    · rw [hFleet]
      exact h.fleetOutlives

theorem environment_mirrored {s s' : Keyspace} {due : ι → Due} (h : Mirrored s due) {move : Move}
    (hMove : environment move s = some s') : Mirrored s' due := by
  cases move with
  | advance now =>
    rw [environment] at hMove
    split at hMove
    · rename_i hNow
      cases hMove
      exact h.of_sameYoung (.advance h.toAged hNow) (h.toAged.advance hNow)
    · cases hMove
  | draw entropy =>
    cases hMove
    exact h.of_sameYoung ⟨le_rfl, le_rfl, fun _ _ _ => .rfl, fun _ _ => .rfl⟩ ⟨h.slots, h.fleet,
      h.slotsOutlive, h.fleetOutlives⟩
  | configure organizationId limit =>
    cases hMove
    exact h.of_sameYoung ⟨le_rfl, le_rfl, fun _ _ _ => .rfl, fun _ _ => .rfl⟩ ⟨h.slots, h.fleet,
      h.slotsOutlive, h.fleetOutlives⟩

theorem perform_mirrored [DecidableEq ι] {s : Keyspace} {due : ι → Due} (h : Mirrored s due)
    {proc : ι} {command : Command} {outcome : Outcome Error}
    (hPermits : mirrorProtocol.permits (due proc) command)
    (hCall : (completeReleases (ι := ι)).call proc command outcome s) :
    Mirrored ((redis ι).perform proc command outcome s).2 (Function.update due proc
      (mirrorProtocol.next (due proc) command ((redis ι).perform proc command outcome s).1)) := by
  cases hRemoves : command.removes with
  | none =>
    -- such a command is only permitted when nothing is due
    have hDue : due proc = none := by
      cases hDue : due proc with
      | none => rfl
      | some slot =>
        obtain rfl := (hPermits slot.1 slot.2).mpr hDue
        cases hRemoves
    have hNext : ∀ result, mirrorProtocol.next (due proc) command result = none := by
      intro result
      cases command <;> first | rfl | cases hRemoves
    rw [hNext, ← hDue, Function.update_eq_self]
    cases outcome with
    | reply => exact execute_mirrored h hRemoves
    | fail error applied =>
      cases applied with
      | false => exact h
      | true => exact execute_mirrored h hRemoves
  | some slotId =>
    obtain ⟨rfl, hToken⟩ := hCall slotId (by rw [hRemoves]; rfl)
    cases command with
    | zremConcurrent key slot =>
      cases hRemoves
      have hDue : due proc = none := by
        cases hDue : due proc with
        | none => rfl
        | some slot => cases (hPermits slot.1 slot.2).mpr hDue
      cases key with
      | organization organizationId => exact h.take hDue organizationId hToken
      | scope scopeKey =>
        have hNext : mirrorProtocol.next (due proc) (.zremConcurrent (.scope scopeKey) slotId)
            ((redis ι).perform proc (.zremConcurrent (.scope scopeKey) slotId) .reply s).1 =
              due proc := hDue.symm
        rw [hNext, Function.update_eq_self]
        exact h.of_sameYoung (.zremScope s scopeKey slotId) (h.toAged.zremConcurrent _ slotId)
    | zremFleet organizationId slot =>
      cases hRemoves
      exact h.clear ((hPermits organizationId slotId).mp rfl)
    | _ => cases hRemoves

def Rested {α : Type} (_ : Except Error α) (due : Due) : Prop := due = none

theorem permits_none {command : Command}
    (h : ∀ organizationId slotId, command ≠ .zremFleet organizationId slotId) :
    mirrorProtocol.permits none command :=
  fun organizationId slotId => ⟨fun hEq => absurd hEq (h organizationId slotId), fun hEq => by cases hEq⟩

theorem permits_some (organizationId : Nat) (slotId : SlotId) :
    mirrorProtocol.permits (some (organizationId, slotId)) (.zremFleet organizationId slotId) :=
  fun k slot => ⟨fun hEq => by cases hEq; rfl, fun hEq => by cases hEq; rfl⟩

theorem releaseConcurrentSlot_obeys (organizationId : Nat) (slotId : SlotId) (scopeKey : Option String) :
    (releaseConcurrentSlot organizationId slotId scopeKey).Obeys mirrorProtocol Rested none := by
  refine orElse_obeys ?_ fun _ _ h => h
  simp only [call, Program.call_bind]
  refine ⟨permits_none fun _ _ => by simp, fun result => ?_⟩
  cases result with
  | error error => rfl
  | ok removed =>
    refine ⟨permits_some organizationId slotId, fun result => ?_⟩
    cases result with
    | error error => rfl
    | ok mirrored =>
      rw [Program.proceed_ok]
      cases hScope : scopeConcurrentKey scopeKey with
      | none => rfl
      | some scope =>
        obtain ⟨scope, -, rfl⟩ := Keyspace.scopeConcurrentKey_eq_some hScope
        refine ⟨permits_none fun _ _ => by simp, fun result => ?_⟩
        cases result <;> rfl

theorem SlotCall.method_obeys (L : Limits) (slotCall : SlotCall) :
    (slotCall.method L).Obeys mirrorProtocol Rested none := by
  cases slotCall with
  | acquire organizationId scopeKey =>
    have hCall : (tryAcquireConcurrentSlotDetails organizationId (L.organization organizationId)
        scopeKey (scopeKey.map L.scope)).Obeys mirrorProtocol Rested none :=
      orElse_obeys (Program.obeys_call (permits_none fun _ _ => by simp) fun _ => rfl)
        fun _ _ h => h
    exact hCall.bind (fun _ _ h => h) fun _ _ h => h
  | release organizationId slotId scopeKey =>
    exact (releaseConcurrentSlot_obeys organizationId slotId scopeKey).bind (fun _ _ h => h)
      fun _ _ h => h
  | count organizationId =>
    have hCount : (getConcurrentCount organizationId).Obeys mirrorProtocol Rested none := by
      refine orElse_obeys ?_ fun _ _ h => h
      simp only [call, Program.call_bind]
      refine ⟨permits_none fun _ _ => by simp, fun result => ?_⟩
      cases result with
      | error error => rfl
      | ok _ => exact Program.obeys_call (permits_none fun _ _ => by simp) fun _ => rfl
    exact hCount.bind (fun _ _ h => h) fun _ _ h => h

/-! ## Counts -/

theorem zcard_pruneConcurrent {s : Keyspace} (h : s.Aged) (organizationId : Nat) :
    (((s.pruneConcurrent (.organization organizationId)).concurrent
      (.organization organizationId)).value).zcard =
      ((s.slots (.organization organizationId)).filter (s.staleCutoff < ·.2)).card := by
  refine congrArg Finset.card (Finset.ext fun e => ?_)
  refine (s.mem_pruneConcurrent _ (.organization organizationId)).trans ?_
  rw [Finset.mem_filter]
  refine and_congr_right fun he => ?_
  have hPos := (h.slots _ e he).1.le
  simp [hPos]

theorem zcountFrom_fleet (s : Keyspace) : s.fleet.value.zcountFrom s.staleCutoff =
      (s.fleetSlots.filter (s.staleCutoff < ·.2)).card +
        (s.fleetSlots.filter (·.2 = s.staleCutoff)).card := by
  rw [SortedSet.zcountFrom, ← Finset.card_union_of_disjoint, ← Finset.filter_or]
  · refine congrArg Finset.card (Finset.filter_congr fun e _ => ?_)
    rw [le_iff_lt_or_eq, eq_comm]
  · exact Finset.disjoint_filter.mpr fun e _ hLt hEq => absurd hEq hLt.ne'

theorem card_young {s : Keyspace} {due : ι → Due} (h : Mirrored s due)
    (hDue : ∀ proc, due proc = none) {organizations : Finset Nat}
    (hOrganizations : ∀ k ∉ organizations, s.slots (.organization k) = ∅) :
    (s.fleetSlots.filter (s.staleCutoff < ·.2)).card =
      ∑ k ∈ organizations, ((s.slots (.organization k)).filter (s.staleCutoff < ·.2)).card := by
  have hSlot : ∀ e ∈ s.fleetSlots, s.staleCutoff < e.2 →
      (e.1.2, e.2) ∈ s.slots (.organization e.1.1) := by
    intro e he hYoung
    obtain hSlot | ⟨proc, hProc⟩ := h.toOrganization e he hYoung
    · exact hSlot
    · rw [hDue proc] at hProc
      cases hProc
  have hMaps : ∀ e ∈ s.fleetSlots.filter (s.staleCutoff < ·.2), e.1.1 ∈ organizations := by
    intro e he
    obtain ⟨he, hYoung⟩ := Finset.mem_filter.mp he
    by_contra hOutside
    have hMem := hSlot e he hYoung
    rw [hOrganizations _ hOutside] at hMem
    exact absurd hMem (Finset.notMem_empty _)
  rw [Finset.card_eq_sum_card_fiberwise hMaps]
  refine Finset.sum_congr rfl fun k _ => ?_
  refine Finset.card_nbij' (fun e => (e.1.2, e.2)) (fun e => ((k, e.1), e.2)) ?_ ?_ ?_ ?_
  · intro e he
    simp only [Finset.mem_coe, Finset.mem_filter] at he ⊢
    obtain ⟨⟨he, hYoung⟩, rfl⟩ := he
    exact ⟨hSlot e he hYoung, hYoung⟩
  · intro e he
    simp only [Finset.mem_coe, Finset.mem_filter] at he ⊢
    exact ⟨⟨h.toFleet k e he.1 he.2, he.2⟩, trivial⟩
  · intro e he
    simp only [Finset.mem_coe, Finset.mem_filter] at he
    rw [← he.2]
  · intro e _
    rfl

theorem mirrored_empty {s : Keyspace} (hConcurrent : s.concurrent = fun _ => default)
    (hFleet : s.fleet = default) : Mirrored s fun _ : ι => none := by
  have hSlots : ∀ key, s.slots key = ∅ := fun key => by rw [Keyspace.slots, hConcurrent]; rfl
  have hFleetSlots : s.fleetSlots = ∅ := by rw [Keyspace.fleetSlots, hFleet]; rfl
  refine ⟨⟨?_, ?_, ?_, ?_⟩, ?_, ?_, ?_⟩
  · simp [hSlots]
  · simp [hFleetSlots]
  · rw [hConcurrent]
    exact fun _ => outlives_default 3600
  · rw [hFleet]
    exact outlives_default 3600
  · simp [hSlots]
  · simp [hFleetSlots]
  · simp

variable [DecidableEq ι]

theorem mirrored_run {calls : ι → SlotCall} {limits : ι → Limits} {start : Keyspace}
    (hConcurrent : start.concurrent = fun _ => default) (hFleet : start.fleet = default)
    {events : List (Event ι Error Move)} {last : Config ι Command.Reply Error Unit Keyspace}
    (hFollows : (redis ι).Follows completeReleases
      ⟨start, fun proc => (calls proc).method (limits proc)⟩ events)
    (hRun : (redis ι).run ⟨start, fun proc => (calls proc).method (limits proc)⟩ events = some last)
    (hWhole : ∀ proc organizationId slotId,
      (last.procs proc).pending ≠ some (.zremFleet organizationId slotId)) :
    ∃ due, Mirrored last.shared due ∧ ∀ proc : ι, due proc = none := by
  have hEnd : ∃ due, Mirrored last.shared due ∧
      ∀ proc, (last.procs proc).Obeys mirrorProtocol Rested (due proc) := by
    refine System.ghost_invariant (P := fun _ => mirrorProtocol) (J := Mirrored) ?_ ?_ hFollows hRun
      (fun proc => (calls proc).method_obeys (limits proc)) (mirrored_empty hConcurrent hFleet)
    · intro proc command outcome s due h hPermits hCall
      exact perform_mirrored h hPermits hCall
    · intro move s s' due h _ hMove
      exact environment_mirrored h hMove
  obtain ⟨due, hMirrored, hObeys⟩ := hEnd
  refine ⟨due, hMirrored, fun proc => ?_⟩
  have hOwn := hObeys proc
  have hPending := hWhole proc
  cases hProc : last.procs proc with
  | ret value => rw [hProc] at hOwn; exact hOwn
  | raise error => rw [hProc] at hOwn; exact hOwn
  | await command resume =>
    rw [hProc] at hOwn hPending
    cases hDue : due proc with
    | none => rfl
    | some slot =>
      obtain rfl := (hOwn.1 slot.1 slot.2).mpr hDue
      exact absurd rfl (hPending slot.1 slot.2)

/-- After every run of acquisitions, counts and complete releases, whenever no release is half done:
the fleet count is the sum of the organization counts if and only if no mirrored slot has exactly
the age of the stale call timeout. -/
theorem fleet_count_iff (calls : ι → SlotCall) (limits : ι → Limits) (start : Keyspace)
    (hConcurrent : start.concurrent = fun _ => default) (hFleet : start.fleet = default)
    (events : List (Event ι Error Move)) (last : Config ι Command.Reply Error Unit Keyspace)
    (hFollows : (redis ι).Follows completeReleases
      ⟨start, fun proc => (calls proc).method (limits proc)⟩ events)
    (hRun : (redis ι).run ⟨start, fun proc => (calls proc).method (limits proc)⟩ events = some last)
    (hWhole : ∀ proc organizationId slotId,
      (last.procs proc).pending ≠ some (.zremFleet organizationId slotId))
    (organizations : Finset Nat)
    (hOrganizations : ∀ k ∉ organizations, last.shared.slots (.organization k) = ∅)
    (fleet : Nat) (counts : Nat → Nat)
    (hFleetCount : (getFleetConcurrentCount.eval execute last.shared).1 = .ok fleet)
    (hCounts : ∀ k, ((getConcurrentCount k).eval execute last.shared).1 = .ok (counts k)) :
    fleet = ∑ k ∈ organizations, counts k ↔
      ∀ e ∈ last.shared.fleetSlots, last.shared.clock - e.2 ≠ staleCallTimeout := by
  obtain ⟨due, hMirrored, hDue⟩ := mirrored_run hConcurrent hFleet hFollows hRun hWhole
  have hFleetValue : fleet = last.shared.fleet.value.zcountFrom last.shared.staleCutoff :=
    (Except.ok.inj hFleetCount).symm
  have hCountValue : ∀ k, counts k = ((last.shared.slots (.organization k)).filter
      (last.shared.staleCutoff < ·.2)).card := fun k =>
    (Except.ok.inj (hCounts k)).symm.trans (zcard_pruneConcurrent hMirrored.toAged k)
  rw [hFleetValue, zcountFrom_fleet, card_young hMirrored hDue hOrganizations,
    Finset.sum_congr rfl fun k _ => hCountValue k, Nat.add_eq_left, Finset.card_eq_zero,
    Finset.filter_eq_empty_iff]
  refine forall₂_congr fun e _ => not_congr ?_
  rw [Keyspace.staleCutoff, eq_sub_iff_add_eq, sub_eq_iff_eq_add, eq_comm, add_comm]

theorem fleet_count_iff_one_slot :
    ∃ last : Config Unit Command.Reply Error Unit Keyspace,
      (redis Unit).run
        ⟨.fresh ⟨1, UnixTime.one_pos⟩, fun _ => (SlotCall.acquire 7 none).method ⟨fun _ => 1, fun _ => 1⟩⟩
        [.resume () .reply] = some last ∧
      last.shared.fleet.value.zcountFrom last.shared.staleCutoff = ∑ k ∈ {7},
        ((last.shared.pruneConcurrent (.organization k)).concurrent (.organization k)).value.zcard := by
  refine ⟨_, rfl, ?_⟩
  refine (fleet_count_iff (fun _ => .acquire 7 none) (fun _ => ⟨fun _ => 1, fun _ => 1⟩)
    (.fresh ⟨1, UnixTime.one_pos⟩) rfl rfl [.resume () .reply] _ ?_ rfl ?_ {7} ?_ _ _ rfl fun _ => rfl).mpr
    ?_
  · refine ⟨?_, fun _ _ => trivial⟩
    rintro command ⟨⟩ slotId ⟨⟩
  · rintro _ _ _ ⟨⟩
  · intro k hk
    have hOther : k ≠ 7 := by simpa using hk
    exact Keyspace.acquireConcurrent_other (.fresh ⟨1, UnixTime.one_pos⟩) 7 hOther 1 none 0
  · decide +kernel

/-- Exactly 1200 seconds after its acquisition a slot is counted for the fleet only. -/
theorem fleet_count_not_sum :
    ¬∀ (calls : Unit → SlotCall) (limits : Unit → Limits) (start : Keyspace)
      (events : List (Event Unit Error Move)) (last : Config Unit Command.Reply Error Unit Keyspace)
      (organizations : Finset Nat) (fleet : Nat) (counts : Nat → Nat),
      (start.concurrent = fun _ => default) → start.fleet = default →
      (redis Unit).Follows completeReleases
        ⟨start, fun proc => (calls proc).method (limits proc)⟩ events →
      (redis Unit).run ⟨start, fun proc => (calls proc).method (limits proc)⟩ events = some last →
      (∀ proc organizationId slotId,
        (last.procs proc).pending ≠ some (.zremFleet organizationId slotId)) →
      (∀ k ∉ organizations, last.shared.slots (.organization k) = ∅) →
      (getFleetConcurrentCount.eval execute last.shared).1 = .ok fleet →
      (∀ k, ((getConcurrentCount k).eval execute last.shared).1 = .ok (counts k)) →
      fleet = ∑ k ∈ organizations, counts k := by
  intro h
  let acquired := ((Keyspace.fresh ⟨1, UnixTime.one_pos⟩).acquireConcurrent 7 1 none 0).2
  let now : UnixTime := ⟨1201, by decide⟩
  have hNow : (⟨1, UnixTime.one_pos⟩ : UnixTime) ≤ ⟨1201, by decide⟩ := by decide +kernel
  have hAdvance : environment (.advance now) acquired = some (acquired.advance now) :=
    environment_advance hNow
  let method : Unit → Method Unit :=
    fun _ => (SlotCall.acquire 7 none).method ⟨fun _ => 1, fun _ => 1⟩
  have hCount := h (fun _ => .acquire 7 none) (fun _ => ⟨fun _ => 1, fun _ => 1⟩)
    (.fresh ⟨1, UnixTime.one_pos⟩) [.resume () .reply, .environment (.advance now)]
    ⟨acquired.advance now, Function.update method () (.ret ())⟩ {7} 1
    (fun k => (((acquired.advance now).pruneConcurrent (.organization k)).concurrent
      (.organization k)).value.zcard) rfl rfl ?_ ?_ ?_ ?_ ?_ fun _ => rfl
  · exact absurd hCount (by decide +kernel)
  · refine ⟨?_, fun _ _ => ⟨trivial, fun _ _ => trivial⟩⟩
    rintro command ⟨⟩ slotId ⟨⟩
  · calc
      _ = ((environment (.advance now) acquired).map fun shared => Config.mk shared
            (Function.update method () (.ret ()))).bind fun next => some next := rfl
      _ = _ := by rw [hAdvance]; rfl
  · rintro _ _ _ ⟨⟩
  · intro k hk
    have hOther : k ≠ 7 := by simpa using hk
    have hSub := acquired.advance_slots_subset (.organization k) now
    rw [Keyspace.acquireConcurrent_other (.fresh ⟨1, UnixTime.one_pos⟩) 7 hOther 1 none 0] at hSub
    exact Finset.subset_empty.mp hSub
  · decide +kernel

end FastVoice.CallConcurrency
