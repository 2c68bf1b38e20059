import FastVoice.Async.Party
import FastVoice.CallConcurrency.NumberPool
import FastVoice.Campaign.Operations

/-! # What a dispatch holds

The slot that `dispatch_call` is given, the number that it acquires and the two mappings of the
workflow run that it creates, and what each of its commands does to them. Between its steps others
may do anything that leaves these alone.
-/
namespace FastVoice.Campaign
open Async CallConcurrency Sql

abbrev OwnCalls := List (CampaignCommand × Outcome Error × CampaignStore)

namespace CampaignCommand

def releases : CampaignCommand → Bool
  | .redis (.zremConcurrent _ _) => true
  | .redis (.zremFleet _ _) => true
  | .redis (.getSlotMapping _) => true
  | .redis (.deleteSlotMapping _) => true
  | .redis (.releaseNumber _ _) => true
  | .redis (.getNumberMapping _) => true
  | .redis (.deleteNumberMapping _) => true
  | _ => false

/-- The await ends in such a way that something is not released: it is cancelled, it is one of the
three that no handler guards, the slot mapping is stored without the dispatch learning of it, or the
number mapping is not stored. -/
def leaks (command : CampaignCommand) : Outcome Error → Bool
  | .reply => false
  | .fail error applied => error = .cancelledError ||
    match command with
    | .service (.updateWorkflowRun _ _) => true
    | .service (.authorizeWorkflowRunStart _) => true
    | .redis (.storeSlotMappingIfAbsent _ _) => applied
    | .redis (.setNumberMapping _ _) => !applied
    | _ => false

end CampaignCommand

namespace OwnCalls

def leaked (own : OwnCalls) : Bool := own.any fun call => call.1.leaks call.2.1

def placedCall (own : OwnCalls) : Bool := own.any fun call => call.1.placesCall && call.2.1.executed

def handedOut : CampaignCommand × Outcome Error × CampaignStore → Option String
  | (.redis (.acquireNumber key), .reply, found) =>
    (found.keyspace.acquireNumber key).1.filter (· ≠ "")
  | _ => none

def created : CampaignCommand × Outcome Error × CampaignStore → Option Nat
  | (.createWorkflowRun _, .reply, found) => some found.workflowRuns.nextKey
  | _ => none

def fromNumber (own : OwnCalls) : Option String := own.findSome? handedOut

def workflowRun (own : OwnCalls) : Option Nat := own.findSome? created

end OwnCalls

namespace CampaignStore

def InSlots (s : CampaignStore) (key : ConcurrentKey) (slotId : SlotId) : Prop :=
  ∃ e ∈ s.keyspace.slots key, e.1 = slotId

def InFleet (s : CampaignStore) (organizationId : Nat) (slotId : SlotId) : Prop :=
  ∃ e ∈ s.keyspace.fleetSlots, e.1 = (organizationId, slotId)

instance (s : CampaignStore) (key : ConcurrentKey) (slotId : SlotId) :
    Decidable (s.InSlots key slotId) :=
  inferInstanceAs (Decidable (∃ e ∈ s.keyspace.slots key, e.1 = slotId))

def Unmapped (s : CampaignStore) : Prop := ∀ id, s.workflowRuns.nextKey ≤ id →
  (s.keyspace.slotMapping id).value = none ∧ (s.keyspace.numberMapping id).value = none

end CampaignStore

structure Released (slot : CallConcurrencySlot) (pool : PoolKey) (number : Option String)
    (run : Option Nat) (s : CampaignStore) : Prop where
  slots : ∀ key, ¬s.InSlots key slot.slotId
  fleet : ∀ organizationId, ¬s.InFleet organizationId slot.slotId
  number : ∀ fromNumber ∈ number, (fromNumber, 0) ∈ s.keyspace.numbers pool
  slotMapping : ∀ id ∈ run, (s.keyspace.slotMapping id).value = none
  numberMapping : ∀ id ∈ run, (s.keyspace.numberMapping id).value = none

/-- The slot as its acquisition leaves it: in the set of its organization, and in no other sets than
those of its organization and its scope and the fleet's. -/
structure Acquired (slot : CallConcurrencySlot) (s : CampaignStore) : Prop where
  held : s.InSlots (.organization slot.organizationId) slot.slotId
  slots : ∀ key, s.InSlots key slot.slotId →
    key = .organization slot.organizationId ∨ scopeConcurrentKey slot.scopeKey = some key
  fleet : ∀ organizationId, s.InFleet organizationId slot.slotId →
    organizationId = slot.organizationId

section Untouched

variable {slot : CallConcurrencySlot} {pool : PoolKey} {number : Option String} {run : Option Nat}

/-- Nothing that the dispatch holds has changed, and no future workflow run has got a mapping. -/
structure Untouched (slot : CallConcurrencySlot) (pool : PoolKey) (number : Option String)
    (run : Option Nat) (s s' : CampaignStore) : Prop where
  slots : ∀ key, s'.InSlots key slot.slotId ↔ s.InSlots key slot.slotId
  fleet : ∀ organizationId, s'.InFleet organizationId slot.slotId ↔
    s.InFleet organizationId slot.slotId
  numbers : ∀ fromNumber ∈ number, ∀ score, (fromNumber, score) ∈ s'.keyspace.numbers pool ↔
    (fromNumber, score) ∈ s.keyspace.numbers pool
  slotMapping : ∀ id ∈ run,
    (s'.keyspace.slotMapping id).value = (s.keyspace.slotMapping id).value
  numberMapping : ∀ id ∈ run,
    (s'.keyspace.numberMapping id).value = (s.keyspace.numberMapping id).value
  unmapped : s.Unmapped → s'.Unmapped

theorem Untouched.refl (s : CampaignStore) : Untouched slot pool number run s s :=
  ⟨fun _ => Iff.rfl, fun _ => Iff.rfl, fun _ _ _ => Iff.rfl, fun _ _ => rfl, fun _ _ => rfl, id⟩

theorem Untouched.trans {s s' s'' : CampaignStore} (h : Untouched slot pool number run s s')
    (h' : Untouched slot pool number run s' s'') : Untouched slot pool number run s s'' where
  slots key := (h'.slots key).trans (h.slots key)
  fleet organizationId := (h'.fleet organizationId).trans (h.fleet organizationId)
  numbers fromNumber hNumber score :=
    (h'.numbers fromNumber hNumber score).trans (h.numbers fromNumber hNumber score)
  slotMapping id hId := (h'.slotMapping id hId).trans (h.slotMapping id hId)
  numberMapping id hId := (h'.numberMapping id hId).trans (h.numberMapping id hId)
  unmapped hUnmapped := h'.unmapped (h.unmapped hUnmapped)

theorem Untouched.released_iff {s s' : CampaignStore} (h : Untouched slot pool number run s s') :
    Released slot pool number run s' ↔ Released slot pool number run s := by
  constructor
  · intro hReleased
    exact ⟨fun key => (h.slots key).not.mp (hReleased.slots key),
      fun organizationId => (h.fleet organizationId).not.mp (hReleased.fleet organizationId),
      fun fromNumber hNumber => (h.numbers _ hNumber 0).mp (hReleased.number _ hNumber),
      fun id hId => (h.slotMapping id hId).symm.trans (hReleased.slotMapping id hId),
      fun id hId => (h.numberMapping id hId).symm.trans (hReleased.numberMapping id hId)⟩
  · intro hReleased
    exact ⟨fun key => (h.slots key).not.mpr (hReleased.slots key),
      fun organizationId => (h.fleet organizationId).not.mpr (hReleased.fleet organizationId),
      fun fromNumber hNumber => (h.numbers _ hNumber 0).mpr (hReleased.number _ hNumber),
      fun id hId => (h.slotMapping id hId).trans (hReleased.slotMapping id hId),
      fun id hId => (h.numberMapping id hId).trans (hReleased.numberMapping id hId)⟩

def Harmless : CampaignCommand → Prop
  | .redis .sleep => True
  | .redis (.getSlotMapping _) => True
  | .redis (.getNumberMapping _) => True
  | .redis (.expireNumberMapping _) => True
  | .redis _ => False
  | .createWorkflowRun _ => False
  | .createQueuedRun _ => False
  | _ => True

theorem Harmless.untouched {command : CampaignCommand} (h : Harmless command) (s : CampaignStore) :
    Untouched slot pool number run s (s.execute command).2 := by
  cases command with
  | redis command =>
    cases command with
    | expireNumberMapping workflowRunId =>
      have hValue : ∀ id, ((s.execute (.redis (.expireNumberMapping workflowRunId))).2.keyspace
          |>.numberMapping id).value = (s.keyspace.numberMapping id).value := by
        intro id
        simp only [CampaignStore.execute, CallConcurrency.execute, Function.update_apply]
        split
        · rename_i hId
          rw [hId, Redis.Volatile.value_expire]
        · rfl
      refine ⟨fun _ => Iff.rfl, fun _ => Iff.rfl, fun _ _ _ => Iff.rfl, fun _ _ => rfl,
        fun id _ => hValue id, fun hUnmapped id hId => ?_⟩
      obtain ⟨hSlot, hNumber⟩ := hUnmapped id hId
      exact ⟨hSlot, (hValue id).trans hNumber⟩
    | sleep => exact .refl s
    | getSlotMapping workflowRunId => exact .refl s
    | getNumberMapping workflowRunId => exact .refl s
    | _ => exact h.elim
  | createWorkflowRun queuedRunId => exact h.elim
  | createQueuedRun run => exact h.elim
  | _ => exact ⟨fun _ => Iff.rfl, fun _ => Iff.rfl, fun _ _ _ => Iff.rfl, fun _ _ => rfl,
      fun _ _ => rfl, fun hUnmapped => hUnmapped⟩

end Untouched

/-- What a dispatch still holds: the sets that may contain the slot, the number and whether it was
given back, the run and which of its mappings are stored. -/
structure Holdings where
  keys : List ConcurrentKey
  inFleet : Bool
  number : Option String
  returned : Bool
  run : Option Nat
  bound : Bool
  mapped : Bool
  leaked : Bool

def slotMappingOf (slot : CallConcurrencySlot) : SlotMapping :=
  ⟨slot.organizationId, slot.slotId, if slot.scopeKey = some "" then none else slot.scopeKey⟩

section Holdings

variable {slot : CallConcurrencySlot} {pool : PoolKey} {held : Holdings} {s s' : CampaignStore}

structure HoldsIn (slot : CallConcurrencySlot) (pool : PoolKey) (held : Holdings)
    (s : CampaignStore) : Prop where
  slots : ∀ key, s.InSlots key slot.slotId → key ∈ held.keys
  member : .organization slot.organizationId ∈ held.keys →
    s.InSlots (.organization slot.organizationId) slot.slotId
  fleet : ∀ organizationId, s.InFleet organizationId slot.slotId →
    held.inFleet = true ∧ organizationId = slot.organizationId
  score : ∀ fromNumber ∈ held.number, ∃ score, (fromNumber, score) ∈ s.keyspace.numbers pool ∧
    (score = 0 ↔ held.returned = true)
  unmapped : held.run = none → s.Unmapped
  slotMapping : ∀ id ∈ held.run, (s.keyspace.slotMapping id).value =
    if held.bound then some (slotMappingOf slot) else none
  numberMapping : ∀ id ∈ held.run, (s.keyspace.numberMapping id).value =
    if held.mapped then held.number.map (NumberMapping.mk pool) else none

theorem HoldsIn.untouched (h : HoldsIn slot pool held s)
    (hUntouched : Untouched slot pool held.number held.run s s') : HoldsIn slot pool held s' where
  slots key hKey := h.slots key ((hUntouched.slots key).mp hKey)
  member hKey := (hUntouched.slots _).mpr (h.member hKey)
  fleet organizationId hFleet :=
    h.fleet organizationId ((hUntouched.fleet organizationId).mp hFleet)
  score fromNumber hNumber := by
    obtain ⟨score, hScore, hReturned⟩ := h.score fromNumber hNumber
    exact ⟨score, (hUntouched.numbers fromNumber hNumber score).mpr hScore, hReturned⟩
  unmapped hRun := hUntouched.unmapped (h.unmapped hRun)
  slotMapping id hId := (hUntouched.slotMapping id hId).trans (h.slotMapping id hId)
  numberMapping id hId := (hUntouched.numberMapping id hId).trans (h.numberMapping id hId)

theorem HoldsIn.released (h : HoldsIn slot pool held s) (hKeys : held.keys = [])
    (hFleet : held.inFleet = false) (hNumber : held.number ≠ none → held.returned = true)
    (hRun : held.run ≠ none → held.bound = false ∧ held.mapped = false) :
    Released slot pool held.number held.run s where
  slots key hKey := by
    have hMem := h.slots key hKey
    rw [hKeys] at hMem
    cases hMem
  fleet organizationId hMember := by
    have hIn := (h.fleet organizationId hMember).1
    rw [hFleet] at hIn
    cases hIn
  number fromNumber hMem := by
    obtain ⟨score, hScore, hReturned⟩ := h.score fromNumber hMem
    have hSome : held.number ≠ none := fun hNone => by rw [hNone] at hMem; cases hMem
    rw [← hReturned.mpr (hNumber hSome)]
    exact hScore
  slotMapping id hId := by
    have hSome : held.run ≠ none := fun hNone => by rw [hNone] at hId; cases hId
    rw [h.slotMapping id hId, (hRun hSome).1]
    rfl
  numberMapping id hId := by
    have hSome : held.run ≠ none := fun hNone => by rw [hNone] at hId; cases hId
    rw [h.numberMapping id hId, (hRun hSome).2]
    rfl

theorem HoldsIn.not_released_of_member (h : HoldsIn slot pool held s)
    (hKey : .organization slot.organizationId ∈ held.keys) : ¬Released slot pool held.number held.run s :=
  fun hReleased => hReleased.slots _ (h.member hKey)

theorem HoldsIn.not_released_of_number (h : HoldsIn slot pool held s) {fromNumber : String}
    (hNumber : held.number = some fromNumber) (hReturned : held.returned = false) :
    ¬Released slot pool held.number held.run s := by
  intro hReleased
  obtain ⟨score, hScore, hZero⟩ := h.score fromNumber hNumber
  have hSame : score = 0 :=
    (s.keyspace.numberPool pool).value.score_unique hScore (hReleased.number fromNumber hNumber)
  rw [hZero.mp hSame] at hReturned
  cases hReturned

theorem HoldsIn.not_released_of_bound (h : HoldsIn slot pool held s) {id : Nat}
    (hRun : held.run = some id) (hBound : held.bound = true) :
    ¬Released slot pool held.number held.run s := by
  intro hReleased
  have hNone := hReleased.slotMapping id hRun
  rw [h.slotMapping id hRun, hBound] at hNone
  cases hNone

theorem inSlots_zremConcurrent {key other : ConcurrentKey} {slotId slotId' : SlotId} :
    (s.execute (.redis (.zremConcurrent key slotId))).2.InSlots other slotId' ↔
      s.InSlots other slotId' ∧ (other = key → slotId' ≠ slotId) := by
  constructor
  · rintro ⟨e, hMem, rfl⟩
    obtain ⟨hBefore, hOther⟩ := (s.keyspace.mem_zremConcurrent key other slotId).mp hMem
    exact ⟨⟨e, hBefore, rfl⟩, hOther⟩
  · rintro ⟨⟨e, hMem, rfl⟩, hOther⟩
    exact ⟨e, (s.keyspace.mem_zremConcurrent key other slotId).mpr ⟨hMem, hOther⟩, rfl⟩

theorem HoldsIn.zremConcurrent (h : HoldsIn slot pool held s) (key : ConcurrentKey) :
    HoldsIn slot pool { held with keys := held.keys.filter (· ≠ key) }
      (s.execute (.redis (.zremConcurrent key slot.slotId))).2 where
  slots other hOther := by
    obtain ⟨hBefore, hNe⟩ := inSlots_zremConcurrent.mp hOther
    rw [List.mem_filter]
    exact ⟨h.slots other hBefore, decide_eq_true fun hEq => hNe hEq rfl⟩
  member hKey := by
    obtain ⟨hBefore, hNe⟩ := List.mem_filter.mp hKey
    exact inSlots_zremConcurrent.mpr
      ⟨h.member hBefore, fun hEq => absurd hEq (of_decide_eq_true hNe)⟩
  fleet := h.fleet
  score := h.score
  unmapped := h.unmapped
  slotMapping := h.slotMapping
  numberMapping := h.numberMapping

theorem HoldsIn.zremFleet (h : HoldsIn slot pool held s) :
    HoldsIn slot pool { held with inFleet := false }
      (s.execute (.redis (.zremFleet slot.organizationId slot.slotId))).2 where
  slots := h.slots
  member := h.member
  fleet organizationId hMember := by
    obtain ⟨e, hMem, hSlot⟩ := hMember
    obtain ⟨hBefore, hNe⟩ := (s.keyspace.mem_zremFleet slot.slotId slot.organizationId).mp hMem
    have hSame := (h.fleet organizationId ⟨e, hBefore, hSlot⟩).2
    rw [hSame] at hSlot
    exact absurd hSlot hNe
  score := h.score
  unmapped := h.unmapped
  slotMapping := h.slotMapping
  numberMapping := h.numberMapping

theorem HoldsIn.deleteSlotMapping (h : HoldsIn slot pool held s) {id : Nat}
    (hRun : held.run = some id) : HoldsIn slot pool { held with bound := false }
      (s.execute (.redis (.deleteSlotMapping id))).2 where
  slots := h.slots
  member := h.member
  fleet := h.fleet
  score := h.score
  unmapped hNone := by rw [hRun] at hNone; cases hNone
  slotMapping other hOther := by
    obtain rfl : id = other := Option.some.inj (hRun.symm.trans hOther)
    show (Function.update s.keyspace.slotMapping id default id).value = none
    rw [Function.update_self]
    rfl
  numberMapping := h.numberMapping

theorem HoldsIn.deleteNumberMapping (h : HoldsIn slot pool held s) {id : Nat}
    (hRun : held.run = some id) : HoldsIn slot pool { held with mapped := false }
      (s.execute (.redis (.deleteNumberMapping id))).2 where
  slots := h.slots
  member := h.member
  fleet := h.fleet
  score := h.score
  unmapped hNone := by rw [hRun] at hNone; cases hNone
  slotMapping := h.slotMapping
  numberMapping other hOther := by
    obtain rfl : id = other := Option.some.inj (hRun.symm.trans hOther)
    show (Function.update s.keyspace.numberMapping id default id).value = none
    rw [Function.update_self]
    rfl

theorem HoldsIn.releaseNumber (h : HoldsIn slot pool held s) {fromNumber : String}
    (hNumber : held.number = some fromNumber) :
    (s.execute (.redis (.releaseNumber pool fromNumber))).1 = true ∧
      HoldsIn slot pool { held with returned := true }
        (s.execute (.redis (.releaseNumber pool fromNumber))).2 := by
  obtain ⟨score, hScore, -⟩ := h.score fromNumber hNumber
  have hMember : (s.keyspace.numberPool pool).value.Member fromNumber :=
    Redis.SortedSet.member_iff.mpr ⟨score, hScore⟩
  have hAfter : s.keyspace.releaseNumber pool fromNumber = (true,
      s.keyspace.putNumbers pool ((s.keyspace.numberPool pool).value.zadd 0 fromNumber)) :=
    if_pos hMember
  have hExecute : s.execute (.redis (.releaseNumber pool fromNumber)) = (true, { s with
      keyspace := s.keyspace.putNumbers pool
        ((s.keyspace.numberPool pool).value.zadd 0 fromNumber) }) := by
    simp only [CampaignStore.execute, CallConcurrency.execute, hAfter]
  rw [hExecute]
  refine ⟨rfl, ?_⟩
  exact {
    slots := h.slots
    member := h.member
    fleet := h.fleet
    score := by
      intro other hOther
      obtain rfl : fromNumber = other := Option.some.inj (hNumber.symm.trans hOther)
      refine ⟨0, (s.keyspace.mem_putNumbers pool pool).mpr (.inl ⟨rfl, ?_⟩), by simp⟩
      exact Redis.SortedSet.mem_zadd.mpr (.inl rfl)
    unmapped := h.unmapped
    slotMapping := h.slotMapping
    numberMapping := h.numberMapping }

theorem execute_acquireNumber (s : CampaignStore) (pool : PoolKey) :
    ∃ numbers, (s.execute (.redis (.acquireNumber pool))).2 =
      { s with keyspace := s.keyspace.putNumbers pool numbers } := by
  obtain hAfter | ⟨chosen, -, hAfter⟩ := s.keyspace.acquireNumber_cases pool
  · exact ⟨_, by simp only [CampaignStore.execute, CallConcurrency.execute, hAfter]; rfl⟩
  · exact ⟨_, by simp only [CampaignStore.execute, CallConcurrency.execute, hAfter]; rfl⟩

theorem HoldsIn.acquireNone (h : HoldsIn slot pool held s) (hNumber : held.number = none) :
    HoldsIn slot pool held (s.execute (.redis (.acquireNumber pool))).2 := by
  obtain ⟨numbers, hAfter⟩ := execute_acquireNumber s pool
  rw [hAfter]
  exact {
    slots := h.slots
    member := h.member
    fleet := h.fleet
    score := fun fromNumber hMem => by rw [hNumber] at hMem; cases hMem
    unmapped := h.unmapped
    slotMapping := h.slotMapping
    numberMapping := h.numberMapping }

theorem HoldsIn.acquireSome (h : HoldsIn slot pool held s) (hMapped : held.mapped = false)
    {fromNumber : String} (hReply : (s.keyspace.acquireNumber pool).1 = some fromNumber) :
    HoldsIn slot pool { held with number := some fromNumber, returned := false }
      (s.execute (.redis (.acquireNumber pool))).2 := by
  have hStamped : (fromNumber, s.keyspace.clock.val) ∈
      (s.execute (.redis (.acquireNumber pool))).2.keyspace.numbers pool :=
    Keyspace.acquireNumber_stamped hReply
  obtain ⟨numbers, hAfter⟩ := execute_acquireNumber s pool
  rw [hAfter] at hStamped ⊢
  exact {
    slots := h.slots
    member := h.member
    fleet := h.fleet
    score := by
      intro other hOther
      obtain rfl : fromNumber = other := Option.some.inj hOther
      exact ⟨_, hStamped, by simp [s.keyspace.clock.property.ne']⟩
    unmapped := h.unmapped
    slotMapping := h.slotMapping
    numberMapping := by
      intro id hId
      rw [hMapped]
      have hNone := h.numberMapping id hId
      rw [hMapped] at hNone
      exact hNone }

theorem HoldsIn.createUnknown (h : HoldsIn slot pool held s) (queuedRunId : Nat) :
    HoldsIn slot pool held (s.execute (.createWorkflowRun queuedRunId)).2 where
  slots := h.slots
  member := h.member
  fleet := h.fleet
  score := h.score
  unmapped hNone id hFuture :=
    h.unmapped hNone id ((Table.nextKey_le_insert s.workflowRuns _).trans hFuture)
  slotMapping := h.slotMapping
  numberMapping := h.numberMapping

theorem HoldsIn.create (h : HoldsIn slot pool held s) (hRun : held.run = none) (queuedRunId : Nat) :
    HoldsIn slot pool
      { held with run := some s.workflowRuns.nextKey, bound := false, mapped := false }
      (s.execute (.createWorkflowRun queuedRunId)).2 := by
  obtain ⟨hSlot, hNumber⟩ := h.unmapped hRun _ le_rfl
  exact {
    slots := h.slots
    member := h.member
    fleet := h.fleet
    score := h.score
    unmapped := fun hNone => by cases hNone
    slotMapping := by
      intro id hId
      cases hId
      exact hSlot
    numberMapping := by
      intro id hId
      cases hId
      exact hNumber }

theorem HoldsIn.bind (h : HoldsIn slot pool held s) {id : Nat} (hRun : held.run = some id)
    (hBound : held.bound = false) :
    (s.execute (.redis (.storeSlotMappingIfAbsent id (slotMappingOf slot)))).1 = true ∧
      HoldsIn slot pool { held with bound := true }
        (s.execute (.redis (.storeSlotMappingIfAbsent id (slotMappingOf slot)))).2 := by
  have hAbsent : (s.keyspace.slotMapping id).value = none := by
    rw [h.slotMapping id hRun, hBound]
    rfl
  obtain ⟨hPresent, -⟩ | ⟨-, hAfter⟩ :=
    storeSlotMappingIfAbsent_cases s.keyspace id (slotMappingOf slot)
  · exact absurd hAbsent hPresent
  · have hExecute : s.execute (.redis (.storeSlotMappingIfAbsent id (slotMappingOf slot))) =
        (true, { s with keyspace := { s.keyspace with
          slotMapping := Function.update s.keyspace.slotMapping id
            ⟨some (slotMappingOf slot), some (s.keyspace.clock + staleCallTimeout)⟩ } }) := by
      simp only [CampaignStore.execute, CallConcurrency.execute, hAfter]
    rw [hExecute]
    refine ⟨rfl, ?_⟩
    exact {
      slots := h.slots
      member := h.member
      fleet := h.fleet
      score := h.score
      unmapped := fun hNone => by rw [hRun] at hNone; cases hNone
      slotMapping := by
        intro other hOther
        obtain rfl : id = other := Option.some.inj (hRun.symm.trans hOther)
        simp
      numberMapping := h.numberMapping }

theorem HoldsIn.map (h : HoldsIn slot pool held s) {id : Nat} {fromNumber : String}
    (hRun : held.run = some id) (hNumber : held.number = some fromNumber) :
    HoldsIn slot pool { held with mapped := true }
      (s.execute (.redis (.setNumberMapping id ⟨pool, fromNumber⟩))).2 where
  slots := h.slots
  member := h.member
  fleet := h.fleet
  score := h.score
  unmapped hNone := by rw [hRun] at hNone; cases hNone
  slotMapping := h.slotMapping
  numberMapping other hOther := by
    obtain rfl : id = other := Option.some.inj (hRun.symm.trans hOther)
    simp [CampaignStore.execute, CallConcurrency.execute, hNumber]

end Holdings

section Party

variable {ι : Type} [DecidableEq ι]

/-- The dispatch of one slot: its release operations succeed, and the others leave alone what it
holds. -/
def dispatchParty (me : ι) (slot : CallConcurrencySlot) (pool : PoolKey) :
    Party ι CampaignCommand.Reply Error (CampaignTrace ι) CampaignMove where
  system := (campaignServices ι).recorded
  proc := me
  allows command outcome := command.releases = true → outcome = .reply
  relies trace trace' := trace'.own me = trace.own me ∧
    Untouched slot pool (OwnCalls.fromNumber (trace.own me)) (OwnCalls.workflowRun (trace.own me))
      trace.state trace'.state
  refl trace := ⟨rfl, .refl trace.state⟩
  trans := by
    rintro trace trace' trace'' ⟨hOwn, hUntouched⟩ ⟨hOwn', hUntouched'⟩
    rw [hOwn] at hUntouched'
    exact ⟨hOwn'.trans hOwn, hUntouched.trans hUntouched'⟩

end Party

end FastVoice.Campaign
