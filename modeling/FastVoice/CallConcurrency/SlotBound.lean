import FastVoice.CallConcurrency.SlotSets

/-! # The two concurrency limits

The invariant is on raw cardinalities: every set is within its limit, stale entries included. The
acquire script checks the count it has just pruned, every other command only removes entries, and
so no order of calls and no failure between two commands can break it.
-/
namespace FastVoice.CallConcurrency
open Async Redis

structure Limits where
  organization : Nat → Nat
  scope : String → Nat

def Limits.of (L : Limits) : ConcurrentKey → Nat
  | .organization organizationId => L.organization organizationId
  | .scope scopeKey => L.scope scopeKey

inductive SlotCall where
  | acquire (organizationId : Nat) (scopeKey : Option String)
  | release (organizationId : Nat) (slotId : SlotId) (scopeKey : Option String)
  | count (organizationId : Nat)

def SlotCall.method (L : Limits) : SlotCall → Method Unit
  | .acquire organizationId scopeKey => do
    let _ ← tryAcquireConcurrentSlotDetails organizationId (L.organization organizationId) scopeKey
      (scopeKey.map L.scope)
  | .release organizationId slotId scopeKey => do
    let _ ← releaseConcurrentSlot organizationId slotId scopeKey
  | .count organizationId => do
    let _ ← getConcurrentCount organizationId

def Limits.Respected (L : Limits) : Command → Prop
  | .acquireConcurrent organizationId maxConcurrent scopeKey scopeMaxConcurrent =>
    maxConcurrent = L.organization organizationId ∧
      ∀ scope ∈ scopeKey, scopeMaxConcurrent = L.scope scope
  | _ => True

def RemovesOnly (organizationId : Nat) (slotId : SlotId) : Command → Prop
  | .zremConcurrent _ slot => slot = slotId
  | .zremFleet organization slot => organization = organizationId ∧ slot = slotId
  | _ => False

def SlotCall.Sends (L : Limits) : SlotCall → Command → Prop
  | .release organizationId slotId _, command => RemovesOnly organizationId slotId command
  | _, command => L.Respected command

theorem releaseConcurrentSlot_issues (organizationId : Nat) (slotId : SlotId) (scopeKey : Option String) :
    (releaseConcurrentSlot organizationId slotId scopeKey).Issues (RemovesOnly organizationId slotId) := by
  have hZrem : ∀ key, RemovesOnly organizationId slotId (.zremConcurrent key slotId) :=
    fun _ => rfl
  have hFleet : RemovesOnly organizationId slotId (.zremFleet organizationId slotId) := ⟨rfl, rfl⟩
  refine orElse_issues ((Program.issues_call (hZrem _)).bind fun _ =>
    (Program.issues_call hFleet).bind fun _ => ?_)
  cases scopeConcurrentKey scopeKey with
  | none => trivial
  | some scope => exact (Program.issues_call (hZrem scope)).bind fun _ => trivial

theorem SlotCall.method_issues (L : Limits) (slotCall : SlotCall) :
    (slotCall.method L).Issues (slotCall.Sends L) := by
  cases slotCall with
  | acquire organizationId scopeKey =>
    refine (orElse_issues (Program.issues_call ⟨rfl, ?_⟩)).bind fun _ => trivial
    rintro scope rfl
    rfl
  | release organizationId slotId scopeKey =>
    exact (releaseConcurrentSlot_issues organizationId slotId scopeKey).bind fun _ => trivial
  | count organizationId =>
    exact (orElse_issues ((Program.issues_call trivial).bind fun _ =>
      Program.issues_call trivial)).bind fun _ => trivial

theorem SlotCall.sends_respected {L : Limits} {slotCall : SlotCall} {command : Command}
    (h : slotCall.Sends L command) : L.Respected command := by
  cases slotCall with
  | acquire => exact h
  | count => exact h
  | release =>
    cases command <;> trivial

namespace Keyspace

def Within (s : Keyspace) (L : Limits) : Prop := ∀ key, (s.slots key).card ≤ L.of key

def liveSlots (s : Keyspace) (key : ConcurrentKey) : Finset (SlotId × ℚ) :=
  (s.slots key).filter fun e => s.clock - e.2 < staleCallTimeout

theorem Within.of_subset {s t : Keyspace} {L : Limits} (h : s.Within L)
    (hSub : ∀ key, t.slots key ⊆ s.slots key) : t.Within L :=
  fun key => (Finset.card_le_card (hSub key)).trans (h key)

theorem pruneConcurrent_subset (s : Keyspace) (key k : ConcurrentKey) :
    (s.pruneConcurrent key).slots k ⊆ s.slots k :=
  fun _ he => ((s.mem_pruneConcurrent key k).mp he).1

theorem counted_subset (s : Keyspace) (organizationId : Nat) (k : ConcurrentKey) :
    (s.counted organizationId).slots k ⊆ s.slots k :=
  fun _ he => ((s.mem_counted k organizationId).mp he).1

theorem zremConcurrent_subset (s : Keyspace) (key k : ConcurrentKey) (slotId : SlotId) :
    (s.zremConcurrent key slotId).slots k ⊆ s.slots k :=
  fun _ he => ((s.mem_zremConcurrent key k slotId).mp he).1

theorem Within.addConcurrent {s : Keyspace} {L : Limits} (h : s.Within L) {key : ConcurrentKey}
    (hRoom : (s.slots key).card < L.of key) (slotId : SlotId) : (s.addConcurrent key slotId).Within L := by
  intro k
  by_cases hk : k = key
  · subst hk
    have hSub : (s.addConcurrent k slotId).slots k ⊆ insert (slotId, s.clock.val) (s.slots k) := by
      intro e he
      obtain ⟨-, rfl⟩ | ⟨he, -⟩ := (s.mem_addConcurrent k k slotId).mp he
      · exact Finset.mem_insert_self _ _
      · exact Finset.mem_insert_of_mem he
    calc
      _ ≤ _ := Finset.card_le_card hSub
      _ ≤ (s.slots k).card + 1 := Finset.card_insert_le _ _
      _ ≤ _ := hRoom
  · refine (Finset.card_le_card ?_).trans (h k)
    intro e he
    obtain ⟨hEq, -⟩ | ⟨he, -⟩ := (s.mem_addConcurrent key k slotId).mp he
    · exact absurd hEq hk
    · exact he

theorem Within.mirrorFleet {s : Keyspace} {L : Limits} (h : s.Within L) (organizationId : Nat)
    (slotId : SlotId) : (s.mirrorFleet organizationId slotId).Within L := fun key => h key

theorem Within.acquireConcurrent {s : Keyspace} {L : Limits} (h : s.Within L)
    (organizationId : Nat) (scopeKey : Option String) (scopeMaxConcurrent : Nat)
    (hScope : ∀ scope ∈ scopeKey, scopeMaxConcurrent = L.scope scope) :
    (s.acquireConcurrent organizationId (L.organization organizationId) scopeKey
      scopeMaxConcurrent).2.Within L := by
  have hCounted : (s.counted organizationId).Within L := h.of_subset (s.counted_subset organizationId)
  obtain ⟨-, hAfter⟩ | ⟨scope, -, -, -, hAfter⟩ | ⟨-, hRoom, hAfter⟩ |
    ⟨key, hKey, hRoom, hScopeRoom, hAfter⟩ :=
    s.acquireConcurrent_cases organizationId (L.organization organizationId) scopeKey
      scopeMaxConcurrent
  · rw [hAfter]
    exact hCounted
  · rw [hAfter]
    exact hCounted.of_subset (pruneConcurrent_subset _ scope)
  · rw [hAfter]
    exact (hCounted.addConcurrent hRoom s.nextSlotId).mirrorFleet organizationId s.nextSlotId
  · rw [hAfter]
    obtain ⟨scope, hMem, rfl⟩ := scopeConcurrentKey_eq_some hKey
    have hPruned := hCounted.of_subset (pruneConcurrent_subset _ (.scope scope))
    rw [hScope scope hMem] at hScopeRoom
    have hAdded := hPruned.addConcurrent hScopeRoom s.nextSlotId
    refine (hAdded.addConcurrent ?_ s.nextSlotId).mirrorFleet organizationId s.nextSlotId
    -- adding to the scope set does not touch the organization set
    refine (Finset.card_le_card ?_).trans_lt hRoom
    intro e he
    obtain ⟨hEq, -⟩ | ⟨he, -⟩ := (mem_addConcurrent _ _ _ _).mp he
    · cases hEq
    · exact pruneConcurrent_subset _ _ _ he

theorem acquireConcurrent_refused {s : Keyspace} {organizationId maxConcurrent : Nat}
    {scopeKey : Option String} {scopeMaxConcurrent : Nat}
    (h : (s.acquireConcurrent organizationId maxConcurrent scopeKey scopeMaxConcurrent).1 = none) :
    (∀ key, (s.acquireConcurrent organizationId maxConcurrent scopeKey
      scopeMaxConcurrent).2.slots key ⊆ s.slots key) ∧
    (s.acquireConcurrent organizationId maxConcurrent scopeKey
      scopeMaxConcurrent).2.fleetSlots = s.fleetSlots := by
  obtain ⟨-, hAfter⟩ | ⟨scope, -, -, -, hAfter⟩ | ⟨-, -, hAfter⟩ | ⟨scope, -, -, -, hAfter⟩ :=
    s.acquireConcurrent_cases organizationId maxConcurrent scopeKey scopeMaxConcurrent
  · rw [hAfter]
    exact ⟨s.counted_subset organizationId, rfl⟩
  · rw [hAfter]
    exact ⟨fun key => (pruneConcurrent_subset _ scope key).trans (s.counted_subset _ key), rfl⟩
  · rw [hAfter] at h
    cases h
  · rw [hAfter] at h
    cases h

end Keyspace

theorem execute_within {L : Limits} {command : Command} (hCommand : L.Respected command)
    {s : Keyspace} (h : s.Within L) : (execute command s).2.Within L := by
  by_cases hTouches : command.TouchesSlots
  · cases command with
    | acquireConcurrent organizationId maxConcurrent scopeKey scopeMaxConcurrent =>
      obtain ⟨rfl, hScope⟩ := hCommand
      exact h.acquireConcurrent organizationId scopeKey scopeMaxConcurrent hScope
    | zremConcurrent key slotId =>
      exact h.of_subset fun k => s.zremConcurrent_subset key k slotId
    | zremFleet => exact h
    | pruneConcurrent key => exact h.of_subset (s.pruneConcurrent_subset key)
    | _ => exact hTouches.elim
  · intro key
    rw [Keyspace.slots, (execute_frame hTouches s).1]
    exact h key

theorem environment_within {L : Limits} {move : Move} {s s' : Keyspace} (h : s.Within L)
    (hMove : environment move s = some s') : s'.Within L := by
  cases move with
  | advance now =>
    rw [environment] at hMove
    split at hMove
    · cases hMove
      exact h.of_subset fun key => s.advance_slots_subset key now
    · cases hMove
  | draw entropy => cases hMove; exact h
  | configure organizationId limit => cases hMove; exact h

theorem execute_removesOnly {organizationId : Nat} {slotId : SlotId} {command : Command}
    (hCommand : RemovesOnly organizationId slotId command) (s : Keyspace) :
    (∀ key, ∀ e ∈ s.slots key, e.1 ≠ slotId → e ∈ (execute command s).2.slots key) ∧
      ∀ e ∈ s.fleetSlots, e.1 ≠ (organizationId, slotId) → e ∈ (execute command s).2.fleetSlots := by
  cases command with
  | zremConcurrent key slot =>
    obtain rfl := hCommand
    exact ⟨fun k e he hNe => (s.mem_zremConcurrent key k slot).mpr ⟨he, fun _ => hNe⟩,
      fun e he _ => he⟩
  | zremFleet organization slot =>
    obtain ⟨rfl, rfl⟩ := hCommand
    exact ⟨fun k e he _ => he,
      fun e he hNe => (s.mem_zremFleet slot organization).mpr ⟨he, hNe⟩⟩
  | _ => exact hCommand.elim

variable {ι : Type} [DecidableEq ι]

/-- From any state within the limits, after any run of acquisitions, releases (repeated, unknown or
cut short) and counts, with failures at any command: the live slots of every organization and of
every scope are within its limit, a refused acquisition adds no entry, and a release keeps the
entries of all other slots. -/
theorem slots_bounded (L : Limits) (calls : ι → SlotCall) (start : Keyspace)
    (hStart : start.Within L) (events : List (Event ι Error Move))
    (last : Config ι Command.Reply Error Unit Keyspace)
    (hRun : (redis ι).run ⟨start, fun proc => (calls proc).method L⟩ events = some last) :
    (∀ key, (last.shared.liveSlots key).card ≤ L.of key) ∧
    (∀ proc organizationId maxConcurrent scopeKey scopeMaxConcurrent,
      (last.procs proc).pending = some
        (.acquireConcurrent organizationId maxConcurrent scopeKey scopeMaxConcurrent) →
      ∀ after, last.shared.acquireConcurrent organizationId maxConcurrent scopeKey
        scopeMaxConcurrent = (none, after) →
      (∀ key, after.slots key ⊆ last.shared.slots key) ∧
        after.fleetSlots ⊆ last.shared.fleetSlots) ∧
    ∀ proc organizationId slotId scopeKey, calls proc = .release organizationId slotId scopeKey →
      ∀ outcome next, (redis ι).step last (.resume proc outcome) = some next →
        (∀ key, ∀ e ∈ last.shared.slots key, e.1 ≠ slotId → e ∈ next.shared.slots key) ∧
        ∀ e ∈ last.shared.fleetSlots, e.1 ≠ (organizationId, slotId) →
          e ∈ next.shared.fleetSlots := by
  have hLast : last.shared.Within L ∧ ∀ proc, (last.procs proc).Issues ((calls proc).Sends L) := by
    refine System.shared_invariant (I := fun s => s.Within L) ?_ ?_ (System.follows_free _ _ _) hRun
      (fun proc => (calls proc).method_issues L) hStart
    · intro proc command outcome s h hSends _
      have hRespected := SlotCall.sends_respected hSends
      cases outcome with
      | reply => exact execute_within hRespected h
      | fail error applied =>
        cases applied with
        | false => exact h
        | true => exact execute_within hRespected h
    · intro move s s' h _ hMove
      exact environment_within h hMove
  obtain ⟨hWithin, hIssues⟩ := hLast
  refine ⟨fun key => ?_, ?_, ?_⟩
  · exact (Finset.card_le_card (Finset.filter_subset _ _)).trans (hWithin key)
  · intro proc organizationId maxConcurrent scopeKey scopeMaxConcurrent _ after hAfter
    have hRefused := Keyspace.acquireConcurrent_refused (congrArg Prod.fst hAfter)
    rw [hAfter] at hRefused
    exact ⟨hRefused.1, hRefused.2.subset⟩
  · intro proc organizationId slotId scopeKey hCall outcome next hStep
    obtain ⟨_, _, command, resume, hEvent, hProc, rfl⟩ | ⟨_, _, hEvent, -⟩ := System.step_cases hStep
    · cases hEvent
      have hSends := hIssues proc
      rw [hProc, hCall] at hSends
      cases outcome with
      | reply => exact execute_removesOnly hSends.1 last.shared
      | fail error applied =>
        cases applied with
        | false => exact ⟨fun _ _ he _ => he, fun _ he _ => he⟩
        | true => exact execute_removesOnly hSends.1 last.shared
    · cases hEvent

theorem slots_bounded_single_slot :
    ∃ last : Config Bool Command.Reply Error Unit Keyspace,
      (redis Bool).run
        ⟨.fresh ⟨1, UnixTime.one_pos⟩, fun _ => (SlotCall.acquire 7 none).method ⟨fun _ => 1, fun _ => 1⟩⟩
        [.resume false .reply, .resume true .reply] = some last ∧
      (last.shared.liveSlots (.organization 7)).card ≤ 1 :=
  ⟨_, rfl, (slots_bounded ⟨fun _ => 1, fun _ => 1⟩ (fun _ => .acquire 7 none)
    (.fresh ⟨1, UnixTime.one_pos⟩) (fun _ => Nat.zero_le _) [.resume false .reply, .resume true .reply] _
    rfl).1 (.organization 7)⟩

end FastVoice.CallConcurrency
