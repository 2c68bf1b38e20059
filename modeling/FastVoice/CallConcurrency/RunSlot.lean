import FastVoice.CallConcurrency.Service
import FastVoice.CallConcurrency.SlotBound

/-! # Registering and releasing the slot of one workflow run

The ghost state of a call is how far it has come with the slot it acquired or with the mapping it
read. As long as a release deletes no other mapping than the one it read, a bound slot is either
named by the mapping or gone from its organization set.
-/
namespace FastVoice.CallConcurrency
open Async Redis

inductive RunCall where
  | register (organizationId : Nat) (source : String) (scopeKey : Option String)
      (scopeMaxConcurrent : Option Nat) (retries : Nat)
  | release
  | unregister

def RunCall.method (workflowRunId : Nat) : RunCall → Method Unit
  | .register organizationId source scopeKey scopeMaxConcurrent retries => do
    let _ ← registerActiveCall organizationId workflowRunId source scopeKey scopeMaxConcurrent retries
  | .release => do
    let _ ← releaseWorkflowRunSlot workflowRunId
  | .unregister => do
    let _ ← unregisterActiveCall workflowRunId

abbrev RedisTrace (ι : Type) := Recorded ι Command Error Keyspace Move

def acquiredBy : Command × Outcome Error × Keyspace → Option (Nat × SlotId)
  | (.acquireConcurrent organizationId maxConcurrent scopeKey scopeMaxConcurrent, .reply, found) =>
    (found.acquireConcurrent organizationId maxConcurrent scopeKey scopeMaxConcurrent).1.map
      fun acquisition => (organizationId, acquisition.1)
  | _ => none

def readBy : Command × Outcome Error × Keyspace → Option SlotMapping
  | (.getSlotMapping workflowRunId, .reply, found) => (found.slotMapping workflowRunId).value
  | _ => none

section Histories

variable {ι : Type} [DecidableEq ι]

def acquiredSlots (s : RedisTrace ι) (proc : ι) : List (Nat × SlotId) :=
  (s.own proc).filterMap acquiredBy

def readMappings (s : RedisTrace ι) (proc : ι) : List SlotMapping := (s.own proc).filterMap readBy

def errorFree (since : ℚ) : System.Discipline ι Command.Reply Error (RedisTrace ι) Move where
  call _ _ outcome _ := outcome = .reply
  environment
    | .advance now, _ => now.val < since + staleCallTimeout
    | _, _ => True

/-- Also, a release that deletes a mapping finds the mapping it read. -/
def undisturbed (workflowRunId : Nat) (since : ℚ) :
    System.Discipline ι Command.Reply Error (RedisTrace ι) Move where
  call proc command outcome s := (errorFree since).call proc command outcome s ∧
    (command = .deleteSlotMapping workflowRunId →
      ∀ mapping ∈ (s.state.slotMapping workflowRunId).value, mapping ∈ readMappings s proc)
  environment := (errorFree since (ι := ι)).environment

instance (since : ℚ) (proc : ι) (command : Command) (outcome : Outcome Error) (s : RedisTrace ι) :
    Decidable ((errorFree since).call proc command outcome s) :=
  inferInstanceAs (Decidable (outcome = .reply))

instance (since : ℚ) (move : Move) (s : RedisTrace ι) :
    Decidable ((errorFree since).environment move s) :=
  match move with
  | .advance now => inferInstanceAs (Decidable (now.val < since + staleCallTimeout))
  | .draw _ => isTrue trivial
  | .configure _ _ => isTrue trivial

instance (workflowRunId : Nat) (since : ℚ) (proc : ι) (command : Command) (outcome : Outcome Error)
    (s : RedisTrace ι) : Decidable ((undisturbed workflowRunId since).call proc command outcome s) :=
  inferInstanceAs (Decidable (_ ∧ (_ → ∀ mapping ∈ (s.state.slotMapping workflowRunId).value, _)))

instance (workflowRunId : Nat) (since : ℚ) (move : Move) (s : RedisTrace ι) :
    Decidable ((undisturbed workflowRunId since).environment move s) :=
  inferInstanceAs (Decidable ((errorFree since).environment move s))

end Histories

/-! ## The ghost state of a call -/

inductive Phase where
  | idle
  /-- Acquired a slot that is not bound yet. -/
  | holding (organizationId : Nat) (slotId : SlotId)
  | surplus (organizationId : Nat) (slotId : SlotId)
  | settled (organizationId : Nat) (slotId : SlotId)
  | bound (organizationId : Nat) (slotId : SlotId)
  | reading (mapping : SlotMapping)
  | freed (mapping : SlotMapping)
  | failed

namespace Phase

def own : Phase → Option (Nat × SlotId)
  | .holding organizationId slotId => some (organizationId, slotId)
  | .surplus organizationId slotId => some (organizationId, slotId)
  | .settled organizationId slotId => some (organizationId, slotId)
  | .bound organizationId slotId => some (organizationId, slotId)
  | _ => none

def read : Phase → Option SlotMapping
  | .reading mapping => some mapping
  | .freed mapping => some mapping
  | _ => none

def Permits (workflowRunId : Nat) : Phase → Command → Prop
  | .failed, _ => True
  | phase, .acquireConcurrent _ _ _ _ => phase = .idle
  | phase, .getSlotMapping run => phase = .idle ∧ run = workflowRunId
  | phase, .storeSlotMappingIfAbsent run mapping =>
    phase = .holding mapping.organizationId mapping.slotId ∧ run = workflowRunId
  | phase, .deleteSlotMapping run => (∃ mapping, phase = .freed mapping) ∧ run = workflowRunId
  | _, _ => True

def next : Phase → (command : Command) → Except Error command.Reply → Phase
  | .failed, _, _ => .failed
  | _, _, .error _ => .failed
  | .idle, .acquireConcurrent organizationId _ _ _, .ok acquisition =>
    match (acquisition : Option (SlotId × Nat)) with
    | some (slotId, _) => .holding organizationId slotId
    | none => .idle
  | .holding organizationId slotId, .storeSlotMappingIfAbsent _ _, .ok stored =>
    if stored then .bound organizationId slotId else .surplus organizationId slotId
  | .surplus organizationId slotId, .zremConcurrent key slot, .ok _ =>
    if key = .organization organizationId ∧ slot = slotId then .settled organizationId slotId
    else .surplus organizationId slotId
  | .idle, .getSlotMapping _, .ok found =>
    match (found : Option SlotMapping) with
    | some mapping => .reading mapping
    | none => .idle
  | .reading mapping, .zremConcurrent key slot, .ok _ =>
    if key = .organization mapping.organizationId ∧ slot = mapping.slotId then .freed mapping
    else .reading mapping
  | phase, _, _ => phase

def Closed {α : Type} : Except Error α → Phase → Prop
  | _, .holding _ _ => False
  | _, .surplus _ _ => False
  | result, .bound _ _ => ∃ value, result = .ok value
  | _, _ => True

end Phase

def runProtocol (workflowRunId : Nat) : Protocol Command.Reply Error Phase where
  permits := Phase.Permits workflowRunId
  next := Phase.next

/-! ## The calls obey -/

section Obedience

variable {workflowRunId : Nat}

def Command.Neutral : Command → Prop
  | .acquireConcurrent _ _ _ _ => False
  | .storeSlotMappingIfAbsent _ _ => False
  | .getSlotMapping _ => False
  | .deleteSlotMapping _ => False
  | _ => True

theorem issues_true {α : Type} (program : Method α) : program.Issues fun _ => True := by
  induction program with
  | ret value => trivial
  | raise error => trivial
  | await command resume ih => exact ⟨trivial, ih⟩

theorem obeys_failed {α : Type} {post : Except Error α → Phase → Prop}
    (hPost : ∀ result, post result .failed) (program : Method α) :
    program.Obeys (runProtocol workflowRunId) post .failed := by
  have hStay : ∀ phase (command : Command), phase = Phase.failed → True →
      (runProtocol workflowRunId).permits phase command ∧
        ∀ result, (runProtocol workflowRunId).next phase command result = .failed := by
    rintro _ command rfl -
    exact ⟨trivial, fun _ => rfl⟩
  refine ((issues_true program).obeys hStay rfl).weaken fun result phase hPhase => ?_
  rw [hPhase]
  exact hPost result

def InPhase {α : Type} (expected : Phase) (_ : Except Error α) (phase : Phase) : Prop :=
  phase = expected ∨ phase = .failed

theorem Phase.next_error (phase : Phase) (command : Command) (error : Error) :
    phase.next command (.error error) = .failed := by
  cases phase <;> rfl

def Phase.Stable : Phase → Prop
  | .surplus _ _ => False
  | .reading _ => False
  | _ => True

theorem stable_idle : Phase.Stable .idle := trivial

theorem stable_settled (organizationId : Nat) (slotId : SlotId) :
    Phase.Stable (.settled organizationId slotId) := trivial

theorem stable_freed (mapping : SlotMapping) : Phase.Stable (.freed mapping) := trivial

theorem neutral_permits (phase : Phase) {command : Command} (h : command.Neutral) :
    phase.Permits workflowRunId command := by
  cases command <;> first | exact h.elim | (cases phase <;> trivial)

theorem neutral_next {phase : Phase} (hStable : phase.Stable) {command : Command}
    (h : command.Neutral) (reply : command.Reply) : phase.next command (.ok reply) = phase := by
  cases phase with
  | surplus => exact hStable.elim
  | reading => exact hStable.elim
  | _ => cases command <;> first | rfl | exact h.elim

theorem obeys_neutral {α : Type} {phase : Phase} (hStable : phase.Stable) {program : Method α}
    (h : program.Issues Command.Neutral) :
    program.Obeys (runProtocol workflowRunId) (InPhase phase) phase := by
  have hStay : ∀ current (command : Command), (current = phase ∨ current = .failed) →
      command.Neutral → (runProtocol workflowRunId).permits current command ∧
        ∀ result, (runProtocol workflowRunId).next current command result = phase ∨
          (runProtocol workflowRunId).next current command result = .failed := by
    intro current command hCurrent hNeutral
    refine ⟨neutral_permits current hNeutral, fun result => ?_⟩
    cases result with
    | error error => exact .inr (current.next_error command error)
    | ok reply =>
      rcases hCurrent with rfl | rfl
      · exact .inl (neutral_next hStable hNeutral reply)
      · exact .inr rfl
  exact h.obeys hStay (.inl rfl)

theorem releaseConcurrentSlot_phase {before after : Phase} (organizationId : Nat) (slotId : SlotId)
    (scopeKey : Option String) (hAfter : after.Stable)
    (hFirst : ∀ removed, before.next (.zremConcurrent (.organization organizationId) slotId)
      (.ok removed) = after) :
    (releaseConcurrentSlot organizationId slotId scopeKey).Obeys (runProtocol workflowRunId)
      (InPhase after) before := by
  refine orElse_obeys ?_ fun _ _ h => h
  simp only [call, Program.call_bind]
  refine ⟨neutral_permits before trivial, fun result => ?_⟩
  cases result with
  | error error => exact .inr (before.next_error _ error)
  | ok removed =>
    have hNext : (runProtocol workflowRunId).next before
        (.zremConcurrent (.organization organizationId) slotId) (.ok removed) = after :=
      hFirst removed
    rw [hNext]
    refine obeys_neutral hAfter ⟨trivial, fun result => ?_⟩
    cases result with
    | error error => trivial
    | ok _ =>
      cases scopeConcurrentKey scopeKey with
      | none => trivial
      | some scope =>
        refine ⟨trivial, fun result => ?_⟩
        cases result with
        | error error => trivial
        | ok _ => trivial

def Attempted (organizationId : Nat) : Except Error (Option (SlotId × Nat)) → Phase → Prop
  | .ok (some (slotId, _)), phase => phase = .holding organizationId slotId ∨ phase = .failed
  | .ok none, phase => phase = .idle ∨ phase = .failed
  | .error _, phase => phase = .failed

theorem tryAcquire_phase (organizationId maxConcurrent : Nat) (scopeKey : Option String)
    (scopeMaxConcurrent : Option Nat) : (tryAcquireConcurrentSlotDetails organizationId maxConcurrent scopeKey
      scopeMaxConcurrent).Obeys (runProtocol workflowRunId) (Attempted organizationId) .idle := by
  refine orElse_obeys (Program.obeys_call rfl fun result => ?_) fun _ _ h => .inr h
  rcases result with error | _ | ⟨slotId, count⟩
  · rfl
  · exact .inl rfl
  · exact .inl rfl

theorem issues_getOrgConcurrentLimit (organizationId : Nat) :
    (getOrgConcurrentLimit organizationId).Issues Command.Neutral :=
  orElse_issues ((Program.issues_call trivial).bind fun _ => trivial)

theorem issues_getConcurrentCount (organizationId : Nat) :
    (getConcurrentCount organizationId).Issues Command.Neutral :=
  orElse_issues ((Program.issues_call trivial).bind fun _ => Program.issues_call trivial)

theorem issues_notifyLimitReached (organizationId : Nat) :
    (notifyLimitReached organizationId).Issues Command.Neutral :=
  orElse_issues (Program.issues_call trivial)

theorem bind_inPhase {α β : Type} {post : Except Error β → Phase → Prop} {phase start : Phase}
    {program : Method α} {next : α → Method β}
    (h : program.Obeys (runProtocol workflowRunId) (InPhase phase) start)
    (hNext : ∀ value, (next value).Obeys (runProtocol workflowRunId) post phase)
    (hError : ∀ error, post (.error error) phase) (hFailed : ∀ result, post result .failed) :
    (program >>= next).Obeys (runProtocol workflowRunId) post start := by
  refine h.bind ?_ ?_
  · rintro value _ (rfl | rfl)
    · exact hNext value
    · exact obeys_failed hFailed _
  · rintro error _ (rfl | rfl)
    · exact hError error
    · exact hFailed _

def Acquired : Except Error CallConcurrencySlot → Phase → Prop
  | .ok slot, phase => phase = .holding slot.organizationId slot.slotId ∨ phase = .failed
  | .error _, phase => phase = .idle ∨ phase = .failed

theorem acquired_failed (result : Except Error CallConcurrencySlot) : Acquired result .failed := by
  cases result <;> exact .inr rfl

theorem pollOrgSlot_phase (organizationId maxConcurrent : Nat) (source : String)
    (scopeKey : Option String) (scopeMaxConcurrent : Option Nat) (retries : Nat) :
    (pollOrgSlot organizationId maxConcurrent source scopeKey scopeMaxConcurrent retries).Obeys
      (runProtocol workflowRunId) Acquired .idle := by
  induction retries with
  | zero =>
    refine (tryAcquire_phase _ _ _ _).bind ?_ fun error phase h => .inr h
    rintro (_ | ⟨slotId, count⟩) phase (rfl | rfl)
    · refine bind_inPhase (obeys_neutral stable_idle (issues_getConcurrentCount organizationId))
        (fun _ => ?_) (fun _ => .inl rfl) acquired_failed
      exact bind_inPhase (obeys_neutral stable_idle (issues_notifyLimitReached organizationId))
        (fun _ => .inl rfl) (fun _ => .inl rfl) acquired_failed
    · exact obeys_failed acquired_failed _
    · exact .inl rfl
    · exact .inr rfl
  | succ retries ih =>
    refine (tryAcquire_phase _ _ _ _).bind ?_ fun error phase h => .inr h
    rintro (_ | ⟨slotId, count⟩) phase (rfl | rfl)
    · have hSleep : (call .sleep).Issues Command.Neutral := Program.issues_call trivial
      exact bind_inPhase (obeys_neutral stable_idle hSleep) (fun _ => ih) (fun _ => .inl rfl)
        acquired_failed
    · exact obeys_failed acquired_failed _
    · exact .inl rfl
    · exact .inr rfl

theorem acquireOrgSlot_phase (organizationId : Nat) (source : String) (scopeKey : Option String)
    (scopeMaxConcurrent : Option Nat) (retries : Nat) :
    (acquireOrgSlot organizationId source scopeKey scopeMaxConcurrent retries).Obeys
      (runProtocol workflowRunId) Acquired .idle :=
  bind_inPhase (obeys_neutral stable_idle (issues_getOrgConcurrentLimit organizationId))
    (fun _ => pollOrgSlot_phase _ _ _ _ _ _) (fun _ => .inl rfl) acquired_failed

theorem closed_failed {α : Type} (result : Except Error α) : Phase.Closed result .failed := trivial

theorem bindWorkflowRun_phase (slot : CallConcurrencySlot) :
    (bindWorkflowRun slot workflowRunId).Obeys (runProtocol workflowRunId) Phase.Closed
      (.holding slot.organizationId slot.slotId) := by
  have hStore : (storeWorkflowSlotMappingIfAbsent workflowRunId slot.organizationId slot.slotId
      slot.scopeKey).Obeys (runProtocol workflowRunId) (fun result phase => phase = .failed ∨
        phase = .bound slot.organizationId slot.slotId ∧ result = .ok true ∨
        phase = .surplus slot.organizationId slot.slotId ∧ result = .ok false)
        (.holding slot.organizationId slot.slotId) := by
    refine orElse_obeys (Program.obeys_call ⟨rfl, rfl⟩ fun result => ?_) ?_
    · rcases result with error | stored
      · exact .inl rfl
      · cases stored with
        | true => exact .inr (.inl ⟨rfl, rfl⟩)
        | false => exact .inr (.inr ⟨rfl, rfl⟩)
    · rintro error phase (rfl | ⟨-, h⟩ | ⟨-, h⟩)
      · exact .inl rfl
      · cases h
      · cases h
  refine hStore.bind ?_ ?_
  · rintro stored phase (rfl | ⟨rfl, hStored⟩ | ⟨rfl, hStored⟩)
    · exact obeys_failed closed_failed _
    · cases hStored
      exact ⟨(), rfl⟩
    · cases hStored
      have hRelease : (releaseSlot slot).Obeys (runProtocol workflowRunId)
          (InPhase (.settled slot.organizationId slot.slotId))
          (.surplus slot.organizationId slot.slotId) :=
        bind_inPhase (releaseConcurrentSlot_phase _ _ _ (stable_settled _ _) fun _ => if_pos ⟨rfl, rfl⟩)
          (fun _ => .inl rfl) (fun _ => .inl rfl) fun _ => .inr rfl
      exact bind_inPhase hRelease (fun _ => trivial) (fun _ => trivial) closed_failed
  · rintro error phase (rfl | ⟨-, h⟩ | ⟨-, h⟩)
    · trivial
    · cases h
    · cases h

theorem registerActiveCall_phase (organizationId : Nat) (source : String)
    (scopeKey : Option String) (scopeMaxConcurrent : Option Nat) (retries : Nat) :
    (registerActiveCall organizationId workflowRunId source scopeKey scopeMaxConcurrent
      retries).Obeys (runProtocol workflowRunId) Phase.Closed .idle := by
  refine (acquireOrgSlot_phase _ _ _ _ _).bind ?_ ?_
  · rintro slot phase (rfl | rfl)
    · refine (bindWorkflowRun_phase slot).bind (fun _ phase h => ?_) fun _ phase h => ?_
      · cases phase with
        | bound => exact ⟨slot, rfl⟩
        | _ => exact h
      · cases phase with
        | bound =>
          obtain ⟨value, hValue⟩ := h
          cases hValue
        | _ => exact h
    · exact obeys_failed closed_failed _
  · rintro error phase (rfl | rfl) <;> trivial

def Looked : Except Error (Option SlotMapping) → Phase → Prop
  | .ok (some mapping), phase => phase = .reading mapping ∨ phase = .failed
  | .ok none, phase => phase = .idle ∨ phase = .failed
  | .error _, phase => phase = .failed

theorem getWorkflowSlotMapping_phase :
    (getWorkflowSlotMapping workflowRunId).Obeys (runProtocol workflowRunId) Looked .idle := by
  refine orElse_obeys (Program.obeys_call ⟨rfl, rfl⟩ fun result => ?_) fun _ _ h => .inr h
  rcases result with error | _ | mapping
  · rfl
  · exact .inl rfl
  · exact .inl rfl

theorem deleteWorkflowSlotMapping_phase (mapping : SlotMapping) :
    (deleteWorkflowSlotMapping workflowRunId).Obeys (runProtocol workflowRunId)
      (InPhase (.freed mapping)) (.freed mapping) := by
  refine orElse_obeys (Program.obeys_call ⟨⟨mapping, rfl⟩, rfl⟩ fun result => ?_) fun _ _ h => h
  cases result with
  | error error => exact .inr rfl
  | ok removed => exact .inl rfl

theorem releaseWorkflowRunSlot_phase :
    (releaseWorkflowRunSlot workflowRunId).Obeys (runProtocol workflowRunId) Phase.Closed .idle := by
  refine getWorkflowSlotMapping_phase.bind ?_ fun error phase h => ?_
  · rintro (_ | mapping) phase (rfl | rfl)
    · trivial
    · trivial
    · refine bind_inPhase (releaseConcurrentSlot_phase _ _ _ (stable_freed mapping) fun _ =>
        if_pos ⟨rfl, rfl⟩) (fun released => ?_) (fun _ => trivial) closed_failed
      cases released with
      | none => trivial
      | some released =>
        exact bind_inPhase (deleteWorkflowSlotMapping_phase mapping) (fun _ => trivial)
          (fun _ => trivial) closed_failed
    · exact obeys_failed closed_failed _
  · rw [h]
    trivial

theorem closed_ok {α β : Type} {result : Except Error α} {phase : Phase}
    (h : Phase.Closed result phase) (value : β) : Phase.Closed (.ok value : Except Error β) phase := by
  cases phase with
  | bound => exact ⟨value, rfl⟩
  | _ => exact h

theorem closed_discard {α : Type} {program : Method α}
    (h : program.Obeys (runProtocol workflowRunId) Phase.Closed .idle) :
    (do let _ ← program : Method Unit).Obeys (runProtocol workflowRunId) Phase.Closed .idle := by
  refine h.bind (fun _ _ hClosed => closed_ok hClosed ()) fun error phase hClosed => ?_
  cases phase with
  | bound =>
    obtain ⟨value, hValue⟩ := hClosed
    cases hValue
  | _ => exact hClosed

theorem RunCall.method_obeys (runCall : RunCall) :
    (runCall.method workflowRunId).Obeys (runProtocol workflowRunId) Phase.Closed .idle := by
  cases runCall with
  | register organizationId source scopeKey scopeMaxConcurrent retries =>
    exact closed_discard (registerActiveCall_phase _ _ _ _ _)
  | release => exact closed_discard releaseWorkflowRunSlot_phase
  | unregister =>
    exact closed_discard (orElse_obeys releaseWorkflowRunSlot_phase fun _ _ h => closed_ok h false)

end Obedience

/-! ## The invariant -/

def Keyspace.Gone (s : Keyspace) (organizationId : Nat) (slotId : SlotId) : Prop :=
  ∀ e ∈ s.slots (.organization organizationId), e.1 ≠ slotId

def Phase.Holds (workflowRunId : Nat) (s : Keyspace) : Phase → Prop
  | .idle => True
  | .holding _ slotId => slotId.token < s.issued
  | .surplus _ slotId => slotId.token < s.issued
  | .settled organizationId slotId => slotId.token < s.issued ∧ s.Gone organizationId slotId
  | .bound organizationId slotId => slotId.token < s.issued ∧
    ((∃ mapping ∈ (s.slotMapping workflowRunId).value,
      mapping.organizationId = organizationId ∧ mapping.slotId = slotId) ∨
        s.Gone organizationId slotId)
  | .reading mapping => mapping.slotId.token < s.issued
  | .freed mapping => mapping.slotId.token < s.issued ∧ s.Gone mapping.organizationId mapping.slotId
  | .failed => False

structure Keeps (workflowRunId : Nat) (s s' : Keyspace) : Prop where
  issued : s.issued ≤ s'.issued
  gone : ∀ organizationId slotId, slotId.token < s.issued → s.Gone organizationId slotId →
    s'.Gone organizationId slotId
  named : ∀ mapping ∈ (s.slotMapping workflowRunId).value,
    mapping ∈ (s'.slotMapping workflowRunId).value ∨
      s'.Gone mapping.organizationId mapping.slotId

theorem Phase.Holds.keep {workflowRunId : Nat} {s s' : Keyspace} {phase : Phase}
    (h : phase.Holds workflowRunId s) (hKeeps : Keeps workflowRunId s s') : phase.Holds workflowRunId s' := by
  cases phase with
  | idle => trivial
  | holding => exact h.trans_le hKeeps.issued
  | surplus => exact h.trans_le hKeeps.issued
  | settled => exact ⟨h.1.trans_le hKeeps.issued, hKeeps.gone _ _ h.1 h.2⟩
  | bound =>
    refine ⟨h.1.trans_le hKeeps.issued, ?_⟩
    obtain ⟨mapping, hMapping, rfl, rfl⟩ | hGone := h.2
    · exact (hKeeps.named mapping hMapping).imp_left fun hNamed => ⟨mapping, hNamed, rfl, rfl⟩
    · exact .inr (hKeeps.gone _ _ h.1 hGone)
  | reading => exact h.trans_le hKeeps.issued
  | freed => exact ⟨h.1.trans_le hKeeps.issued, hKeeps.gone _ _ h.1 h.2⟩
  | failed => exact h

variable {ι : Type}

structure Bindings (workflowRunId : Nat) (since : ℚ) (s : Keyspace) (phase : ι → Phase) : Prop where
  clock : since ≤ s.clock.val
  deadline : ∀ deadline ∈ (s.slotMapping workflowRunId).deadline, since + staleCallTimeout ≤ deadline
  mapping : ∀ mapping ∈ (s.slotMapping workflowRunId).value, mapping.slotId.token < s.issued
  phases : ∀ proc, (phase proc).Holds workflowRunId s

structure Traced [DecidableEq ι] (s : RedisTrace ι) (phase : ι → Phase) : Prop where
  own : ∀ proc, ∀ slot ∈ acquiredSlots s proc, (phase proc).own = some slot
  read : ∀ proc, ∀ mapping ∈ readMappings s proc, (phase proc).read = some mapping

section Steps

variable {workflowRunId : Nat} {phase : Phase} {command : Command} {s : Keyspace}

theorem next_own {slot : Nat × SlotId} (h : phase.own = some slot) (reply : command.Reply) :
    (phase.next command (.ok reply)).own = some slot := by
  cases phase with
  | holding organizationId slotId =>
    cases command with
    | storeSlotMappingIfAbsent run mapping => cases reply <;> exact h
    | _ => exact h
  | surplus organizationId slotId =>
    cases command with
    | zremConcurrent key x =>
      rw [Phase.next]
      split <;> exact h
    | _ => exact h
  | settled => exact h
  | bound => exact h
  | _ => cases h

theorem next_read {mapping : SlotMapping} (h : phase.read = some mapping) (reply : command.Reply) :
    (phase.next command (.ok reply)).read = some mapping := by
  cases phase with
  | reading m =>
    cases command with
    | zremConcurrent key x =>
      rw [Phase.next]
      split <;> exact h
    | _ => exact h
  | freed => exact h
  | _ => cases h

theorem next_acquired (hPermits : phase.Permits workflowRunId command) (hAlive : phase ≠ .failed)
    {slot : Nat × SlotId} (h : acquiredBy (command, .reply, s) = some slot) :
    (phase.next command (.ok (execute command s).1)).own = some slot := by
  cases command with
  | acquireConcurrent organizationId maxConcurrent scopeKey scopeMaxConcurrent =>
    have hIdle : phase = .idle := by
      cases phase with
      | failed => exact absurd rfl hAlive
      | _ => exact hPermits
    subst hIdle
    obtain ⟨⟨slotId, count⟩, hAcquired, rfl⟩ := Option.map_eq_some_iff.mp h
    simp only [execute, hAcquired]
    rfl
  | _ => cases h

theorem next_looked (hPermits : phase.Permits workflowRunId command) (hAlive : phase ≠ .failed)
    {mapping : SlotMapping} (h : readBy (command, .reply, s) = some mapping) :
    (phase.next command (.ok (execute command s).1)).read = some mapping := by
  cases command with
  | getSlotMapping run =>
    have hIdle : phase = .idle := by
      cases phase with
      | failed => exact absurd rfl hAlive
      | _ => exact hPermits.1
    subst hIdle
    have hRead : (s.slotMapping run).value = some mapping := h
    simp only [execute, hRead]
    rfl
  | _ => cases h

theorem next_holds (h : phase.Holds workflowRunId s)
    (hMapping : ∀ mapping ∈ (s.slotMapping workflowRunId).value, mapping.slotId.token < s.issued)
    (hPermits : phase.Permits workflowRunId command) (hKeeps : Keeps workflowRunId s (execute command s).2) :
    (phase.next command (.ok (execute command s).1)).Holds workflowRunId (execute command s).2 := by
  have hZrem : ∀ {organizationId : Nat} {slotId : SlotId} {key : ConcurrentKey} {x : SlotId},
      key = .organization organizationId ∧ x = slotId →
      (s.zremConcurrent key x).Gone organizationId slotId := by
    rintro organizationId slotId _ _ ⟨rfl, rfl⟩ e he
    exact ((s.mem_zremConcurrent _ _ _).mp he).2 rfl
  cases phase with
  | idle =>
    cases command with
    | acquireConcurrent organizationId maxConcurrent scopeKey scopeMaxConcurrent =>
      obtain ⟨-, hAfter⟩ | ⟨scope, -, -, -, hAfter⟩ | ⟨-, -, hAfter⟩ | ⟨scope, -, -, -, hAfter⟩ :=
        s.acquireConcurrent_cases organizationId maxConcurrent scopeKey scopeMaxConcurrent
      all_goals
        simp only [execute, hAfter]
        first | trivial | exact Nat.lt_succ_self _
    | getSlotMapping run =>
      obtain ⟨-, rfl⟩ := hPermits
      simp only [execute]
      cases hValue : (s.slotMapping run).value with
      | none => trivial
      | some mapping => exact hMapping mapping hValue
    | _ => trivial
  | holding organizationId slotId =>
    cases command with
    | storeSlotMappingIfAbsent run mapping =>
      obtain ⟨hPhase, rfl⟩ := hPermits
      cases hPhase
      obtain ⟨-, hAfter⟩ | ⟨-, hAfter⟩ := storeSlotMappingIfAbsent_cases s run mapping
      · simp only [execute, hAfter]
        exact h
      · simp only [execute, hAfter]
        exact ⟨h, .inl ⟨mapping, by simp, rfl, rfl⟩⟩
    | _ => exact h.keep hKeeps
  | surplus organizationId slotId =>
    cases command with
    | zremConcurrent key x =>
      rw [Phase.next]
      split
      · rename_i hOwn
        exact ⟨h, hZrem hOwn⟩
      · exact h
    | _ => exact h.keep hKeeps
  | reading mapping =>
    cases command with
    | zremConcurrent key x =>
      rw [Phase.next]
      split
      · rename_i hOwn
        exact ⟨h, hZrem hOwn⟩
      · exact h
    | _ => exact h.keep hKeeps
  | settled => exact h.keep hKeeps
  | bound => exact h.keep hKeeps
  | freed => exact h.keep hKeeps
  | failed => exact h.elim

theorem gone_execute {organizationId : Nat} {slotId : SlotId} (hToken : slotId.token < s.issued)
    (h : s.Gone organizationId slotId) : (execute command s).2.Gone organizationId slotId := by
  intro e he
  obtain hOld | hNew := execute_slots he
  · exact h e hOld
  · rintro rfl
    rw [hNew] at hToken
    exact absurd hToken (Nat.lt_irrefl _)

theorem keeps_execute (h : phase.Holds workflowRunId s) (hPermits : phase.Permits workflowRunId command)
    (hDelete : command = .deleteSlotMapping workflowRunId →
      ∀ mapping ∈ (s.slotMapping workflowRunId).value, phase.read = some mapping) :
    Keeps workflowRunId s (execute command s).2 where
  issued := execute_issued command s
  gone _ _ hToken hGone := gone_execute hToken hGone
  named mapping hMapping := by
    by_cases hStore : ∃ run m, command = .storeSlotMappingIfAbsent run m
    · obtain ⟨run, m, rfl⟩ := hStore
      obtain ⟨-, hAfter⟩ | ⟨hNone, hAfter⟩ := storeSlotMappingIfAbsent_cases s run m
      · simp only [execute, hAfter]
        exact .inl hMapping
      · have hRun : workflowRunId ≠ run := by
          rintro rfl
          rw [hNone] at hMapping
          cases hMapping
        simp only [execute, hAfter, Function.update_of_ne hRun]
        exact .inl hMapping
    · by_cases hDeleted : ∃ run, command = .deleteSlotMapping run
      · obtain ⟨run, rfl⟩ := hDeleted
        have hPhase : (∃ mapping, phase = .freed mapping) ∧ run = workflowRunId := by
          cases phase with
          | failed => exact h.elim
          | _ => exact hPermits
        obtain ⟨⟨read, rfl⟩, rfl⟩ := hPhase
        have hRead := hDelete rfl mapping hMapping
        cases hRead
        exact .inr (gone_execute h.1 h.2)
      · rw [execute_slotMapping (fun run m hEq => hStore ⟨run, m, hEq⟩)
          (fun run hEq => hDeleted ⟨run, hEq⟩)]
        exact .inl hMapping

end Steps

section Runs

variable [DecidableEq ι] {workflowRunId : Nat} {since : ℚ} {s s' : Keyspace} {phase : ι → Phase}

theorem mapping_execute {command : Command} {current : Phase}
    (h : current.Holds workflowRunId s) (hPermits : current.Permits workflowRunId command)
    (hClock : since ≤ s.clock.val) (hDeadline : ∀ deadline ∈ (s.slotMapping workflowRunId).deadline,
      since + staleCallTimeout ≤ deadline)
    (hMapping : ∀ mapping ∈ (s.slotMapping workflowRunId).value, mapping.slotId.token < s.issued) :
    (∀ deadline ∈ ((execute command s).2.slotMapping workflowRunId).deadline,
      since + staleCallTimeout ≤ deadline) ∧
    ∀ mapping ∈ ((execute command s).2.slotMapping workflowRunId).value,
      mapping.slotId.token < (execute command s).2.issued := by
  have hIssued := execute_issued command s
  by_cases hStore : ∃ run m, command = .storeSlotMappingIfAbsent run m
  · obtain ⟨run, m, rfl⟩ := hStore
    have hPhase : current = .holding m.organizationId m.slotId ∧ run = workflowRunId := by
      cases current with
      | failed => exact h.elim
      | _ => exact hPermits
    obtain ⟨rfl, rfl⟩ := hPhase
    obtain ⟨-, hAfter⟩ | ⟨-, hAfter⟩ := storeSlotMappingIfAbsent_cases s run m
    · simp only [execute, hAfter]
      exact ⟨hDeadline, hMapping⟩
    · simp only [execute, hAfter, Function.update_self]
      refine ⟨?_, ?_⟩
      · rintro deadline ⟨⟩
        exact add_le_add_left hClock _
      · rintro mapping ⟨⟩
        exact h
  · by_cases hDeleted : ∃ run, command = .deleteSlotMapping run
    · obtain ⟨run, rfl⟩ := hDeleted
      have hRun : run = workflowRunId := by
        cases current with
        | failed => exact h.elim
        | _ => exact hPermits.2
      subst hRun
      simp [execute]
    · rw [execute_slotMapping (fun run m hEq => hStore ⟨run, m, hEq⟩)
        (fun run hEq => hDeleted ⟨run, hEq⟩)]
      exact ⟨hDeadline, fun mapping hMem => (hMapping mapping hMem).trans_le hIssued⟩

theorem Bindings.perform (h : Bindings workflowRunId since s phase) {proc : ι} {command : Command}
    (hPermits : (phase proc).Permits workflowRunId command)
    (hDelete : command = .deleteSlotMapping workflowRunId →
      ∀ mapping ∈ (s.slotMapping workflowRunId).value, (phase proc).read = some mapping) :
    Bindings workflowRunId since (execute command s).2
      (Function.update phase proc ((phase proc).next command (.ok (execute command s).1))) := by
  have hKeeps := keeps_execute (h.phases proc) hPermits hDelete
  obtain ⟨hDeadline, hMapping⟩ :=
    mapping_execute (h.phases proc) hPermits h.clock h.deadline h.mapping
  refine ⟨?_, hDeadline, hMapping, fun other => ?_⟩
  · rw [execute_clock]
    exact h.clock
  · by_cases hOther : other = proc
    · subst hOther
      rw [Function.update_self]
      exact next_holds (h.phases other) h.mapping hPermits hKeeps
    · rw [Function.update_of_ne hOther]
      exact (h.phases other).keep hKeeps

omit [DecidableEq ι] in
theorem Bindings.environment (h : Bindings workflowRunId since s phase) {move : Move}
    (hMove : environment move s = some s')
    (hTime : ∀ now, move = .advance now → now.val < since + staleCallTimeout) :
    Bindings workflowRunId since s' phase := by
  cases move with
  | advance now =>
    rw [CallConcurrency.environment] at hMove
    split at hMove
    · rename_i hNow
      cases hMove
      have hAlive : (s.advance now).slotMapping workflowRunId = s.slotMapping workflowRunId :=
        Volatile.purge_of_alive fun deadline hDeadline =>
          not_lt.mpr ((hTime now rfl).le.trans (h.deadline deadline hDeadline))
      have hKeeps : Keeps workflowRunId s (s.advance now) := by
        refine ⟨le_rfl, fun organizationId slotId _ hGone e he => ?_, fun mapping hMapping => ?_⟩
        · exact hGone e (s.advance_slots_subset _ now he)
        · exact .inl (by rwa [hAlive])
      refine ⟨h.clock.trans hNow, ?_, ?_, fun proc => (h.phases proc).keep hKeeps⟩
      · rw [hAlive]
        exact h.deadline
      · rw [hAlive]
        exact h.mapping
    · cases hMove
  | draw entropy =>
    cases hMove
    exact ⟨h.clock, h.deadline, h.mapping, fun proc => (h.phases proc).keep
      ⟨le_rfl, fun _ _ _ hGone => hGone, fun _ hMapping => .inl hMapping⟩⟩
  | configure organizationId limit =>
    cases hMove
    exact ⟨h.clock, h.deadline, h.mapping, fun proc => (h.phases proc).keep
      ⟨le_rfl, fun _ _ _ hGone => hGone, fun _ hMapping => .inl hMapping⟩⟩

theorem Traced.perform {trace : RedisTrace ι} (h : Traced trace phase) {proc : ι}
    {command : Command} (hPermits : (phase proc).Permits workflowRunId command)
    (hAlive : phase proc ≠ .failed) :
    Traced ((redis ι).recorded.perform proc command .reply trace).2 (Function.update phase proc
      ((phase proc).next command (.ok (execute command trace.state).1))) where
  own other slot hSlot := by
    by_cases hOther : other = proc
    · subst hOther
      rw [Function.update_self]
      rw [acquiredSlots, own_perform] at hSlot
      obtain ⟨entry, hEntry, hAcquired⟩ := List.mem_filterMap.mp hSlot
      rcases List.mem_cons.mp hEntry with rfl | hEntry
      · exact next_acquired hPermits hAlive hAcquired
      · exact next_own (h.own other slot (List.mem_filterMap.mpr ⟨entry, hEntry, hAcquired⟩)) _
    · rw [Function.update_of_ne hOther]
      rw [acquiredSlots, own_perform_of_ne hOther] at hSlot
      exact h.own other slot hSlot
  read other mapping hMapping := by
    by_cases hOther : other = proc
    · subst hOther
      rw [Function.update_self]
      rw [readMappings, own_perform] at hMapping
      obtain ⟨entry, hEntry, hRead⟩ := List.mem_filterMap.mp hMapping
      rcases List.mem_cons.mp hEntry with rfl | hEntry
      · exact next_looked hPermits hAlive hRead
      · exact next_read (h.read other mapping (List.mem_filterMap.mpr ⟨entry, hEntry, hRead⟩)) _
    · rw [Function.update_of_ne hOther]
      rw [readMappings, own_perform_of_ne hOther] at hMapping
      exact h.read other mapping hMapping

/-- After every undisturbed run of calls on one workflow run: once all calls have ended, each slot
they acquired that is still in its organization set is named by the mapping of the run; and a call
that ended because another slot was bound has left none. -/
theorem run_slots_named (workflowRunId : Nat) (calls : ι → RunCall) (start : Keyspace)
    (hAbsent : start.slotMapping workflowRunId = default) (events : List (Event ι Error Move))
    (last : Config ι Command.Reply Error Unit (RedisTrace ι))
    (hFollows : (redis ι).recorded.Follows (undisturbed workflowRunId start.clock)
      ⟨⟨start, []⟩, fun proc => (calls proc).method workflowRunId⟩ events)
    (hRun : (redis ι).recorded.run
      ⟨⟨start, []⟩, fun proc => (calls proc).method workflowRunId⟩ events = some last) :
    ((∀ proc, (last.procs proc).finished = true) → ∀ proc organizationId slotId,
      (organizationId, slotId) ∈ acquiredSlots last.shared proc →
      (last.shared.state.concurrent (.organization organizationId)).value.Member slotId →
      ∃ mapping ∈ (last.shared.state.slotMapping workflowRunId).value,
        mapping.organizationId = organizationId ∧ mapping.slotId = slotId) ∧
    ∀ proc, (last.procs proc).result? =
        some (.error (.workflowRunSlotAlreadyBoundError workflowRunId)) →
      ∀ organizationId slotId, (organizationId, slotId) ∈ acquiredSlots last.shared proc →
        ¬(last.shared.state.concurrent (.organization organizationId)).value.Member slotId := by
  have hEnd : ∃ phase, (Bindings workflowRunId start.clock last.shared.state phase ∧
      Traced last.shared phase) ∧ ∀ proc, (last.procs proc).Obeys (runProtocol workflowRunId)
        Phase.Closed (phase proc) := by
    refine System.ghost_invariant (P := fun _ => runProtocol workflowRunId)
      (J := fun trace phase => Bindings workflowRunId start.clock trace.state phase ∧
        Traced trace phase) ?_ ?_ hFollows hRun (fun proc => (calls proc).method_obeys) ?_
    · rintro proc command outcome trace phase ⟨hBindings, hTraced⟩ hPermits ⟨rfl, hDelete⟩
      have hAlive : phase proc ≠ .failed := by
        intro hFailed
        have hHolds := hBindings.phases proc
        rw [hFailed] at hHolds
        exact hHolds
      exact ⟨hBindings.perform hPermits fun hCommand mapping hMapping =>
        hTraced.read proc mapping (hDelete hCommand mapping hMapping),
        hTraced.perform hPermits hAlive⟩
    · rintro move trace trace' phase ⟨hBindings, hTraced⟩ hTime hMove
      have hOwn := own_environment hMove
      refine ⟨hBindings.environment (environment_recorded hMove) ?_, ?_, ?_⟩
      · rintro now rfl
        exact hTime
      · exact fun proc slot hSlot => hTraced.own proc slot (by rwa [acquiredSlots, ← hOwn])
      · exact fun proc mapping hMapping =>
          hTraced.read proc mapping (by rwa [readMappings, ← hOwn])
    · refine ⟨⟨le_rfl, ?_, ?_, fun _ => trivial⟩, ?_, ?_⟩
      · simp [hAbsent]
      · simp [hAbsent]
      · exact fun _ _ hSlot => absurd hSlot List.not_mem_nil
      · exact fun _ _ hMapping => absurd hMapping List.not_mem_nil
  obtain ⟨phase, ⟨hBindings, hTraced⟩, hObeys⟩ := hEnd
  have hGone : ∀ {organizationId : Nat} {slotId : SlotId},
      last.shared.state.Gone organizationId slotId →
      ¬(last.shared.state.concurrent (.organization organizationId)).value.Member slotId := by
    intro organizationId slotId hGone hMember
    obtain ⟨score, hScore⟩ := SortedSet.member_iff.mp hMember
    exact hGone _ hScore rfl
  refine ⟨?_, ?_⟩
  · intro hFinished proc organizationId slotId hSlot hMember
    have hOwn := hTraced.own proc _ hSlot
    have hHolds := hBindings.phases proc
    obtain ⟨result, hResult⟩ := Program.result_of_finished (hFinished proc)
    have hClosed := (hObeys proc).result hResult
    cases hPhase : phase proc with
    | bound =>
      rw [hPhase] at hOwn hHolds
      cases hOwn
      obtain ⟨mapping, hMapping, hNamed⟩ | hTaken := hHolds.2
      · exact ⟨mapping, hMapping, hNamed⟩
      · exact absurd hMember (hGone hTaken)
    | settled =>
      rw [hPhase] at hOwn hHolds
      cases hOwn
      exact absurd hMember (hGone hHolds.2)
    | holding => rw [hPhase] at hClosed; exact hClosed.elim
    | surplus => rw [hPhase] at hClosed; exact hClosed.elim
    | _ => rw [hPhase] at hOwn; cases hOwn
  · intro proc hResult organizationId slotId hSlot
    have hOwn := hTraced.own proc _ hSlot
    have hHolds := hBindings.phases proc
    have hClosed := (hObeys proc).result hResult
    cases hPhase : phase proc with
    | settled =>
      rw [hPhase] at hOwn hHolds
      cases hOwn
      exact hGone hHolds.2
    | bound =>
      rw [hPhase] at hClosed
      obtain ⟨value, hValue⟩ := hClosed
      cases hValue
    | holding => rw [hPhase] at hClosed; exact hClosed.elim
    | surplus => rw [hPhase] at hClosed; exact hClosed.elim
    | _ => rw [hPhase] at hOwn; cases hOwn

end Runs

theorem run_slots_named_one_call :
    ∃ last : Config Unit Command.Reply Error Unit (RedisTrace Unit),
      (redis Unit).recorded.run ⟨⟨.fresh ⟨1, UnixTime.one_pos⟩, []⟩,
        fun _ => (RunCall.register 7 "" none none 0).method 5⟩
        [.resume () .reply, .resume () .reply, .resume () .reply] = some last ∧
      ∃ mapping ∈ (last.shared.state.slotMapping 5).value,
        mapping.organizationId = 7 ∧ mapping.slotId = ⟨1000, 0⟩ :=
  ⟨_, rfl, (run_slots_named 5 (fun _ => .register 7 "" none none 0) (.fresh ⟨1, UnixTime.one_pos⟩) rfl
    [.resume () .reply, .resume () .reply, .resume () .reply] _ (by decide +kernel) rfl).1
    (by decide +kernel) () 7 ⟨1000, 0⟩ (by decide +kernel) (by decide +kernel)⟩

def racingCalls : Fin 4 → RunCall
  | 0 => .register 7 "" none none 0
  | 1 => .release
  | 2 => .release
  | 3 => .register 7 "" none none 0

def racingSchedule : List (Event (Fin 4) Error Move) :=
  [0, 0, 0, 1, 2, 1, 1, 1, 3, 3, 3, 2, 2, 2].map fun proc => .resume proc .reply

/-- Two releases race with a second registration, whose slot no mapping names any more. -/
theorem run_slots_orphaned :
    ¬∀ (calls : Fin 4 → RunCall) (start : Keyspace) (events : List (Event (Fin 4) Error Move))
      (last : Config (Fin 4) Command.Reply Error Unit (RedisTrace (Fin 4))),
      start.slotMapping 5 = default →
      (redis (Fin 4)).recorded.Follows (errorFree start.clock)
        ⟨⟨start, []⟩, fun proc => (calls proc).method 5⟩ events →
      (redis (Fin 4)).recorded.run ⟨⟨start, []⟩, fun proc => (calls proc).method 5⟩ events =
        some last →
      (∀ proc, (last.procs proc).finished = true) → ∀ proc organizationId slotId,
      (organizationId, slotId) ∈ acquiredSlots last.shared proc →
      (last.shared.state.concurrent (.organization organizationId)).value.Member slotId →
      ∃ mapping ∈ (last.shared.state.slotMapping 5).value,
        mapping.organizationId = organizationId ∧ mapping.slotId = slotId := by
  intro h
  have hEnds : ((redis (Fin 4)).recorded.run ⟨⟨.fresh ⟨1, UnixTime.one_pos⟩, []⟩,
      fun proc => (racingCalls proc).method 5⟩ racingSchedule).any (fun last =>
        decide ((∀ proc, (last.procs proc).finished = true) ∧
          (7, ⟨1000, 1⟩) ∈ acquiredSlots last.shared 3 ∧
          (last.shared.state.concurrent (.organization 7)).value.Member ⟨1000, 1⟩ ∧
          (last.shared.state.slotMapping 5).value = none)) = true := by decide +kernel
  obtain ⟨last, hRun, hLast⟩ := (Option.any_eq_true _ _).mp hEnds
  obtain ⟨hFinished, hSlot, hMember, hMapping⟩ := of_decide_eq_true hLast
  obtain ⟨mapping, hNamed, -⟩ := h racingCalls (.fresh ⟨1, UnixTime.one_pos⟩) racingSchedule last rfl
    (by decide +kernel) hRun hFinished 3 7 ⟨1000, 1⟩ hSlot hMember
  rw [hMapping] at hNamed
  cases hNamed

end FastVoice.CallConcurrency
