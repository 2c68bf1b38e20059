import FastVoice.CallStart.Requests

/-! # A request gives its slot back

A slot that a request has been granted is gone from the store when it ends, unless an exception came at an await
where the request does not expect it: one that the handler does not catch, or one that hides what Redis has done.
-/
namespace FastVoice.CallConcurrency.Keyspace

variable (s : Keyspace) (slotId : SlotId)

def Seated : Prop := ∃ key, ∃ e ∈ s.slots key, e.1 = slotId

def Unmapped : Prop := ∀ workflowRunId, ∀ mapping ∈ (s.slotMapping workflowRunId).value, mapping.slotId ≠ slotId

structure Without : Prop where
  slots : ¬s.Seated slotId
  fleet : ∀ e ∈ s.fleetSlots, e.1.2 ≠ slotId
  mappings : s.Unmapped slotId

def Fresh : Prop := ∀ slotId : SlotId, s.issued ≤ slotId.token → s.Without slotId

structure Sole (organizationId : Nat) : Prop where
  slot : (slotId, s.clock.val) ∈ s.slots (.organization organizationId)
  slots : ∀ key, ∀ e ∈ s.slots key, e.1 = slotId → key = .organization organizationId
  fleet : ∀ e ∈ s.fleetSlots, e.1.2 = slotId → e.1.1 = organizationId

variable {s slotId}

theorem clock_not_stale : ¬(0 ≤ s.clock.val ∧ s.clock.val ≤ s.staleCutoff) := by
  rintro ⟨-, hStale⟩
  exact absurd hStale (not_le.mpr (sub_lt_self _ (by decide +kernel)))

theorem mem_execute {command : Command} {key : ConcurrentKey} (h : (slotId, s.clock.val) ∈ s.slots key)
    (hNew : (∃ organizationId maxConcurrent scopeKey scopeMaxConcurrent,
      command = .acquireConcurrent organizationId maxConcurrent scopeKey scopeMaxConcurrent) → slotId ≠ s.nextSlotId)
    (hRelease : ∀ key, command ≠ .zremConcurrent key slotId) :
    (slotId, (execute command s).2.clock.val) ∈ (execute command s).2.slots key := by
  rw [execute_clock]
  by_cases hTouches : command.TouchesSlots
  · cases command with
    | acquireConcurrent organizationId maxConcurrent scopeKey scopeMaxConcurrent =>
      have hNew := hNew ⟨_, _, _, _, rfl⟩
      have hStale := s.clock_not_stale
      change _ ∈ (s.acquireConcurrent _ _ _ _).2.slots key
      obtain ⟨-, hAfter⟩ | ⟨scope, -, -, -, hAfter⟩ | ⟨-, -, hAfter⟩ | ⟨scope, -, -, -, hAfter⟩ :=
        s.acquireConcurrent_cases organizationId maxConcurrent scopeKey scopeMaxConcurrent
      all_goals
        rw [hAfter]
        simp only [slots_mirrorFleet, mem_addConcurrent, mem_pruneConcurrent, mem_counted, staleCutoff_counted]
        grind
    | zremConcurrent other slot =>
      refine (s.mem_zremConcurrent other key slot).mpr ⟨h, fun _ hSlot => ?_⟩
      exact hRelease other (congrArg _ hSlot.symm)
    | zremFleet organization slot => exact h
    | pruneConcurrent other => exact (s.mem_pruneConcurrent other key).mpr ⟨h, fun _ => s.clock_not_stale⟩
    | _ => exact hTouches.elim
  · unfold slots
    rw [(execute_frame hTouches s).1]
    exact h

section Acquire

variable {organizationId : Nat}

theorem acquireConcurrent_unscoped (organizationId maxConcurrent scopeMaxConcurrent : Nat) :
    s.acquireConcurrent organizationId maxConcurrent none scopeMaxConcurrent = (none, s.counted organizationId) ∨
    ∃ count, s.acquireConcurrent organizationId maxConcurrent none scopeMaxConcurrent = (some (s.nextSlotId, count),
      ((s.counted organizationId).addConcurrent (.organization organizationId) s.nextSlotId).mirrorFleet
        organizationId s.nextSlotId) := by
  obtain ⟨-, hAfter⟩ | ⟨scope, hScope, -⟩ | ⟨-, -, hAfter⟩ | ⟨scope, hScope, -⟩ :=
    s.acquireConcurrent_cases organizationId maxConcurrent none scopeMaxConcurrent
  · exact .inl hAfter
  · cases hScope
  · exact .inr ⟨_, hAfter⟩
  · cases hScope

theorem Without.counted (h : s.Without slotId) (organizationId : Nat) : (s.counted organizationId).Without slotId where
  slots := by
    rintro ⟨key, e, he, hSlot⟩
    exact h.slots ⟨key, e, ((s.mem_counted key organizationId).mp he).1, hSlot⟩
  fleet := h.fleet
  mappings := h.mappings

theorem Without.grant (h : s.Without slotId) {other : SlotId} (hOther : slotId ≠ other) :
    ((s.addConcurrent (.organization organizationId) other).mirrorFleet organizationId other).Without slotId where
  slots := by
    rintro ⟨key, e, he, rfl⟩
    rw [slots_mirrorFleet] at he
    obtain ⟨-, rfl⟩ | ⟨he, -⟩ := (s.mem_addConcurrent _ key other).mp he
    · exact hOther rfl
    · exact h.slots ⟨key, e, he, rfl⟩
  fleet := by
    rintro e he rfl
    obtain rfl | ⟨he, -⟩ := (mem_mirrorFleet _ other organizationId).mp he
    · exact hOther rfl
    · exact h.fleet e he rfl
  mappings := h.mappings

theorem Without.sole (h : s.Without slotId) :
    ((s.addConcurrent (.organization organizationId) slotId).mirrorFleet organizationId slotId).Sole slotId
      organizationId where
  slot := by
    rw [slots_mirrorFleet]
    exact (s.mem_addConcurrent _ _ slotId).mpr (.inl ⟨rfl, rfl⟩)
  slots := by
    rintro key e he rfl
    rw [slots_mirrorFleet] at he
    obtain ⟨hKey, -⟩ | ⟨he, -⟩ := (s.mem_addConcurrent _ key e.1).mp he
    · exact hKey
    · exact absurd ⟨key, e, he, rfl⟩ h.slots
  fleet := by
    intro e he hSlot
    obtain hEntry | ⟨he, -⟩ := (mem_mirrorFleet _ slotId organizationId).mp he
    · rw [hEntry]
    · exact absurd hSlot (h.fleet e he)

end Acquire

section Release

variable {organizationId : Nat}

theorem Sole.not_seated (h : s.Sole slotId organizationId) :
    ¬(s.zremConcurrent (.organization organizationId) slotId).Seated slotId := by
  rintro ⟨key, e, he, hSlot⟩
  obtain ⟨he, hOther⟩ := (s.mem_zremConcurrent _ key slotId).mp he
  exact hOther (h.slots key e he hSlot) hSlot

theorem not_seated_zrem (h : ¬s.Seated slotId) (key : ConcurrentKey) :
    ¬(s.zremConcurrent key slotId).Seated slotId := by
  rintro ⟨k, e, he, hSlot⟩
  exact h ⟨k, e, ((s.mem_zremConcurrent key k slotId).mp he).1, hSlot⟩

theorem not_fleet_zrem (h : ∀ e ∈ s.fleetSlots, e.1.2 = slotId → e.1.1 = organizationId) :
    ∀ e ∈ (s.zremFleet organizationId slotId).fleetSlots, e.1.2 ≠ slotId := by
  intro e he hSlot
  obtain ⟨he, hOther⟩ := (s.mem_zremFleet slotId organizationId).mp he
  exact hOther (Prod.ext (h e he hSlot) hSlot)

end Release

end FastVoice.CallConcurrency.Keyspace

namespace FastVoice.CallStart
open Async CallConcurrency

/-! ## What an await does to a slot -/

abbrev StartCall := StartCommand × Outcome Error × StartStore

def grantedBy : StartCall → Option SlotId
  | (.redis (.acquireConcurrent organizationId maxConcurrent scopeKey scopeMaxConcurrent), outcome, found) =>
    if outcome.executed then
      (found.redis.acquireConcurrent organizationId maxConcurrent scopeKey scopeMaxConcurrent).1.map Prod.fst
    else none
  | _ => none

def boundBy : StartCall → Option SlotId
  | (.redis (.storeSlotMappingIfAbsent workflowRunId mapping), outcome, found) =>
    if outcome.executed ∧ (found.redis.slotMapping workflowRunId).value = none then some mapping.slotId else none
  | _ => none

/-- An exception is harmless to a slot where it is caught or the slot is in no set, unless a script has granted or
bound the slot nonetheless. -/
def Harmless (guarded : Bool) (slotId : SlotId) (call : StartCall) : Prop :=
  ∀ error ∈ call.2.1.raised, (catches guarded call.1 error = true ∨ ¬call.2.2.redis.Seated slotId) ∧
    grantedBy call ≠ some slotId ∧ boundBy call ≠ some slotId

abbrev StartTrace := Recorded Unit StartCommand Error StartStore Empty

def grantedSlots (s : StartTrace) : List SlotId := (s.own ()).filterMap grantedBy

def AllHarmless (guarded : Bool) (s : StartTrace) (slotId : SlotId) : Prop :=
  ∀ call ∈ s.own (), Harmless guarded slotId call

def Started (s : StartTrace) : Prop := ∃ found, (StartCommand.startCall, Outcome.reply, found) ∈ s.own ()

def StartCommand.Releases : StartCommand → Prop
  | .redis (.zremConcurrent _ _) | .redis (.zremFleet _ _) | .redis (.getSlotMapping _)
  | .redis (.deleteSlotMapping _) => True
  | _ => False

/-- The release operations themselves succeed. -/
def releasesSucceed : System.Discipline Unit StartCommand.Reply Error StartTrace Empty where
  call _ command outcome _ := command.Releases → outcome = .reply
  environment _ _ := True

instance (command : StartCommand) : Decidable command.Releases := by
  unfold StartCommand.Releases
  split <;> infer_instance

instance (proc : Unit) (command : StartCommand) (outcome : Outcome Error) (s : StartTrace) :
    Decidable (releasesSucceed.call proc command outcome s) :=
  inferInstanceAs (Decidable (command.Releases → outcome = .reply))

instance (move : Empty) (s : StartTrace) : Decidable (releasesSucceed.environment move s) := isTrue trivial

/-! ## What the stage of a request says of the store -/

def Binding.Holds (keys : Keyspace) (organizationId : Nat) (slotId : SlotId) (harmless : Prop) : Binding → Prop
  | .unbound | .cleared => keys.Unmapped slotId ∧ harmless
  | .refused => keys.Unmapped slotId ↔ harmless
  | .bound workflowRunId | .read workflowRunId =>
    (keys.slotMapping workflowRunId).value = some ⟨organizationId, slotId, none⟩ ∧
      (∀ other, ∀ mapping ∈ (keys.slotMapping other).value, mapping.slotId = slotId → other = workflowRunId) ∧ harmless

def SlotStage.Holds (keys : Keyspace) (harmless : SlotId → Prop) : SlotStage → Prop
  | .idle => keys.Fresh ∧ ∀ slotId : SlotId, keys.issued ≤ slotId.token → harmless slotId
  | .held organizationId slotId binding =>
    keys.Sole slotId organizationId ∧ binding.Holds keys organizationId slotId (harmless slotId)
  | .half organizationId slotId binding =>
    ¬keys.Seated slotId ∧ (∀ e ∈ keys.fleetSlots, e.1.2 = slotId → e.1.1 = organizationId) ∧
      binding.Holds keys organizationId slotId (harmless slotId)
  | .given organizationId slotId binding =>
    ¬keys.Seated slotId ∧ (∀ e ∈ keys.fleetSlots, e.1.2 ≠ slotId) ∧
      binding.Holds keys organizationId slotId (harmless slotId)
  | .leaked _ slotId => keys.Seated slotId ∧ ¬harmless slotId
  | .started => True
  | .void => False

def SlotStage.slot : SlotStage → Option SlotId
  | .held _ slotId _ | .half _ slotId _ | .given _ slotId _ | .leaked _ slotId => some slotId
  | .idle | .started | .void => none

structure Accounted (guarded : Bool) (stage : SlotStage) (s : StartTrace) : Prop where
  holds : stage.Holds s.state.redis (AllHarmless guarded s)
  lost : Started s ∨ ∀ slotId ∈ grantedSlots s, stage.slot ≠ some slotId →
    (∃ key, (slotId, s.state.redis.clock.val) ∈ s.state.redis.slots key) ∧ ¬AllHarmless guarded s slotId
  started : stage = .started → Started s

/-! ## What one step preserves -/

section Step

variable {guarded : Bool} {s : StartTrace} {stage : SlotStage} {command : StartCommand} {outcome : Outcome Error}
  {slotId : SlotId}

abbrev afterCall (s : StartTrace) (command : StartCommand) (outcome : Outcome Error) : StartTrace :=
  (startServices.recorded.perform () command outcome s).2

abbrev nextStage (guarded : Bool) (stage : SlotStage) (s : StartTrace) (command : StartCommand)
    (outcome : Outcome Error) : SlotStage :=
  (startProtocol guarded).next stage command (startServices.perform () command outcome s.state).1

abbrev HoldsNext (guarded : Bool) (stage : SlotStage) (s : StartTrace) (command : StartCommand)
    (outcome : Outcome Error) : Prop :=
  (nextStage guarded stage s command outcome).Holds (afterCall s command outcome).state.redis
    (AllHarmless guarded (afterCall s command outcome))

theorem allHarmless_afterCall : AllHarmless guarded (afterCall s command outcome) slotId ↔
    Harmless guarded slotId (command, outcome, s.state) ∧ AllHarmless guarded s slotId := by
  unfold AllHarmless
  rw [own_perform, List.forall_mem_cons]

theorem harmless_reply {found : StartStore} : Harmless guarded slotId (command, .reply, found) := nofun

theorem allHarmless_reply : AllHarmless guarded (afterCall s command .reply) slotId ↔ AllHarmless guarded s slotId := by
  rw [allHarmless_afterCall, and_iff_right harmless_reply]

theorem harmless_of_not_seated {found : StartStore} (h : ¬found.redis.Seated slotId)
    (hGranted : grantedBy (command, outcome, found) ≠ some slotId)
    (hBound : boundBy (command, outcome, found) ≠ some slotId) :
    Harmless guarded slotId (command, outcome, found) :=
  fun _ _ => ⟨.inr h, hGranted, hBound⟩

theorem Binding.Holds.congr {keys : Keyspace} {organizationId : Nat} {binding : Binding} {harmless harmless' : Prop}
    (h : binding.Holds keys organizationId slotId harmless) (hIff : harmless' ↔ harmless) :
    binding.Holds keys organizationId slotId harmless' := by
  rw [propext hIff]
  exact h

theorem SlotStage.Holds.congr {keys : Keyspace} {harmless harmless' : SlotId → Prop} (h : stage.Holds keys harmless)
    (hSlot : ∀ slotId, stage.slot = some slotId → (harmless' slotId ↔ harmless slotId))
    (hFresh : ∀ slotId : SlotId, stage = .idle → keys.issued ≤ slotId.token → harmless slotId → harmless' slotId) :
    stage.Holds keys harmless' := by
  cases stage with
  | idle => exact ⟨h.1, fun slotId hToken => hFresh slotId rfl hToken (h.2 slotId hToken)⟩
  | held organizationId slotId binding => exact ⟨h.1, h.2.congr (hSlot slotId rfl)⟩
  | half organizationId slotId binding => exact ⟨h.1, h.2.1, h.2.2.congr (hSlot slotId rfl)⟩
  | given organizationId slotId binding => exact ⟨h.1, h.2.1, h.2.2.congr (hSlot slotId rfl)⟩
  | leaked organizationId slotId => exact ⟨h.1, fun hHarmless => h.2 ((hSlot slotId rfl).mp hHarmless)⟩
  | started => trivial
  | void => exact h

theorem catches_foreignError (command : StartCommand) (error : Error) :
    catches guarded command (foreignError error) = catches guarded command error := by
  unfold catches
  rw [isException_foreignError]

theorem foreignError_idem (error : Error) : foreignError (foreignError error) = foreignError error := by
  cases error <;> rfl

theorem holds_other (hCommand : ∀ redisCommand, command ≠ .redis redisCommand)
    (h : stage.Holds s.state.redis (AllHarmless guarded s)) : HoldsNext guarded stage s command outcome := by
  have hKeys : (afterCall s command outcome).state.redis = s.state.redis := by
    change (if outcome.executed then (s.state.execute command).2 else s.state).redis = _
    cases command with
    | redis redisCommand => exact absurd rfl (hCommand redisCommand)
    | _ => split <;> rfl
  have hGranted : grantedBy (command, outcome, s.state) = none := by
    cases command with
    | redis redisCommand => exact absurd rfl (hCommand redisCommand)
    | _ => rfl
  have hBound : boundBy (command, outcome, s.state) = none := by
    cases command with
    | redis redisCommand => exact absurd rfl (hCommand redisCommand)
    | _ => rfl
  have hHarmless : ∀ slotId, ¬s.state.redis.Seated slotId → Harmless guarded slotId (command, outcome, s.state) := by
    intro slotId hSeated
    refine harmless_of_not_seated hSeated ?_ ?_
    · rw [hGranted]
      nofun
    · rw [hBound]
      nofun
  rw [HoldsNext, hKeys]
  cases outcome with
  | reply =>
    have hSame : stage.Holds s.state.redis (AllHarmless guarded (afterCall s command .reply)) := by
      exact h.congr (fun slotId _ => allHarmless_reply) fun slotId _ _ hAll => allHarmless_reply.mpr hAll
    cases command with
    | redis redisCommand => exact absurd rfl (hCommand redisCommand)
    | startCall =>
      change stage.afterStart.Holds _ _
      cases stage with
      | void => exact h
      | _ => trivial
    | _ => exact hSame
  | fail error applied =>
    have hNext : nextStage guarded stage s command (.fail error applied) =
        stage.afterError (catches guarded command error) := by
      cases command with
      | redis redisCommand => exact absurd rfl (hCommand redisCommand)
      | _ =>
        change (if foreignError (foreignError error) = foreignError error then
          stage.afterError (catches guarded _ (foreignError error)) else SlotStage.void) = _
        rw [if_pos (foreignError_idem error), catches_foreignError]
    rw [hNext]
    have hStays : ∀ slotId, Harmless guarded slotId (command, .fail error applied, s.state) →
        (AllHarmless guarded (afterCall s command (.fail error applied)) slotId ↔ AllHarmless guarded s slotId) := by
      intro slotId hCall
      rw [allHarmless_afterCall, and_iff_right hCall]
    cases stage with
    | idle => exact ⟨h.1, fun slotId hToken => (hStays slotId (hHarmless slotId (h.1 slotId hToken).slots)).mpr
        (h.2 slotId hToken)⟩
    | held organizationId slotId binding =>
      cases hCatches : catches guarded command error with
      | true =>
        refine ⟨h.1, h.2.congr (hStays slotId ?_)⟩
        rintro _ ⟨⟩
        refine ⟨.inl hCatches, ?_, ?_⟩
        · rw [hGranted]
          nofun
        · rw [hBound]
          nofun
      | false =>
        refine ⟨⟨_, _, h.1.slot, rfl⟩, fun hAll => ?_⟩
        obtain ⟨hEscapes, -⟩ := (allHarmless_afterCall.mp hAll).1 error rfl
        rcases hEscapes with hCaught | hSeated
        · rw [hCatches] at hCaught
          cases hCaught
        · exact hSeated ⟨_, _, h.1.slot, rfl⟩
    | half organizationId slotId binding => exact ⟨h.1, h.2.1, h.2.2.congr (hStays slotId (hHarmless slotId h.1))⟩
    | given organizationId slotId binding => exact ⟨h.1, h.2.1, h.2.2.congr (hStays slotId (hHarmless slotId h.1))⟩
    | leaked organizationId slotId => exact ⟨h.1, fun hAll => h.2 (allHarmless_afterCall.mp hAll).2⟩
    | started => trivial
    | void => exact h

section Redis

variable {redisCommand : Command}

theorem redis_afterCall : (afterCall s (.redis redisCommand) outcome).state.redis =
    if outcome.executed then (execute redisCommand s.state.redis).2 else s.state.redis := by
  change (if outcome.executed then (s.state.execute (.redis redisCommand)).2 else s.state).redis = _
  split <;> rfl

theorem idle_reads (outcome : Outcome Error) (hPermits : SlotStage.idle.permits redisCommand)
    (hAcquire : ∀ organizationId maxConcurrent scopeMaxConcurrent,
      redisCommand ≠ .acquireConcurrent organizationId maxConcurrent none scopeMaxConcurrent) (keys : Keyspace)
    (h : keys.Fresh) : (execute redisCommand keys).2.Fresh ∧ (execute redisCommand keys).2.issued = keys.issued ∧
      (∀ found, grantedBy (.redis redisCommand, outcome, found) = none) ∧
      (∀ found, boundBy (.redis redisCommand, outcome, found) = none) ∧
      ∀ result, SlotStage.idle.next redisCommand result = .idle := by
  cases redisCommand with
  | acquireConcurrent organizationId maxConcurrent scopeKey scopeMaxConcurrent =>
    obtain rfl : scopeKey = none := hPermits
    exact absurd rfl (hAcquire organizationId maxConcurrent scopeMaxConcurrent)
  | getConfiguration organizationId => exact ⟨h, rfl, fun _ => rfl, fun _ => rfl, fun _ => rfl⟩
  | getOrganizationUsers organizationId => exact ⟨h, rfl, fun _ => rfl, fun _ => rfl, fun _ => rfl⟩
  | zcardConcurrent key => exact ⟨h, rfl, fun _ => rfl, fun _ => rfl, fun _ => rfl⟩
  | pruneConcurrent key =>
    refine ⟨fun slotId hToken => ⟨?_, (h slotId hToken).fleet, (h slotId hToken).mappings⟩, rfl, fun _ => rfl,
      fun _ => rfl, fun _ => rfl⟩
    rintro ⟨k, e, he, hSlot⟩
    exact (h slotId hToken).slots ⟨k, e, ((keys.mem_pruneConcurrent key k).mp he).1, hSlot⟩
  | _ => exact hPermits.elim

theorem fresh_counted {keys : Keyspace} (h : keys.Fresh) (organizationId : Nat) :
    (keys.counted organizationId).Fresh :=
  fun slotId hToken => (h slotId (Nat.le_of_succ_le hToken)).counted organizationId

theorem fresh_grant {keys : Keyspace} (h : keys.Fresh) (organizationId : Nat) :
    (((keys.counted organizationId).addConcurrent (.organization organizationId) keys.nextSlotId).mirrorFleet
      organizationId keys.nextSlotId).Fresh := by
  intro slotId hToken
  refine ((h slotId (Nat.le_of_succ_le hToken)).counted organizationId).grant ?_
  rintro rfl
  exact absurd hToken (Nat.not_succ_le_self keys.issued)

theorem idle_stays (h : SlotStage.idle.Holds s.state.redis (AllHarmless guarded s)) {keys : Keyspace}
    (hFresh : keys.Fresh) (hIssued : s.state.redis.issued ≤ keys.issued)
    (hCall : ∀ slotId : SlotId, keys.issued ≤ slotId.token → grantedBy (command, outcome, s.state) ≠ some slotId ∧
      boundBy (command, outcome, s.state) ≠ some slotId) :
    SlotStage.idle.Holds keys (AllHarmless guarded (afterCall s command outcome)) := by
  refine ⟨hFresh, fun slotId hToken => allHarmless_afterCall.mpr ⟨?_, h.2 slotId (hIssued.trans hToken)⟩⟩
  exact harmless_of_not_seated (h.1 slotId (hIssued.trans hToken)).slots (hCall slotId hToken).1 (hCall slotId hToken).2

theorem holds_acquire (h : SlotStage.idle.Holds s.state.redis (AllHarmless guarded s))
    (organizationId maxConcurrent scopeMaxConcurrent : Nat)
    (hCommand : redisCommand = .acquireConcurrent organizationId maxConcurrent none scopeMaxConcurrent) :
    HoldsNext guarded .idle s (.redis redisCommand) outcome := by
  subst hCommand
  set acquire := Command.acquireConcurrent organizationId maxConcurrent none scopeMaxConcurrent with hAcquire
  have hReply : (startProtocol guarded).next .idle (.redis acquire) (.ok (execute acquire s.state.redis).1) =
      match (execute acquire s.state.redis).1 with
      | some (slotId, _) => .held organizationId slotId .unbound
      | none => .idle := by
    change SlotStage.idle.next _ (.ok _) = _
    split <;> rename_i hResult <;> rw [hResult] <;> rfl
  have hExecute : execute acquire s.state.redis =
      s.state.redis.acquireConcurrent organizationId maxConcurrent none scopeMaxConcurrent := rfl
  have hIssued : s.state.redis.issued ≤ s.state.redis.issued + 1 := Nat.le_succ _
  have hNew : ∀ slotId : SlotId, s.state.redis.issued + 1 ≤ slotId.token →
      some s.state.redis.nextSlotId ≠ some slotId := by
    rintro slotId hToken hSlot
    obtain rfl := Option.some.inj hSlot
    exact absurd hToken (Nat.not_succ_le_self _)
  rw [HoldsNext, redis_afterCall]
  cases outcome with
  | reply =>
    change ((startProtocol guarded).next .idle (.redis acquire) (.ok (execute acquire s.state.redis).1)).Holds
      (execute acquire s.state.redis).2 _
    rw [hReply, hExecute]
    obtain hAfter | ⟨count, hAfter⟩ := s.state.redis.acquireConcurrent_unscoped organizationId maxConcurrent
        scopeMaxConcurrent
    · have hGranted : grantedBy (.redis acquire, .reply, s.state) = none := by
        change (s.state.redis.acquireConcurrent organizationId maxConcurrent none scopeMaxConcurrent).1.map _ = none
        rw [hAfter]
        rfl
      rw [hAfter]
      refine idle_stays h (fresh_counted h.1 organizationId) hIssued fun slotId _ => ⟨?_, nofun⟩
      rw [hGranted]
      nofun
    · rw [hAfter]
      have hNext := (h.1 s.state.redis.nextSlotId le_rfl).counted organizationId
      exact ⟨hNext.sole, hNext.mappings, allHarmless_reply.mpr (h.2 _ le_rfl)⟩
  | fail error applied =>
    cases applied with
    | false => exact idle_stays h h.1 le_rfl fun _ _ => ⟨nofun, nofun⟩
    | true =>
      have hGranted : grantedBy (.redis acquire, .fail error true, s.state) =
        (s.state.redis.acquireConcurrent organizationId maxConcurrent none scopeMaxConcurrent).1.map Prod.fst := rfl
      change SlotStage.idle.Holds (execute acquire s.state.redis).2 _
      rw [hExecute]
      obtain hAfter | ⟨count, hAfter⟩ := s.state.redis.acquireConcurrent_unscoped organizationId maxConcurrent
        scopeMaxConcurrent
      · rw [hAfter] at hGranted ⊢
        refine idle_stays h (fresh_counted h.1 organizationId) hIssued fun slotId _ => ⟨?_, nofun⟩
        rw [hGranted]
        nofun
      · rw [hAfter] at hGranted ⊢
        refine idle_stays h (fresh_grant h.1 organizationId) hIssued fun slotId hToken => ⟨?_, nofun⟩
        rw [hGranted]
        exact hNew slotId hToken

theorem holds_idle (h : SlotStage.idle.Holds s.state.redis (AllHarmless guarded s))
    (hPermits : SlotStage.idle.permits redisCommand) :
    HoldsNext guarded .idle s (.redis redisCommand) outcome := by
  by_cases hAcquire : ∃ organizationId maxConcurrent scopeMaxConcurrent,
      redisCommand = .acquireConcurrent organizationId maxConcurrent none scopeMaxConcurrent
  · obtain ⟨organizationId, maxConcurrent, scopeMaxConcurrent, hCommand⟩ := hAcquire
    exact holds_acquire h organizationId maxConcurrent scopeMaxConcurrent hCommand
  · obtain ⟨hFresh, hIssued, hGranted, hBound, hNext⟩ := idle_reads outcome hPermits
      (fun organizationId maxConcurrent scopeMaxConcurrent hCommand =>
        hAcquire ⟨organizationId, maxConcurrent, scopeMaxConcurrent, hCommand⟩) s.state.redis h.1
    rw [HoldsNext, show nextStage guarded .idle s (.redis redisCommand) outcome = .idle from hNext _, redis_afterCall]
    have hNone : ∀ slotId : SlotId, grantedBy (.redis redisCommand, outcome, s.state) ≠ some slotId ∧
        boundBy (.redis redisCommand, outcome, s.state) ≠ some slotId := by
      intro slotId
      rw [hGranted, hBound]
      exact ⟨nofun, nofun⟩
    split
    · exact idle_stays h hFresh hIssued.ge fun slotId _ => hNone slotId
    · exact idle_stays h h.1 le_rfl fun slotId _ => hNone slotId

theorem catches_redis {error : Error} : catches guarded (.redis redisCommand) error = error.isException := by
  simp [catches]

theorem mapping_stored {keys : Keyspace} (workflowRunId : Nat) (key : Redis.Volatile (Option SlotMapping) ℚ) :
    ({ keys with slotMapping := Function.update keys.slotMapping workflowRunId key }.slotMapping workflowRunId).value =
      key.value :=
  congrArg Redis.Volatile.value (Function.update_self ..)

theorem Sole.of_mapping {keys : Keyspace} {organizationId : Nat} (h : keys.Sole slotId organizationId)
    (slotMapping : Nat → Redis.Volatile (Option SlotMapping) ℚ) :
    { keys with slotMapping := slotMapping }.Sole slotId organizationId :=
  ⟨h.slot, h.slots, h.fleet⟩

theorem store_lost {organizationId workflowRunId : Nat} (error : Error) (applied : Bool) {found : StartStore}
    (hSole : found.redis.Sole slotId organizationId) (hUnmapped : found.redis.Unmapped slotId)
    (hCommand : redisCommand = .storeSlotMappingIfAbsent workflowRunId ⟨organizationId, slotId, none⟩) :
    ∃ keys, (if (Outcome.fail error applied).executed then (execute redisCommand found.redis).2
        else found.redis) = keys ∧ keys.Sole slotId organizationId ∧
      (keys.Unmapped slotId ↔ boundBy (.redis redisCommand, .fail error applied, found) ≠ some slotId) := by
  subst hCommand
  cases applied with
  | false => exact ⟨_, rfl, hSole, iff_of_true hUnmapped nofun⟩
  | true =>
    refine ⟨_, rfl, ?_⟩
    change (found.redis.storeSlotMappingIfAbsent workflowRunId
        ⟨organizationId, slotId, none⟩).2.Sole slotId organizationId ∧
      ((found.redis.storeSlotMappingIfAbsent workflowRunId ⟨organizationId, slotId, none⟩).2.Unmapped slotId ↔
        (if true = true ∧ (found.redis.slotMapping workflowRunId).value = none then some slotId else none) ≠
          some slotId)
    obtain ⟨hPresent, hStored⟩ | ⟨hAbsent, hStored⟩ := storeSlotMappingIfAbsent_cases found.redis workflowRunId
      ⟨organizationId, slotId, none⟩
    · rw [hStored, if_neg fun hNone => hPresent hNone.2]
      exact ⟨hSole, iff_of_true hUnmapped nofun⟩
    · rw [hStored, if_pos ⟨rfl, hAbsent⟩]
      refine ⟨Sole.of_mapping hSole _, iff_of_false (fun hNone => ?_) fun hNe => hNe rfl⟩
      exact hNone workflowRunId _ (mapping_stored workflowRunId _) rfl

theorem holds_store {organizationId workflowRunId : Nat}
    (h : (SlotStage.held organizationId slotId .unbound).Holds s.state.redis (AllHarmless guarded s))
    (hCommand : redisCommand = .storeSlotMappingIfAbsent workflowRunId ⟨organizationId, slotId, none⟩) :
    HoldsNext guarded (.held organizationId slotId .unbound) s (.redis redisCommand) outcome := by
  subst hCommand
  obtain ⟨hSole, hUnmapped, hHarmless⟩ := h
  set store := Command.storeSlotMappingIfAbsent workflowRunId ⟨organizationId, slotId, none⟩ with hStore
  have hExecute : execute store s.state.redis =
      s.state.redis.storeSlotMappingIfAbsent workflowRunId ⟨organizationId, slotId, none⟩ := rfl
  have hSeated : s.state.redis.Seated slotId := ⟨_, _, hSole.slot, rfl⟩
  have hCases := storeSlotMappingIfAbsent_cases s.state.redis workflowRunId ⟨organizationId, slotId, none⟩
  rw [HoldsNext, redis_afterCall]
  cases outcome with
  | reply =>
    have hAll : AllHarmless guarded (afterCall s (.redis store) .reply) slotId := allHarmless_reply.mpr hHarmless
    change (SlotStage.held organizationId slotId (if (execute store s.state.redis).1 then _ else _)).Holds
      (execute store s.state.redis).2 _
    rw [hExecute]
    obtain ⟨-, hStored⟩ | ⟨-, hStored⟩ := hCases
    · rw [hStored]
      exact ⟨hSole, iff_of_true hUnmapped hAll⟩
    · rw [hStored]
      refine ⟨Sole.of_mapping hSole _, mapping_stored workflowRunId _, fun other mapping hMapping hSlot => ?_, hAll⟩
      by_contra hOther
      change mapping ∈ (Function.update s.state.redis.slotMapping workflowRunId _ other).value at hMapping
      rw [Function.update_of_ne hOther] at hMapping
      exact hUnmapped other mapping hMapping hSlot
  | fail error applied =>
    have hNext : nextStage guarded (.held organizationId slotId .unbound) s (.redis store) (.fail error applied) =
        SlotStage.afterError error.isException (.held organizationId slotId .refused) := by
      rw [← isException_foreignError]
      rfl
    obtain ⟨keys, hKeys, hSole', hBound⟩ := store_lost error applied hSole hUnmapped hStore
    rw [hNext, hKeys]
    cases hException : error.isException with
    | true =>
      refine ⟨hSole', hBound.trans ⟨fun hNone => ?_, fun hAll => ?_⟩⟩
      · refine allHarmless_afterCall.mpr ⟨?_, hHarmless⟩
        rintro _ ⟨⟩
        exact ⟨.inl (catches_redis.trans hException), nofun, hNone⟩
      · exact ((allHarmless_afterCall.mp hAll).1 error rfl).2.2
    | false =>
      refine ⟨⟨_, _, hSole'.slot, rfl⟩, fun hAll => ?_⟩
      obtain ⟨hCaught | hGone, -⟩ := (allHarmless_afterCall.mp hAll).1 error rfl
      · rw [catches_redis, hException] at hCaught
        cases hCaught
      · exact hGone hSeated

theorem holds_held {organizationId : Nat} {binding : Binding}
    (h : (SlotStage.held organizationId slotId binding).Holds s.state.redis (AllHarmless guarded s))
    (hPermits : (SlotStage.held organizationId slotId binding).permits redisCommand)
    (hReplies : (StartCommand.redis redisCommand).Releases → outcome = .reply) :
    HoldsNext guarded (.held organizationId slotId binding) s (.redis redisCommand) outcome := by
  cases redisCommand with
  | storeSlotMappingIfAbsent workflowRunId mapping =>
    obtain ⟨rfl, rfl⟩ := hPermits
    exact holds_store h rfl
  | zremConcurrent key slot =>
    obtain rfl := hReplies trivial
    obtain ⟨rfl, rfl⟩ := hPermits
    exact ⟨h.1.not_seated, h.1.fleet, h.2.congr allHarmless_reply⟩
  | getSlotMapping workflowRunId =>
    obtain rfl := hReplies trivial
    obtain rfl : binding = .bound workflowRunId := hPermits
    have hRead : nextStage guarded (.held organizationId slotId (.bound workflowRunId)) s
        (.redis (.getSlotMapping workflowRunId)) .reply = .held organizationId slotId (.read workflowRunId) :=
      if_pos h.2.1
    rw [HoldsNext, hRead]
    exact ⟨h.1, h.2.1, h.2.2.1, allHarmless_reply.mpr h.2.2.2⟩
  | _ => exact hPermits.elim

theorem holds_half {organizationId : Nat} {binding : Binding}
    (h : (SlotStage.half organizationId slotId binding).Holds s.state.redis (AllHarmless guarded s))
    (hPermits : (SlotStage.half organizationId slotId binding).permits redisCommand)
    (hReplies : (StartCommand.redis redisCommand).Releases → outcome = .reply) :
    HoldsNext guarded (.half organizationId slotId binding) s (.redis redisCommand) outcome := by
  cases redisCommand with
  | zremFleet organization slot =>
    obtain ⟨rfl, rfl⟩ := hPermits
    obtain rfl := hReplies trivial
    exact ⟨h.1, Keyspace.not_fleet_zrem h.2.1, h.2.2.congr allHarmless_reply⟩
  | _ => exact hPermits.elim

theorem holds_given {organizationId : Nat} {binding : Binding}
    (h : (SlotStage.given organizationId slotId binding).Holds s.state.redis (AllHarmless guarded s))
    (hPermits : (SlotStage.given organizationId slotId binding).permits redisCommand)
    (hReplies : (StartCommand.redis redisCommand).Releases → outcome = .reply) :
    HoldsNext guarded (.given organizationId slotId binding) s (.redis redisCommand) outcome := by
  cases redisCommand with
  | zremConcurrent key slot =>
    obtain rfl := hReplies trivial
    obtain ⟨rfl, rfl⟩ := hPermits
    exact ⟨Keyspace.not_seated_zrem h.1 _, h.2.1, h.2.2.congr allHarmless_reply⟩
  | zremFleet organization slot =>
    obtain rfl := hReplies trivial
    obtain ⟨rfl, rfl⟩ := hPermits
    exact ⟨h.1, Keyspace.not_fleet_zrem fun e he hSlot => absurd hSlot (h.2.1 e he), h.2.2.congr allHarmless_reply⟩
  | deleteSlotMapping workflowRunId =>
    obtain rfl := hReplies trivial
    obtain rfl : binding = .read workflowRunId := hPermits
    refine ⟨h.1, h.2.1, fun other mapping hMapping hSlot => ?_, allHarmless_reply.mpr h.2.2.2.2⟩
    rw [redis_afterCall] at hMapping
    change mapping ∈ (Function.update s.state.redis.slotMapping workflowRunId default other).value at hMapping
    by_cases hOther : other = workflowRunId
    · rw [hOther, Function.update_self] at hMapping
      cases hMapping
    · rw [Function.update_of_ne hOther] at hMapping
      exact hOther (h.2.2.2.1 other mapping hMapping hSlot)
  | _ => exact hPermits.elim

end Redis

theorem holds_afterCall (outcome : Outcome Error) (h : stage.Holds s.state.redis (AllHarmless guarded s))
    (hPermits : (startProtocol guarded).permits stage command) (hReplies : command.Releases → outcome = .reply) :
    HoldsNext guarded stage s command outcome := by
  cases command with
  | redis redisCommand =>
    cases stage with
    | idle => exact holds_idle h hPermits
    | held organizationId slotId binding => exact holds_held h hPermits hReplies
    | half organizationId slotId binding => exact holds_half h hPermits hReplies
    | given organizationId slotId binding => exact holds_given h hPermits hReplies
    | leaked organizationId slotId => exact hPermits.elim
    | started => exact hPermits.elim
    | void => exact h.elim
  | _ => exact holds_other nofun h

/-! ### Slots whose grant was lost -/

theorem slot_afterError (stage : SlotStage) (caught : Bool) : (stage.afterError caught).slot = stage.slot := by
  cases stage with
  | held organizationId slotId binding => cases caught <;> rfl
  | _ => rfl

theorem slot_next_redis {redisCommand : Command} (h : stage.slot = some slotId)
    (hPermits : stage.permits redisCommand) (result : Except Error redisCommand.Reply) :
    (stage.next redisCommand result).slot = some slotId ∨ stage.next redisCommand result = .void := by
  cases stage with
  | held organizationId slot binding =>
    cases redisCommand with
    | storeSlotMappingIfAbsent workflowRunId mapping =>
      cases result with
      | ok stored => exact .inl h
      | error error =>
        exact .inl ((slot_afterError (.held organizationId slot .refused) error.isException).trans h)
    | zremConcurrent key other =>
      cases result with
      | ok removed => exact .inl h
      | error error => exact .inr rfl
    | getSlotMapping workflowRunId =>
      cases result with
      | ok mapping =>
        change (if mapping = some ⟨organizationId, slot, none⟩ then SlotStage.held _ _ _ else .void).slot = _ ∨
          (if mapping = some ⟨organizationId, slot, none⟩ then SlotStage.held _ _ _ else .void) = .void
        split
        · exact .inl h
        · exact .inr rfl
      | error error => exact .inr rfl
    | _ => exact hPermits.elim
  | half organizationId slot binding =>
    cases redisCommand with
    | zremFleet organization other =>
      cases result with
      | ok removed => exact .inl h
      | error error => exact .inr rfl
    | _ => exact hPermits.elim
  | given organizationId slot binding =>
    cases redisCommand with
    | zremConcurrent key other =>
      cases result with
      | ok removed => exact .inl h
      | error error => exact .inr rfl
    | zremFleet organization other =>
      cases result with
      | ok removed => exact .inl h
      | error error => exact .inr rfl
    | deleteSlotMapping workflowRunId =>
      cases result with
      | ok deleted => exact .inl h
      | error error => exact .inr rfl
    | _ => exact hPermits.elim
  | leaked organizationId slot => exact .inl h
  | idle => cases h
  | started => cases h
  | void => cases h

theorem slot_next (h : stage.slot = some slotId) (hPermits : (startProtocol guarded).permits stage command)
    (result : Except Error command.Reply) : ((startProtocol guarded).next stage command result).slot = some slotId ∨
      (startProtocol guarded).next stage command result = .void ∨
      (command = .startCall ∧ ∃ reply, result = .ok reply) := by
  cases command with
  | redis redisCommand => exact (slot_next_redis h hPermits result).imp_right .inl
  | startCall =>
    cases result with
    | ok value => exact .inr (.inr ⟨rfl, _, rfl⟩)
    | error error =>
      change (if foreignError error = error then _ else SlotStage.void).slot = _ ∨
        (if foreignError error = error then _ else SlotStage.void) = .void ∨ _
      split
      · exact .inl ((slot_afterError stage _).trans h)
      · exact .inr (.inl rfl)
  | _ =>
    cases result with
    | ok value => exact .inl h
    | error error =>
      change (if foreignError error = error then _ else SlotStage.void).slot = _ ∨
        (if foreignError error = error then _ else SlotStage.void) = .void ∨ _
      split
      · exact .inl ((slot_afterError stage _).trans h)
      · exact .inr (.inl rfl)

theorem next_idle {redisCommand : Command} (result : Except Error redisCommand.Reply) :
    SlotStage.idle.next redisCommand result ≠ .started := by
  cases redisCommand with
  | acquireConcurrent organizationId maxConcurrent scopeKey scopeMaxConcurrent =>
    rcases result with error | _ | ⟨slotId, count⟩
    · nofun
    · nofun
    · nofun
  | _ => nofun

theorem next_started (hPermits : (startProtocol guarded).permits stage command) {result : Except Error command.Reply}
    (h : (startProtocol guarded).next stage command result = .started) :
    stage = .started ∨ command = .startCall ∧ ∃ reply, result = .ok reply := by
  cases hSlot : stage.slot with
  | some slotId =>
    obtain hNext | hNext | hStart := slot_next hSlot hPermits result
    · rw [h] at hNext
      cases hNext
    · rw [h] at hNext
      cases hNext
    · exact .inr hStart
  | none =>
    cases stage with
    | started => exact .inl rfl
    | idle =>
      cases command with
      | redis redisCommand => exact absurd h (next_idle result)
      | startCall =>
        cases result with
        | ok reply => exact .inr ⟨rfl, reply, rfl⟩
        | error error =>
          change (if foreignError error = error then SlotStage.idle else .void) = _ at h
          split at h <;> cases h
      | _ =>
        cases result with
        | ok reply => cases h
        | error error =>
          change (if foreignError error = error then SlotStage.idle else .void) = _ at h
          split at h <;> cases h
    | void =>
      cases command with
      | redis redisCommand => cases h
      | _ =>
        cases result with
        | ok reply => cases h
        | error error =>
          change (if foreignError error = error then SlotStage.void else .void) = _ at h
          split at h <;> cases h
    | _ => cases hSlot

theorem permits_release {key : ConcurrentKey} (hVoid : stage ≠ .void)
    (hPermits : stage.permits (.zremConcurrent key slotId)) : stage.slot = some slotId := by
  cases stage with
  | held organizationId slot binding => exact congrArg some hPermits.2.symm
  | given organizationId slot binding => exact congrArg some hPermits.2.symm
  | void => exact absurd rfl hVoid
  | _ => exact hPermits.elim

theorem permits_acquire (organizationId maxConcurrent : Nat) {scopeKey : Option String} (scopeMaxConcurrent : Nat)
    (hVoid : stage ≠ .void)
    (hPermits : stage.permits (.acquireConcurrent organizationId maxConcurrent scopeKey scopeMaxConcurrent)) :
    stage = .idle ∧ scopeKey = none := by
  cases stage with
  | idle => exact ⟨rfl, hPermits⟩
  | void => exact absurd rfl hVoid
  | _ => exact hPermits.elim

theorem lost_grant (h : stage.Holds s.state.redis (AllHarmless guarded s))
    (hPermits : (startProtocol guarded).permits stage command)
    (hGranted : grantedBy (command, outcome, s.state) = some slotId)
    (hOther : (nextStage guarded stage s command outcome).slot ≠ some slotId) :
    (∃ key, (slotId, (afterCall s command outcome).state.redis.clock.val) ∈
      (afterCall s command outcome).state.redis.slots key) ∧
      ¬AllHarmless guarded (afterCall s command outcome) slotId := by
  have hVoid : stage ≠ .void := by
    rintro rfl
    exact h
  cases command with
  | redis redisCommand =>
    cases redisCommand with
    | acquireConcurrent organizationId maxConcurrent scopeKey scopeMaxConcurrent =>
      obtain ⟨rfl, rfl⟩ := permits_acquire organizationId maxConcurrent scopeMaxConcurrent hVoid hPermits
      have hExecuted : outcome.executed = true := by
        by_contra hNot
        rw [grantedBy, if_neg hNot] at hGranted
        cases hGranted
      rw [grantedBy, if_pos hExecuted] at hGranted
      obtain hAfter | ⟨count, hAfter⟩ := s.state.redis.acquireConcurrent_unscoped organizationId maxConcurrent
        scopeMaxConcurrent
      · rw [hAfter] at hGranted
        cases hGranted
      · rw [hAfter] at hGranted
        obtain rfl := Option.some.inj hGranted
        cases outcome with
        | reply =>
          refine absurd ?_ hOther
          change (SlotStage.idle.next (.acquireConcurrent organizationId maxConcurrent none scopeMaxConcurrent)
            (.ok (s.state.redis.acquireConcurrent organizationId maxConcurrent none scopeMaxConcurrent).1)).slot = _
          rw [hAfter]
          rfl
        | fail error applied =>
          obtain rfl : applied = true := hExecuted
          refine ⟨⟨.organization organizationId, ?_⟩, fun hAll => ?_⟩
          · rw [redis_afterCall]
            change (_, (s.state.redis.acquireConcurrent _ _ _ _).2.clock.val) ∈
              (s.state.redis.acquireConcurrent _ _ _ _).2.slots _
            rw [hAfter]
            exact ((h.1 s.state.redis.nextSlotId le_rfl).counted organizationId).sole.slot
          · refine ((allHarmless_afterCall.mp hAll).1 error rfl).2.1 ?_
            change (s.state.redis.acquireConcurrent _ _ _ _).1.map _ = _
            rw [hAfter]
            rfl
    | _ => cases hGranted
  | _ => cases hGranted

theorem mem_afterCall {key : ConcurrentKey} (h : stage.Holds s.state.redis (AllHarmless guarded s))
    (hPermits : (startProtocol guarded).permits stage command) (hSlot : stage.slot ≠ some slotId)
    (hMem : (slotId, s.state.redis.clock.val) ∈ s.state.redis.slots key) :
    (slotId, (afterCall s command outcome).state.redis.clock.val) ∈
      (afterCall s command outcome).state.redis.slots key := by
  have hVoid : stage ≠ .void := by
    rintro rfl
    exact h
  cases command with
  | redis redisCommand =>
    rw [redis_afterCall]
    split
    · refine Keyspace.mem_execute hMem ?_ ?_
      · rintro ⟨organizationId, maxConcurrent, scopeKey, scopeMaxConcurrent, rfl⟩ rfl
        obtain ⟨rfl, -⟩ := permits_acquire organizationId maxConcurrent scopeMaxConcurrent hVoid hPermits
        exact (h.1 _ le_rfl).slots ⟨key, _, hMem, rfl⟩
      · rintro other rfl
        exact hSlot (permits_release hVoid hPermits)
    · exact hMem
  | _ =>
    change (_, (if _ then (s.state.execute _).2 else s.state).redis.clock.val) ∈
      (if _ then (s.state.execute _).2 else s.state).redis.slots key
    split <;> exact hMem

theorem accounted_afterCall (h : Accounted guarded stage s) (hPermits : (startProtocol guarded).permits stage command)
    (hReplies : command.Releases → outcome = .reply) :
    Accounted guarded (nextStage guarded stage s command outcome) (afterCall s command outcome) := by
  have hHolds := holds_afterCall outcome h.holds hPermits hReplies
  have hOwn : (afterCall s command outcome).own () = (command, outcome, s.state) :: s.own () :=
      own_perform command outcome
  have hStarted : Started s → Started (afterCall s command outcome) := by
    rintro ⟨found, hFound⟩
    exact ⟨found, by rw [hOwn]; exact List.mem_cons_of_mem _ hFound⟩
  have hStart : command = .startCall → outcome = .reply → Started (afterCall s command outcome) := by
    rintro rfl rfl
    exact ⟨s.state, by rw [hOwn]; exact List.mem_cons_self⟩
  refine ⟨hHolds, ?_, ?_⟩
  · obtain hBefore | hLost := h.lost
    · exact .inl (hStarted hBefore)
    by_cases hNow : command = .startCall ∧ outcome = .reply
    · exact .inl (hStart hNow.1 hNow.2)
    refine .inr fun slotId hSlot hOther => ?_
    rw [grantedSlots, hOwn, List.filterMap_cons] at hSlot
    by_cases hNew : grantedBy (command, outcome, s.state) = some slotId
    · exact lost_grant h.holds hPermits hNew hOther
    have hOld : slotId ∈ grantedSlots s := by
      cases hGranted : grantedBy (command, outcome, s.state) with
      | none =>
        rw [hGranted] at hSlot
        exact hSlot
      | some granted =>
        rw [hGranted] at hSlot hNew
        obtain rfl | hSlot := List.mem_cons.mp hSlot
        · exact absurd rfl hNew
        · exact hSlot
    have hBefore : stage.slot ≠ some slotId := by
      intro hStage
      obtain hNext | hNext | ⟨rfl, reply, hReply⟩ :=
        slot_next hStage hPermits (startServices.perform () command outcome s.state).1
      · exact hOther hNext
      · rw [HoldsNext, nextStage, hNext] at hHolds
        exact hHolds
      · cases outcome with
        | reply => exact hNow ⟨rfl, rfl⟩
        | fail error applied => cases hReply
    obtain ⟨⟨key, hMem⟩, hNot⟩ := hLost slotId hOld hBefore
    exact ⟨⟨key, mem_afterCall h.holds hPermits hBefore hMem⟩, fun hAll => hNot (allHarmless_afterCall.mp hAll).2⟩
  · intro hNext
    obtain rfl | ⟨rfl, reply, hReply⟩ := next_started hPermits hNext
    · exact hStarted (h.started rfl)
    · cases outcome with
      | reply => exact hStart rfl rfl
      | fail error applied => cases hReply

end Step

/-! ## Every slot is returned -/

theorem accounted_run {entry : EntryPoint} {organizationId : Nat} {s : StartStore} (hFresh : s.redis.Fresh)
    {events : List (Event Unit Error Empty)} {last : Config Unit StartCommand.Reply Error Unit StartTrace}
    (hFollows : startServices.recorded.Follows releasesSucceed ⟨⟨s, []⟩, fun _ => entry.method organizationId⟩ events)
    (hRun : startServices.recorded.run ⟨⟨s, []⟩, fun _ => entry.method organizationId⟩ events = some last)
    {result : Except Error Unit} (hFinished : (last.procs ()).result? = some result) :
    ∃ stage : SlotStage, stage.Ended ∧ Accounted entry.guardsAuthorization stage last.shared := by
  have hStart : Accounted entry.guardsAuthorization .idle ⟨s, []⟩ := by
    refine ⟨⟨hFresh, ?_⟩, .inr ?_, nofun⟩
    · intro slotId _ call hCall
      cases hCall
    · intro slotId hSlot
      cases hSlot
  have hLast : ∃ stage : Unit → SlotStage, Accounted entry.guardsAuthorization (stage ()) last.shared ∧
      ∀ proc, (last.procs proc).Obeys (startProtocol entry.guardsAuthorization)
        (Results (fun _ => SlotStage.Ended) fun _ => SlotStage.Ended) (stage proc) := by
    apply System.ghost_invariant (P := fun _ => startProtocol entry.guardsAuthorization)
      (J := fun s stage => Accounted entry.guardsAuthorization (stage ()) s)
      (t := fun _ => .idle) ?_ nofun hFollows hRun (fun _ => method_ends organizationId entry) hStart
    intro _ command outcome s stage hAccounted hPermits hReplies
    rw [Function.update_self]
    exact accounted_afterCall hAccounted hPermits hReplies
  obtain ⟨stage, hAccounted, hObeys⟩ := hLast
  have hEnded := (hObeys ()).result hFinished
  refine ⟨stage (), ?_, hAccounted⟩
  cases result with
  | ok value => exact hEnded
  | error error => exact hEnded

/-- Without a call, a slot that a request has been granted is out of the store when the request ends, if and only if
every exception on the way was harmless to it. -/
theorem slot_returned_iff (entry : EntryPoint) (organizationId : Nat) (s : StartStore) (hFresh : s.redis.Fresh)
    (events : List (Event Unit Error Empty)) (last : Config Unit StartCommand.Reply Error Unit StartTrace)
    (hFollows : startServices.recorded.Follows releasesSucceed ⟨⟨s, []⟩, fun _ => entry.method organizationId⟩ events)
    (hRun : startServices.recorded.run ⟨⟨s, []⟩, fun _ => entry.method organizationId⟩ events = some last)
    (result : Except Error Unit) (hFinished : (last.procs ()).result? = some result) (hStart : ¬Started last.shared)
    (slotId : SlotId) (hGranted : slotId ∈ grantedSlots last.shared) :
    last.shared.state.redis.Without slotId ↔ AllHarmless entry.guardsAuthorization last.shared slotId := by
  obtain ⟨stage, hEnded, hAccounted⟩ := accounted_run hFresh hFollows hRun hFinished
  have hLost := hAccounted.lost.resolve_left hStart
  have hHolds := hAccounted.holds
  by_cases hSlot : stage.slot = some slotId
  · cases stage with
    | given organization slot binding =>
      obtain rfl := Option.some.inj hSlot
      obtain ⟨hSlots, hFleet, hBinding⟩ := hHolds
      have hMapped : last.shared.state.redis.Unmapped slot ↔
          AllHarmless entry.guardsAuthorization last.shared slot := by
        cases binding with
        | unbound => exact iff_of_true hBinding.1 hBinding.2
        | cleared => exact iff_of_true hBinding.1 hBinding.2
        | refused => exact hBinding
        | bound workflowRunId => exact absurd rfl (hEnded workflowRunId).1
        | read workflowRunId => exact absurd rfl (hEnded workflowRunId).2
      exact ⟨fun hWithout => hMapped.mp hWithout.mappings, fun hAll => ⟨hSlots, hFleet, hMapped.mpr hAll⟩⟩
    | leaked organization slot =>
      obtain rfl := Option.some.inj hSlot
      exact iff_of_false (fun hWithout => hWithout.slots hHolds.1) hHolds.2
    | held organization slot binding => exact hEnded.elim
    | half organization slot binding => exact hEnded.elim
    | _ => cases hSlot
  · obtain ⟨⟨key, hMem⟩, hNot⟩ := hLost slotId hGranted hSlot
    exact iff_of_false (fun hWithout => hWithout.slots ⟨key, _, hMem, rfl⟩) hNot

def emptyStart : StartStore := ⟨.fresh ⟨1, UnixTime.one_pos⟩, 7, true⟩

theorem emptyStart_fresh : emptyStart.redis.Fresh := by
  intro slotId _
  refine ⟨?_, ?_, ?_⟩
  · rintro ⟨key, e, he, -⟩
    cases he
  · intro e he
    cases he
  · intro workflowRunId mapping hMapping
    cases hMapping

def unansweredBinding : List (Event Unit Error Empty) :=
  [.resume () .reply, .resume () .reply, .resume () .reply, .resume () .reply, .resume () (.fail .exception true),
    .resume () .reply, .resume () .reply]

theorem mapping_left_behind :
    ¬ ∀ (entry : EntryPoint) (organizationId : Nat) (s : StartStore) (events : List (Event Unit Error Empty))
      (last : Config Unit StartCommand.Reply Error Unit StartTrace), s.redis.Fresh →
      startServices.recorded.Follows releasesSucceed ⟨⟨s, []⟩, fun _ => entry.method organizationId⟩ events →
      startServices.recorded.run ⟨⟨s, []⟩, fun _ => entry.method organizationId⟩ events = some last →
      ∀ result, (last.procs ()).result? = some result → ¬Started last.shared →
      ∀ slotId ∈ grantedSlots last.shared, last.shared.state.redis.Without slotId := by
  intro hAll
  have hRun : ∃ last, startServices.recorded.run ⟨⟨emptyStart, []⟩, fun _ => (EntryPoint.initiateCall none).method 1⟩
      unansweredBinding = some last ∧ (last.procs ()).result? = some (.error .exception) ∧
      ⟨1000, 0⟩ ∈ grantedSlots last.shared ∧
      (last.shared.state.redis.slotMapping 7).value = some ⟨1, ⟨1000, 0⟩, none⟩ ∧
      .startCall ∉ (last.shared.own ()).map Prod.fst := by
    refine ⟨_, rfl, rfl, ?_, ?_, ?_⟩
    · decide +kernel
    · decide +kernel
    · decide +kernel
  obtain ⟨last, hRun, hResult, hSlot, hMapping, hStart⟩ := hRun
  have hStarted : ¬Started last.shared := by
    rintro ⟨found, hFound⟩
    exact hStart (List.mem_map.mpr ⟨_, hFound, rfl⟩)
  have hWithout := hAll (.initiateCall none) 1 emptyStart unansweredBinding last emptyStart_fresh (by decide +kernel)
    hRun _ hResult hStarted _ hSlot
  exact hWithout.mappings 7 _ hMapping rfl

def failedCreation : List (Event Unit Error Empty) :=
  [.resume () .reply, .resume () .reply, .resume () .reply, .resume () (.fail .exception false), .resume () .reply,
    .resume () .reply]

theorem failed_creation_returned :
    ∃ last, startServices.recorded.run ⟨⟨emptyStart, []⟩, fun _ => EntryPoint.executeResolvedTarget.method 1⟩
        failedCreation = some last ∧ last.shared.state.redis.Without ⟨1000, 0⟩ := by
  have hRun : ∃ last, startServices.recorded.run ⟨⟨emptyStart, []⟩,
        fun _ => EntryPoint.executeResolvedTarget.method 1⟩ failedCreation = some last ∧
      (last.procs ()).result? = some (.error .exception) ∧ ⟨1000, 0⟩ ∈ grantedSlots last.shared ∧
      .startCall ∉ (last.shared.own ()).map Prod.fst ∧
      (last.shared.own ()).all (fun call =>
        call.2.1 = .reply ∨ call.1 = .createWorkflowRun ∧ call.2.1 = .fail .exception false) = true := by
    refine ⟨_, rfl, rfl, ?_, ?_, ?_⟩
    · decide +kernel
    · decide +kernel
    · decide +kernel
  obtain ⟨last, hRun, hResult, hSlot, hStart, hCalls⟩ := hRun
  have hStarted : ¬Started last.shared := by
    rintro ⟨found, hFound⟩
    exact hStart (List.mem_map.mpr ⟨_, hFound, rfl⟩)
  have hAll : AllHarmless false last.shared ⟨1000, 0⟩ := by
    rintro ⟨command, outcome, found⟩ hCall
    obtain hReply | ⟨hCommand, hFailed⟩ := of_decide_eq_true (List.all_eq_true.mp hCalls _ hCall)
    · cases hReply
      exact harmless_reply
    · cases hCommand
      cases hFailed
      rintro _ ⟨⟩
      exact ⟨.inl rfl, nofun, nofun⟩
  exact ⟨last, hRun, (slot_returned_iff .executeResolvedTarget 1 emptyStart emptyStart_fresh failedCreation last
    (by decide +kernel) hRun (.error .exception) hResult hStarted ⟨1000, 0⟩ hSlot).mpr hAll⟩

end FastVoice.CallStart
