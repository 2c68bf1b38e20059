import FastVoice.CallStart.EntryPoints

/-! # What a request does with its slot

The ghost state of a request is where its slot is and what the mapping of its run says of it. A request that
ends has given its slot back as far as it knows, has started its call, or has been left with an exception that
it does not catch.
-/
namespace FastVoice.CallStart
open Async CallConcurrency

inductive Binding where
  | unbound
  | refused
  | bound (workflowRunId : Nat)
  | read (workflowRunId : Nat)
  | cleared
  deriving DecidableEq

inductive SlotStage where
  | idle
  | held (organizationId : Nat) (slotId : SlotId) (binding : Binding)
  /-- Removed from the set of the organization, but not yet from that of the fleet. -/
  | half (organizationId : Nat) (slotId : SlotId) (binding : Binding)
  | given (organizationId : Nat) (slotId : SlotId) (binding : Binding)
  /-- An exception has escaped while the slot was held. -/
  | leaked (organizationId : Nat) (slotId : SlotId)
  | started
  | void

namespace SlotStage

def permits (stage : SlotStage) (command : Command) : Prop :=
  match stage with
  | .void => True
  | .idle =>
    match command with
    | .acquireConcurrent _ _ scopeKey _ => scopeKey = none
    | .getConfiguration _ | .getOrganizationUsers _ | .pruneConcurrent _ | .zcardConcurrent _ => True
    | _ => False
  | .held organizationId slotId binding =>
    match command with
    | .storeSlotMappingIfAbsent _ mapping => binding = .unbound ∧ mapping = ⟨organizationId, slotId, none⟩
    | .zremConcurrent key slot => key = .organization organizationId ∧ slot = slotId
    | .getSlotMapping workflowRunId => binding = .bound workflowRunId
    | _ => False
  | .half organizationId slotId _ =>
    match command with
    | .zremFleet organization slot => organization = organizationId ∧ slot = slotId
    | _ => False
  | .given organizationId slotId binding =>
    match command with
    | .zremConcurrent key slot => key = .organization organizationId ∧ slot = slotId
    | .zremFleet organization slot => organization = organizationId ∧ slot = slotId
    | .deleteSlotMapping workflowRunId => binding = .read workflowRunId
    | _ => False
  | .leaked _ _ | .started => False

def afterError (caught : Bool) : SlotStage → SlotStage
  | .held organizationId slotId binding =>
    if caught then .held organizationId slotId binding else .leaked organizationId slotId
  | stage => stage

def next (stage : SlotStage) (command : Command) (result : Except Error command.Reply) : SlotStage :=
  match stage with
  | .idle =>
    match command, result with
    | .acquireConcurrent organizationId _ _ _, .ok (some (slotId, _)) => .held organizationId slotId .unbound
    | _, _ => .idle
  | .held organizationId slotId binding =>
    match command, result with
    | .storeSlotMappingIfAbsent workflowRunId _, .ok stored =>
      .held organizationId slotId (if stored then .bound workflowRunId else .refused)
    | .storeSlotMappingIfAbsent _ _, .error error =>
      afterError error.isException (.held organizationId slotId .refused)
    | .zremConcurrent _ _, .ok _ => .half organizationId slotId binding
    | .getSlotMapping workflowRunId, .ok mapping =>
      if mapping = some ⟨organizationId, slotId, none⟩ then .held organizationId slotId (.read workflowRunId)
      else .void
    | _, .ok _ => .held organizationId slotId binding
    | _, .error _ => .void
  | .half organizationId slotId binding =>
    match command, result with
    | .zremFleet _ _, .ok _ => .given organizationId slotId binding
    | _, .ok _ => .half organizationId slotId binding
    | _, .error _ => .void
  | .given organizationId slotId binding =>
    match command, result with
    | .deleteSlotMapping _, .ok _ => .given organizationId slotId .cleared
    | _, .ok _ => .given organizationId slotId binding
    | _, .error _ => .void
  | .leaked organizationId slotId => .leaked organizationId slotId
  | .started => .started
  | .void => .void

def afterStart : SlotStage → SlotStage
  | .void => .void
  | _ => .started

end SlotStage

def slotProtocol : Protocol Command.Reply Error SlotStage where
  permits := SlotStage.permits
  next := SlotStage.next

def EntryPoint.guardsAuthorization : EntryPoint → Bool
  | .initiateCall _ | .executeResolvedTarget | .handleOffer _ _ => false
  | .handleInboundRun _ | .handleInboundTelephony _ => true

def catches (guarded : Bool) (command : StartCommand) (error : Error) : Bool :=
  error.isException && (guarded || command ≠ .authorizeWorkflowRunStart)

def startProtocol (guarded : Bool) : Protocol StartCommand.Reply Error SlotStage where
  permits
    | stage, .redis command => stage.permits command
    | _, _ => True
  next stage command result :=
    match command, result with
    | .redis command, result => stage.next command result
    | .startCall, .ok _ => stage.afterStart
    | _, .ok _ => stage
    | command, .error error =>
      if foreignError error = error then stage.afterError (catches guarded command error) else .void

section Methods

theorem issues_true {Cmd : Type} {Reply : Cmd → Type} {α : Type} (program : Program Reply Error α) :
    program.Issues fun _ => True := by
  induction program with
  | ret value => trivial
  | raise error => trivial
  | await command resume ih => exact ⟨trivial, ih⟩

theorem slot_void {α : Type} {post : Except Error α → SlotStage → Prop} (hPost : ∀ result, post result .void)
    (program : Method α) : program.Obeys slotProtocol post .void := by
  have hStay : ∀ stage (command : Command), stage = SlotStage.void → True →
      slotProtocol.permits stage command ∧ ∀ result, slotProtocol.next stage command result = .void := by
    rintro _ command rfl -
    exact ⟨trivial, fun _ => rfl⟩
  refine ((issues_true program).obeys hStay rfl).weaken fun result stage hStage => ?_
  rw [hStage]
  exact hPost result

theorem slot_idle {α : Type} {program : Method α}
    (h : program.Issues fun command => SlotStage.idle.permits command ∧
      ∀ result, SlotStage.idle.next command result = .idle) :
    program.Obeys slotProtocol (fun _ stage => stage = .idle) .idle := by
  refine Program.Issues.obeys (T := fun stage => stage = SlotStage.idle) h ?_ rfl
  rintro _ command rfl hIdle
  exact hIdle

theorem getOrgConcurrentLimit_idle (organizationId : Nat) :
    (getOrgConcurrentLimit organizationId).Obeys slotProtocol (fun _ stage => stage = .idle) .idle := by
  refine slot_idle (orElse_issues ((Program.issues_call ⟨trivial, ?_⟩).bind fun _ => trivial))
  rintro (error | configured) <;> rfl

theorem getConcurrentCount_idle (organizationId : Nat) :
    (getConcurrentCount organizationId).Obeys slotProtocol (fun _ stage => stage = .idle) .idle := by
  refine slot_idle (orElse_issues ((Program.issues_call ⟨trivial, ?_⟩).bind fun _ =>
    Program.issues_call ⟨trivial, ?_⟩))
  · rintro (error | reply) <;> rfl
  · rintro (error | reply) <;> rfl

theorem notifyLimitReached_idle (organizationId : Nat) :
    (notifyLimitReached organizationId).Obeys slotProtocol (fun _ stage => stage = .idle) .idle := by
  refine slot_idle (orElse_issues (Program.issues_call ⟨trivial, ?_⟩))
  rintro (error | reply) <;> rfl

def Acquired (organizationId : Nat) : Except Error CallConcurrencySlot → SlotStage → Prop
  | .ok slot, stage => stage = .held organizationId slot.slotId .unbound ∧ slot.organizationId = organizationId ∧
      slot.scopeKey = none
  | .error _, stage => stage = .idle

theorem tryAcquire_obeys (organizationId maxConcurrent : Nat) :
    (tryAcquireConcurrentSlotDetails organizationId maxConcurrent none none).Obeys slotProtocol
      (fun result stage => (∃ slotId count, result = .ok (some (slotId, count)) ∧
          stage = .held organizationId slotId .unbound) ∨
        ((∀ acquisition, result ≠ .ok (some acquisition)) ∧ stage = .idle)) .idle := by
  refine orElse_obeys (Program.obeys_call rfl fun result => ?_) ?_
  · rcases result with error | _ | ⟨slotId, count⟩
    · exact .inr ⟨nofun, rfl⟩
    · exact .inr ⟨nofun, rfl⟩
    · exact .inl ⟨slotId, count, rfl, rfl⟩
  · rintro error stage (⟨_, _, hOk, _⟩ | ⟨-, rfl⟩)
    · cases hOk
    · exact .inr ⟨nofun, rfl⟩

theorem acquireOrgSlot_obeys (organizationId : Nat) (source : String) :
    (CallConcurrency.acquireOrgSlot organizationId source none none 0).Obeys slotProtocol
      (Acquired organizationId) .idle := by
  refine (getOrgConcurrentLimit_idle organizationId).bind ?_ fun error stage h => h
  rintro maxConcurrent _ rfl
  refine (tryAcquire_obeys organizationId maxConcurrent).bind ?_ ?_
  · rintro acquisition stage (⟨slotId, count, hAcquired, rfl⟩ | ⟨hNone, rfl⟩)
    · obtain rfl := Except.ok.inj hAcquired
      exact ⟨rfl, rfl, rfl⟩
    · cases acquisition with
      | some acquisition => exact absurd rfl (hNone acquisition)
      | none =>
        refine (getConcurrentCount_idle organizationId).bind ?_ fun error stage h => h
        rintro _ _ rfl
        refine (notifyLimitReached_idle organizationId).bind ?_ fun error stage h => h
        rintro _ _ rfl
        exact rfl
  · rintro error stage (⟨_, _, hOk, _⟩ | ⟨-, rfl⟩)
    · cases hOk
    · exact rfl

def Reached {α : Type} (expected : SlotStage) (result : Except Error α) (stage : SlotStage) : Prop :=
  (stage = expected ∧ ∃ value, result = .ok value) ∨ stage = .void

theorem reached_void {α : Type} (expected : SlotStage) (result : Except Error α) : Reached expected result .void :=
  .inr rfl

theorem reached_bind {α β : Type} {expected stage : SlotStage} {program : Method α} {next : α → Method β}
    {post : Except Error β → SlotStage → Prop} (h : program.Obeys slotProtocol (Reached expected) stage)
    (hNext : ∀ value, (next value).Obeys slotProtocol post expected) (hVoid : ∀ result, post result .void) :
    (program >>= next).Obeys slotProtocol post stage := by
  refine h.bind ?_ ?_
  · rintro value _ (⟨rfl, -⟩ | rfl)
    · exact hNext value
    · exact slot_void hVoid _
  · rintro error _ (⟨-, _, hOk⟩ | rfl)
    · cases hOk
    · exact hVoid _

theorem releaseConcurrentSlot_obeys (organizationId : Nat) (slotId : SlotId) (binding : Binding)
    {stage : SlotStage} (h : stage = .held organizationId slotId binding ∨
      stage = .given organizationId slotId binding) :
    (releaseConcurrentSlot organizationId slotId none).Obeys slotProtocol
      (fun result other => (other = .given organizationId slotId binding ∧ ∃ removed, result = .ok (some removed)) ∨
        other = .void) stage := by
  refine orElse_obeys ?_ ?_
  · refine Program.obeys_call_bind ?_ (fun removed => ?_) fun error => ?_
    · rcases h with rfl | rfl <;> exact ⟨rfl, rfl⟩
    · refine Program.obeys_call_bind ?_ (fun _ => ?_) fun error => ?_
      · rcases h with rfl | rfl <;> exact ⟨rfl, rfl⟩
      · rcases h with rfl | rfl <;> exact .inl ⟨rfl, removed, rfl⟩
      · rcases h with rfl | rfl <;> exact .inr rfl
    · rcases h with rfl | rfl <;> exact .inr rfl
  · rintro error other (⟨-, _, hOk⟩ | rfl)
    · cases hOk
    · exact .inr rfl

theorem releaseSlot_obeys (slot : CallConcurrencySlot) (hScope : slot.scopeKey = none) (binding : Binding)
    {stage : SlotStage} (h : stage = .held slot.organizationId slot.slotId binding ∨
      stage = .given slot.organizationId slot.slotId binding) :
    (CallConcurrency.releaseSlot slot).Obeys slotProtocol
      (Reached (.given slot.organizationId slot.slotId binding)) stage := by
  unfold CallConcurrency.releaseSlot
  rw [hScope]
  refine (releaseConcurrentSlot_obeys slot.organizationId slot.slotId binding h).bind ?_ ?_
  · rintro released other (⟨rfl, -⟩ | rfl)
    · exact .inl ⟨rfl, _, rfl⟩
    · exact .inr rfl
  · rintro error other (⟨-, _, hOk⟩ | rfl)
    · cases hOk
    · exact .inr rfl

def Bound (slot : CallConcurrencySlot) (workflowRunId : Nat) : Except Error Unit → SlotStage → Prop
  | .ok _, stage => stage = .held slot.organizationId slot.slotId (.bound workflowRunId) ∨ stage = .void
  | .error error, stage => stage = .void ∨
      (error = .workflowRunSlotAlreadyBoundError workflowRunId ∧
        stage = .given slot.organizationId slot.slotId .refused) ∨
      (error.isException = false ∧ stage = .leaked slot.organizationId slot.slotId)

theorem bindWorkflowRun_obeys (slot : CallConcurrencySlot) (hScope : slot.scopeKey = none) (workflowRunId : Nat) :
    (CallConcurrency.bindWorkflowRun slot workflowRunId).Obeys slotProtocol (Bound slot workflowRunId)
      (.held slot.organizationId slot.slotId .unbound) := by
  have hStore : (storeWorkflowSlotMappingIfAbsent workflowRunId slot.organizationId slot.slotId
      slot.scopeKey).Obeys slotProtocol (fun result stage =>
        (result = .ok true ∧ stage = .held slot.organizationId slot.slotId (.bound workflowRunId)) ∨
        (result = .ok false ∧ stage = .held slot.organizationId slot.slotId .refused) ∨
        (∃ error : Error, result = .error error ∧ error.isException = false ∧
          stage = .leaked slot.organizationId slot.slotId))
      (.held slot.organizationId slot.slotId .unbound) := by
    unfold storeWorkflowSlotMappingIfAbsent
    rw [hScope]
    refine ⟨⟨rfl, rfl⟩, fun result => ?_⟩
    rcases result with error | stored
    · change (if error.isException = true then _ else _ : Method Bool).Obeys slotProtocol _
        (SlotStage.afterError error.isException (.held slot.organizationId slot.slotId .refused))
      cases hException : error.isException with
      | true => exact .inr (.inl ⟨rfl, rfl⟩)
      | false => exact .inr (.inr ⟨error, rfl, hException, rfl⟩)
    · cases stored with
      | true => exact .inl ⟨rfl, rfl⟩
      | false => exact .inr (.inl ⟨rfl, rfl⟩)
  refine hStore.bind ?_ ?_
  · rintro stored stage (⟨hStored, rfl⟩ | ⟨hStored, rfl⟩ | ⟨_, hError, -⟩)
    · obtain rfl := Except.ok.inj hStored
      exact .inl rfl
    · obtain rfl := Except.ok.inj hStored
      exact reached_bind (releaseSlot_obeys slot hScope .refused (.inl rfl))
        (fun _ => .inr (.inl ⟨rfl, rfl⟩)) fun result => by cases result <;> first | exact .inr rfl | exact .inl rfl
    · cases hError
  · rintro error stage (⟨hStored, -⟩ | ⟨hStored, -⟩ | ⟨_, hError, hCancelled, rfl⟩)
    · cases hStored
    · cases hStored
    · obtain rfl := Except.error.inj hError
      exact .inr (.inr ⟨hCancelled, rfl⟩)

theorem releaseWorkflowRunSlot_obeys (organizationId : Nat) (slotId : SlotId) (workflowRunId : Nat) :
    (CallConcurrency.releaseWorkflowRunSlot workflowRunId).Obeys slotProtocol
      (Reached (.given organizationId slotId .cleared)) (.held organizationId slotId (.bound workflowRunId)) := by
  have hRead : (getWorkflowSlotMapping workflowRunId).Obeys slotProtocol (fun result stage =>
      (result = .ok (some ⟨organizationId, slotId, none⟩) ∧
        stage = .held organizationId slotId (.read workflowRunId)) ∨ stage = .void)
      (.held organizationId slotId (.bound workflowRunId)) := by
    refine orElse_obeys (Program.obeys_call rfl fun result => ?_) ?_
    · rcases result with error | mapping
      · exact .inr rfl
      · change _ ∨ (if mapping = some ⟨organizationId, slotId, none⟩ then _ else _) = SlotStage.void
        split
        · rename_i hMapping
          exact .inl ⟨congrArg Except.ok hMapping, if_pos hMapping⟩
        · exact .inr rfl
    · rintro error stage (⟨hOk, -⟩ | rfl)
      · cases hOk
      · exact .inr rfl
  refine hRead.bind ?_ ?_
  · rintro mapping stage (⟨hMapping, rfl⟩ | rfl)
    · obtain rfl := Except.ok.inj hMapping
      refine (releaseConcurrentSlot_obeys organizationId slotId (.read workflowRunId) (.inl rfl)).bind ?_ ?_
      · rintro released stage (⟨rfl, removed, hRemoved⟩ | rfl)
        · obtain rfl := Except.ok.inj hRemoved
          have hDelete : (deleteWorkflowSlotMapping workflowRunId).Obeys slotProtocol
              (Reached (.given organizationId slotId .cleared))
              (.given organizationId slotId (.read workflowRunId)) := by
            refine orElse_obeys (Program.obeys_call rfl fun result => ?_) ?_
            · rcases result with error | deleted
              · exact .inr rfl
              · exact .inl ⟨rfl, deleted, rfl⟩
            · rintro error stage (⟨-, _, hOk⟩ | rfl)
              · cases hOk
              · exact .inr rfl
          exact reached_bind hDelete (fun _ => .inl ⟨rfl, removed, rfl⟩) fun _ => .inr rfl
        · exact slot_void (reached_void _) _
      · rintro error stage (⟨-, _, hOk⟩ | rfl)
        · cases hOk
        · exact .inr rfl
    · exact slot_void (reached_void _) _
  · rintro error stage (⟨hOk, -⟩ | rfl)
    · cases hOk
    · exact .inr rfl

end Methods

section Requests

variable {guarded : Bool} {α β : Type} {stage : SlotStage}

def SlotStage.Ended : SlotStage → Prop
  | .idle | .leaked _ _ | .started | .void => True
  | .given _ _ binding => ∀ workflowRunId, binding ≠ .bound workflowRunId ∧ binding ≠ .read workflowRunId
  | .held _ _ _ | .half _ _ _ => False

def Results (S : α → SlotStage → Prop) (E : Error → SlotStage → Prop) : Except Error α → SlotStage → Prop
  | .ok value => S value
  | .error error => E error

abbrev Obeying (guarded : Bool) (program : StartMethod α) (S : α → SlotStage → Prop)
    (E : Error → SlotStage → Prop) (stage : SlotStage) : Prop :=
  program.Obeys (startProtocol guarded) (Results S E) stage

abbrev Ends (guarded : Bool) (program : StartMethod α) (stage : SlotStage) : Prop :=
  Obeying guarded program (fun _ => SlotStage.Ended) (fun _ => SlotStage.Ended) stage

theorem obeying_bind {program : StartMethod α} {next : α → StartMethod β} {S : α → SlotStage → Prop}
    {T : β → SlotStage → Prop} {E : Error → SlotStage → Prop} (h : Obeying guarded program S E stage)
    (hNext : ∀ value stage, S value stage → Obeying guarded (next value) T E stage) :
    Obeying guarded (program >>= next) T E stage :=
  h.bind hNext fun _ _ hError => hError

theorem Obeying.imp {program : StartMethod α} {S T : α → SlotStage → Prop} {E F : Error → SlotStage → Prop}
    (h : Obeying guarded program S E stage) (hValue : ∀ value stage, S value stage → T value stage)
    (hError : ∀ error stage, E error stage → F error stage) : Obeying guarded program T F stage := by
  refine Program.Obeys.weaken h fun result stage hResult => ?_
  cases result with
  | ok value => exact hValue value stage hResult
  | error error => exact hError error stage hResult

theorem obeying_void {S : α → SlotStage → Prop} {E : Error → SlotStage → Prop} (hValue : ∀ value, S value .void)
    (hError : ∀ error, E error .void) (program : StartMethod α) : Obeying guarded program S E .void := by
  have hStay : ∀ stage (command : StartCommand), stage = SlotStage.void → True →
      (startProtocol guarded).permits stage command ∧
        ∀ result, (startProtocol guarded).next stage command result = .void := by
    rintro _ command rfl -
    refine ⟨by cases command <;> trivial, fun result => ?_⟩
    cases command with
    | redis command => rfl
    | _ =>
      cases result with
      | ok value => rfl
      | error error =>
        change (if foreignError error = error then SlotStage.void else SlotStage.void) = _
        split <;> rfl
  refine ((issues_true program).obeys hStay rfl).weaken fun result stage hStage => ?_
  rw [hStage]
  cases result with
  | ok value => exact hValue value
  | error error => exact hError error

theorem ends_void (program : StartMethod α) : Ends guarded program .void :=
  obeying_void (fun _ => trivial) (fun _ => trivial) program

theorem onRedis_obeying {method : Method α} {post : Except Error α → SlotStage → Prop}
    (h : method.Obeys slotProtocol post stage) : (onRedis method).Obeys (startProtocol guarded) post stage := by
  refine Program.Obeys.embed h (fun _ _ hPermits => hPermits) fun stage command result => ?_
  cases result <;> rfl

theorem obeying_call {command : StartCommand} {S : command.Reply → SlotStage → Prop}
    {E : Error → SlotStage → Prop} {organizationId : Nat} {slotId : SlotId} {binding : Binding}
    (hCommand : ∀ redisCommand, command ≠ .redis redisCommand)
    (hValue : ∀ value, S value ((startProtocol guarded).next (.held organizationId slotId binding) command (.ok value)))
    (hCaught : ∀ error, foreignError error = error → catches guarded command error = true →
      E error (.held organizationId slotId binding))
    (hEscaped : ∀ error, catches guarded command error = false → E error (.leaked organizationId slotId))
    (hVoid : ∀ error, E error .void) :
    Obeying guarded (Program.call command) S E (.held organizationId slotId binding) := by
  refine Program.obeys_call ?_ fun result => ?_
  · cases command with
    | redis redisCommand => exact absurd rfl (hCommand redisCommand)
    | _ => trivial
  · cases result with
    | ok value => exact hValue value
    | error error =>
      have hNext : (startProtocol guarded).next (.held organizationId slotId binding) command (.error error) =
          if foreignError error = error then
            (SlotStage.held organizationId slotId binding).afterError (catches guarded command error)
          else .void := by
        cases command with
        | redis redisCommand => exact absurd rfl (hCommand redisCommand)
        | _ => rfl
      change E error _
      rw [hNext]
      split
      · rename_i hForeign
        cases hCatches : catches guarded command error with
        | true => exact hCaught error hForeign hCatches
        | false => exact hEscaped error hCatches
      · exact hVoid error

end Requests

end FastVoice.CallStart
