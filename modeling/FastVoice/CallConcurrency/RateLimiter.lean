import Mathlib.Data.String.Basic
import FastVoice.Redis.SortedSet
import FastVoice.Redis.Volatile
import FastVoice.Runtime

/-! # The Redis side of the rate limiter

The keys the limiter owns, its Lua scripts as state transformers, and its methods as programs over
single Redis commands. A script runs atomically and uses the clock reading its caller took, so all
readings are non-decreasing exactly when the shared clock is. Random parts (the uuid of a slot id,
`math.random` in a script) come from two registers of the state.
-/
namespace FastVoice.CallConcurrency
open Async Redis

/-- `f"{int(now * 1000)}_{uuid4().hex[:8]}"`; the uuids are taken to be distinct. -/
structure SlotId where
  millis : Int
  token : Nat
  deriving DecidableEq

/-- The key `concurrent_calls:<organization_id>` or `concurrent_calls:<scope_key>`. A scope key
has the form `campaign:<id>`, so the two never name the same key. -/
inductive ConcurrentKey where
  | organization (organizationId : Nat)
  | scope (scopeKey : String)
  deriving DecidableEq

/-- The hash `workflow_slot_mapping:<workflow_run_id>`. -/
structure SlotMapping where
  organizationId : Nat
  slotId : SlotId
  scopeKey : Option String
  deriving DecidableEq

/-- The key `from_number_pool:<organization_id>:<telephony_configuration_id>`. -/
structure PoolKey where
  organizationId : Nat
  telephonyConfigurationId : Option Nat
  deriving DecidableEq

/-- The hash `workflow_from_number:<workflow_run_id>`. -/
structure NumberMapping where
  pool : PoolKey
  fromNumber : String
  deriving DecidableEq

/-- The key `rate_limit:<scope_key or organization_id>`. -/
inductive RateLimitKey where
  | organization (organizationId : Nat)
  | scope (scopeKey : String)
  deriving DecidableEq

abbrev Slots := Volatile (SortedSet SlotId ℚ) ℚ
abbrev FleetSlots := Volatile (SortedSet (Nat × SlotId) ℚ) ℚ
abbrev NumberPool := Volatile (SortedSet String ℚ) ℚ
abbrev Tokens := Volatile (SortedSet ℚ ℚ) ℚ

structure Keyspace where
  clock : UnixTime
  issued : Nat
  entropy : Nat
  /-- The organization setting `CONCURRENT_CALL_LIMIT`. -/
  configuredLimit : Nat → Option Nat
  concurrent : ConcurrentKey → Slots
  fleet : FleetSlots
  slotMapping : Nat → Volatile (Option SlotMapping) ℚ
  numberPool : PoolKey → NumberPool
  numberMapping : Nat → Volatile (Option NumberMapping) ℚ
  tokens : RateLimitKey → Tokens

def staleCallTimeout : ℚ := 1200

def Keyspace.fresh (clock : UnixTime) : Keyspace where
  clock := clock
  issued := 0
  entropy := 0
  configuredLimit := fun _ => none
  concurrent := default
  fleet := default
  slotMapping := default
  numberPool := default
  numberMapping := default
  tokens := default

/-- An empty scope key is the same as none. -/
def scopeConcurrentKey : Option String → Option ConcurrentKey
  | some scopeKey => if scopeKey = "" then none else some (.scope scopeKey)
  | none => none

namespace Keyspace

def staleCutoff (s : Keyspace) : ℚ := s.clock - staleCallTimeout

def nextSlotId (s : Keyspace) : SlotId := ⟨(s.clock.val * 1000).floor, s.issued⟩

def pruneConcurrent (s : Keyspace) (key : ConcurrentKey) : Keyspace :=
  { s with
    concurrent := Function.update s.concurrent key
      ((s.concurrent key).put ((s.concurrent key).value.zremrangebyscore 0 s.staleCutoff)) }

def addConcurrent (s : Keyspace) (key : ConcurrentKey) (slotId : SlotId) : Keyspace :=
  { s with
    concurrent := Function.update s.concurrent key
      (((s.concurrent key).put ((s.concurrent key).value.zadd s.clock slotId)).expire
        (s.clock + 3600)) }

def zremConcurrent (s : Keyspace) (key : ConcurrentKey) (slotId : SlotId) : Keyspace :=
  { s with
    concurrent := Function.update s.concurrent key
      ((s.concurrent key).put ((s.concurrent key).value.zrem slotId)) }

def mirrorFleet (s : Keyspace) (organizationId : Nat) (slotId : SlotId) : Keyspace :=
  let pruned := s.fleet.put (s.fleet.value.zremrangebyscore 0 s.staleCutoff)
  { s with
    fleet := (pruned.put (pruned.value.zadd s.clock (organizationId, slotId))).expire
      (s.clock + 3600) }

def zremFleet (s : Keyspace) (organizationId : Nat) (slotId : SlotId) : Keyspace :=
  { s with fleet := s.fleet.put (s.fleet.value.zrem (organizationId, slotId)) }

def acquireConcurrent (s : Keyspace) (organizationId maxConcurrent : Nat)
    (scopeKey : Option String) (scopeMaxConcurrent : Nat) : Option (SlotId × Nat) × Keyspace :=
  let slotId := s.nextSlotId
  let key := ConcurrentKey.organization organizationId
  let s := { s with issued := s.issued + 1 }.pruneConcurrent key
  let currentCount := (s.concurrent key).value.zcard
  if maxConcurrent ≤ currentCount then (none, s)
  else
    match scopeConcurrentKey scopeKey with
    | none =>
      (some (slotId, currentCount + 1), (s.addConcurrent key slotId).mirrorFleet organizationId slotId)
    | some scope =>
      let s := s.pruneConcurrent scope
      if scopeMaxConcurrent ≤ (s.concurrent scope).value.zcard then (none, s)
      else (some (slotId, currentCount + 1),
        ((s.addConcurrent scope slotId).addConcurrent key slotId).mirrorFleet organizationId slotId)

def storeSlotMappingIfAbsent (s : Keyspace) (workflowRunId : Nat) (mapping : SlotMapping) :
    Bool × Keyspace :=
  if (s.slotMapping workflowRunId).value.isSome then (false, s)
  else
    let key := ((s.slotMapping workflowRunId).put (some mapping)).expire (s.clock + staleCallTimeout)
    (true, { s with slotMapping := Function.update s.slotMapping workflowRunId key })

def putNumbers (s : Keyspace) (key : PoolKey) (pool : SortedSet String ℚ) : Keyspace :=
  { s with numberPool := Function.update s.numberPool key ((s.numberPool key).put pool) }

def acquireNumber (s : Keyspace) (key : PoolKey) : Option String × Keyspace :=
  let pool := (s.numberPool key).value.rescore 1 s.staleCutoff 0
  let available := pool.zrangeAt 0
  match available[s.entropy % available.length]? with
  | none => (none, s.putNumbers key pool)
  | some chosen => (some chosen, s.putNumbers key (pool.zadd s.clock chosen))

def releaseNumber (s : Keyspace) (key : PoolKey) (fromNumber : String) : Bool × Keyspace :=
  if (s.numberPool key).value.Member fromNumber then
    (true, s.putNumbers key ((s.numberPool key).value.zadd 0 fromNumber))
  else (false, s)

end Keyspace

def acquireTokenScript (maxRequests : Nat) (now : ℚ) (key : Tokens) : Bool × Tokens :=
  let key := key.put (key.value.zremrangebyscore 0 (now - 1))
  if key.value.zcard < maxRequests then
    (true, (key.put (key.value.zadd now now)).expire (now + 2))
  else (false, key)

inductive Command where
  | getConfiguration (organizationId : Nat)
  | getOrganizationUsers (organizationId : Nat)
  | sleep
  | acquireToken (key : RateLimitKey) (rateLimit : Nat)
  | zrangeTokens (key : RateLimitKey)
  | acquireConcurrent (organizationId maxConcurrent : Nat) (scopeKey : Option String)
      (scopeMaxConcurrent : Nat)
  | zremConcurrent (key : ConcurrentKey) (slotId : SlotId)
  | zremFleet (organizationId : Nat) (slotId : SlotId)
  | pruneConcurrent (key : ConcurrentKey)
  | zcardConcurrent (key : ConcurrentKey)
  | zcountFleet
  | storeSlotMappingIfAbsent (workflowRunId : Nat) (mapping : SlotMapping)
  | getSlotMapping (workflowRunId : Nat)
  | deleteSlotMapping (workflowRunId : Nat)
  | addNumbers (key : PoolKey) (fromNumbers : List String)
  | expireNumbers (key : PoolKey)
  | acquireNumber (key : PoolKey)
  | releaseNumber (key : PoolKey) (fromNumber : String)
  | setNumberMapping (workflowRunId : Nat) (mapping : NumberMapping)
  | expireNumberMapping (workflowRunId : Nat)
  | getNumberMapping (workflowRunId : Nat)
  | deleteNumberMapping (workflowRunId : Nat)
  deriving DecidableEq

abbrev Command.Reply : Command → Type
  | .getConfiguration _ => Option Nat
  | .acquireToken _ _ => Bool
  | .zrangeTokens _ => Option ℚ
  | .acquireConcurrent _ _ _ _ => Option (SlotId × Nat)
  | .zremConcurrent _ _ => Bool
  | .zremFleet _ _ => Bool
  | .zcardConcurrent _ => Nat
  | .zcountFleet => Nat
  | .storeSlotMappingIfAbsent _ _ => Bool
  | .getSlotMapping _ => Option SlotMapping
  | .deleteSlotMapping _ => Bool
  | .acquireNumber _ => Option String
  | .releaseNumber _ _ => Bool
  | .getNumberMapping _ => Option NumberMapping
  | .deleteNumberMapping _ => Bool
  | .getOrganizationUsers _ => Unit
  | .sleep => Unit
  | .pruneConcurrent _ => Unit
  | .addNumbers _ _ => Unit
  | .expireNumbers _ => Unit
  | .setNumberMapping _ _ => Unit
  | .expireNumberMapping _ => Unit

def execute : (command : Command) → Keyspace → command.Reply × Keyspace
  | .getConfiguration organizationId, s => (s.configuredLimit organizationId, s)
  | .getOrganizationUsers _, s => ((), s)
  | .sleep, s => ((), s)
  | .acquireToken key rateLimit, s =>
    let after := acquireTokenScript rateLimit s.clock (s.tokens key)
    (after.1, { s with tokens := Function.update s.tokens key after.2 })
  | .zrangeTokens key, s => ((((s.tokens key).value.entries.image Prod.snd).sort (· ≤ ·)).head?, s)
  | .acquireConcurrent organizationId maxConcurrent scopeKey scopeMaxConcurrent, s =>
    s.acquireConcurrent organizationId maxConcurrent scopeKey scopeMaxConcurrent
  | .zremConcurrent key slotId, s =>
    (decide ((s.concurrent key).value.Member slotId), s.zremConcurrent key slotId)
  | .zremFleet organizationId slotId, s =>
    (decide (s.fleet.value.Member (organizationId, slotId)), s.zremFleet organizationId slotId)
  | .pruneConcurrent key, s => ((), s.pruneConcurrent key)
  | .zcardConcurrent key, s => ((s.concurrent key).value.zcard, s)
  | .zcountFleet, s => (s.fleet.value.zcountFrom s.staleCutoff, s)
  | .storeSlotMappingIfAbsent workflowRunId mapping, s =>
    s.storeSlotMappingIfAbsent workflowRunId mapping
  | .getSlotMapping workflowRunId, s => ((s.slotMapping workflowRunId).value, s)
  | .deleteSlotMapping workflowRunId, s =>
    ((s.slotMapping workflowRunId).value.isSome,
      { s with slotMapping := Function.update s.slotMapping workflowRunId default })
  | .addNumbers key fromNumbers, s =>
    ((), s.putNumbers key
      (fromNumbers.foldl (fun pool number => pool.zaddNx 0 number) (s.numberPool key).value))
  | .expireNumbers key, s =>
    let pool := (s.numberPool key).expire (s.clock + 3600)
    ((), { s with numberPool := Function.update s.numberPool key pool })
  | .acquireNumber key, s => s.acquireNumber key
  | .releaseNumber key fromNumber, s => s.releaseNumber key fromNumber
  | .setNumberMapping workflowRunId mapping, s =>
    let key := (s.numberMapping workflowRunId).put (some mapping)
    ((), { s with numberMapping := Function.update s.numberMapping workflowRunId key })
  | .expireNumberMapping workflowRunId, s =>
    let key := (s.numberMapping workflowRunId).expire (s.clock + 1800)
    ((), { s with numberMapping := Function.update s.numberMapping workflowRunId key })
  | .getNumberMapping workflowRunId, s => ((s.numberMapping workflowRunId).value, s)
  | .deleteNumberMapping workflowRunId, s =>
    ((s.numberMapping workflowRunId).value.isSome,
      { s with numberMapping := Function.update s.numberMapping workflowRunId default })

/-- What happens between the commands: the clock moves on and keys expire, the random source
moves, an organization changes its setting. -/
inductive Move where
  | advance (now : UnixTime)
  | draw (entropy : Nat)
  | configure (organizationId : Nat) (limit : Option Nat)
  deriving DecidableEq

def Keyspace.advance (s : Keyspace) (now : UnixTime) : Keyspace :=
  { s with
    clock := now
    concurrent := fun key => (s.concurrent key).purge now
    fleet := s.fleet.purge now
    slotMapping := fun run => (s.slotMapping run).purge now
    numberPool := fun key => (s.numberPool key).purge now
    numberMapping := fun run => (s.numberMapping run).purge now
    tokens := fun key => (s.tokens key).purge now }

def environment : Move → Keyspace → Option Keyspace
  | .advance now, s => if s.clock ≤ now then some (s.advance now) else none
  | .draw entropy, s => some { s with entropy }
  | .configure organizationId limit, s =>
    some { s with configuredLimit := Function.update s.configuredLimit organizationId limit }

theorem environment_advance {s : Keyspace} {now : UnixTime} (h : s.clock ≤ now) :
    environment (.advance now) s = some (s.advance now) := if_pos h

def redis (ι : Type) : System ι Command.Reply Error Keyspace Move :=
  .ofServer execute environment

abbrev Method := Program Command.Reply Error

abbrev call (command : Command) : Method command.Reply := Program.call command

def rateLimitKey (organizationId : Nat) : Option String → RateLimitKey
  | some scopeKey => if scopeKey = "" then .organization organizationId else .scope scopeKey
  | none => .organization organizationId

def acquireToken (organizationId rateLimit : Nat) (scopeKey : Option String) : Method Bool :=
  orElse (call (.acquireToken (rateLimitKey organizationId scopeKey) rateLimit)) false

def tryAcquireConcurrentSlotDetails (organizationId maxConcurrent : Nat)
    (scopeKey : Option String) (scopeMaxConcurrent : Option Nat) : Method (Option (SlotId × Nat)) :=
  orElse (call (.acquireConcurrent organizationId maxConcurrent scopeKey
    (scopeMaxConcurrent.getD 0))) none

/-- `some true` when released, `some false` when already gone, `none` on a Redis error. -/
def releaseConcurrentSlot (organizationId : Nat) (slotId : SlotId) (scopeKey : Option String) :
    Method (Option Bool) :=
  orElse (do
    let removed ← call (.zremConcurrent (.organization organizationId) slotId)
    let _ ← call (.zremFleet organizationId slotId)
    match scopeConcurrentKey scopeKey with
    | some scope =>
      let _ ← call (.zremConcurrent scope slotId)
      return some removed
    | none => return some removed) none

def getConcurrentCount (organizationId : Nat) : Method Nat :=
  orElse (do
    call (.pruneConcurrent (.organization organizationId))
    call (.zcardConcurrent (.organization organizationId))) 0

/-- Redis errors are not swallowed here. -/
def getFleetConcurrentCount : Method Nat := call .zcountFleet

def storeWorkflowSlotMappingIfAbsent (workflowRunId organizationId : Nat) (slotId : SlotId)
    (scopeKey : Option String) : Method Bool :=
  let scopeKey := if scopeKey = some "" then none else scopeKey
  orElse (call (.storeSlotMappingIfAbsent workflowRunId ⟨organizationId, slotId, scopeKey⟩)) false

def getWorkflowSlotMapping (workflowRunId : Nat) : Method (Option SlotMapping) :=
  orElse (call (.getSlotMapping workflowRunId)) none

def deleteWorkflowSlotMapping (workflowRunId : Nat) : Method Bool :=
  orElse (call (.deleteSlotMapping workflowRunId)) false

def initializeFromNumberPool (key : PoolKey) (fromNumbers : List String) : Method Bool :=
  if fromNumbers = [] then return false
  else orElse (do
    call (.addNumbers key fromNumbers)
    call (.expireNumbers key)
    return true) false

def acquireFromNumber (key : PoolKey) : Method (Option String) :=
  orElse (call (.acquireNumber key)) none

def releaseFromNumber (key : PoolKey) (fromNumber : String) : Method Bool :=
  if fromNumber = "" then return false
  else orElse (call (.releaseNumber key fromNumber)) false

def storeWorkflowFromNumberMapping (workflowRunId : Nat) (key : PoolKey) (fromNumber : String) :
    Method Bool :=
  orElse (do
    call (.setNumberMapping workflowRunId ⟨key, fromNumber⟩)
    call (.expireNumberMapping workflowRunId)
    return true) false

def getWorkflowFromNumberMapping (workflowRunId : Nat) : Method (Option NumberMapping) :=
  orElse (call (.getNumberMapping workflowRunId)) none

def deleteWorkflowFromNumberMapping (workflowRunId : Nat) : Method Bool :=
  orElse (call (.deleteNumberMapping workflowRunId)) false

end FastVoice.CallConcurrency
