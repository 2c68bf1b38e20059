import FastVoice.Redis.SlidingWindow
import FastVoice.Runtime

/-! # The circuit breaker

Two sorted sets per campaign hold the readings of failed and of successful calls; each script trims
both to the window and compares the failure rate with the threshold. Rates are exact rationals. The
list of recent failures is kept for log entries only and is left out.
-/
namespace FastVoice.Campaign
open Async Redis

/-- The API admits windows of 30 to 600 seconds. -/
structure CircuitBreakerConfig where
  enabled : Bool
  failureThreshold : ℚ
  windowSeconds : ℚ
  minCallsInWindow : Nat
  window_pos : 0 < windowSeconds

def defaultCircuitBreakerConfig : CircuitBreakerConfig where
  enabled := true
  failureThreshold := 1 / 2
  windowSeconds := 120
  minCallsInWindow := 5
  window_pos := by decide +kernel

/-- A campaign's own configuration has all fields. -/
def mergedConfig (config : Option CircuitBreakerConfig) : CircuitBreakerConfig :=
  config.getD defaultCircuitBreakerConfig

abbrev Outcomes := Volatile (SortedSet ℚ ℚ) ℚ

structure BreakerKeys where
  clock : UnixTime
  /-- `cb_failures:<campaign_id>` at `true`, `cb_successes:<campaign_id>` at `false`. -/
  outcomes : Nat → Bool → Outcomes

/-- The reply of both scripts. -/
structure Evaluation where
  tripped : Bool
  failures : Nat
  successes : Nat
  total : Nat
  deriving DecidableEq

/-- Without any outcome the quotient is NaN, and the comparison is false. -/
def evaluate (threshold : ℚ) (minCalls failures successes : Nat) : Evaluation where
  tripped := decide (minCalls ≤ failures + successes ∧ failures + successes ≠ 0 ∧
    threshold ≤ (failures : ℚ) / ((failures + successes : Nat) : ℚ))
  failures := failures
  successes := successes
  total := failures + successes

def trimOutcomes (windowStart : ℚ) (sets : Bool → Outcomes) (isFailure : Bool) : Outcomes :=
  (sets isFailure).put ((sets isFailure).value.zremrangebyscore 0 windowStart)

def addOutcome (now : ℚ) (isFailure : Bool) (sets : Bool → Outcomes) : Bool → Outcomes :=
  Function.update sets isFailure ((sets isFailure).put ((sets isFailure).value.zadd now now))

def evaluateSets (threshold : ℚ) (minCalls : Nat) (sets : Bool → Outcomes) : Evaluation :=
  evaluate threshold minCalls (sets true).value.zcard (sets false).value.zcard

def recordScript (now windowStart : ℚ) (isFailure : Bool) (threshold : ℚ) (minCalls : Nat) (ttl : ℚ)
    (sets : Bool → Outcomes) : Evaluation × (Bool → Outcomes) :=
  let added := addOutcome now isFailure (trimOutcomes windowStart sets)
  let sets := fun kind => (added kind).expire (now + ttl)
  (evaluateSets threshold minCalls sets, sets)

def checkScript (windowStart threshold : ℚ) (minCalls : Nat) (sets : Bool → Outcomes) :
    Evaluation × (Bool → Outcomes) :=
  let sets := trimOutcomes windowStart sets
  (evaluateSets threshold minCalls sets, sets)

inductive BreakerCommand where
  | record (campaignId : Nat) (isFailure : Bool) (windowSeconds threshold : ℚ) (minCalls : Nat)
  | check (campaignId : Nat) (windowSeconds threshold : ℚ) (minCalls : Nat)
  | delete (campaignId : Nat)

abbrev BreakerCommand.Reply : BreakerCommand → Type
  | .record _ _ _ _ _ => Evaluation
  | .check _ _ _ _ => Evaluation
  | .delete _ => Unit

namespace BreakerKeys

def putOutcomes (s : BreakerKeys) (campaignId : Nat) (sets : Bool → Outcomes) : BreakerKeys :=
  { s with outcomes := Function.update s.outcomes campaignId sets }

def advance (s : BreakerKeys) (now : UnixTime) : BreakerKeys where
  clock := now
  outcomes := fun campaignId isFailure => (s.outcomes campaignId isFailure).purge now

def execute : (command : BreakerCommand) → BreakerKeys → command.Reply × BreakerKeys
  | .record campaignId isFailure windowSeconds threshold minCalls, s =>
    let after := recordScript s.clock (s.clock - windowSeconds) isFailure threshold minCalls
      (windowSeconds + 60) (s.outcomes campaignId)
    (after.1, s.putOutcomes campaignId after.2)
  | .check campaignId windowSeconds threshold minCalls, s =>
    let after := checkScript (s.clock - windowSeconds) threshold minCalls (s.outcomes campaignId)
    (after.1, s.putOutcomes campaignId after.2)
  | .delete campaignId, s => ((), s.putOutcomes campaignId fun _ => default)

end BreakerKeys

structure BreakerStats where
  failureRate : ℚ
  failureCount : Nat
  successCount : Nat
  threshold : ℚ
  windowSeconds : ℚ
  deriving DecidableEq

def breakerStats (config : CircuitBreakerConfig) (result : Evaluation) : BreakerStats where
  failureRate := if 0 < result.total then result.failures / result.total else 0
  failureCount := result.failures
  successCount := result.successes
  threshold := config.failureThreshold
  windowSeconds := config.windowSeconds

abbrev BreakerMethod := Program BreakerCommand.Reply Error

abbrev BreakerReport := Bool × Option BreakerStats

def recordCallOutcome (campaignId : Nat) (isFailure : Bool) (config : Option CircuitBreakerConfig) :
    BreakerMethod BreakerReport :=
  let config := mergedConfig config
  if config.enabled then
    orElse (do
      let result ← Program.call (BreakerCommand.record campaignId isFailure config.windowSeconds
        config.failureThreshold config.minCallsInWindow)
      return (result.tripped, some (breakerStats config result))) (false, none)
  else return (false, none)

def isCircuitOpen (campaignId : Nat) (config : Option CircuitBreakerConfig) :
    BreakerMethod BreakerReport :=
  let config := mergedConfig config
  if config.enabled then
    orElse (do
      let result ← Program.call (BreakerCommand.check campaignId config.windowSeconds
        config.failureThreshold config.minCallsInWindow)
      return (result.tripped, some (breakerStats config result))) (false, none)
  else return (false, none)

def reset (campaignId : Nat) : BreakerMethod Bool :=
  orElse (do
    Program.call (BreakerCommand.delete campaignId)
    return true) false

end FastVoice.Campaign
