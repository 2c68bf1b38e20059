import Mathlib.Data.Nat.Cast.Order.Ring
import FastVoice.Async.Party
import FastVoice.Runtime

/-! # Transfer events

The transfer tool waits for what the provider's side publishes about its transfer. Publishing reaches
the queue of a subscription that exists at that moment, and nothing else.
-/
namespace FastVoice.Telephony
open Async

inductive TransferEventType where
  | destinationAnswered
  | transferFailed
  deriving DecidableEq

def TransferEventType.value : TransferEventType → String
  | .destinationAnswered => "destination_answered"
  | .transferFailed => "transfer_failed"

structure TransferEvent where
  type : TransferEventType
  transferId : String
  originalCallSid : String
  transferCallSid : Option String
  conferenceName : Option String
  message : Option String
  status : Option String
  action : Option String
  reason : Option String
  deriving DecidableEq

structure TransferContext where
  transferId : String
  callSid : Option String
  targetNumber : String
  originalCallSid : String
  conferenceName : String
  deriving DecidableEq

def orDefault (value : Option String) (default : String) : String :=
  match value with
  | none => default
  | some text => if text = "" then default else text

structure TransferResult where
  status : String
  message : String
  action : String
  conferenceId : Option String
  transferCallSid : Option String
  originalCallSid : String
  reason : Option String
  deriving DecidableEq

def TransferEvent.toResultDict (event : TransferEvent) : TransferResult where
  status := orDefault event.status "success"
  message := orDefault event.message ""
  action := orDefault event.action event.type.value
  conferenceId := event.conferenceName
  transferCallSid := event.transferCallSid
  originalCallSid := event.originalCallSid
  reason := event.reason

namespace TransferEvent

def answered (context : TransferContext) (destinationChannelId : String) : TransferEvent where
  type := .destinationAnswered
  transferId := context.transferId
  originalCallSid := context.originalCallSid
  transferCallSid := some destinationChannelId
  conferenceName := some context.conferenceName
  message := some "Transfer destination answered"
  status := some "success"
  action := some "destination_answered"
  reason := none

def failed (context : Option TransferContext) (transferId channelId reason : String) :
    TransferEvent where
  type := .transferFailed
  transferId
  originalCallSid := context.elim "" TransferContext.originalCallSid
  transferCallSid := some channelId
  conferenceName := none
  message := some s!"Transfer failed: {reason}"
  status := some "failed"
  action := some "transfer_failed"
  reason := some reason

end TransferEvent

structure Publication where
  event : TransferEvent
  subscribed : Bool
  /-- The wait had not reached its deadline, if it had begun. -/
  inTime : Bool

structure TransferStore where
  clock : UnixTime
  context : Option TransferContext
  issued : Bool
  /-- The unread messages of the tool's subscription. -/
  subscription : Option (List TransferEvent)
  deadline : Option UnixTime
  /-- Earliest first. -/
  published : List Publication

inductive TransferCommand where
  | storeTransferContext (context : TransferContext)
  | removeTransferContext
  | transferCall
  | transferResult
  | subscribe
  | startTimer (seconds : Nat)
  | listen
  | unsubscribe

abbrev TransferCommand.Reply : TransferCommand → Type
  | .transferResult => Option String
  | .listen => Option TransferEvent
  | _ => Unit

def TransferStore.publish (s : TransferStore) (event : TransferEvent) : TransferStore :=
  { s with
    subscription := s.subscription.map (· ++ [event])
    published := s.published ++ [⟨event, s.subscription.isSome,
      s.deadline.all fun deadline => decide (s.clock.val < deadline.val)⟩] }

/-- The timer fires no earlier than at the deadline, and only for want of a message. -/
def TransferStore.listen (s : TransferStore) : Option TransferEvent × TransferStore :=
  match s.subscription with
  | some (event :: rest) => (some event, { s with subscription := some rest })
  | _ =>
    (none, { s with clock := s.deadline.elim s.clock fun deadline =>
      if s.clock.val ≤ deadline.val then deadline else s.clock })

def TransferStore.execute (callSid : Option String) :
    (command : TransferCommand) → TransferStore → command.Reply × TransferStore
  | .storeTransferContext context, s => ((), { s with context := some context })
  | .removeTransferContext, s => ((), { s with context := none })
  | .transferCall, s => ((), { s with issued := true })
  | .transferResult, s => (callSid, s)
  | .subscribe, s => ((), { s with subscription := some [] })
  | .startTimer seconds, s =>
    ((), { s with deadline := some ⟨s.clock.val + seconds,
      add_pos_of_pos_of_nonneg s.clock.property (Nat.cast_nonneg seconds)⟩ })
  | .listen, s => s.listen
  | .unsubscribe, s => ((), { s with subscription := none })

inductive TransferMove where
  | tick (now : UnixTime)
  | publish (event : TransferEvent)

/-- Events are published once the provider has been asked. -/
def TransferStore.environment : TransferMove → TransferStore → Option TransferStore
  | .tick now, s => if s.clock.val ≤ now.val then some { s with clock := now } else none
  | .publish event, s => if s.issued then some (s.publish event) else none

/-- The provider's call sid is the same whenever it answers. -/
def transferServices (callSid : Option String) :
    System Unit TransferCommand.Reply Error TransferStore TransferMove :=
  .ofServer (TransferStore.execute callSid) TransferStore.environment

abbrev TransferMethod := Program TransferCommand.Reply Error

def storeTransferContext (context : TransferContext) : TransferMethod Unit :=
  orElse (Program.call (TransferCommand.storeTransferContext context)) ()

def removeTransferContext : TransferMethod Unit :=
  orElse (Program.call TransferCommand.removeTransferContext) ()

def waitForMessage (timeoutSeconds : Nat) : TransferMethod (Option TransferEvent) := do
  Program.call TransferCommand.subscribe
  Program.call (TransferCommand.startTimer timeoutSeconds)
  Program.call TransferCommand.listen

def waitForTransferCompletion (timeoutSeconds : Nat) : TransferMethod (Option TransferEvent) := do
  let event ← orElse (waitForMessage timeoutSeconds) none
  orElse (Program.call TransferCommand.unsubscribe) ()
  return event

def timeoutResult : TransferResult where
  status := "failed"
  message := "I'm sorry, but the call is taking longer than expected to connect. The person might not be available right now. Please try calling back later."
  action := "transfer_failed"
  conferenceId := none
  transferCallSid := none
  originalCallSid := ""
  reason := some "timeout"

def providerErrorResult (text : String) : TransferResult where
  status := "failed"
  message := s!"Transfer provider failed: {text}"
  action := "transfer_failed"
  conferenceId := none
  transferCallSid := none
  originalCallSid := ""
  reason := some "provider_error"

/-- What the tool's result callback is given. -/
inductive ToolReport where
  | success (conferenceId : Option String)
  | failed (reason : Option String) (message : String)
  | other (result : TransferResult)
  deriving DecidableEq

def handleTransferResult (result : TransferResult) : ToolReport :=
  if result.action = "destination_answered" then .success result.conferenceId
  else if result.action = "transfer_failed" then
    .failed result.reason (orDefault (some result.message) "Transfer failed")
  else .other result

/-- `transfer_event` when the wait has ended, and the report that is made of it. -/
structure TransferOutcome where
  transferEvent : Option TransferEvent
  report : ToolReport
  deriving DecidableEq

def TransferOutcome.received (event : TransferEvent) : TransferOutcome :=
  ⟨some event, handleTransferResult event.toResultDict⟩

/-- `provider.transfer_call`, or the text of its exception. -/
def transferCall (str : Error → String) : TransferMethod (Except String (Option String)) :=
  (do
    Program.call TransferCommand.transferCall
    let callSid ← Program.call TransferCommand.transferResult
    return Except.ok callSid : TransferMethod (Except String (Option String))).tryCatch fun error =>
      if error.isException then .ret (.error (str error)) else .raise error

def transferCallHandler (str : Error → String) (context : TransferContext) (timeoutSeconds : Nat) :
    TransferMethod TransferOutcome := do
  storeTransferContext context
  let result ← transferCall str
  match result with
  | .error text =>
    removeTransferContext
    return ⟨none, handleTransferResult (providerErrorResult text)⟩
  | .ok callSid =>
    storeTransferContext { context with callSid }
    let event ← waitForTransferCompletion timeoutSeconds
    match event with
    | some event => return .received event
    | none => return ⟨none, handleTransferResult timeoutResult⟩

end FastVoice.Telephony
