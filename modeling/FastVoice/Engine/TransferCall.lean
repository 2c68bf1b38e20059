import FastVoice.Async.Protocol
import FastVoice.Python.JsonPaths

/-! # The transfer tool

The handler that the model calls to transfer a call. Whatever may raise is an await: a request, and a reading of
data that may not have its form. A cancellation is no `Exception`, so no handler here catches it.
-/
namespace FastVoice.Engine.TransferCall
open Python Async

inductive TransferError where
  | cancelledError
  | transferResolutionError (reason : String)
  | exception (text : String)
  deriving DecidableEq

namespace TransferError

def isException : TransferError → Bool
  | .cancelledError => false
  | _ => true

def text : TransferError → String
  | .cancelledError => ""
  | .transferResolutionError reason => reason
  | .exception text => text

end TransferError

structure WorkflowRun where
  mode : String
  initialContext : Json
  gatheredContext : Json

structure ResolvedTransferConfig where
  destination : String
  timeoutSeconds : Int
  message : Option String

/-- The variables that the handler closes over, a fresh id, and what a format string makes of a value. -/
structure TransferTool where
  definition : Json
  toolUuid : String
  transferId : String
  formatted : Json → String

structure TransferContext where
  transferId : String
  callSid : Json
  targetNumber : String
  toolUuid : String
  originalCallSid : Json
  conferenceName : String

structure TransferEvent where
  type : String
  originalCallSid : Json
  transferCallSid : Json
  conferenceName : Json
  message : Json
  status : Json
  action : Json
  reason : Json

def orDefault (value default : Json) : Json := if value.truthy then value else default

def TransferEvent.toResultDict (event : TransferEvent) : Json :=
  .obj [("status", orDefault event.status (.str "success")), ("message", orDefault event.message (.str "")),
    ("action", orDefault event.action (.str event.type)), ("conference_id", event.conferenceName),
    ("transfer_call_sid", event.transferCallSid), ("original_call_sid", event.originalCallSid),
    ("reason", event.reason)]

inductive EndTaskReason where
  | endCallToolReason
  | transferCall

inductive TransferCommand where
  | getWorkflowRunById
  | getOrganizationId
  | flushVariableExtraction
  | queueSpeech (text : String)
  | resolveTransferConfig (organizationId : Nat)
  | getTelephonyProviderForRun (organizationId : Nat)
  | playConfigMessage (config : Json)
  | resolveExternalPbxFieldMappings (organizationId : Nat)
  | waitForSpeechPlayback
  | transferExternalPbxCall (identity : Json) (destination : String) (fieldUpdates : Json)
  | updateWorkflowRun (gatheredContext : Json)
  | sleep
  | supportsTransfers
  | getCallTransferManager
  | storeTransferContext (context : TransferContext)
  | setMutePipeline (mute : Bool)
  | transferCall (destination transferId conferenceName : String) (timeout : Int)
  | removeTransferContext (transferId : String)
  | startHoldMusic
  | waitForTransferCompletion (transferId : String) (timeout : Int)
  | stopHoldMusic
  | resultCallback (result : Json)
  /-- The reply says whether the call had been ended before. -/
  | endCallWithReason (reason : EndTaskReason) (abortImmediately : Bool)

def TransferReply : TransferCommand → Type
  | .getWorkflowRunById => Option WorkflowRun
  | .getOrganizationId => Option Nat
  | .resolveTransferConfig _ => ResolvedTransferConfig
  | .playConfigMessage _ => Bool
  | .resolveExternalPbxFieldMappings _ => Json
  | .transferExternalPbxCall _ _ _ => Json
  | .supportsTransfers => Bool
  | .transferCall _ _ _ _ => Json
  | .waitForTransferCompletion _ _ => Option TransferEvent
  | .endCallWithReason _ _ => Bool
  | _ => Unit

abbrev TransferMethod (α : Type) := Program TransferReply TransferError α

def call (cmd : TransferCommand) : TransferMethod (TransferReply cmd) := Program.call cmd

def speak (text : String) : TransferMethod Unit := call (.queueSpeech text)

def give (result : Json) : TransferMethod Unit := call (.resultCallback result)

def attempt {α : Type} (program : TransferMethod α) : TransferMethod (Except TransferError α) :=
  (program >>= fun value => .ret (.ok value)).tryCatch fun error => .ret (.error error)

def field (value : Json) (key : String) (default : Json) : TransferMethod Json :=
  match value with
  | .obj entries => .ret ((entries.lookup key).getD default)
  | _ => .raise (.exception "object has no attribute 'get'")

def failed (reason message : String) : Json :=
  .obj [("status", .str "failed"), ("message", .str message), ("action", .str "transfer_failed"),
    ("reason", .str reason)]

def transferSuccess (conferenceId : Json) : Json :=
  .obj [("status", .str "transfer_success"),
    ("message", .str "Transfer destination answered - connecting calls"), ("conference_id", conferenceId)]

def transferFailed (result : Json) : Json :=
  .obj [("status", .str "transfer_failed"),
    ("reason", if result.has "reason" then result.get "reason" else .str "unknown"),
    ("message", orDefault (result.get "message") (.str "Transfer failed"))]

def handleTransferResult (result : Json) : TransferMethod Unit := do
  let action := (result.get "action").text?
  if action = some "destination_answered" then do
    give (transferSuccess (result.get "conference_id"))
    let _ : Bool ← call (.endCallWithReason .transferCall false)
    return ()
  else if action = some "transfer_failed" then
    give (transferFailed result)
  else
    give result

section Provider

variable (tool : TransferTool) (run : WorkflowRun) (resolved : ResolvedTransferConfig)

/-- The wait for the transfer, with its `except` and `finally`. -/
def waitOnHold : TransferMethod (Option TransferEvent) := do
  let started : Except TransferError Unit ← attempt (call .startHoldMusic)
  match started with
  | .error error => do
    let _ : Unit ← call (.setMutePipeline false)
    if error.isException then .ret none else .raise error
  | .ok _ => do
    let event : Except TransferError (Option TransferEvent) ←
      attempt (call (.waitForTransferCompletion tool.transferId resolved.timeoutSeconds))
    let _ : Unit ← call .stopHoldMusic
    let _ : Unit ← call (.setMutePipeline false)
    match event with
    | .error error => if error.isException then .ret none else .raise error
    | .ok event => .ret event

def afterTransferCall (context : TransferContext) (transferResult : Json) : TransferMethod Unit := do
  let callSid ← field transferResult "call_sid" .null
  let _ : Unit ← call (.storeTransferContext { context with callSid })
  let event ← waitOnHold tool resolved
  match event with
  | some event => handleTransferResult event.toResultDict
  | none => handleTransferResult (failed "timeout"
      ("I'm sorry, but the call is taking longer than expected to connect. " ++
        "The person might not be available right now. Please try calling back later."))

def transferByProvider : TransferMethod Unit := do
  let supported : Bool ← call .supportsTransfers
  if supported = false then
    handleTransferResult (failed "provider_does_not_support_transfer"
      "I'm sorry, there's an issue with this call transfer. Please contact support.")
  else do
    let originalCallSid ← field run.gatheredContext "call_id" .null
    let conferenceName := "transfer-" ++ tool.formatted originalCallSid
    let _ : Unit ← call .getCallTransferManager
    let context : TransferContext :=
      ⟨tool.transferId, .null, resolved.destination, tool.toolUuid, originalCallSid, conferenceName⟩
    let _ : Unit ← call (.storeTransferContext context)
    let _ : Unit ← call (.setMutePipeline true)
    let transferResult : Except TransferError Json ← attempt
      (call (.transferCall resolved.destination tool.transferId conferenceName resolved.timeoutSeconds))
    match transferResult with
    | .error error =>
      if error.isException then do
        let _ : Unit ← call (.setMutePipeline false)
        let _ : Unit ← call (.removeTransferContext tool.transferId)
        handleTransferResult (failed "provider_error" ("Transfer provider failed: " ++ error.text))
      else
        .raise error
    | .ok transferResult => afterTransferCall tool resolved context transferResult

end Provider

def afterExternalTransfer (tool : TransferTool) (run : WorkflowRun) (resolved : ResolvedTransferConfig)
    (externalResult : Json) : TransferMethod Unit := do
  match externalResult with
  | .null => transferByProvider tool run resolved
  | externalResult => do
    let status ← field externalResult "status" .null
    if status.text? = some "success" then do
      let _ : Unit ← call (.updateWorkflowRun (.obj [("external_pbx_transferred", .bool true)]))
      give externalResult
      let _ : Unit ← call .sleep
      let _ : Bool ← call (.endCallWithReason .endCallToolReason true)
      return ()
    else
      handleTransferResult (externalResult.set "action" (.str "transfer_failed"))

def transferByExternalPbx (tool : TransferTool) (run : WorkflowRun) (organizationId : Nat) (externalPbxCall : Json)
    (resolved : ResolvedTransferConfig) (messageQueued : Bool) : TransferMethod Unit := do
  let fieldUpdates : Json ← call (.resolveExternalPbxFieldMappings organizationId)
  if messageQueued then call .waitForSpeechPlayback
  let externalResult : Json ←
    call (.transferExternalPbxCall externalPbxCall resolved.destination fieldUpdates)
  afterExternalTransfer tool run resolved externalResult

/-- `(initial_context or {}).get("external_pbx_call")`, with the older name of the key. -/
def readExternalPbxCall (run : WorkflowRun) : TransferMethod Json := do
  let context := orDefault run.initialContext (.obj [])
  let current ← field context "external_pbx_call" .null
  if current.truthy then return current else field context "upstream_pbx" .null

def speakWaitMessage (tool : TransferTool) (config : Json) : TransferMethod Unit := do
  let source ← field config "destination_source" (.str "static")
  let resolver ← field config "resolver" .null
  if source.text? = some "dynamic" ∧ resolver.isDict = true ∧ (resolver.get "wait_message").truthy = true then
    speak (tool.formatted (resolver.get "wait_message"))
  else
    return ()

def resolveTransfer (organizationId : Nat) : TransferMethod (Except String ResolvedTransferConfig) :=
  (call (.resolveTransferConfig organizationId) >>= fun resolved => .ret (.ok resolved)).tryCatch fun error =>
    match error with
    | .transferResolutionError reason => .ret (.error reason)
    | error => .raise error

def speakTransferMessage (config : Json) (resolved : ResolvedTransferConfig) : TransferMethod Bool :=
  match resolved.message.filter (· ≠ "") with
  | some message => do
    speak message
    return true
  | none => call (.playConfigMessage config)

def transferResolved (tool : TransferTool) (config : Json) (run : WorkflowRun) (organizationId : Nat)
    (externalPbxCall : Json) (resolved : ResolvedTransferConfig) : TransferMethod Unit := do
  if Text.strip resolved.destination = "" then
    handleTransferResult (failed "no_destination"
      ("I'm sorry, but I don't have a phone number configured for the transfer. " ++
        "Please contact support to set up call transfer."))
  else do
    let _ : Unit ← call (.getTelephonyProviderForRun organizationId)
    let messageQueued ← speakTransferMessage config resolved
    if externalPbxCall.truthy then
      transferByExternalPbx tool run organizationId externalPbxCall resolved messageQueued
    else
      transferByProvider tool run resolved

def transferInOrganization (tool : TransferTool) (config : Json) (run : WorkflowRun) (organizationId : Nat) :
    TransferMethod Unit := do
  let externalPbxCall ← readExternalPbxCall run
  let source ← field config "destination_source" (.str "static")
  if externalPbxCall.truthy = true ∨ source.text? = some "context_mapping" then call .flushVariableExtraction
  speakWaitMessage tool config
  let resolution ← resolveTransfer organizationId
  match resolution with
  | .error reason => handleTransferResult (failed reason
      "I'm sorry, but I couldn't find a valid destination for this transfer.")
  | .ok resolved => transferResolved tool config run organizationId externalPbxCall resolved

def transferRun (tool : TransferTool) (config : Json) (run : WorkflowRun) : TransferMethod Unit := do
  if run.mode = "textchat" then
    handleTransferResult (failed "textchat_not_supported"
      "I'm sorry, but call transfers are not available in text chat tests.")
  else if run.mode = "webrtc" ∨ run.mode = "smallwebrtc" then
    handleTransferResult (failed "webrtc_not_supported"
      "I'm sorry, but call transfers are not available for web calls. Please try a telephony call.")
  else do
    let organizationId : Option Nat ← call .getOrganizationId
    match organizationId.filter (· ≠ 0) with
    | none => handleTransferResult (failed "no_organization_id"
        "I'm sorry, there's an issue with this call transfer. Please contact support.")
    | some organizationId => transferInOrganization tool config run organizationId

def transfer (tool : TransferTool) : TransferMethod Unit := do
  let config ← field tool.definition "config" (.obj [])
  let _ ← field config "destination" (.str "")
  let run : Option WorkflowRun ← call .getWorkflowRunById
  match run with
  | none => .raise (.exception "'NoneType' object has no attribute 'mode'")
  | some run => transferRun tool config run

def transferCallHandler (tool : TransferTool) : TransferMethod Unit :=
  (transfer tool).tryCatch fun error =>
    if error.isException then do
      let _ : Unit ← call (.setMutePipeline false)
      handleTransferResult (failed "execution_error"
        ("I'm sorry, but something went wrong while trying to transfer your call. " ++
          "Please try again later or contact support if the problem persists."))
    else
      .raise error

/-- The mute flag as the handler and the end of the call leave it, whether the call was ended, whether hold music
plays, and the results that the model was given. -/
structure Line where
  muted : Bool := false
  ended : Bool := false
  holdMusic : Bool := false
  results : List Json := []

def Line.after (line : Line) : (cmd : TransferCommand) → Except TransferError (TransferReply cmd) → Line
  | .setMutePipeline mute, _ => { line with muted := mute }
  | .startHoldMusic, .ok _ => { line with holdMusic := true }
  -- a task that raises is finished; a handler that is cancelled has not waited for it
  | .stopHoldMusic, .error .cancelledError => line
  | .stopHoldMusic, _ => { line with holdMusic := false }
  | .resultCallback result, _ => { line with results := line.results ++ [result] }
  | .endCallWithReason _ _, .ok alreadyDisposed =>
    { line with ended := true, muted := line.muted || !(show Bool from alreadyDisposed) }
  -- the pipeline is muted before anything raises
  | .endCallWithReason _ _, .error _ => { line with muted := true }
  | _, _ => line

def transferProtocol : Protocol TransferReply TransferError Line where
  permits _ _ := True
  next := Line.after

def runHandler (tool : TransferTool) (deliver : Deliveries TransferReply TransferError) :
    Except TransferError Unit × Line :=
  (transferCallHandler tool).runFrom transferProtocol deliver 0 {}

end FastVoice.Engine.TransferCall
