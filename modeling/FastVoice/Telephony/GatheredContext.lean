import FastVoice.Python.JsonPaths
import FastVoice.Telephony.StatusProcessor

/-! # The writers of a run's gathered context

One workflow run and the engine of its pipeline. Four handlers store call tags: the dispatcher of a campaign,
the engine at the end of a call, the pipeline when it finishes, and the processor of status callbacks. A
statement `update_workflow_run` locks the row and merges the keys that it finds in its argument at that moment.
-/
namespace FastVoice.Telephony
open Async Python

/-- `call_tags`, absent or a list, and the other keys. -/
structure GatheredContext where
  callTags : Option (List Json)
  fields : Dict String Json

def GatheredContext.tags (context : GatheredContext) : List Json := context.callTags.getD []

/-- What `on_pipeline_finished` has put together: the keys it read from the row, over these the keys of the
engine, and a list of tags, which is the engine's own list where the engine had one. -/
structure FinishedContext where
  read : Dict String Json
  own : Dict String Json
  callTags : Option (List Json)

structure GatheredStore where
  row : GatheredContext
  engine : GatheredContext
  callDisposed : Bool

inductive GatheredCommand where
  | getWorkflowRunById
  /-- The check of `_call_disposed` and the assignment. -/
  | disposeCall
  | recordDisposition (reason : String)
  | finishContext (read : GatheredContext) (traceUrl : Option String) (hasUserSpeech : Bool)
  | storeTags (tags : List Json)
  | storeEngineContext
  | storeFinishedContext (context : FinishedContext)
  | storeStatus (read : Option (List Json)) (newTags : List String) (fields : Dict String Json)
  | other

abbrev GatheredCommand.Reply : GatheredCommand → Type
  | .getWorkflowRunById => GatheredContext
  | .disposeCall => Bool
  | .finishContext _ _ _ => FinishedContext
  | _ => Unit

/-- What the tools and the extractions of the engine do in between. -/
inductive GatheredMove where
  | extract (extracted : Dict String Json)
  | tagCall (tag : String)

def appendTag (tags : List Json) (tag : Json) : List Json := if tag ∈ tags then tags else tags ++ [tag]

def appendUniqueJsonTags (existingTags : Option (List Json)) (newTags : List String) : List Json :=
  newTags.foldl (fun merged tag => appendTag merged (.str tag)) (existingTags.getD [])

/-- The tags that a finished pipeline appends: one for user speech, and the values of the keys with the prefix
`tag_` that are not tags themselves. -/
def appendFinishedTags (hasUserSpeech : Bool) (fields : Dict String Json) (callTags : List Json) : List Json :=
  fields.entries.foldl
    (fun tags entry =>
      if "tag_".isPrefixOf entry.1 ∧ .str entry.1 ∉ tags then tags ++ [entry.2] else tags)
    (if hasUserSpeech then appendTag callTags (.str "user_speech") else callTags)

namespace GatheredStore

/-- The disposition of a call: one that the conversation has given, or the reason of its end. -/
def callDisposition (s : GatheredStore) (reason : String) : Json :=
  ((s.engine.fields.lookup "call_disposition").filter Json.truthy).getD (.str reason)

def recordDisposition (s : GatheredStore) (reason : String) : GatheredStore :=
  let disposition := s.callDisposition reason
  let fields := (s.engine.fields.insert "call_disposition" disposition).insert "mapped_call_disposition" disposition
  let callTags :=
    if disposition.truthy then some (appendTag s.engine.tags disposition) else s.engine.callTags
  { s with engine := { callTags, fields } }

/-- The context of the engine over that of the row. The list of tags is not copied. -/
def finishContext (s : GatheredStore) (read : GatheredContext) (traceUrl : Option String) (hasUserSpeech : Bool) :
    FinishedContext × GatheredStore :=
  let own := match traceUrl with
    | some url => s.engine.fields.insert "trace_url" (.str url)
    | none => s.engine.fields
  let fields := read.fields.update own
  match s.engine.callTags with
  | some callTags =>
    (⟨read.fields, own, none⟩,
      { s with engine := { s.engine with callTags := some (appendFinishedTags hasUserSpeech fields callTags) } })
  | none => (⟨read.fields, own, some (appendFinishedTags hasUserSpeech fields read.tags)⟩, s)

def storedTags (s : GatheredStore) : GatheredCommand → Option (List Json)
  | .storeTags tags => some tags
  | .storeEngineContext => s.engine.callTags
  | .storeFinishedContext context => context.callTags.or s.engine.callTags
  | .storeStatus read newTags _ => some (appendUniqueJsonTags read newTags)
  | _ => none

def carried : GatheredCommand → Dict String Json
  | .storeFinishedContext context => context.read
  | _ => ∅

def ownFields (s : GatheredStore) : GatheredCommand → Dict String Json
  | .storeEngineContext => s.engine.fields
  | .storeFinishedContext context => context.own
  | .storeStatus _ _ fields => fields
  | _ => ∅

def updateWorkflowRun (s : GatheredStore) (command : GatheredCommand) : GatheredStore :=
  { s with
    row := {
      callTags := (s.storedTags command).or s.row.callTags
      fields := s.row.fields.update ((carried command).update (s.ownFields command)) } }

def execute : (command : GatheredCommand) → GatheredStore → command.Reply × GatheredStore
  | .getWorkflowRunById, s => (s.row, s)
  | .disposeCall, s => (s.callDisposed, { s with callDisposed := true })
  | .recordDisposition reason, s => ((), s.recordDisposition reason)
  | .finishContext read traceUrl hasUserSpeech, s => s.finishContext read traceUrl hasUserSpeech
  | .storeTags tags, s => ((), s.updateWorkflowRun (.storeTags tags))
  | .storeEngineContext, s => ((), s.updateWorkflowRun .storeEngineContext)
  | .storeFinishedContext context, s => ((), s.updateWorkflowRun (.storeFinishedContext context))
  | .storeStatus read newTags fields, s => ((), s.updateWorkflowRun (.storeStatus read newTags fields))
  | .other, s => ((), s)

def environment : GatheredMove → GatheredStore → Option GatheredStore
  | .extract extracted, s => some { s with engine := { s.engine with fields := s.engine.fields.update extracted } }
  | .tagCall tag, s =>
    some { s with engine := { s.engine with callTags := some (appendTag s.engine.tags (.str tag)) } }

end GatheredStore

def gatheredServices (ι : Type) : System ι GatheredCommand.Reply Error GatheredStore GatheredMove :=
  .ofServer GatheredStore.execute GatheredStore.environment

abbrev GatheredMethod := Program GatheredCommand.Reply Error

def other : GatheredMethod Unit := Program.call GatheredCommand.other

def logged (method : GatheredMethod Unit) : GatheredMethod Unit := method.tryCatch fun _ => return ()

def tagRetry (retryReason : String) : GatheredMethod Unit :=
  Program.call (GatheredCommand.storeTags [.str "retry", .str ("retry_reason_" ++ retryReason)])

def extractionlessReasons : List String := ["pipeline_error", "voicemail_detected"]

def endCallWithReason (reason : String) : GatheredMethod Unit := do
  let disposed ← Program.call GatheredCommand.disposeCall
  if disposed then return ()
  else
    if reason ∈ extractionlessReasons then return () else other
    Program.call (GatheredCommand.recordDisposition reason)
    logged (Program.call GatheredCommand.storeEngineContext)
    other

/-- From the read of the run to the final update. Each integration may fail. -/
def onPipelineFinished (traceUrl : Option String) (hasUserSpeech : Bool) (sessions : Nat) :
    GatheredMethod Unit := do
  let workflowRun ← Program.call GatheredCommand.getWorkflowRunById
  other
  let context ← Program.call (GatheredCommand.finishContext workflowRun traceUrl hasUserSpeech)
  if (((context.read.update context.own).lookup "mapped_call_disposition").filter Json.truthy).isSome then
    logged other
  else return ()
  (List.replicate sessions other).forM logged
  other
  logged other
  Program.call (GatheredCommand.storeFinishedContext context)

def statusFields (callId : String) (normalizedStatus : TelephonyCallStatus) : Dict String Json :=
  Dict.ofPairs <| [("call_disposition", .str normalizedStatus.value),
      ("mapped_call_disposition", .str normalizedStatus.value)] ++
    if callId = "" then [] else [("call_id", .str callId)]

/-- `_process_status_update`, with the awaits that its branches make between the read and the last update. -/
def processStatus (callId : String) (normalizedStatus : Option TelephonyCallStatus) : GatheredMethod Unit := do
  let workflowRun ← Program.call GatheredCommand.getWorkflowRunById
  other
  match normalizedStatus with
  | none => return ()
  | some normalizedStatus =>
    if normalizedStatus = .completed then
      other
      other
      other
    else if normalizedStatus ∈ terminalNotConnectedStatuses then
      other
      other
      other
      Program.call (GatheredCommand.storeStatus workflowRun.callTags
        ["not_connected", "telephony_" ++ normalizedStatus.value] (statusFields callId normalizedStatus))
      other
    else return ()

inductive GatheredHandler where
  | dispatchCall (retryReason : String)
  | endCallWithReason (reason : String)
  | onPipelineFinished (traceUrl : Option String) (hasUserSpeech : Bool) (sessions : Nat)
  | processStatusUpdate (callId : String) (normalizedStatus : Option TelephonyCallStatus)

def GatheredHandler.method : GatheredHandler → GatheredMethod Unit
  | .dispatchCall retryReason => tagRetry retryReason
  | .endCallWithReason reason => Telephony.endCallWithReason reason
  | .onPipelineFinished traceUrl hasUserSpeech sessions =>
    Telephony.onPipelineFinished traceUrl hasUserSpeech sessions
  | .processStatusUpdate callId normalizedStatus => processStatus callId normalizedStatus

end FastVoice.Telephony
