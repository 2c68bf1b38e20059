import FastVoice.Python.JsonPaths
import FastVoice.Runtime.Dict
import FastVoice.Runtime.Machine

/-! # The initial context of a run

What each way to start a run stores there, and what is merged into it later. What comes from outside is of the
type `X`, so that one description serves a single run and two runs that differ there.
-/
namespace FastVoice.Workflows
open Python

abbrev Context := Dict String Json

def mpsCorrelationIdContextKey : String := "mps_correlation_id"

def telephonyConfigurationIdKey : String := "telephony_configuration_id"

def reservedInitialContextKeys : List String := ["provider", "runtime_configuration", mpsCorrelationIdContextKey]

def acceptedExternal (external : Context) : Context := external.filterKeys (· ∉ reservedInitialContextKeys)

def mergeExternalInitialContext (initialContext externalContext : Context) : Context :=
  initialContext.update (acceptedExternal externalContext)

theorem lookup_acceptedExternal (external : Context) (key : String) : (acceptedExternal external).lookup key =
      if key ∈ reservedInitialContextKeys then none else external.lookup key := by
  simp only [acceptedExternal, Dict.lookup_filterKeys]
  split <;> simp_all

theorem lookup_merge_reserved (initialContext externalContext : Context) {key : String}
    (h : key ∈ reservedInitialContextKeys) :
    (mergeExternalInitialContext initialContext externalContext).lookup key = initialContext.lookup key := by
  rw [mergeExternalInitialContext, Dict.lookup_update, lookup_acceptedExternal, if_pos h, Option.none_or]

theorem lookup_merge_accepted (initialContext externalContext : Context) {key : String}
    (h : key ∉ reservedInitialContextKeys) :
    (mergeExternalInitialContext initialContext externalContext).lookup key =
      (externalContext.lookup key).or (initialContext.lookup key) := by
  rw [mergeExternalInitialContext, Dict.lookup_update, lookup_acceptedExternal, if_neg h]

structure TemplateContextVariables (X : Type) where
  definition : Option X
  workflow : Option X

def TemplateContextVariables.default (templates : TemplateContextVariables Context) : Context :=
  (templates.definition.or templates.workflow).getD ∅

def prepareWorkflowRunInputs (templates : TemplateContextVariables Context) (initialContext : Context)
    (includeTemplateContext : Bool) : Context :=
  (if includeTemplateContext then templates.default else ∅).update initialContext

structure PublicAgentCall where
  provider : String
  phoneNumber : String
  resolvedCfgId : Json
  identifierValue : String
  identifierType : String
  workflowUuid : String
  fromPhoneNumberId : Option Json
  apiKeyId : Option Json
  apiKeyCreatedBy : Option Json
  useDraft : Bool

def entryIf (key : String) (value : Option Json) : List (String × Json) :=
  match value with
  | some value => [(key, value)]
  | none => []

/-- The keys that depend on how the call was asked for. -/
def PublicAgentCall.optionalEntries (call : PublicAgentCall) : List (String × Json) :=
  entryIf "from_phone_number_id" call.fromPhoneNumberId ++
    (if call.identifierType = "trigger_path" then [("agent_uuid", .str call.identifierValue)] else []) ++
    entryIf "api_key_id" call.apiKeyId ++ entryIf "api_key_created_by" call.apiKeyCreatedBy

def PublicAgentCall.context (call : PublicAgentCall) : Context :=
  (Dict.ofPairs [
    ("provider", .str call.provider),
    ("direction", .str "outbound"),
    ("phone_number", .str call.phoneNumber),
    ("trigger_mode", .str (if call.useDraft then "test" else "production")),
    (telephonyConfigurationIdKey, call.resolvedCfgId),
    ("agent_identifier", .str call.identifierValue),
    ("agent_identifier_type", .str call.identifierType),
    ("workflow_uuid", .str call.workflowUuid)]).extend call.optionalEntries

def executeResolvedTarget (call : PublicAgentCall) (requestContext : Context)
    (templates : TemplateContextVariables Context) : Context :=
  let merged := mergeExternalInitialContext call.context requestContext
  prepareWorkflowRunInputs templates (merged.insert "called_number" (.str call.phoneNumber)) call.useDraft

structure CampaignCall where
  campaignId : Json
  provider : String
  sourceUuid : String
  fromNumber : String
  telephonyConfigurationId : Json

/-- A row without a phone number starts no run. -/
def dispatchCall (call : CampaignCall) (contextVariables : Context) : Option Context :=
  match (contextVariables.lookup "phone_number").filter Json.truthy with
  | none => none
  | some phoneNumber =>
    some <| (mergeExternalInitialContext ∅ contextVariables).update <| Dict.ofPairs [
      ("campaign_id", call.campaignId),
      ("provider", .str call.provider),
      ("source_uuid", .str call.sourceUuid),
      ("caller_number", .str call.fromNumber),
      ("called_number", phoneNumber),
      ("direction", .str "outbound"),
      (telephonyConfigurationIdKey, call.telephonyConfigurationId)]

structure OutboundCall where
  provider : String
  phoneNumber : String
  telephonyConfigurationId : Json

def initiateCall (call : OutboundCall) (templates : TemplateContextVariables Context) : Context :=
  prepareWorkflowRunInputs templates (Dict.ofPairs [
    ("phone_number", .str call.phoneNumber),
    ("called_number", .str call.phoneNumber),
    ("direction", .str "outbound"),
    ("provider", .str call.provider),
    (telephonyConfigurationIdKey, call.telephonyConfigurationId)]) true

def normalizedDirection (initialContext : Context) : Option String :=
  ((initialContext.lookup "direction").bind Json.text?).map fun direction => (Text.strip direction).toLower

def createWorkflowRun (smallwebrtc : Bool) (templates : TemplateContextVariables Context) : Context :=
  let initialContext := prepareWorkflowRunInputs templates ∅ true
  if smallwebrtc then
    initialContext.insert "direction"
      (.str (if normalizedDirection initialContext = some "outbound" then "outbound" else "inbound"))
  else initialContext

def createTextChatSession (requestContext : Context) (templates : TemplateContextVariables Context) : Context :=
  prepareWorkflowRunInputs templates (mergeExternalInitialContext ∅ requestContext) true

/-- A context that the server makes by itself: an inbound call, or a stream of an agent. -/
structure ServerContext where
  context : Context
  noCorrelationId : mpsCorrelationIdContextKey ∉ context

structure RunContext where
  initialContext : Context
  /-- The variables of the pipeline that executes. -/
  callContextVars : Option Context
  placed : Bool
  /-- The server has set a correlation id. -/
  minted : Bool

inductive Start (X : Type)
  | executeResolvedTarget (call : PublicAgentCall) (requestContext : X) (templates : TemplateContextVariables X)
  | dispatchCall (call : CampaignCall) (contextVariables : X)
  | initiateCall (call : OutboundCall) (templates : TemplateContextVariables X)
  | createWorkflowRun (smallwebrtc : Bool) (templates : TemplateContextVariables X)
  | createTextChatSession (requestContext : X) (templates : TemplateContextVariables X)
  | serve (server : ServerContext)

def RunContext.created (placed : Bool) (initialContext : Context) : RunContext :=
  { initialContext, callContextVars := none, placed, minted := false }

def Start.create : Start Context → Option RunContext
  | .executeResolvedTarget call requestContext templates =>
    some (.created true (Workflows.executeResolvedTarget call requestContext templates))
  | .dispatchCall call contextVariables => (Workflows.dispatchCall call contextVariables).map (.created true)
  | .initiateCall call templates => some (.created true (Workflows.initiateCall call templates))
  | .createWorkflowRun smallwebrtc templates =>
    some (.created false (Workflows.createWorkflowRun smallwebrtc templates))
  | .createTextChatSession requestContext templates =>
    some (.created false (Workflows.createTextChatSession requestContext templates))
  | .serve server => some (.created false server.context)

inductive ContextEvent (X : Type)
  | storeRunCorrelationId (correlationId : String)
  | runPipeline (callContextVars : X) (runtimeConfiguration : Json) (managed : Bool)
  | pipelineEnds
  | preCallFetch (response : X)
  | executeTextTurn (runtimeConfiguration : Json) (managed : Bool) (fetched : Option X)
  | placeCall

/-- `db_client.update_workflow_run`: an empty patch changes nothing. -/
def RunContext.patch (run : RunContext) (initialContext : Context) : RunContext :=
  { run with initialContext := run.initialContext.update initialContext }

/-- The text of an id that is not null. -/
def getMpsCorrelationId (str : Json → String) (initialContext : Context) : Option String :=
  match initialContext.lookup mpsCorrelationIdContextKey with
  | none | some .null => none
  | some value => some (str value)

/-- `none` where a managed run has not been authorized. -/
def ensureMpsCorrelationId (str : Json → String) (managed : Bool) (initialContext : Context) :
    Option (Option String) :=
  match (getMpsCorrelationId str initialContext).filter (· ≠ "") with
  | some existing => some (some existing)
  | none => if managed then none else some none

def withCorrelationId (correlationId : Option String) (context : Context) : Context :=
  match correlationId with
  | some correlationId => context.insert mpsCorrelationIdContextKey (.str correlationId)
  | none => context

namespace RunContext

variable (str : Json → String)

def storeRunCorrelationId (run : RunContext) (correlationId : String) : RunContext :=
  { run.patch (run.initialContext.insert mpsCorrelationIdContextKey (.str correlationId)) with minted := true }

def runPipeline (run : RunContext) (callContextVars : Context) (runtimeConfiguration : Json) (managed : Bool) :
    RunContext :=
  let merged := mergeExternalInitialContext run.initialContext callContextVars
  match ensureMpsCorrelationId str managed merged with
  | none => run
  | some correlationId =>
    let merged := (withCorrelationId correlationId merged).insert "runtime_configuration" runtimeConfiguration
    { run.patch merged with callContextVars := some merged }

/-- The response is filtered when it is read, and again when it is merged. An empty one is not stored. -/
def preCallFetch (run : RunContext) (response : Context) : RunContext :=
  match run.callContextVars with
  | none => run
  | some vars =>
    let fetchResult := acceptedExternal response
    if fetchResult.entries.isEmpty then run
    else
      let merged := mergeExternalInitialContext vars fetchResult
      { run.patch merged with callContextVars := some merged }

def executeTextTurn (run : RunContext) (runtimeConfiguration : Json) (managed : Bool) (fetched : Option Context) :
    RunContext :=
  match ensureMpsCorrelationId str managed run.initialContext with
  | none => run
  | some correlationId =>
    let initialContext :=
      withCorrelationId correlationId (run.initialContext.insert "runtime_configuration" runtimeConfiguration)
    run.patch <|
      match fetched with
      | some response => mergeExternalInitialContext initialContext (acceptedExternal response)
      | none => initialContext

def apply (run : RunContext) : ContextEvent Context → RunContext
  | .storeRunCorrelationId correlationId => run.storeRunCorrelationId correlationId
  | .runPipeline callContextVars runtimeConfiguration managed =>
    run.runPipeline str callContextVars runtimeConfiguration managed
  | .pipelineEnds => { run with callContextVars := none }
  | .preCallFetch response => run.preCallFetch response
  | .executeTextTurn runtimeConfiguration managed fetched =>
    run.executeTextTurn str runtimeConfiguration managed fetched
  | .placeCall => { run with placed := true }

end RunContext

end FastVoice.Workflows
