import FastVoice.Workflows.InitialContext

/-! # What of a run's context comes from outside

Two runs that are started alike, and whose events are alike, except for what is supplied from outside.
-/
namespace FastVoice.Workflows
open Python

def TemplateContextVariables.map {X Y : Type} (f : X → Y) (templates : TemplateContextVariables X) :
    TemplateContextVariables Y where
  definition := templates.definition.map f
  workflow := templates.workflow.map f

def Start.map {X Y : Type} (f : X → Y) : Start X → Start Y
  | .executeResolvedTarget call requestContext templates =>
    .executeResolvedTarget call (f requestContext) (templates.map f)
  | .dispatchCall call contextVariables => .dispatchCall call (f contextVariables)
  | .initiateCall call templates => .initiateCall call (templates.map f)
  | .createWorkflowRun smallwebrtc templates => .createWorkflowRun smallwebrtc (templates.map f)
  | .createTextChatSession requestContext templates => .createTextChatSession (f requestContext) (templates.map f)
  | .serve server => .serve server

def ContextEvent.map {X Y : Type} (f : X → Y) : ContextEvent X → ContextEvent Y
  | .storeRunCorrelationId correlationId => .storeRunCorrelationId correlationId
  | .runPipeline callContextVars runtimeConfiguration managed =>
    .runPipeline (f callContextVars) runtimeConfiguration managed
  | .pipelineEnds => .pipelineEnds
  | .preCallFetch response => .preCallFetch (f response)
  | .executeTextTurn runtimeConfiguration managed fetched =>
    .executeTextTurn runtimeConfiguration managed (fetched.map f)
  | .placeCall => .placeCall

variable (str : Json → String)

def RunContext.after (run : RunContext) (events : List (ContextEvent Context)) : RunContext :=
  events.foldl (RunContext.apply str) run

def pairs : Machine (RunContext × RunContext) (ContextEvent (Context × Context)) where
  step runs event :=
    some (runs.1.apply str (event.map Prod.fst), runs.2.apply str (event.map Prod.snd))

theorem run_pairs (a b : RunContext) (events : List (ContextEvent (Context × Context))) :
    (pairs str).run (a, b) events =
      some (a.after str (events.map (·.map Prod.fst)), b.after str (events.map (·.map Prod.snd))) := by
  induction events generalizing a b with
  | nil => rfl
  | cons event events ih => exact ih _ _

/-- They agree on the metadata of the run, there is no correlation id that the server has not set, and a call
that the server places has one telephony configuration. -/
structure OwnedAgree (a b : RunContext) : Prop where
  reserved : ∀ key ∈ reservedInitialContextKeys, a.initialContext.lookup key = b.initialContext.lookup key
  noCorrelationId : a.minted = false → a.initialContext.lookup mpsCorrelationIdContextKey = none
  telephony : a.placed = true →
    a.initialContext.lookup telephonyConfigurationIdKey = b.initialContext.lookup telephonyConfigurationIdKey

structure VarsAgree (minted : Bool) (a b : Context) : Prop where
  reserved : ∀ key ∈ reservedInitialContextKeys, a.lookup key = b.lookup key
  noCorrelationId : minted = false → a.lookup mpsCorrelationIdContextKey = none

structure Alike (a b : RunContext) : Prop where
  placed : a.placed = b.placed
  minted : a.minted = b.minted
  vars : Option.Rel (VarsAgree a.minted) a.callContextVars b.callContextVars

/-- The template variables agree on what the start does not set, and carry no correlation id. -/
def TemplatesAgree (keys : List String) (templates : TemplateContextVariables (Context × Context)) : Prop :=
  (∀ key ∈ keys, (templates.map Prod.fst).default.lookup key = (templates.map Prod.snd).default.lookup key) ∧
    (templates.map Prod.fst).default.lookup mpsCorrelationIdContextKey = none ∧
    (templates.map Prod.snd).default.lookup mpsCorrelationIdContextKey = none

def StartAgrees : Start (Context × Context) → Prop
  | .executeResolvedTarget call requestContext templates =>
    (requestContext.1.lookup telephonyConfigurationIdKey).getD call.resolvedCfgId =
        (requestContext.2.lookup telephonyConfigurationIdKey).getD call.resolvedCfgId ∧
      (call.useDraft = true → TemplatesAgree ["runtime_configuration"] templates)
  | .dispatchCall _ _ => True
  | .initiateCall _ templates => TemplatesAgree ["runtime_configuration"] templates
  | .createWorkflowRun _ templates => TemplatesAgree ["provider", "runtime_configuration"] templates
  | .createTextChatSession _ templates => TemplatesAgree ["provider", "runtime_configuration"] templates
  | .serve _ => True

def Stored (response : Context) : Prop := (acceptedExternal response).entries.isEmpty = false

/-- The telephony configuration after a response, from that of the response, of the pipeline and of the row. -/
def fetchedTelephony (response vars : Context) (run : RunContext) : Option Json :=
  if (acceptedExternal response).entries.isEmpty then run.initialContext.lookup telephonyConfigurationIdKey
  else (response.lookup telephonyConfigurationIdKey).or ((vars.lookup telephonyConfigurationIdKey).or
    (run.initialContext.lookup telephonyConfigurationIdKey))

/-- Both responses are stored or neither is, unless the pipeline has nothing older than the row; and a placed
call keeps one telephony configuration. -/
def FetchAgrees (a b : RunContext) (response : Context × Context) : Prop :=
  ∀ varsA varsB, a.callContextVars = some varsA → b.callContextVars = some varsB →
    ((Stored response.1 ↔ Stored response.2) ∨ ∀ key ∈ reservedInitialContextKeys,
      (varsA.lookup key).or (a.initialContext.lookup key) = a.initialContext.lookup key) ∧
    (a.placed = true → fetchedTelephony response.1 varsA a = fetchedTelephony response.2 varsB b)

/-- The configuration that a mapping gives a placed call, where the run has one already. -/
def TelephonyAgrees (a b : RunContext) (external : Context × Context) : Prop :=
  a.placed = true →
    (external.1.lookup telephonyConfigurationIdKey).or (a.initialContext.lookup telephonyConfigurationIdKey) =
      (external.2.lookup telephonyConfigurationIdKey).or (b.initialContext.lookup telephonyConfigurationIdKey)

def EventAgrees (runs : RunContext × RunContext) : ContextEvent (Context × Context) → Prop
  | .storeRunCorrelationId _ => True
  | .runPipeline callContextVars _ managed =>
    (ensureMpsCorrelationId str managed runs.1.initialContext).isSome = true →
      TelephonyAgrees runs.1 runs.2 callContextVars
  | .pipelineEnds => True
  | .preCallFetch response => FetchAgrees runs.1 runs.2 response
  | .executeTextTurn _ managed fetched =>
    (ensureMpsCorrelationId str managed runs.1.initialContext).isSome = true →
      TelephonyAgrees runs.1 runs.2 (fetched.getD (∅, ∅))
  | .placeCall =>
    runs.1.initialContext.lookup telephonyConfigurationIdKey =
      runs.2.initialContext.lookup telephonyConfigurationIdKey

end FastVoice.Workflows
