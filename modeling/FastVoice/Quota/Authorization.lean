import Mathlib.Algebra.Order.Ring.Rat
import Mathlib.Tactic.NormNum
import Mathlib.Data.List.Dedup
import Mathlib.Data.List.Infix
import FastVoice.Runtime.Text

/-! # Credits as the billing service reports them

A report is a value of a parsed response, so it may be any value: a number, one that is none, a text that
reads as a number, or something that cannot be compared at all.
-/
namespace FastVoice.Quota

inductive Amount where
  | nan
  | infinite (negative : Bool)
  | finite (value : ℚ)
  deriving DecidableEq

/-- `0.10`, rounded to a floating-point number. -/
def minimumDograhCreditsForCall : ℚ := 3602879701896397 / 36028797018963968

namespace Amount

def isLow : Amount → Bool
  | .nan => false
  | .infinite negative => negative
  | .finite value => value < minimumDograhCreditsForCall

def isEnough : Amount → Bool
  | .nan => false
  | .infinite negative => !negative
  | .finite value => minimumDograhCreditsForCall ≤ value

theorem isLow_eq_false {amount : Amount} : amount.isLow = false ↔ amount.isEnough = true ∨ amount = .nan := by
  cases amount with
  | nan => simp [isLow]
  | infinite negative => simp [isLow, isEnough]
  | finite value => simp [isLow, isEnough]

end Amount

/-- What is found under `remaining_credits`. -/
inductive Credits where
  | missing
  | null
  | flag (value : Bool)
  | integer (value : Int)
  | number (value : Amount)
  | text (read : Option Amount)
  | other
  deriving DecidableEq

namespace Credits

/-- `usage.get("remaining_credits", 0.0) < MINIMUM_DOGRAH_CREDITS_FOR_CALL`, none for a `TypeError`. -/
def isLow : Credits → Option Bool
  | .missing => some true
  | .flag value => some !value
  | .integer value => some (value ≤ 0)
  | .number value => some value.isLow
  | _ => none

def integerLimit : Nat := 2 ^ 1024 - 2 ^ 970

/-- `_safe_float`, none for an integer that is too large. -/
def safeFloat : Credits → Option Amount
  | .flag value => some (.finite (if value then 1 else 0))
  | .integer value => if integerLimit ≤ value.natAbs then none else some (.finite value)
  | .number value => some value
  | .text (some value) => some value
  | _ => some (.finite 0)

def ReportsLow : Credits → Prop
  | .flag value => value = false
  | .integer value => value ≤ 0
  | .number value => value.isLow = true
  | .text (some value) => value.isLow = true
  | _ => False

def Confirms : Credits → Prop
  | .flag value => value = true
  | .integer value => 0 < value
  | .number value => value.isEnough = true
  | .text (some value) => value.isEnough = true
  | _ => False

end Credits

end FastVoice.Quota

/-! # Authorization of a run

`authorize_workflow_run_start` with its four paths: the hosted one, the one that checks keys one by one, the
one for managed services, and the legacy endpoints that the last one falls back to. Every answer of the
billing service is a parameter, as is the order in which a set of keys is iterated.
-/
namespace FastVoice.Quota

structure HttpResponse where
  statusCode : Nat
  /-- The `detail` of the body, if the body is a dictionary and this is a text. -/
  detail : Option String
  text : String

/-- What a call of the service raises. `message` is what `str` makes of the exception. -/
inductive MpsError where
  | unreachable
  | httpStatus (response : HttpResponse) (message : String)
  | other (message : String)

structure Authorization where
  allowed : Bool
  remainingCredits : Credits
  /-- A text under `correlation_id`. -/
  correlationId : Option String
  error : Option String
  message : Option String

structure Mps where
  checkServiceKeyUsage : String → Except MpsError (Option Credits)
  authorizeServiceKeyRunStart : String → Except MpsError (Option Authorization)
  authorizeWorkflowRunStart : Option String → Except MpsError (Option Authorization)
  createCorrelationId : String → Except MpsError (Option (Option String))

structure Service where
  isDograh : Bool
  apiKeys : List String

structure UserConfig where
  managedServiceVersion : Option Nat
  llm : Option Service
  stt : Option Service
  tts : Option Service
  embeddings : Option Service

namespace UserConfig

def dograhServices (sections : List (Option Service)) : List Service :=
  (sections.filterMap id).filter Service.isDograh

/-- `_dograh_api_keys`: a set, here without its order. -/
def dograhApiKeys (config : UserConfig) : List String :=
  (((dograhServices [config.llm, config.stt, config.tts, config.embeddings]).flatMap Service.apiKeys).filter
    fun key => key ≠ "").dedup

def usesManagedModelServicesV2 (config : UserConfig) : Bool :=
  config.managedServiceVersion = some 2 ∧
    dograhServices [config.llm, config.tts, config.stt, config.embeddings] ≠ []

/-- `get_dograh_service_api_key`. The first key may be empty. -/
def dograhServiceApiKey (config : UserConfig) : Option String :=
  ((dograhServices [config.llm, config.tts, config.stt, config.embeddings]).findSome?
    fun service => service.apiKeys.head?).filter fun key => key ≠ ""

end UserConfig

structure WorkflowRow (C : Type) where
  id : Nat
  organizationId : Nat
  userId : Nat
  workflowConfigurations : C

/-- A run, with the configurations of the definition it is pinned to and the id in its context. -/
structure WorkflowRun (C : Type) where
  id : Nat
  positive : 0 < id
  workflowId : Nat
  organizationId : Nat
  definitionConfigurations : Option C
  mpsCorrelationId : Option String

inductive DatabaseCall where
  | getWorkflow
  | isUserMemberOfOrganization
  | getUserById
  | getWorkflowRun
  | getWorkflowRunById
  | updateWorkflowRun
  deriving DecidableEq

/-- What an authorization reads. `configurationOf` is none where the configuration cannot be resolved. -/
structure Platform (C : Type) where
  isOss : Bool
  lower : String → String
  workflows : List (WorkflowRow C)
  users : List Nat
  memberships : List (Nat × Nat)
  runs : List (WorkflowRun C)
  configurationOf : Nat → C → Option UserConfig
  raises : DatabaseCall → Bool
  mps : Mps

structure QuotaCheckResult where
  hasQuota : Bool
  errorCode : String := ""
  errorMessage : String := ""
  deriving DecidableEq

def QuotaCheckResult.granted : QuotaCheckResult where
  hasQuota := true

def quotaCheckFailed : QuotaCheckResult where
  hasQuota := false
  errorCode := "quota_check_failed"
  errorMessage := "Could not verify Dograh credits. Please try again."

def invalidServiceKey : QuotaCheckResult where
  hasQuota := false
  errorCode := "invalid_service_key"
  errorMessage := "You have invalid keys in your model configuration. Please validate the service keys."

def insufficientOssQuota : QuotaCheckResult where
  hasQuota := false
  errorCode := "quota_exceeded"
  errorMessage := "You have exhausted your trial credits. Please sign up on app.dograh.com to create a " ++
    "new service key and set up in your model configurations."

def insufficientHostedQuota : QuotaCheckResult where
  hasQuota := false
  errorCode := "insufficient_credits"
  errorMessage := "You have exhausted your Dograh credits. Please purchase more credits from /billing " ++
    "or change providers in Models configurations."

def serviceKeyOrgMismatch : QuotaCheckResult where
  hasQuota := false
  errorCode := "service_key_org_mismatch"
  errorMessage := "The Dograh service token being used is created from another account. " ++
    "Please create a new service token from the Developers tab and use it in your model configuration."

def hostedKeyQuotaExceededMessage : String :=
  "The organization linked to this Dograh service key has insufficient credits. " ++
    "Please add credits at app.dograh.com or change providers in Models configurations."

def workflowNotFound : QuotaCheckResult := ⟨false, "workflow_not_found", "Workflow not found"⟩

def userNotFound : QuotaCheckResult := ⟨false, "user_not_found", "User not found"⟩

def workflowRunNotFound : QuotaCheckResult := ⟨false, "workflow_run_not_found", "Workflow run not found"⟩

structure Decision where
  result : QuotaCheckResult
  correlationId : Option String := none
  deriving DecidableEq

def Decision.of (result : QuotaCheckResult) : Decision where
  result := result

section

variable {C : Type} (p : Platform C)

def requiredCorrelationId (correlationId : Option String) : Option String :=
  (correlationId.map Text.strip).filter fun text => text ≠ ""

/-- `_store_run_correlation_id`, with the id that is on the run afterwards. Only the database raises. -/
def storeRunCorrelationId (workflowRunId : Option Nat) (correlationId : Option String) :
    Except Unit (Option String) :=
  match workflowRunId.filter (· ≠ 0), correlationId with
  | some workflowRunId, some correlationId =>
    if p.raises .getWorkflowRunById then .error ()
    else
      match p.runs.find? (·.id = workflowRunId) with
      | none => .ok none
      | some run =>
        if run.mpsCorrelationId = some correlationId then .ok (some correlationId)
        else if p.raises .updateWorkflowRun then .error ()
        else .ok (some correlationId)
  | _, _ => .ok none

def settleAuthorization (workflowRunId : Option Nat) (requiresCorrelation : Bool) (denied : QuotaCheckResult)
    (authorization : Authorization) : Decision :=
  match authorization.remainingCredits.safeFloat with
  | none => .of quotaCheckFailed
  | some remaining =>
    if !authorization.allowed || remaining.isLow then .of denied
    else
      let correlationId := requiredCorrelationId authorization.correlationId
      if requiresCorrelation && correlationId.isNone then .of quotaCheckFailed
      else
        match storeRunCorrelationId p workflowRunId correlationId with
        | .error _ => .of quotaCheckFailed
        | .ok stored => ⟨.granted, stored⟩

def isServiceKeyOrgMismatchError : MpsError → Bool
  | .httpStatus response _ =>
    response.statusCode = 403 &&
      match response.detail with
      | some detail => p.lower detail = "service key organization mismatch"
      | none => decide ("Service key organization mismatch".toList <:+: response.text.toList)
  | _ => false

def authorizeHostedWorkflowRunStart (workflowRunId : Option Nat) (config : UserConfig) : Decision :=
  let requiresCorrelation := (workflowRunId.filter (· ≠ 0)).isSome && config.usesManagedModelServicesV2
  let serviceKey := if requiresCorrelation then config.dograhServiceApiKey else none
  if requiresCorrelation && serviceKey.isNone then .of invalidServiceKey
  else
    match p.mps.authorizeWorkflowRunStart serviceKey with
    | .error .unreachable => .of (if requiresCorrelation then quotaCheckFailed else .granted)
    | .error error =>
      .of (if isServiceKeyOrgMismatchError p error then serviceKeyOrgMismatch else quotaCheckFailed)
    | .ok none => .of quotaCheckFailed
    | .ok (some authorization) =>
      settleAuthorization p workflowRunId requiresCorrelation insufficientHostedQuota authorization

def keyErrorResult (message : String) : QuotaCheckResult :=
  if "404".toList <:+: message.toList ∨ "not found".toList <:+: (p.lower message).toList then
    invalidServiceKey
  else quotaCheckFailed

def checkDograhKey (apiKey : String) : Option QuotaCheckResult :=
  match p.mps.checkServiceKeyUsage apiKey with
  | .error .unreachable => some .granted
  | .error (.httpStatus _ message) => some (keyErrorResult p message)
  | .error (.other message) => some (keyErrorResult p message)
  | .ok none => some quotaCheckFailed
  | .ok (some remaining) =>
    match remaining.isLow with
    | none => some quotaCheckFailed
    | some true => some insufficientOssQuota
    -- The credits are logged with two digits, which raises for an integer that is too large.
    | some false => if remaining.safeFloat.isNone then some quotaCheckFailed else none

structure IterationOrder where
  order : List String → List String
  perm : ∀ keys, (order keys).Perm keys

variable (iteration : IterationOrder)

def authorizeOssDograhKeys (dograhApiKeys : List String) : QuotaCheckResult :=
  ((iteration.order dograhApiKeys).findSome? (checkDograhKey p)).getD .granted

def authorizeOssManagedV2Correlation (workflowRunId : Option Nat) (config : UserConfig) : Decision :=
  if (workflowRunId.filter (· ≠ 0)).isNone || !config.usesManagedModelServicesV2 then .of .granted
  else
    match config.dograhServiceApiKey with
    | none => .of invalidServiceKey
    | some serviceKey =>
      match p.mps.createCorrelationId serviceKey with
      | .ok (some correlationId) =>
        match requiredCorrelationId correlationId with
        | none => .of quotaCheckFailed
        | some correlationId =>
          match storeRunCorrelationId p workflowRunId (some correlationId) with
          | .error _ => .of quotaCheckFailed
          | .ok stored => ⟨.granted, stored⟩
      | _ => .of quotaCheckFailed

def ossRunAuthorizationDeniedResult (authorization : Authorization) : QuotaCheckResult :=
  if authorization.error = some "insufficient_credits" then
    { hasQuota := false
      errorCode := "insufficient_credits"
      errorMessage := (authorization.message.filter fun text => Text.strip text ≠ "").getD
        hostedKeyQuotaExceededMessage }
  else insufficientOssQuota

def authorizeOssManagedV2Run (workflowRunId : Nat) (serviceKey : String) (config : UserConfig) : Decision :=
  match p.mps.authorizeServiceKeyRunStart serviceKey with
  | .error (.httpStatus response _) =>
    if response.statusCode ∉ [404, 405] then .of quotaCheckFailed
    else
      let legacyQuota := authorizeOssDograhKeys p iteration [serviceKey]
      if !legacyQuota.hasQuota then .of legacyQuota
      else authorizeOssManagedV2Correlation p (some workflowRunId) config
  | .error _ => .of quotaCheckFailed
  | .ok none => .of quotaCheckFailed
  | .ok (some authorization) =>
    settleAuthorization p (some workflowRunId) true (ossRunAuthorizationDeniedResult authorization)
      authorization

def authorizeOssRun (workflowRunId : Option Nat) (config : UserConfig) : Decision :=
  let dograhApiKeys := config.dograhApiKeys
  match workflowRunId.filter fun _ => config.usesManagedModelServicesV2 with
  | none =>
    if dograhApiKeys ≠ [] then .of (authorizeOssDograhKeys p iteration dograhApiKeys) else .of .granted
  | some workflowRunId =>
    match config.dograhServiceApiKey with
    | none => .of invalidServiceKey
    | some correlationServiceKey =>
      let keysRequiringLegacyCheck := dograhApiKeys.filter fun key => key ≠ correlationServiceKey
      let ossResult :=
        if keysRequiringLegacyCheck ≠ [] then authorizeOssDograhKeys p iteration keysRequiringLegacyCheck
        else .granted
      if !ossResult.hasQuota then .of ossResult
      else authorizeOssManagedV2Run p iteration workflowRunId correlationServiceKey config

structure StartRequest where
  workflowId : Nat
  organizationId : Option Nat
  workflowRunId : Option Nat
  /-- The user who starts the run, and whose id may be missing. -/
  actorUser : Option (Option Nat)

/-- The result that denies an actor, none for one who may start the run. -/
def denyActor (organizationId : Nat) : Option (Option Nat) → Option QuotaCheckResult
  | none => none
  | some none => some workflowNotFound
  | some (some actorId) =>
    if p.raises .isUserMemberOfOrganization then some workflowNotFound
    else if (actorId, organizationId) ∈ p.memberships then none
    else some workflowNotFound

/-- The configurations that the run executes, or the result that denies it. -/
def runConfigurations (workflow : WorkflowRow C) (organizationId : Nat) (workflowRunId : Option Nat) :
    Except QuotaCheckResult C :=
  match workflowRunId with
  | none => .ok workflow.workflowConfigurations
  | some workflowRunId =>
    if p.raises .getWorkflowRun then .error quotaCheckFailed
    else
      match p.runs.find? fun run => run.id = workflowRunId ∧ run.organizationId = organizationId with
      | none => .error workflowRunNotFound
      | some run =>
        if run.workflowId ≠ workflow.id then .error workflowRunNotFound
        else .ok (run.definitionConfigurations.getD workflow.workflowConfigurations)

/-- The configuration that a request is authorized with, or the result that denies it before that. -/
def authorizedConfig (request : StartRequest) : Except QuotaCheckResult UserConfig :=
  match request.organizationId with
  | none => .error workflowNotFound
  | some organizationId =>
    if p.raises .getWorkflow then .error workflowNotFound
    else
      match p.workflows.find? fun row => row.id = request.workflowId ∧ row.organizationId = organizationId with
      | none => .error workflowNotFound
      | some workflow =>
        match denyActor p organizationId request.actorUser with
        | some denied => .error denied
        | none =>
          if p.raises .getUserById then .error quotaCheckFailed
          else if workflow.userId ∉ p.users then .error userNotFound
          else
            match runConfigurations p workflow organizationId request.workflowRunId with
            | .error denied => .error denied
            | .ok configurations =>
              match p.configurationOf organizationId configurations with
              | none => .error quotaCheckFailed
              | some config => .ok config

def authorizeWorkflowRunStart (request : StartRequest) : Decision :=
  match authorizedConfig p request with
  | .error denied => .of denied
  | .ok config =>
    if p.isOss then authorizeOssRun p iteration request.workflowRunId config
    else authorizeHostedWorkflowRunStart p request.workflowRunId config

end

end FastVoice.Quota
