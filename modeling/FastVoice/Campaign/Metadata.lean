import Mathlib.Data.Finmap
import FastVoice.Campaign.Database

/-! # The metadata document of a campaign

Settings, counters and the link to a redial campaign share one JSON column. The counters are updated
inside it by single statements; the routes read the document, change their copy and write it back
whole. What the routes read to build their response is left out.
-/
namespace FastVoice.Campaign
open Async

deriving instance DecidableEq for CircuitBreakerConfig

inductive MetadataValue where
  | number (value : Nat)
  | scheduleConfig (config : ScheduleConfig)
  | circuitBreaker (config : CircuitBreakerConfig)
  deriving DecidableEq

abbrev Metadata := Finmap fun _ : String => MetadataValue

def isTruthy : Option MetadataValue → Bool
  | none => false
  | some (.number value) => value ≠ 0
  | some _ => true

structure CampaignOrigin where
  workflowId : Nat
  sourceType : String
  sourceId : String
  createdBy : Nat
  organizationId : Nat
  rateLimitPerSecond : Nat
  deriving DecidableEq

structure CampaignDocument where
  id : Nat
  name : String
  state : CampaignState
  origin : CampaignOrigin
  retryConfig : RetryConfig
  metadata : Metadata

structure RedialCandidate where
  sourceUuid : String
  contextVariables : ContextVariables
  deriving DecidableEq

structure RedialFilter where
  includeVoicemail : Bool
  includeNoAnswer : Bool
  includeBusy : Bool
  deriving DecidableEq

structure ChildCampaign where
  id : Nat
  name : String
  origin : CampaignOrigin
  retryConfig : RetryConfig
  metadata : Metadata
  queuedRuns : List RedialCandidate

structure DocumentChanges where
  name : Option String := none
  retryConfig : Option RetryConfig := none
  metadata : Option Metadata := none

/-- The document that a commit writes; the mapper leaves an unchanged one alone. -/
def DocumentChanges.document (changes : DocumentChanges) (loaded : CampaignDocument) :
    Option Metadata := changes.metadata.filter (· ≠ loaded.metadata)

def CampaignDocument.write (row loaded : CampaignDocument) (changes : DocumentChanges) :
    CampaignDocument :=
  { row with
    name := written row.name loaded.name changes.name
    retryConfig := written row.retryConfig loaded.retryConfig changes.retryConfig
    metadata := (changes.document loaded).getD row.metadata }

structure MetadataStore where
  campaign : Option CampaignDocument
  /-- Latest first. -/
  children : List ChildCampaign
  lastCampaignId : Nat
  orgConcurrentLimit : Nat
  fromNumbersCount : Nat
  redialCandidates : RedialFilter → List RedialCandidate

inductive MetadataCommand where
  | getCampaign
  | getOrgConcurrentLimit
  | getFromNumbersCount
  | getRedialCandidates (filter : RedialFilter)
  | loadCampaign
  | commitCampaign (loaded : CampaignDocument) (changes : DocumentChanges)
  | incrementCounter (key : String)
  | resetCounter (key : String)
  | flushChild
  | commitRedial (child : ChildCampaign) (metadata : Metadata)

abbrev MetadataCommand.Reply : MetadataCommand → Type
  | .getCampaign => Option CampaignDocument
  | .getOrgConcurrentLimit => Nat
  | .getFromNumbersCount => Nat
  | .getRedialCandidates _ => List RedialCandidate
  | .loadCampaign => Option CampaignDocument
  | .commitCampaign _ _ => Unit
  /- No value for a missing campaign, or for an entry that is no number. -/
  | .incrementCounter _ => Option Nat
  | .resetCounter _ => Unit
  | .flushChild => Nat
  | .commitRedial _ _ => Unit

namespace MetadataStore

def metadata (s : MetadataStore) : Metadata := s.campaign.elim ∅ CampaignDocument.metadata

def setMetadata (s : MetadataStore) (metadata : Metadata) : MetadataStore :=
  { s with campaign := s.campaign.map fun row => { row with metadata } }

def nextCount (s : MetadataStore) (key : String) : Option Nat :=
  match s.campaign with
  | none => none
  | some row =>
    match row.metadata.lookup key with
    | none => some 1
    | some (.number value) => some (value + 1)
    | some _ => none

def execute : (command : MetadataCommand) → MetadataStore → command.Reply × MetadataStore
  | .getCampaign, s => (s.campaign, s)
  | .getOrgConcurrentLimit, s => (s.orgConcurrentLimit, s)
  | .getFromNumbersCount, s => (s.fromNumbersCount, s)
  | .getRedialCandidates filter, s => (s.redialCandidates filter, s)
  | .loadCampaign, s => (s.campaign, s)
  | .commitCampaign loaded changes, s =>
    ((), { s with campaign := s.campaign.map fun row => row.write loaded changes })
  | .incrementCounter key, s =>
    match s.nextCount key with
    | none => (none, s)
    | some value => (some value, s.setMetadata (s.metadata.insert key (.number value)))
  | .resetCounter key, s => ((), s.setMetadata (s.metadata.erase key))
  | .flushChild, s => (s.lastCampaignId + 1, { s with lastCampaignId := s.lastCampaignId + 1 })
  | .commitRedial child metadata, s =>
    ((), { s.setMetadata metadata with children := child :: s.children })

end MetadataStore

/-- What happens between the commands: limits and call results change, the campaign changes its
state. -/
inductive MetadataMove where
  | limits (orgConcurrentLimit fromNumbersCount : Nat)
  | calls (redialCandidates : RedialFilter → List RedialCandidate)
  | state (state : CampaignState)

def MetadataStore.environment : MetadataMove → MetadataStore → Option MetadataStore
  | .limits orgConcurrentLimit fromNumbersCount, s =>
    some { s with orgConcurrentLimit, fromNumbersCount }
  | .calls redialCandidates, s => some { s with redialCandidates }
  | .state state, s => some { s with campaign := s.campaign.map fun row => { row with state } }

/-- What a route raises: a response, or an error that becomes one further up. -/
inductive RouteError where
  | httpException (statusCode : Nat) (detail : String)
  | valueError (message : String)
  | cancelledError
  | exception
  deriving DecidableEq

def metadataServices (ι : Type) :
    System ι MetadataCommand.Reply RouteError MetadataStore MetadataMove :=
  .ofServer MetadataStore.execute MetadataStore.environment

abbrev MetadataMethod := Program MetadataCommand.Reply RouteError

def updateCampaignDocument (campaignId : Nat) (changes : DocumentChanges) : MetadataMethod Unit := do
  let campaign ← Program.call MetadataCommand.loadCampaign
  match campaign with
  | none => .raise (.valueError s!"Campaign {campaignId} not found")
  | some campaign => Program.call (MetadataCommand.commitCampaign campaign changes)

def incrementCampaignMetadataCounter (key : String) : MetadataMethod Nat := do
  let attempt ← Program.call (MetadataCommand.incrementCounter key)
  match attempt with
  | none => .raise .exception
  | some attempt => return attempt

def resetCampaignMetadataCounter (key : String) : MetadataMethod Unit :=
  Program.call (MetadataCommand.resetCounter key)

def validateMaxConcurrency (maxConcurrency : Nat) : MetadataMethod Unit := do
  let orgLimit ← Program.call MetadataCommand.getOrgConcurrentLimit
  let fromNumbersCount ← Program.call MetadataCommand.getFromNumbersCount
  let effectiveLimit := if 0 < fromNumbersCount then min orgLimit fromNumbersCount else orgLimit
  if effectiveLimit < maxConcurrency then
    if 0 < fromNumbersCount ∧ fromNumbersCount < orgLimit then
      .raise (.httpException 400
        s!"max_concurrency ({maxConcurrency}) cannot exceed {effectiveLimit}. You have {fromNumbersCount} phone number(s) configured. Add more CLIs in telephony configuration to increase concurrency.")
    else
      .raise (.httpException 400
        s!"max_concurrency ({maxConcurrency}) cannot exceed organization limit ({effectiveLimit})")
  else return ()

structure UpdateCampaignRequest where
  name : Option String
  retryConfig : Option RetryConfig
  maxConcurrency : Option Nat
  scheduleConfig : Option ScheduleConfig
  circuitBreaker : Option CircuitBreakerConfig

/-- The metadata keys that the request sets. -/
def UpdateCampaignRequest.settings (request : UpdateCampaignRequest) :
    List (String × MetadataValue) :=
  (request.maxConcurrency.map fun value => ("max_concurrency", .number value)).toList ++
    (request.scheduleConfig.map fun config => ("schedule_config", .scheduleConfig config)).toList ++
    (request.circuitBreaker.map fun config => ("circuit_breaker", .circuitBreaker config)).toList

def setAll (metadata : Metadata) (settings : List (String × MetadataValue)) : Metadata :=
  settings.foldl (fun metadata setting => metadata.insert setting.1 setting.2) metadata

def CampaignState.value : CampaignState → String
  | .created => "created"
  | .syncing => "syncing"
  | .running => "running"
  | .paused => "paused"
  | .completed => "completed"
  | .failed => "failed"

def validateRequest (request : UpdateCampaignRequest) : MetadataMethod Unit :=
  match request.maxConcurrency with
  | none => return ()
  | some maxConcurrency => validateMaxConcurrency maxConcurrency

def patchCampaign (campaignId : Nat) (request : UpdateCampaignRequest) : MetadataMethod Unit := do
  let campaign ← Program.call MetadataCommand.getCampaign
  match campaign with
  | none => .raise (.httpException 404 "Campaign not found")
  | some campaign =>
    if campaign.state = .completed ∨ campaign.state = .failed then
      .raise (.httpException 400 s!"Cannot update a {campaign.state.value} campaign")
    else
      validateRequest request
      let metadata :=
        if request.settings = [] then none else some (setAll campaign.metadata request.settings)
      if request.name.isSome ∨ request.retryConfig.isSome ∨ metadata.isSome then
        updateCampaignDocument campaignId
          { name := request.name, retryConfig := request.retryConfig, metadata }
      else return ()

structure RedialCampaignRequest where
  name : Option String
  retryOnVoicemail : Bool
  retryOnNoAnswer : Bool
  retryOnBusy : Bool
  retryConfig : Option RetryConfig

def redialedKey : String := "redialed_campaign_id"

def inheritedKeys : List String := ["max_concurrency", "schedule_config", "circuit_breaker"]

def childMetadata (parent : CampaignDocument) : Metadata :=
  (setAll ∅ (inheritedKeys.filterMap fun key =>
    (parent.metadata.lookup key).map fun value => (key, value))).insert
      "parent_campaign_id" (.number parent.id)

def defaultCampaignRetryConfig : RetryConfig where
  enabled := some true
  maxRetries := some 1
  retryDelaySeconds := some 120
  retryOnBusy := some true
  retryOnNoAnswer := some true
  retryOnVoicemail := some false

/-- One transaction; it always writes the document, which names a campaign that no row can name
yet. -/
def createRedialCampaign (parent : CampaignDocument) (newName : String) (retryConfig : RetryConfig)
    (queuedRuns : List RedialCandidate) : MetadataMethod Unit :=
  if isTruthy (parent.metadata.lookup redialedKey) then
    .raise (.valueError s!"Campaign {parent.id} has already been redialed")
  else do
    let childId ← Program.call MetadataCommand.flushChild
    let loaded ← Program.call MetadataCommand.loadCampaign
    match loaded with
    | none => .raise .exception
    | some _ =>
      let child : ChildCampaign :=
        { id := childId
          name := newName
          origin := parent.origin
          retryConfig :=
            if retryConfig = ⟨none, none, none, none, none, none⟩ then defaultCampaignRetryConfig
            else retryConfig
          metadata := childMetadata parent
          queuedRuns }
      Program.call (MetadataCommand.commitRedial child
        (parent.metadata.insert redialedKey (.number childId)))

def redialCampaign (request : RedialCampaignRequest) : MetadataMethod Unit := do
  let parent ← Program.call MetadataCommand.getCampaign
  match parent with
  | none => .raise (.httpException 404 "Campaign not found")
  | some parent =>
    if parent.state ≠ .completed then
      .raise (.httpException 400
        s!"Only completed campaigns can be redialed (current state: {parent.state.value})")
    else if isTruthy (parent.metadata.lookup redialedKey) then
      .raise (.httpException 400 "This campaign has already been redialed")
    else
      let candidates ← Program.call (MetadataCommand.getRedialCandidates
        ⟨request.retryOnVoicemail, request.retryOnNoAnswer, request.retryOnBusy⟩)
      if candidates = [] then
        .raise (.httpException 400 "No subscribers match the selected redial criteria")
      else
        (createRedialCampaign parent (request.name.getD s!"{parent.name} (Redial)")
            (request.retryConfig.getD parent.retryConfig) candidates).tryCatch fun
          | .valueError message => .raise (.httpException 400 message)
          | error => .raise error

end FastVoice.Campaign
