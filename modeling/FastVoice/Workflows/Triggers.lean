import Mathlib.Data.List.Dedup
import FastVoice.Python.JsonPaths
import FastVoice.Runtime.Machine
import FastVoice.Workflows.LegacyColumns

/-! # Triggers of a workflow

The paths under which a workflow can be called from outside are rows of their own. A request that saves a
definition in the editor brings them in line with that definition; the other requests that change the
versions leave them alone.
-/
namespace FastVoice.Workflows
open Async Python

instance : EmptyCollection Json := ⟨.obj []⟩

inductive TriggerState where
  | active
  | archived
  deriving DecidableEq

structure AgentTrigger where
  triggerPath : String
  workflowId : Nat
  state : TriggerState
  deriving DecidableEq

def triggerPath (node : Json) : Option (Option String) :=
  if node.isDict = false then none
  else if (node.get "type").text? ≠ some "trigger" then some none
  else
    let data := node.get "data"
    if data.truthy && !data.isDict then none
    else some ((data.get "trigger_path").text?.filter fun path => path ≠ "")

/-- None where the definition is no graph and the function raises. -/
def extractTriggerPaths (workflowDefinition : Json) : Option (List String) :=
  if workflowDefinition.truthy = false then some []
  else
    let nodes := workflowDefinition.get "nodes"
    if workflowDefinition.isDict = false then none
    else if nodes.truthy = false then some []
    else
      match nodes with
      | .arr nodes => (nodes.mapM triggerPath).map fun paths => paths.filterMap id
      | _ => none

abbrev AgentTriggers := List AgentTrigger

namespace AgentTriggers

variable (triggers : AgentTriggers) (workflowId : Nat)

def activePaths : List String :=
  (triggers.filter fun row => row.workflowId = workflowId ∧ row.state = .active).map AgentTrigger.triggerPath

def existingPaths : List String :=
  (triggers.filter fun row => row.workflowId = workflowId).map AgentTrigger.triggerPath

def conflicts (paths : List String) : List String :=
  (triggers.filter fun row => row.triggerPath ∈ paths ∧ row.workflowId ≠ workflowId).map
    AgentTrigger.triggerPath

def synced (newPaths : List String) (row : AgentTrigger) : AgentTrigger :=
  if row.workflowId = workflowId then
    { row with state := if row.triggerPath ∈ newPaths then .active else .archived }
  else row

def syncTriggersForWorkflow (newPaths : List String) : Option AgentTriggers :=
  let pathsToAdd := newPaths.dedup.filter fun path => path ∉ triggers.existingPaths workflowId
  if triggers.conflicts workflowId pathsToAdd = [] then
    some (triggers.map (synced workflowId newPaths) ++
      pathsToAdd.map fun path => ⟨path, workflowId, .active⟩)
  else none

end AgentTriggers

structure TriggeredWorkflow where
  versions : VersionStore Unit Json
  triggers : AgentTriggers
  /-- The definition that the triggers were last brought in line with. -/
  syncedWith : Json

/-- A definition is what is stored of it, after the request has completed and checked it. -/
inductive WorkflowRequest where
  | updateWorkflow (changes : SnapshotChanges Json)
  /-- `save_workflow` of the other editor. -/
  | saveWorkflow (payload : Json)
  | createDraft
  | publish
  | discard
  | revert (definitionId : Nat)
  | elsewhere (rows : AgentTriggers)

namespace TriggeredWorkflow

variable (workflowId : Nat) (s : TriggeredWorkflow)

def publishedJson : Option Json :=
  s.versions.committed.definitions.published?.map fun row => row.snapshot.workflowJson

def draftJson : Option Json :=
  s.versions.committed.definitions.draft?.map fun row => row.snapshot.workflowJson

def after (operation : VersionOperation Json) : TriggeredWorkflow :=
  { s with versions := s.versions.after workflowId operation }

/-- `update_workflow` of the database, which saves a draft if there is something to save. -/
def save (changes : SnapshotChanges Json) : TriggeredWorkflow :=
  if changes.isEmpty then s else s.after workflowId (.save changes)

end TriggeredWorkflow

def SnapshotChanges.definition? (changes : SnapshotChanges Json) : Option Json :=
  changes.workflowJson.filter Json.truthy

section

variable (accepts : Json → Bool) (workflowId : Nat)

/-- `update_workflow`: nothing is saved if a path is taken. -/
def updateWorkflow (changes : SnapshotChanges Json) (s : TriggeredWorkflow) : Option TriggeredWorkflow :=
  match changes.definition? with
  | none => some (s.save workflowId changes)
  | some definition =>
    (extractTriggerPaths definition).bind fun paths =>
      if s.triggers.conflicts workflowId paths = [] then
        (s.triggers.syncTriggersForWorkflow workflowId paths).map fun triggers =>
          { s.save workflowId changes with
            triggers := triggers
            syncedWith := definition }
      else none

/-- `_validate_workflow_definition`. The checks of the graph and of its tools are taken together. -/
def isValidDefinition (triggers : AgentTriggers) (definition : Json) : Bool :=
  !definition.truthy || accepts definition &&
    (extractTriggerPaths definition).any fun paths => triggers.conflicts workflowId paths = []

def workflowRequests : Machine TriggeredWorkflow WorkflowRequest where
  step s
    | .updateWorkflow changes => updateWorkflow workflowId changes s
    | .saveWorkflow payload => some (s.after workflowId (.save { workflowJson := some payload }))
    | .createDraft => some (s.after workflowId (.save {}))
    | .publish =>
      if s.draftJson.any (isValidDefinition accepts workflowId s.triggers) then
        some (s.after workflowId .publish)
      else none
    | .discard => if s.draftJson.isSome then some (s.after workflowId .discard) else none
    | .revert definitionId =>
      if s.draftJson = none ∧ (s.versions.committed.definitions.lookup definitionId).isSome then
        some (s.after workflowId (.revert definitionId))
      else none
    | .elsewhere rows =>
      if ∀ row ∈ rows, row.workflowId ≠ workflowId then
        some { s with
          triggers := (s.triggers.filter fun row => row.workflowId = workflowId) ++ rows }
      else none

end

/-- `create_workflow`, after which the workflow has its first version and the triggers of it. -/
def createTriggered (workflowId definitionId : Nat) (definition : Json) (others : AgentTriggers) :
    Option TriggeredWorkflow :=
  if ∀ row ∈ others, row.workflowId ≠ workflowId then
    (extractTriggerPaths definition).bind fun paths =>
      (others.syncTriggersForWorkflow workflowId paths).map fun triggers =>
        { versions := .created Unit definitionId definition
          triggers := triggers
          syncedWith := definition }
  else none

end FastVoice.Workflows
