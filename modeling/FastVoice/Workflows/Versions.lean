import FastVoice.Runtime
import FastVoice.Sql.Table

/-! # Versions of a workflow

The definitions of one workflow, and the transactions that edit them, in single statements under READ
COMMITTED. A query sees what is committed; none of these reads what its own transaction has written. An
update locks its rows and waits for a row that another transaction has locked, then looks at the row
again. What a transaction writes becomes visible at its commit, and any failure before it rolls back.
-/
namespace FastVoice.Workflows
open Async Sql

structure Snapshot (J : Type) where
  workflowJson : J
  workflowConfigurations : J
  templateContextVariables : J
  deriving DecidableEq

inductive VersionStatus where
  | draft
  | published
  | archived
  deriving DecidableEq

structure WorkflowDefinition (J : Type) where
  id : Nat
  snapshot : Snapshot J
  status : VersionStatus
  versionNumber : Nat
  isCurrent : Bool

abbrev Definitions (J : Type) := Table fun row : WorkflowDefinition J => row.id

structure Workflow (J : Type) where
  snapshot : Snapshot J
  releasedDefinitionId : Option Nat

structure SnapshotChanges (J : Type) where
  workflowJson : Option J := none
  workflowConfigurations : Option J := none
  templateContextVariables : Option J := none

namespace Snapshot

variable {J : Type}

def edit (snapshot : Snapshot J) (changes : SnapshotChanges J) : Snapshot J where
  workflowJson := changes.workflowJson.getD snapshot.workflowJson
  workflowConfigurations := changes.workflowConfigurations.getD snapshot.workflowConfigurations
  templateContextVariables := changes.templateContextVariables.getD snapshot.templateContextVariables

/-- The columns that the mapper writes: those whose value differs from the loaded one. -/
def changesTo [DecidableEq J] (loaded snapshot : Snapshot J) : SnapshotChanges J where
  workflowJson :=
    if loaded.workflowJson = snapshot.workflowJson then none else some snapshot.workflowJson
  workflowConfigurations :=
    if loaded.workflowConfigurations = snapshot.workflowConfigurations then none
    else some snapshot.workflowConfigurations
  templateContextVariables :=
    if loaded.templateContextVariables = snapshot.templateContextVariables then none
    else some snapshot.templateContextVariables

@[simp] theorem edit_changesTo [DecidableEq J] (loaded snapshot : Snapshot J) :
    loaded.edit (loaded.changesTo snapshot) = snapshot := by
  cases snapshot
  simp only [edit, changesTo, mk.injEq]
  refine ⟨?_, ?_, ?_⟩
  all_goals
    split
    · assumption
    · rfl

end Snapshot

namespace SnapshotChanges

def isEmpty {J : Type} (changes : SnapshotChanges J) : Bool :=
  changes.workflowJson.isNone && changes.workflowConfigurations.isNone &&
    changes.templateContextVariables.isNone

end SnapshotChanges

inductive VersionWrite (J : Type) where
  | archive (id : Nat)
  | edit (id : Nat) (changes : SnapshotChanges J)
  | publish (id : Nat)
  | insert (row : WorkflowDefinition J)
  | delete (id : Nat)
  | workflow (changes : SnapshotChanges J) (releasedDefinitionId : Option Nat)

namespace WorkflowDefinition

variable {J : Type}

def archive (row : WorkflowDefinition J) : WorkflowDefinition J :=
  { row with status := .archived, isCurrent := false }

def publish (row : WorkflowDefinition J) : WorkflowDefinition J :=
  { row with status := .published, isCurrent := true }

def edit (changes : SnapshotChanges J) (row : WorkflowDefinition J) : WorkflowDefinition J :=
  { row with snapshot := row.snapshot.edit changes }

theorem archive_id (row : WorkflowDefinition J) : row.archive.id = row.id := rfl

theorem publish_id (row : WorkflowDefinition J) : row.publish.id = row.id := rfl

theorem edit_id (changes : SnapshotChanges J) (row : WorkflowDefinition J) :
    (row.edit changes).id = row.id := rfl

end WorkflowDefinition

namespace Definitions

variable {J : Type}

def updateAt (t : Definitions J) (id : Nat) (f : WorkflowDefinition J → WorkflowDefinition J)
    (hId : ∀ row, (f row).id = row.id) : Definitions J :=
  t.update (fun row => if row.id = id then f row else row) fun row => by
    split
    · exact hId row
    · rfl

def archive (t : Definitions J) (id : Nat) : Definitions J :=
  t.updateAt id WorkflowDefinition.archive WorkflowDefinition.archive_id

def publish (t : Definitions J) (id : Nat) : Definitions J :=
  t.updateAt id WorkflowDefinition.publish WorkflowDefinition.publish_id

def edit (t : Definitions J) (id : Nat) (changes : SnapshotChanges J) : Definitions J :=
  t.updateAt id (WorkflowDefinition.edit changes) (WorkflowDefinition.edit_id changes)

def draft? (t : Definitions J) : Option (WorkflowDefinition J) :=
  t.rows.find? fun row => row.status = .draft

def published? (t : Definitions J) : Option (WorkflowDefinition J) :=
  t.rows.find? fun row => row.status = .published

def maxVersion (t : Definitions J) : Nat := (t.rows.map WorkflowDefinition.versionNumber).foldr max 0

end Definitions

structure Versions (J : Type) where
  definitions : Definitions J
  workflow : Workflow J

def Versions.write {J : Type} (s : Versions J) : VersionWrite J → Versions J
  | .archive id => { s with definitions := s.definitions.archive id }
  | .edit id changes => { s with definitions := s.definitions.edit id changes }
  | .publish id => { s with definitions := s.definitions.publish id }
  | .insert row => { s with definitions := s.definitions.insert row }
  | .delete id => { s with definitions := s.definitions.delete id }
  | .workflow changes releasedDefinitionId =>
    { s with workflow :=
      { snapshot := s.workflow.snapshot.edit changes
        releasedDefinitionId := releasedDefinitionId.or s.workflow.releasedDefinitionId } }

inductive VersionRow where
  | workflow
  | definition (id : Nat)
  deriving DecidableEq

structure VersionStore (ι J : Type) where
  committed : Versions J
  pending : ι → List (VersionWrite J)
  locks : VersionRow → Option ι
  lastDefinitionId : Nat

inductive VersionCommand (J : Type) where
  | selectDraft
  | selectPublished
  | selectVersion (definitionId : Nat)
  | maxVersion
  /-- The rows that an update of the published ones has found. -/
  | scanPublished
  | archive (id : Nat)
  | edit (id : Nat) (changes : SnapshotChanges J)
  | publish (id : Nat)
  | insert (snapshot : Snapshot J) (versionNumber : Nat)
  | delete (id : Nat)
  | selectWorkflow
  | updateWorkflow (changes : SnapshotChanges J) (releasedDefinitionId : Option Nat)
  | commit
  | rollback
  | refresh (id : Nat)

abbrev VersionCommand.Reply {J : Type} : VersionCommand J → Type
  | .selectDraft => Option (WorkflowDefinition J)
  | .selectPublished => Option (WorkflowDefinition J)
  | .selectVersion _ => Option (WorkflowDefinition J)
  | .maxVersion => Nat
  | .scanPublished => List Nat
  | .archive _ => Unit
  /- Whether the row is still there. -/
  | .edit _ _ => Bool
  | .publish _ => Bool
  | .insert _ _ => Nat
  /- Whether no foreign key refers to the row. -/
  | .delete _ => Bool
  | .selectWorkflow => Workflow J
  | .updateWorkflow _ _ => Unit
  | .commit => Unit
  | .rollback => Unit
  | .refresh _ => Bool

namespace VersionStore

variable {ι J : Type} [DecidableEq ι]

def record (s : VersionStore ι J) (txn : ι) (write : VersionWrite J) : VersionStore ι J :=
  { s with pending := Function.update s.pending txn (s.pending txn ++ [write]) }

def write (s : VersionStore ι J) (txn : ι) (row : VersionRow) (write : VersionWrite J) :
    VersionStore ι J :=
  { s.record txn write with locks := Function.update s.locks row (some txn) }

def finish (s : VersionStore ι J) (txn : ι) : VersionStore ι J :=
  { s with
    pending := Function.update s.pending txn []
    locks := fun row => if s.locks row = some txn then none else s.locks row }

def commit (s : VersionStore ι J) (txn : ι) : VersionStore ι J :=
  { s with committed := (s.pending txn).foldl Versions.write s.committed }.finish txn

@[simp] theorem pending_record (s : VersionStore ι J) (txn : ι) (write : VersionWrite J) :
    (s.record txn write).pending txn = s.pending txn ++ [write] := Function.update_self ..

@[simp] theorem pending_write (s : VersionStore ι J) (txn : ι) (row : VersionRow) (write : VersionWrite J) :
    (s.write txn row write).pending txn = s.pending txn ++ [write] := Function.update_self ..

@[simp] theorem pending_finish (s : VersionStore ι J) (txn : ι) : (s.finish txn).pending txn = [] :=
  Function.update_self ..

def isPublished (s : VersionStore ι J) (id : Nat) : Bool :=
  (s.committed.definitions.lookup id).any fun row => row.status = .published

def execute (txn : ι) : (command : VersionCommand J) → VersionStore ι J →
    command.Reply × VersionStore ι J
  | .selectDraft, s => (s.committed.definitions.draft?, s)
  | .selectPublished, s => (s.committed.definitions.published?, s)
  | .selectVersion definitionId, s => (s.committed.definitions.lookup definitionId, s)
  | .maxVersion, s => (s.committed.definitions.maxVersion, s)
  | .scanPublished, s =>
    ((s.committed.definitions.rows.filter fun row => row.status = .published).map fun row => row.id, s)
  | .archive id, s =>
    ((), if s.isPublished id then s.write txn (.definition id) (.archive id) else s)
  | .edit id changes, s =>
    if changes.isEmpty then (true, s)
    else if (s.committed.definitions.lookup id).isSome then
      (true, s.write txn (.definition id) (.edit id changes))
    else (false, s)
  | .publish id, s =>
    if (s.committed.definitions.lookup id).isSome then
      (true, s.write txn (.definition id) (.publish id))
    else (false, s)
  | .insert snapshot versionNumber, s =>
    let id := s.lastDefinitionId + 1
    let row := { id, snapshot, status := .draft, versionNumber, isCurrent := false }
    -- Nobody else can see the row, so nobody waits for it.
    (id, { s.record txn (.insert row) with lastDefinitionId := id })
  | .delete id, s =>
    if s.committed.workflow.releasedDefinitionId = some id then (false, s)
    else if (s.committed.definitions.lookup id).isSome then
      (true, s.write txn (.definition id) (.delete id))
    else (true, s)
  | .selectWorkflow, s => (s.committed.workflow, s)
  | .updateWorkflow changes releasedDefinitionId, s =>
    if changes.isEmpty && releasedDefinitionId.isNone then ((), s)
    else ((), s.write txn .workflow (.workflow changes releasedDefinitionId))
  | .commit, s => ((), s.commit txn)
  | .rollback, s => ((), s.finish txn)
  | .refresh id, s => ((s.committed.definitions.lookup id).isSome, s)

def perform (txn : ι) (command : VersionCommand J) (outcome : Outcome Error) (s : VersionStore ι J) :
    Except Error command.Reply × VersionStore ι J :=
  match outcome with
  | .reply => (.ok (execute txn command s).1, (execute txn command s).2)
  | .fail error applied =>
    (.error error, (if applied then (execute txn command s).2 else s).finish txn)

def target : VersionCommand J → Option VersionRow
  | .archive id => some (.definition id)
  | .edit id _ => some (.definition id)
  | .publish id => some (.definition id)
  | .delete id => some (.definition id)
  | .updateWorkflow _ _ => some .workflow
  | _ => none

end VersionStore

/-- Other workflows take identifiers from the same sequence. -/
structure OtherInserts where
  count : Nat

def versioning (ι J : Type) [DecidableEq ι] :
    System ι (VersionCommand.Reply (J := J)) Error (VersionStore ι J) OtherInserts where
  perform := VersionStore.perform
  environment others s := some { s with lastDefinitionId := s.lastDefinitionId + others.count }

/-- No statement goes on while another transaction holds the lock of its row. -/
def rowLocks (ι J : Type) :
    System.Discipline ι (VersionCommand.Reply (J := J)) Error (VersionStore ι J) OtherInserts where
  call txn command outcome s := outcome.executed = true →
    ∀ row ∈ VersionStore.target command, ∀ holder ∈ s.locks row, holder = txn
  environment _ _ := True

section Decidability

variable {ι J : Type} [DecidableEq ι]

instance (txn : ι) (command : VersionCommand J) (outcome : Outcome Error) (s : VersionStore ι J) :
    Decidable ((rowLocks ι J).call txn command outcome s) :=
  inferInstanceAs (Decidable (outcome.executed = true →
    ∀ row ∈ VersionStore.target command, ∀ holder ∈ s.locks row, holder = txn))

instance (others : OtherInserts) (s : VersionStore ι J) :
    Decidable ((rowLocks ι J).environment others s) := isTrue trivial

end Decidability

section Methods

variable {J : Type}

abbrev VersionMethod (J : Type) := Program (VersionCommand.Reply (J := J)) Error

def abort {α : Type} (error : Error) : VersionMethod J α := do
  Program.call VersionCommand.rollback
  .raise error

/-- `commit` and `refresh`, which raises for a row that is gone. -/
def commitAndRefresh (id : Nat) : VersionMethod J Nat := do
  Program.call VersionCommand.commit
  let found ← Program.call (VersionCommand.refresh id)
  if found then return id else .raise .exception

variable [DecidableEq J]

/-- Write the legacy columns, and the released pointer if there is one to write. -/
def syncWorkflow (snapshot : Snapshot J) (releasedDefinitionId : Option Nat) :
    VersionMethod J Unit := do
  let workflow ← Program.call VersionCommand.selectWorkflow
  Program.call (VersionCommand.updateWorkflow (workflow.snapshot.changesTo snapshot)
    (if workflow.releasedDefinitionId = releasedDefinitionId then none else releasedDefinitionId))

def saveWorkflowDraft [EmptyCollection J] (changes : SnapshotChanges J) : VersionMethod J Nat := do
  let draft ← Program.call VersionCommand.selectDraft
  match draft with
  | some draft =>
    let snapshot := draft.snapshot.edit changes
    let matched ← Program.call (VersionCommand.edit draft.id (draft.snapshot.changesTo snapshot))
    if matched then
      syncWorkflow snapshot none
      commitAndRefresh draft.id
    else abort .exception
  | none =>
    let published ← Program.call VersionCommand.selectPublished
    let current ← Program.call VersionCommand.maxVersion
    let base := published.elim ⟨∅, ∅, ∅⟩ WorkflowDefinition.snapshot
    let snapshot := base.edit changes
    let id ← Program.call (VersionCommand.insert snapshot (current + 1))
    syncWorkflow snapshot none
    commitAndRefresh id

def archiveAll : List Nat → VersionMethod J Unit
  | [] => return ()
  | id :: ids => do
    Program.call (VersionCommand.archive id)
    archiveAll ids

def publishWorkflowDraft (workflowId : Nat) : VersionMethod J Nat := do
  let draft ← Program.call VersionCommand.selectDraft
  match draft with
  | none => .raise (.valueError s!"No draft exists for workflow {workflowId}")
  | some draft =>
    let ids ← Program.call VersionCommand.scanPublished
    archiveAll ids
    let matched ← Program.call (VersionCommand.publish draft.id)
    if matched then
      syncWorkflow draft.snapshot (some draft.id)
      commitAndRefresh draft.id
    else abort .exception

def discardWorkflowDraft (workflowId : Nat) : VersionMethod J Unit := do
  let draft ← Program.call VersionCommand.selectDraft
  match draft with
  | none => .raise (.valueError s!"No draft exists for workflow {workflowId}")
  | some draft =>
    let deleted ← Program.call (VersionCommand.delete draft.id)
    if deleted then Program.call VersionCommand.commit else abort .exception

def revertToVersion (workflowId definitionId : Nat) : VersionMethod J Nat := do
  let draft ← Program.call VersionCommand.selectDraft
  match draft with
  | some _ =>
    .raise (.valueError
      s!"Draft already exists for workflow {workflowId}. Discard it before reverting.")
  | none =>
    let source ← Program.call (VersionCommand.selectVersion definitionId)
    match source with
    | none =>
      .raise (.valueError s!"Version {definitionId} not found for workflow {workflowId}")
    | some source =>
      let current ← Program.call VersionCommand.maxVersion
      let id ← Program.call (VersionCommand.insert source.snapshot (current + 1))
      commitAndRefresh id

inductive VersionOperation (J : Type) where
  | save (changes : SnapshotChanges J)
  | publish
  | discard
  | revert (definitionId : Nat)

def VersionOperation.method [EmptyCollection J] (workflowId : Nat) :
    VersionOperation J → VersionMethod J Unit
  | .save changes => do
    let _ ← saveWorkflowDraft changes
  | .publish => do
    let _ ← publishWorkflowDraft workflowId
  | .discard => discardWorkflowDraft workflowId
  | .revert definitionId => do
    let _ ← revertToVersion workflowId definitionId

end Methods

/-- `create_workflow`: one transaction that nobody else can know of before its commit. -/
def createWorkflow {J : Type} [EmptyCollection J] (definitionId : Nat) (workflowDefinition : J) :
    Versions J where
  definitions := Table.empty.insert
    { id := definitionId
      snapshot := ⟨workflowDefinition, ∅, ∅⟩
      status := .published
      versionNumber := 1
      isCurrent := true }
  workflow := ⟨⟨workflowDefinition, ∅, ∅⟩, some definitionId⟩

def VersionStore.created {J : Type} (ι : Type) [EmptyCollection J] (definitionId : Nat)
    (workflowDefinition : J) : VersionStore ι J where
  committed := createWorkflow definitionId workflowDefinition
  pending _ := []
  locks _ := none
  lastDefinitionId := definitionId

end FastVoice.Workflows
