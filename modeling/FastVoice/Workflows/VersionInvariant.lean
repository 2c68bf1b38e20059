import FastVoice.Workflows.VersionWrites

/-! # The versions of a workflow under concurrent editors

Each transaction moves through the stages of its method. What it has written fits its stage, and the rows
it has written stay locked, so that the commit of another one leaves it fitting.
-/
namespace FastVoice.Workflows
open Async

section Statements

variable {ι J : Type} [DecidableEq ι]

/-- The writes of a commit have to find what they rely on. -/
def FindsRoom (txn : ι) (s : VersionStore ι J) : VersionCommand J → Prop
  | .commit => AllLand s.committed (s.pending txn)
  | _ => True

instance (txn : ι) (s : VersionStore ι J) (command : VersionCommand J) :
    Decidable (FindsRoom txn s command) := by
  unfold FindsRoom
  split <;> infer_instance

def versionDiscipline (ι J : Type) [DecidableEq ι] :
    System.Discipline ι (VersionCommand.Reply (J := J)) Error (VersionStore ι J) OtherInserts where
  call txn command outcome s := (rowLocks ι J).call txn command outcome s ∧
    (outcome.executed = true → FindsRoom txn s command)
  environment _ _ := True

instance (txn : ι) (command : VersionCommand J) (outcome : Outcome Error) (s : VersionStore ι J) :
    Decidable ((versionDiscipline ι J).call txn command outcome s) :=
  inferInstanceAs (Decidable ((rowLocks ι J).call txn command outcome s ∧
    (outcome.executed = true → FindsRoom txn s command)))

instance (others : OtherInserts) (s : VersionStore ι J) :
    Decidable ((versionDiscipline ι J).environment others s) := isTrue trivial

end Statements

/-! ## The stages of a transaction -/

inductive VersionStage where
  | idle
  | editing
  | archiving
  | publishing (id : Nat)
  | loaded (id : Nat) (released : Option Nat)
  | pointed (id : Nat)

section Stages

variable {J : Type}

def VersionStage.Fits (v : Versions J) (writes : List (VersionWrite J)) : VersionStage → Prop
  | .idle => writes = []
  | .editing => ∀ write ∈ writes, write.Spares v.workflow.releasedDefinitionId
  | .archiving => ∃ ids : List Nat, writes = ids.map VersionWrite.archive
  | .publishing id => Publishes v.definitions writes id []
  | .loaded id released => Publishes v.definitions writes id [] ∧
      (released = some id → v.workflow.releasedDefinitionId = some id)
  | .pointed id => ∃ rest, Publishes v.definitions writes id rest ∧
      Points v.workflow.releasedDefinitionId id rest

def VersionStage.Permits : VersionStage → VersionCommand J → Prop
  | .idle, .archive _ => False
  | .idle, .publish _ => False
  | .idle, .updateWorkflow _ _ => False
  | .idle, .commit => False
  | .idle, _ => True
  | .editing, .selectWorkflow => True
  | .editing, .updateWorkflow _ pointer => pointer = none
  | .editing, .commit => True
  | .editing, .rollback => True
  | .archiving, .archive _ => True
  | .archiving, .publish _ => True
  | .archiving, .rollback => True
  | .publishing _, .selectWorkflow => True
  | .loaded id released, .updateWorkflow _ pointer =>
    pointer = if released = some id then none else some id
  | .pointed _, .commit => True
  | _, _ => False

def VersionStage.after (stage : VersionStage) (command : VersionCommand J) :
    command.Reply → VersionStage :=
  match stage, command with
  | .idle, .edit _ _ => fun _ => .editing
  | .idle, .insert _ _ => fun _ => .editing
  | .idle, .delete _ => fun _ => .editing
  | .idle, .scanPublished => fun _ => .archiving
  | .archiving, .publish id => fun matched => if matched then .publishing id else .archiving
  | .publishing id, .selectWorkflow => fun workflow => .loaded id workflow.releasedDefinitionId
  | .loaded id _, .updateWorkflow _ _ => fun _ => .pointed id
  | _, .commit => fun _ => .idle
  | _, .rollback => fun _ => .idle
  | stage, _ => fun _ => stage

def versionProtocol (J : Type) : Protocol (VersionCommand.Reply (J := J)) Error VersionStage where
  permits := VersionStage.Permits
  next stage command
    | .ok reply => stage.after command reply
    | .error _ => .idle

end Stages

/-! ## The methods follow the stages -/

section Methods

variable {J : Type}

abbrev VersionMethod.Obeys {α : Type} (method : VersionMethod J α)
    (post : Except Error α → VersionStage → Prop) (stage : VersionStage) : Prop :=
  Program.Obeys (versionProtocol J) post method stage

def Leads {α : Type} (stage : VersionStage) : Except Error α → VersionStage → Prop
  | .ok _, t => t = stage
  | .error _, _ => True

def Anyhow {α : Type} : Except Error α → VersionStage → Prop := fun _ _ => True

theorem obeys_then {α β : Type} {stage next : VersionStage} {method : VersionMethod J α}
    {rest : α → VersionMethod J β} (h : method.Obeys (Leads next) stage)
    (hRest : ∀ value, (rest value).Obeys Anyhow next) : VersionMethod.Obeys (method >>= rest) Anyhow stage :=
  Program.Obeys.bind h (fun value _ hStage => hStage ▸ hRest value) fun _ _ _ => trivial

theorem obeys_abort {α : Type} {stage : VersionStage} (error : Error)
    (h : stage = .editing ∨ stage = .archiving) : (abort error : VersionMethod J α).Obeys Anyhow stage := by
  obtain rfl | rfl := h
  all_goals exact Program.obeys_call_bind trivial (fun _ => trivial) fun _ => trivial

theorem obeys_commitAndRefresh {stage : VersionStage} (id : Nat)
    (h : stage = .editing ∨ ∃ id, stage = .pointed id) :
    (commitAndRefresh id : VersionMethod J Nat).Obeys Anyhow stage := by
  have hRefresh : VersionMethod.Obeys (J := J)
      (Program.call (VersionCommand.refresh id) >>= fun found =>
        if found then .ret id else .raise .exception) Anyhow .idle := by
    refine Program.obeys_call_bind trivial (fun found => ?_) fun _ => trivial
    split <;> trivial
  obtain rfl | ⟨other, rfl⟩ := h
  all_goals exact Program.obeys_call_bind trivial (fun _ => hRefresh) fun _ => trivial

theorem obeys_archiveAll (ids : List Nat) :
    (archiveAll ids : VersionMethod J Unit).Obeys (Leads .archiving) .archiving := by
  induction ids with
  | nil => rfl
  | cons id ids ih => exact Program.obeys_call_bind trivial (fun _ => ih) fun _ => trivial

variable [DecidableEq J]

theorem obeys_syncWorkflow_edit (snapshot : Snapshot J) :
    (syncWorkflow snapshot none).Obeys (Leads .editing) .editing := by
  refine Program.obeys_call_bind trivial (fun workflow => ?_) fun _ => trivial
  refine Program.obeys_call (ite_self _) fun result => ?_
  cases result with
  | ok reply => rfl
  | error error => trivial

theorem obeys_syncWorkflow_publish (snapshot : Snapshot J) (id : Nat) :
    (syncWorkflow snapshot (some id)).Obeys (Leads (.pointed id)) (.publishing id) := by
  refine Program.obeys_call_bind trivial (fun workflow => ?_) fun _ => trivial
  refine Program.obeys_call rfl fun result => ?_
  cases result with
  | ok reply => rfl
  | error error => trivial

variable [EmptyCollection J]

theorem obeys_saveWorkflowDraft (changes : SnapshotChanges J) :
    (saveWorkflowDraft changes).Obeys Anyhow .idle := by
  have hClose : ∀ (snapshot : Snapshot J) (id : Nat), VersionMethod.Obeys
      (syncWorkflow snapshot none >>= fun _ => commitAndRefresh id) Anyhow .editing :=
    fun snapshot id => obeys_then (obeys_syncWorkflow_edit snapshot) fun _ =>
      obeys_commitAndRefresh id (.inl rfl)
  refine Program.obeys_call_bind trivial (fun draft => ?_) fun _ => trivial
  cases draft with
  | some draft =>
    refine Program.obeys_call_bind trivial (fun matched => ?_) fun _ => trivial
    split
    · exact hClose _ _
    · exact obeys_abort _ (.inl rfl)
  | none =>
    refine Program.obeys_call_bind trivial (fun published => ?_) fun _ => trivial
    refine Program.obeys_call_bind trivial (fun current => ?_) fun _ => trivial
    exact Program.obeys_call_bind trivial (fun id => hClose _ id) fun _ => trivial

omit [EmptyCollection J]

theorem obeys_publishWorkflowDraft (workflowId : Nat) :
    (publishWorkflowDraft workflowId : VersionMethod J Nat).Obeys Anyhow .idle := by
  refine Program.obeys_call_bind trivial (fun draft => ?_) fun _ => trivial
  cases draft with
  | none => trivial
  | some draft =>
    refine Program.obeys_call_bind trivial (fun ids => ?_) fun _ => trivial
    refine obeys_then (obeys_archiveAll ids) fun _ => ?_
    refine Program.obeys_call_bind trivial (fun matched => ?_) fun _ => trivial
    cases matched with
    | false => exact obeys_abort _ (.inr rfl)
    | true =>
      exact obeys_then (obeys_syncWorkflow_publish draft.snapshot draft.id) fun _ =>
        obeys_commitAndRefresh draft.id (.inr ⟨draft.id, rfl⟩)

omit [DecidableEq J]

theorem obeys_discardWorkflowDraft (workflowId : Nat) :
    (discardWorkflowDraft workflowId : VersionMethod J Unit).Obeys Anyhow .idle := by
  refine Program.obeys_call_bind trivial (fun draft => ?_) fun _ => trivial
  cases draft with
  | none => trivial
  | some draft =>
    refine Program.obeys_call_bind trivial (fun deleted => ?_) fun _ => trivial
    split
    · exact Program.obeys_call trivial fun _ => trivial
    · exact obeys_abort _ (.inl rfl)

theorem obeys_revertToVersion (workflowId definitionId : Nat) :
    (revertToVersion workflowId definitionId : VersionMethod J Nat).Obeys Anyhow .idle := by
  refine Program.obeys_call_bind trivial (fun draft => ?_) fun _ => trivial
  cases draft with
  | some draft => trivial
  | none =>
    refine Program.obeys_call_bind trivial (fun source => ?_) fun _ => trivial
    cases source with
    | none => trivial
    | some source =>
      refine Program.obeys_call_bind trivial (fun current => ?_) fun _ => trivial
      refine Program.obeys_call_bind trivial (fun id => ?_) fun _ => trivial
      exact obeys_commitAndRefresh id (.inl rfl)

variable [DecidableEq J] [EmptyCollection J]

theorem VersionOperation.obeys (workflowId : Nat) (operation : VersionOperation J) :
    (operation.method workflowId).Obeys Anyhow .idle := by
  have hUnit : ∀ {method : VersionMethod J Nat}, method.Obeys Anyhow .idle →
      VersionMethod.Obeys (method >>= fun _ => .ret ()) Anyhow .idle := by
    intro method h
    exact Program.Obeys.bind h (fun _ _ _ => trivial) fun _ _ _ => trivial
  cases operation with
  | save changes => exact hUnit (obeys_saveWorkflowDraft changes)
  | publish => exact hUnit (obeys_publishWorkflowDraft workflowId)
  | discard => exact obeys_discardWorkflowDraft workflowId
  | revert definitionId => exact hUnit (obeys_revertToVersion workflowId definitionId)

end Methods

/-! ## What fits a stage stays fitting -/

section Fitting

variable {J : Type}

def VersionWrite.row : VersionWrite J → Option VersionRow
  | .archive id => some (.definition id)
  | .edit id _ => some (.definition id)
  | .publish id => some (.definition id)
  | .insert _ => none
  | .delete id => some (.definition id)
  | .workflow _ _ => some .workflow

theorem exists_id_write {v : Versions J} {write : VersionWrite J} {id : Nat}
    (h : ∃ row ∈ v.definitions.rows, row.id = id) (hWrite : write ≠ .delete id) :
    ∃ row ∈ (v.write write).definitions.rows, row.id = id := by
  cases write with
  | archive other => exact (exists_id_updateAt WorkflowDefinition.archive_id).mpr h
  | edit other changes => exact (exists_id_updateAt (WorkflowDefinition.edit_id changes)).mpr h
  | publish other => exact (exists_id_updateAt WorkflowDefinition.publish_id).mpr h
  | insert row =>
    obtain ⟨found, hFound, hId⟩ := h
    exact ⟨found, subset_insert hFound, hId⟩
  | delete other =>
    obtain ⟨found, hFound, rfl⟩ := h
    refine ⟨found, List.mem_filter.mpr ⟨hFound, decide_eq_true fun hId => hWrite ?_⟩, rfl⟩
    exact congrArg VersionWrite.delete hId.symm
  | workflow changes pointer => exact h

theorem exists_id_writes {v : Versions J} {writes : List (VersionWrite J)} {id : Nat}
    (h : ∃ row ∈ v.definitions.rows, row.id = id) (hWrites : .delete id ∉ writes) :
    ∃ row ∈ (writes.foldl Versions.write v).definitions.rows, row.id = id := by
  induction writes generalizing v with
  | nil => exact h
  | cons write writes ih =>
    rw [List.mem_cons, not_or] at hWrites
    exact ih (exists_id_write h (Ne.symm hWrites.1)) hWrites.2

inductive PointerMoves (v v' : Versions J) (writes : List (VersionWrite J)) : Prop where
  | stays (h : v'.workflow.releasedDefinitionId = v.workflow.releasedDefinitionId)
  | moves (id : Nat) (hPublish : .publish id ∈ writes)
      (hPointer : v'.workflow.releasedDefinitionId = some id)
      (hArchived : ∀ other, v.workflow.releasedDefinitionId = some other →
        other = id ∨ .archive other ∈ writes)

theorem released_commit {v : Versions J} {writes : List (VersionWrite J)} {stage : VersionStage}
    (h : ReleasedRow v.definitions v.workflow.releasedDefinitionId) (hFits : stage.Fits v writes)
    (hPermits : stage.Permits (.commit : VersionCommand J)) (hLand : AllLand v writes) :
    ReleasedRow (writes.foldl Versions.write v).definitions
        (writes.foldl Versions.write v).workflow.releasedDefinitionId ∧
      PointerMoves v (writes.foldl Versions.write v) writes := by
  cases stage with
  | editing =>
    obtain ⟨hPointer, hRow⟩ := h.writes hFits
    exact ⟨hPointer.symm ▸ hRow, .stays hPointer⟩
  | pointed id =>
    obtain ⟨rest, hPublishes, hPoints⟩ := hFits
    obtain ⟨hPointer, hRow⟩ := hPublishes.releasedRow hLand hPoints
    refine ⟨hPointer.symm ▸ hRow, .moves id ?_ hPointer fun other hOther => ?_⟩
    · obtain ⟨ids, rfl⟩ := hPublishes.writes
      exact List.mem_append_right _ List.mem_cons_self
    · exact hPublishes.archived hLand (hOther ▸ h)
  | _ => cases hPermits

theorem VersionStage.Fits.other {v v' : Versions J} {writes own : List (VersionWrite J)}
    {stage : VersionStage} (h : stage.Fits v writes)
    (hApart : ∀ write ∈ writes, ∀ other ∈ own, ∀ row ∈ write.row, other.row ≠ some row)
    (hRows : ∀ id, .delete id ∉ own → (∃ row ∈ v.definitions.rows, row.id = id) →
      ∃ row ∈ v'.definitions.rows, row.id = id) (hMoves : PointerMoves v v' own) : stage.Fits v' writes := by
  have hPublishes : ∀ {id rest}, Publishes v.definitions writes id rest →
      Publishes v'.definitions writes id rest := by
    rintro id rest ⟨hRow, ids, rfl⟩
    refine ⟨hRows id (fun hDelete => ?_) hRow, ids, rfl⟩
    exact hApart (.publish id) (List.mem_append_right _ List.mem_cons_self) _ hDelete _ rfl rfl
  have hPointer : ∀ {id rest}, Publishes v.definitions writes id rest →
      v.workflow.releasedDefinitionId = some id → v'.workflow.releasedDefinitionId = some id := by
    rintro id rest ⟨hRow, ids, rfl⟩ hBefore
    cases hMoves with
    | stays hSame => exact hSame.trans hBefore
    | moves other hPublish hAfter hArchived =>
      obtain rfl | hArchive := hArchived id hBefore
      · exact hAfter
      · exact absurd rfl (hApart (.publish id) (List.mem_append_right _ List.mem_cons_self) _
          hArchive (.definition id) rfl)
  cases stage with
  | idle => exact h
  | archiving => exact h
  | editing =>
    intro write hWrite
    have hBefore := h write hWrite
    cases write with
    | delete id =>
      intro hAfter
      cases hMoves with
      | stays hSame => exact hBefore (hSame.symm.trans hAfter)
      | moves other hPublish hOther _ =>
        obtain rfl : other = id := Option.some.inj (hOther.symm.trans hAfter)
        exact hApart _ hWrite _ hPublish (.definition other) rfl rfl
    | _ => exact hBefore
  | publishing id => exact hPublishes h
  | loaded id released => exact ⟨hPublishes h.1, fun hLoaded => hPointer h.1 (h.2 hLoaded)⟩
  | pointed id =>
    obtain ⟨rest, hBefore, hPoints⟩ := h
    refine ⟨rest, hPublishes hBefore, ?_⟩
    match rest, hPoints with
    | [], hPoints => exact hPointer hBefore hPoints
    | [.workflow changes (some pointer)], hPoints => exact hPoints
    | [.workflow changes none], hPoints => exact hPointer hBefore hPoints

end Fitting

/-! ## Steps -/

section Steps

variable {ι J : Type} [DecidableEq ι] {s s' : VersionStore ι J} {txn : ι} {t : ι → VersionStage}

structure VersionsConsistent (s : VersionStore ι J) (t : ι → VersionStage) : Prop where
  drafts : OneDraft s.committed.definitions
  released : ReleasedRow s.committed.definitions s.committed.workflow.releasedDefinitionId
  writes : ∀ txn, ∀ write ∈ s.pending txn,
    write.WellFormed ∧ ∀ row ∈ write.row, s.locks row = some txn
  stages : ∀ txn, (t txn).Fits s.committed (s.pending txn)

structure LeavesOthers (txn : ι) (s s' : VersionStore ι J) : Prop where
  pending : ∀ other, other ≠ txn → s'.pending other = s.pending other
  locks : ∀ other, other ≠ txn → ∀ row, s.locks row = some other → s'.locks row = some other

omit [DecidableEq ι] in
theorem leavesOthers_self (txn : ι) (s : VersionStore ι J) : LeavesOthers txn s s :=
  ⟨fun _ _ => rfl, fun _ _ _ => id⟩

theorem leavesOthers_finish (txn : ι) (s : VersionStore ι J) : LeavesOthers txn s (s.finish txn) where
  pending other hOther := Function.update_of_ne hOther _ _
  locks other hOther row hRow := by
    have hNot : s.locks row ≠ some txn := by
      rw [hRow]
      exact fun hSame => hOther (Option.some.inj hSame)
    exact (if_neg hNot).trans hRow

theorem leavesOthers_record (write : VersionWrite J) : LeavesOthers txn s (s.record txn write) :=
  ⟨fun _ hOther => Function.update_of_ne hOther _ _, fun _ _ _ => id⟩

theorem leavesOthers_write {row : VersionRow} (write : VersionWrite J)
    (hFree : ∀ holder ∈ s.locks row, holder = txn) : LeavesOthers txn s (s.write txn row write) where
  pending other hOther := Function.update_of_ne hOther _ _
  locks other hOther held hHeld := by
    have hNot : held ≠ row := by
      rintro rfl
      exact hOther (hFree other hHeld)
    exact (Function.update_of_ne hNot _ _).trans hHeld

namespace VersionsConsistent

theorem move (h : VersionsConsistent s t) (hOthers : LeavesOthers txn s s')
    (hDrafts : OneDraft s'.committed.definitions)
    (hReleased : ReleasedRow s'.committed.definitions s'.committed.workflow.releasedDefinitionId)
    (hFits : ∀ other, other ≠ txn → (t other).Fits s'.committed (s.pending other))
    {stage : VersionStage} (hWrites : ∀ write ∈ s'.pending txn,
      write.WellFormed ∧ ∀ row ∈ write.row, s'.locks row = some txn)
    (hOwn : stage.Fits s'.committed (s'.pending txn)) :
    VersionsConsistent s' (Function.update t txn stage) where
  drafts := hDrafts
  released := hReleased
  writes other write hWrite := by
    by_cases hOther : other = txn
    · subst hOther
      exact hWrites write hWrite
    · rw [hOthers.pending other hOther] at hWrite
      obtain ⟨hForm, hLocked⟩ := h.writes other write hWrite
      exact ⟨hForm, fun row hRow => hOthers.locks other hOther row (hLocked row hRow)⟩
  stages other := by
    by_cases hOther : other = txn
    · subst hOther
      rw [Function.update_self]
      exact hOwn
    · rw [Function.update_of_ne hOther, hOthers.pending other hOther]
      exact hFits other hOther

theorem stay (h : VersionsConsistent s t) {stage : VersionStage}
    (hOwn : stage.Fits s.committed (s.pending txn)) : VersionsConsistent s (Function.update t txn stage) :=
  h.move (leavesOthers_self txn s) h.drafts h.released (fun other _ => h.stages other)
    (h.writes txn) hOwn

theorem finish (h : VersionsConsistent s t) (txn : ι) :
    VersionsConsistent (s.finish txn) (Function.update t txn .idle) := by
  have hNone : (s.finish txn).pending txn = [] := VersionStore.pending_finish ..
  refine h.move (leavesOthers_finish txn s) h.drafts h.released (fun other _ => h.stages other) ?_ hNone
  rw [hNone]
  exact nofun

theorem write (h : VersionsConsistent s t) (write : VersionWrite J) (hForm : write.WellFormed)
    (hOthers : LeavesOthers txn s s') (hPending : s'.pending txn = s.pending txn ++ [write])
    (hCommitted : s'.committed = s.committed) (hLocked : ∀ row ∈ write.row, s'.locks row = some txn)
    (hKept : ∀ row, s.locks row = some txn → s'.locks row = some txn) {stage : VersionStage}
    (hOwn : stage.Fits s.committed (s.pending txn ++ [write])) :
    VersionsConsistent s' (Function.update t txn stage) := by
  refine h.move hOthers (hCommitted ▸ h.drafts) (hCommitted ▸ h.released)
    (fun other _ => hCommitted ▸ h.stages other) ?_ (by rw [hCommitted, hPending]; exact hOwn)
  rw [hPending]
  intro other hOther
  obtain hOther | hOther := List.mem_append.mp hOther
  · obtain ⟨hForm, hRows⟩ := h.writes txn other hOther
    exact ⟨hForm, fun row hRow => hKept row (hRows row hRow)⟩
  · obtain rfl := List.mem_singleton.mp hOther
    exact ⟨hForm, hLocked⟩

theorem lockingWrite (h : VersionsConsistent s t) {row : VersionRow} (write : VersionWrite J)
    (hForm : write.WellFormed) (hRow : write.row = some row)
    (hFree : ∀ holder ∈ s.locks row, holder = txn) {stage : VersionStage}
    (hOwn : stage.Fits s.committed (s.pending txn ++ [write])) :
    VersionsConsistent (s.write txn row write) (Function.update t txn stage) := by
  have hLocked : (s.write txn row write).locks row = some txn := Function.update_self ..
  refine h.write write hForm (leavesOthers_write write hFree) (VersionStore.pending_write ..) rfl ?_ ?_ hOwn
  · intro other hOther
    obtain rfl : row = other := Option.some.inj (hRow.symm.trans hOther)
    exact hLocked
  · intro other hOther
    by_cases hSame : other = row
    · exact hSame ▸ hLocked
    · exact (Function.update_of_ne hSame _ _).trans hOther

omit [DecidableEq ι] in
theorem apart (h : VersionsConsistent s t) {other : ι} (hOther : other ≠ txn) :
    ∀ write ∈ s.pending other, ∀ own ∈ s.pending txn, ∀ row ∈ write.row, own.row ≠ some row := by
  intro write hWrite own hOwn row hRow hSame
  have hTheirs := (h.writes other write hWrite).2 row hRow
  have hMine := (h.writes txn own hOwn).2 row hSame
  exact hOther (Option.some.inj (hTheirs.symm.trans hMine))

theorem commit (h : VersionsConsistent s t) (hPermits : (t txn).Permits (.commit : VersionCommand J))
    (hLand : AllLand s.committed (s.pending txn)) :
    VersionsConsistent (s.commit txn) (Function.update t txn .idle) := by
  obtain ⟨hReleased, hMoves⟩ := released_commit h.released (h.stages txn) hPermits hLand
  have hNone : (s.commit txn).pending txn = [] := VersionStore.pending_finish ..
  have hOthers : LeavesOthers txn s (s.commit txn) :=
    ⟨(leavesOthers_finish txn s).pending, (leavesOthers_finish txn s).locks⟩
  refine h.move hOthers (h.drafts.writes (fun write hWrite => (h.writes txn write hWrite).1) hLand)
    hReleased ?_ ?_ hNone
  · intro other hOther
    exact (h.stages other).other (h.apart hOther)
      (fun id hDelete hRow => exists_id_writes hRow hDelete) hMoves
  · rw [hNone]
    exact nofun

theorem edit (h : VersionsConsistent s t) {id : Nat} {changes : SnapshotChanges J}
    (hFits : s.pending txn = []) (hFree : ∀ holder ∈ s.locks (.definition id), holder = txn) :
    VersionsConsistent (VersionStore.execute txn (.edit id changes) s).2
      (Function.update t txn .editing) := by
  have hSame : VersionsConsistent s (Function.update t txn .editing) := h.stay (hFits ▸ nofun)
  rw [VersionStore.execute]
  split
  · exact hSame
  · split
    · refine h.lockingWrite (.edit id changes) trivial rfl hFree ?_
      rw [hFits]
      exact List.forall_mem_singleton.mpr trivial
    · exact hSame

theorem delete (h : VersionsConsistent s t) {id : Nat} (hFits : s.pending txn = [])
    (hFree : ∀ holder ∈ s.locks (.definition id), holder = txn) :
    VersionsConsistent (VersionStore.execute txn (.delete id) s).2 (Function.update t txn .editing) := by
  have hSame : VersionsConsistent s (Function.update t txn .editing) := h.stay (hFits ▸ nofun)
  rw [VersionStore.execute]
  split
  · exact hSame
  · rename_i hReleased
    split
    · refine h.lockingWrite (.delete id) trivial rfl hFree ?_
      rw [hFits]
      exact List.forall_mem_singleton.mpr hReleased
    · exact hSame

theorem insert (h : VersionsConsistent s t) {snapshot : Snapshot J} {versionNumber : Nat}
    (hFits : s.pending txn = []) :
    VersionsConsistent (VersionStore.execute txn (.insert snapshot versionNumber) s).2
      (Function.update t txn .editing) := by
  let row : WorkflowDefinition J :=
    ⟨s.lastDefinitionId + 1, snapshot, .draft, versionNumber, false⟩
  have hOthers : LeavesOthers txn s (s.record txn (.insert row)) := leavesOthers_record _
  have hLater : LeavesOthers txn s (VersionStore.execute txn (.insert snapshot versionNumber) s).2 :=
    ⟨hOthers.pending, hOthers.locks⟩
  refine h.write (.insert row) ⟨rfl, rfl⟩ hLater (VersionStore.pending_record ..) rfl nofun (fun _ => id) ?_
  rw [hFits]
  exact List.forall_mem_singleton.mpr rfl

theorem archive (h : VersionsConsistent s t) {id : Nat}
    (hFits : VersionStage.archiving.Fits s.committed (s.pending txn))
    (hFree : ∀ holder ∈ s.locks (.definition id), holder = txn) :
    VersionsConsistent (VersionStore.execute txn (.archive id) s).2 (Function.update t txn .archiving) := by
  rw [VersionStore.execute]
  split
  · obtain ⟨ids, hIds⟩ := hFits
    refine h.lockingWrite (.archive id) trivial rfl hFree ⟨ids ++ [id], ?_⟩
    rw [hIds, List.map_append, List.map_singleton]
  · exact h.stay hFits

theorem publish (h : VersionsConsistent s t) {id : Nat}
    (hFits : VersionStage.archiving.Fits s.committed (s.pending txn))
    (hFree : ∀ holder ∈ s.locks (.definition id), holder = txn) :
    VersionsConsistent (VersionStore.execute txn (.publish id) s).2
      (Function.update t txn (VersionStage.archiving.after (.publish id)
        (VersionStore.execute txn (.publish id) s).1)) := by
  rw [VersionStore.execute]
  split
  · rename_i hFound
    obtain ⟨row, hRow⟩ := Option.isSome_iff_exists.mp hFound
    obtain ⟨hMem, hId⟩ := Sql.Table.lookup_eq_some.mp hRow
    obtain ⟨ids, hIds⟩ := hFits
    exact h.lockingWrite (.publish id) trivial rfl hFree ⟨⟨row, hMem, hId⟩, ids, by rw [hIds]⟩
  · exact h.stay hFits

theorem updateWorkflow (h : VersionsConsistent s t) {changes : SnapshotChanges J}
    {pointer : Option Nat} {stage : VersionStage}
    (hSame : pointer = none → stage.Fits s.committed (s.pending txn))
    (hWrite : stage.Fits s.committed (s.pending txn ++ [.workflow changes pointer]))
    (hFree : ∀ holder ∈ s.locks .workflow, holder = txn) :
    VersionsConsistent (VersionStore.execute txn (.updateWorkflow changes pointer) s).2
      (Function.update t txn stage) := by
  rw [VersionStore.execute]
  split
  · rename_i hNothing
    rw [Bool.and_eq_true, Option.isNone_iff_eq_none] at hNothing
    exact h.stay (hSame hNothing.2)
  · exact h.lockingWrite (.workflow changes pointer) trivial rfl hFree hWrite

theorem execute (h : VersionsConsistent s t) {command : VersionCommand J} (hPermits : (t txn).Permits command)
    (hFree : ∀ row ∈ VersionStore.target command, ∀ holder ∈ s.locks row, holder = txn)
    (hRoom : FindsRoom txn s command) : VersionsConsistent (VersionStore.execute txn command s).2
      (Function.update t txn ((t txn).after command (VersionStore.execute txn command s).1)) := by
  have hFits := h.stages txn
  obtain ⟨stage, hStage⟩ : ∃ stage, t txn = stage := ⟨_, rfl⟩
  rw [hStage] at hPermits hFits ⊢
  cases stage with
  | idle =>
    cases command with
    | edit id changes => exact h.edit hFits (hFree _ rfl)
    | delete id => exact h.delete hFits (hFree _ rfl)
    | insert snapshot versionNumber => exact h.insert hFits
    | scanPublished => exact h.stay ⟨[], hFits⟩
    | rollback => exact h.finish txn
    | archive id => cases hPermits
    | publish id => cases hPermits
    | updateWorkflow changes pointer => cases hPermits
    | commit => cases hPermits
    | _ => exact h.stay hFits
  | editing =>
    cases command with
    | selectWorkflow => exact h.stay hFits
    | updateWorkflow changes pointer =>
      refine h.updateWorkflow (fun _ => hFits) (fun write hWrite => ?_) (hFree _ rfl)
      obtain hWrite | hWrite := List.mem_append.mp hWrite
      · exact hFits write hWrite
      · rw [List.mem_singleton.mp hWrite]
        exact hPermits
    | commit => exact h.commit (hStage ▸ hPermits) hRoom
    | rollback => exact h.finish txn
    | _ => cases hPermits
  | archiving =>
    cases command with
    | archive id => exact h.archive hFits (hFree _ rfl)
    | publish id => exact h.publish hFits (hFree _ rfl)
    | rollback => exact h.finish txn
    | _ => cases hPermits
  | publishing id =>
    cases command with
    | selectWorkflow => exact h.stay ⟨hFits, fun hReleased => hReleased⟩
    | _ => cases hPermits
  | loaded id released =>
    cases command with
    | updateWorkflow changes pointer =>
      obtain ⟨hPublishes, hLoaded⟩ := hFits
      replace hPermits : pointer = if released = some id then none else some id := hPermits
      have hPoints : pointer.or s.committed.workflow.releasedDefinitionId = some id := by
        rw [hPermits]
        split
        · rename_i hSame
          exact hLoaded hSame
        · rfl
      refine h.updateWorkflow (fun hNone => ⟨[], hPublishes, ?_⟩)
        ⟨[.workflow changes pointer], ⟨hPublishes.row, ?_⟩, hPoints⟩ (hFree _ rfl)
      · rw [hNone] at hPoints
        exact hPoints
      · obtain ⟨ids, hWrites⟩ := hPublishes.writes
        exact ⟨ids, by rw [hWrites, List.append_assoc]; rfl⟩
    | _ => cases hPermits
  | pointed id =>
    cases command with
    | commit => exact h.commit (hStage ▸ hPermits) hRoom
    | _ => cases hPermits

theorem perform (h : VersionsConsistent s t) {command : VersionCommand J} {outcome : Outcome Error}
    (hPermits : (t txn).Permits command) (hDiscipline : (versionDiscipline ι J).call txn command outcome s) :
    VersionsConsistent (VersionStore.perform txn command outcome s).2
      (Function.update t txn ((versionProtocol J).next (t txn) command
        (VersionStore.perform txn command outcome s).1)) := by
  obtain ⟨hFree, hRoom⟩ := hDiscipline
  cases outcome with
  | reply => exact h.execute hPermits (hFree rfl) (hRoom rfl)
  | fail error applied =>
    cases applied with
    | false => exact h.finish txn
    | true =>
      have hAfter := (h.execute hPermits (hFree rfl) (hRoom rfl)).finish txn
      rw [Function.update_idem] at hAfter
      exact hAfter

end VersionsConsistent

end Steps

/-! ## Runs -/

section Runs

variable {ι J : Type} [DecidableEq ι] [DecidableEq J] [EmptyCollection J]

def editors (workflowId definitionId : Nat) (workflowDefinition : J)
    (operations : ι → VersionOperation J) :
    Config ι (VersionCommand.Reply (J := J)) Error Unit (VersionStore ι J) where
  shared := .created ι definitionId workflowDefinition
  procs txn := (operations txn).method workflowId

omit [DecidableEq ι] [DecidableEq J] in
theorem versionsConsistent_created (definitionId : Nat) (workflowDefinition : J) :
    VersionsConsistent (VersionStore.created ι definitionId workflowDefinition) fun _ => .idle where
  drafts := by
    constructor <;> simp [VersionStore.created, createWorkflow, Sql.Table.insert, Sql.Table.empty]
  released := by
    constructor <;> simp [VersionStore.created, createWorkflow, Sql.Table.insert, Sql.Table.empty]
  writes _ _ := nofun
  stages _ := rfl

/-- The versions stay in order through every run in which each commit still finds no other draft and no
equal version number for the draft that it inserts, and no published version but the ones that it has
archived for the draft that it publishes. -/
theorem version_invariant_of_room (workflowId definitionId : Nat) (workflowDefinition : J)
    (operations : ι → VersionOperation J) {events : List (Event ι Error OtherInserts)}
    {last : Config ι (VersionCommand.Reply (J := J)) Error Unit (VersionStore ι J)}
    (hFollows : (versioning ι J).Follows (versionDiscipline ι J)
      (editors workflowId definitionId workflowDefinition operations) events)
    (hRun : (versioning ι J).run (editors workflowId definitionId workflowDefinition operations)
      events = some last) : VersionInvariant last.shared.committed := by
  obtain ⟨t, h, -⟩ := System.ghost_invariant (P := fun _ => versionProtocol J)
    (J := VersionsConsistent)
    (fun txn command outcome s t h hPermits hDiscipline => h.perform hPermits hDiscipline)
    (fun others s s' t h _ hMove => by
      cases hMove
      exact ⟨h.drafts, h.released, h.writes, h.stages⟩)
    hFollows hRun (fun txn => (operations txn).obeys workflowId)
    (versionsConsistent_created definitionId workflowDefinition)
  exact versionInvariant_iff.mpr ⟨h.drafts, h.released⟩

end Runs

/-! ## Two editors -/

def advances (first : Bool) : Event Bool Error OtherInserts := .resume first .reply

def draftAndPublish : Config Bool (VersionCommand.Reply (J := List Nat)) Error Unit
    (VersionStore Bool (List Nat)) :=
  editors 1 1 [] fun first => if first then .save { workflowJson := some [1] } else .publish

theorem version_invariant_draft_published : ∃ last,
    (versioning Bool (List Nat)).run draftAndPublish
      (List.replicate 8 (advances true) ++ List.replicate 8 (advances false)) = some last ∧
    VersionInvariant last.shared.committed := by
  have hEnds : ((versioning Bool (List Nat)).run draftAndPublish
      (List.replicate 8 (advances true) ++ List.replicate 8 (advances false))).isSome = true := by
    decide +kernel
  obtain ⟨last, hLast⟩ := Option.isSome_iff_exists.mp hEnds
  exact ⟨last, hLast, version_invariant_of_room 1 1 [] _ (by decide +kernel) hLast⟩

def twoDrafts : Config Bool (VersionCommand.Reply (J := List Nat)) Error Unit
    (VersionStore Bool (List Nat)) :=
  editors 1 1 [] fun _ => .save {}

theorem two_saves_two_drafts : ¬ ∀ (workflowId definitionId : Nat) (workflowDefinition : List Nat)
    (operations : Bool → VersionOperation (List Nat)) (events : List (Event Bool Error OtherInserts))
    (last : Config Bool (VersionCommand.Reply (J := List Nat)) Error Unit
      (VersionStore Bool (List Nat))),
    (versioning Bool (List Nat)).Follows (rowLocks Bool (List Nat))
      (editors workflowId definitionId workflowDefinition operations) events →
    (versioning Bool (List Nat)).run
      (editors workflowId definitionId workflowDefinition operations) events = some last →
    VersionInvariant last.shared.committed := by
  intro h
  let events := List.replicate 4 (advances true) ++ List.replicate 8 (advances false) ++
    List.replicate 4 (advances true)
  have hEnds : ((versioning Bool (List Nat)).run twoDrafts events).any (fun last => decide (¬ ∀
      row ∈ last.shared.committed.definitions.rows,
      ∀ other ∈ last.shared.committed.definitions.rows,
        row.status = .draft → other.status = .draft → row.id = other.id)) = true := by
    decide +kernel
  obtain ⟨last, hLast, hTwo⟩ := (Option.any_eq_true _ _).mp hEnds
  have hDrafts := (h 1 1 [] _ events last (by decide +kernel) hLast).drafts
  refine of_decide_eq_true hTwo fun row hRow other hOther hDraft hOtherDraft => ?_
  rw [hDrafts row hRow other hOther hDraft hOtherDraft]

end FastVoice.Workflows
