import FastVoice.Workflows.VersionWrites

/-! # The legacy columns of a workflow, one operation after the other

Each operation commits a fixed list of writes. A save and a publish copy the version that they leave
behind into the workflow; a discard and a revert do not.
-/
namespace FastVoice.Workflows
open Async Sql

variable {J : Type}

/-- The version that an editor sees: the draft, or the published one without a draft. -/
def Definitions.editable? (t : Definitions J) : Option (WorkflowDefinition J) :=
  t.draft?.or t.published?

def MirrorsEditable (v : Versions J) : Prop :=
  v.definitions.editable?.map WorkflowDefinition.snapshot = some v.workflow.snapshot

/-- The columns that a discarded draft leaves behind are those of the published version, and so are
those of a version that is taken up again. -/
def KeepsColumns (v : Versions J) : VersionOperation J → Prop
  | .discard => ∀ draft ∈ v.definitions.draft?, ∀ published ∈ v.definitions.published?,
      draft.snapshot = published.snapshot
  | .revert definitionId => v.definitions.draft? = none →
      ∀ source ∈ v.definitions.lookup definitionId, ∀ published ∈ v.definitions.published?,
        source.snapshot = published.snapshot
  | _ => True

section Operations

variable [DecidableEq J] [EmptyCollection J]

def VersionStore.after (workflowId : Nat) (s : VersionStore Unit J) (operation : VersionOperation J) :
    VersionStore Unit J :=
  ((operation.method workflowId).eval (VersionStore.execute ()) s).2

def AllKeepColumns (workflowId : Nat) : VersionStore Unit J → List (VersionOperation J) → Prop
  | _, [] => True
  | s, operation :: operations => KeepsColumns s.committed operation ∧
      AllKeepColumns workflowId (s.after workflowId operation) operations

end Operations

/-! ## Writes without a change -/

theorem Snapshot.edit_of_isEmpty (snapshot : Snapshot J) {changes : SnapshotChanges J}
    (h : changes.isEmpty = true) : snapshot.edit changes = snapshot := by
  simp only [SnapshotChanges.isEmpty, Bool.and_eq_true, Option.isNone_iff_eq_none] at h
  obtain ⟨⟨hJson, hConfigurations⟩, hVariables⟩ := h
  simp [edit, hJson, hConfigurations, hVariables]

theorem Versions.write_edit_of_isEmpty (v : Versions J) (id : Nat) {changes : SnapshotChanges J}
    (h : changes.isEmpty = true) : v.write (.edit id changes) = v := by
  have hRow : ∀ row : WorkflowDefinition J, (if row.id = id then row.edit changes else row) = row := by
    intro row
    split
    · simp [WorkflowDefinition.edit, row.snapshot.edit_of_isEmpty h]
    · rfl
  simp only [write, Definitions.edit, Definitions.updateAt, Table.update, hRow, List.map_id']

theorem Versions.write_workflow_of_isEmpty (v : Versions J) {changes : SnapshotChanges J}
    (h : changes.isEmpty = true) : v.write (.workflow changes none) = v := by
  simp [write, Snapshot.edit_of_isEmpty _ h]

/-! ## What an operation commits -/

namespace VersionStore

structure Writes (s s' : VersionStore Unit J) (writes : List (VersionWrite J)) : Prop where
  committed : s'.committed = s.committed
  current : (s'.pending ()).foldl Versions.write s.committed = writes.foldl Versions.write s.committed
  last : s.lastDefinitionId ≤ s'.lastDefinitionId
  inserts : ∀ row, .insert row ∈ writes → s.lastDefinitionId < row.id ∧ row.id ≤ s'.lastDefinitionId

structure Commits (s s' : VersionStore Unit J) (writes : List (VersionWrite J)) : Prop where
  committed : s'.committed = writes.foldl Versions.write s.committed
  pending : s'.pending () = []
  last : s.lastDefinitionId ≤ s'.lastDefinitionId
  inserts : ∀ row, .insert row ∈ writes → s.lastDefinitionId < row.id ∧ row.id ≤ s'.lastDefinitionId

theorem writes_nil {s : VersionStore Unit J} (h : s.pending () = []) : Writes s s [] :=
  ⟨rfl, by rw [h], le_rfl, nofun⟩

namespace Writes

variable {s s' : VersionStore Unit J} {writes : List (VersionWrite J)}

theorem commit (h : Writes s s' writes) : Commits s (s'.commit ()) writes where
  committed := by
    have hCommitted : (s'.commit ()).committed = (s'.pending ()).foldl Versions.write s'.committed := rfl
    rw [hCommitted, h.committed, h.current]
  pending := pending_finish ..
  last := h.last
  inserts := h.inserts

theorem record (h : Writes s s' writes) (write : VersionWrite J) {next : VersionStore Unit J}
    (hCommitted : next.committed = s'.committed) (hLast : s'.lastDefinitionId ≤ next.lastDefinitionId)
    (hInsert : ∀ row, write = .insert row → s'.lastDefinitionId < row.id ∧ row.id ≤ next.lastDefinitionId)
    (hPending : next.pending () = s'.pending () ++ [write] ∨
      next.pending () = s'.pending () ∧ ∀ v : Versions J, v.write write = v) :
    Writes s next (writes ++ [write]) where
  committed := hCommitted.trans h.committed
  current := by
    obtain hPending | ⟨hPending, hNothing⟩ := hPending
    · simp [hPending, h.current]
    · simp [hPending, h.current, hNothing]
  last := h.last.trans hLast
  inserts row hRow := by
    obtain hRow | hRow := List.mem_append.mp hRow
    · exact ⟨(h.inserts row hRow).1, (h.inserts row hRow).2.trans hLast⟩
    · obtain ⟨hLow, hHigh⟩ := hInsert row (List.mem_singleton.mp hRow).symm
      exact ⟨h.last.trans_lt hLow, hHigh⟩

theorem edit (h : Writes s s' writes) {id : Nat} (changes : SnapshotChanges J)
    (hRow : (s.committed.definitions.lookup id).isSome = true) : (execute () (.edit id changes) s').1 = true ∧
      Writes s (execute () (.edit id changes) s').2 (writes ++ [.edit id changes]) := by
  rw [← h.committed] at hRow
  rw [execute]
  split
  · rename_i hEmpty
    exact ⟨rfl, h.record _ rfl le_rfl nofun
      (.inr ⟨rfl, fun v => v.write_edit_of_isEmpty id hEmpty⟩)⟩
  · exact ⟨rfl, h.record _ rfl le_rfl nofun (.inl (pending_write ..))⟩

theorem updateWorkflow (h : Writes s s' writes) (changes : SnapshotChanges J) (pointer : Option Nat) :
    Writes s (execute () (.updateWorkflow changes pointer) s').2 (writes ++ [.workflow changes pointer]) := by
  rw [execute]
  split
  · rename_i hNothing
    rw [Bool.and_eq_true, Option.isNone_iff_eq_none] at hNothing
    obtain ⟨hEmpty, rfl⟩ := hNothing
    exact h.record _ rfl le_rfl nofun (.inr ⟨rfl, fun v => v.write_workflow_of_isEmpty hEmpty⟩)
  · exact h.record _ rfl le_rfl nofun (.inl (pending_write ..))

theorem archive (h : Writes s s' writes) {id : Nat} (hPublished : s.isPublished id = true) :
    Writes s (execute () (.archive id) s').2 (writes ++ [.archive id]) := by
  have hThere : s'.isPublished id = true := by
    rw [isPublished, h.committed]
    exact hPublished
  rw [execute, if_pos hThere]
  exact h.record _ rfl le_rfl nofun (.inl (pending_write ..))

theorem publish (h : Writes s s' writes) {id : Nat}
    (hRow : (s.committed.definitions.lookup id).isSome = true) : (execute () (.publish id) s').1 = true ∧
      Writes s (execute () (.publish id) s').2 (writes ++ [.publish id]) := by
  rw [← h.committed] at hRow
  rw [execute, if_pos hRow]
  exact ⟨rfl, h.record _ rfl le_rfl nofun (.inl (pending_write ..))⟩

theorem insert (h : Writes s s' writes) (snapshot : Snapshot J) (versionNumber : Nat) :
    Writes s (execute () (.insert snapshot versionNumber) s').2
      (writes ++ [.insert ⟨s'.lastDefinitionId + 1, snapshot, .draft, versionNumber, false⟩]) := by
  have hPending := pending_record s' ()
    (.insert ⟨s'.lastDefinitionId + 1, snapshot, .draft, versionNumber, false⟩)
  refine h.record _ rfl (Nat.le_succ _) (fun row hRow => ?_) (.inl hPending)
  cases hRow
  exact ⟨Nat.lt_succ_self _, le_rfl⟩

theorem delete (h : Writes s s' writes) {id : Nat}
    (hReleased : s.committed.workflow.releasedDefinitionId ≠ some id)
    (hRow : (s.committed.definitions.lookup id).isSome = true) : (execute () (.delete id) s').1 = true ∧
      Writes s (execute () (.delete id) s').2 (writes ++ [.delete id]) := by
  rw [← h.committed] at hReleased hRow
  rw [execute, if_neg hReleased, if_pos hRow]
  exact ⟨rfl, h.record _ rfl le_rfl nofun (.inl (pending_write ..))⟩

end Writes

/-! ## The methods alone -/

theorem eval_commitAndRefresh (id : Nat) (s : VersionStore Unit J) :
    ((commitAndRefresh id).eval (execute ()) s).2 = s.commit () := by
  simp only [commitAndRefresh, Program.call_bind, Program.eval_await, Program.proceed_ok, execute]
  split <;> rfl

theorem eval_unit (method : VersionMethod J Nat) (s : VersionStore Unit J) :
    ((method >>= fun _ => .ret ()).eval (execute ()) s).2 = (method.eval (execute ()) s).2 := by
  induction method generalizing s with
  | ret value => rfl
  | raise error => rfl
  | await command resume ih => exact ih _ _

theorem eval_archiveAll {s s' : VersionStore Unit J} {writes : List (VersionWrite J)} (ids : List Nat)
    (h : Writes s s' writes) (hPublished : ∀ id ∈ ids, s.isPublished id = true) :
    ∃ next, (archiveAll ids).eval (execute ()) s' = (.ok (), next) ∧
      Writes s next (writes ++ ids.map VersionWrite.archive) := by
  induction ids generalizing s' writes with
  | nil => exact ⟨s', rfl, by simpa using h⟩
  | cons id ids ih =>
    have hFirst := h.archive (hPublished id List.mem_cons_self)
    obtain ⟨next, hEval, hNext⟩ :=
      ih hFirst fun other hOther => hPublished other (List.mem_cons_of_mem _ hOther)
    refine ⟨next, hEval, ?_⟩
    rw [List.map_cons, List.append_cons]
    exact hNext

section Methods

variable [DecidableEq J] {s s' : VersionStore Unit J} {writes : List (VersionWrite J)}

theorem eval_sync_commit (h : Writes s s' writes) (snapshot : Snapshot J) (released : Option Nat)
    (id : Nat) : Commits s
      ((syncWorkflow snapshot released >>= fun _ => commitAndRefresh id).eval (execute ()) s').2
      (writes ++ [.workflow (s.committed.workflow.snapshot.changesTo snapshot)
        (if s.committed.workflow.releasedDefinitionId = released then none else released)]) := by
  have hWrites := h.updateWorkflow (s.committed.workflow.snapshot.changesTo snapshot)
    (if s.committed.workflow.releasedDefinitionId = released then none else released)
  have hEval : (syncWorkflow snapshot released).eval (execute ()) s' = (.ok (),
      (execute () (.updateWorkflow (s'.committed.workflow.snapshot.changesTo snapshot)
        (if s'.committed.workflow.releasedDefinitionId = released then none else released)) s').2) :=
    rfl
  rw [h.committed] at hEval
  rw [Program.eval_bind hEval, eval_commitAndRefresh]
  exact hWrites.commit

variable [EmptyCollection J] (hPending : s.pending () = [])
include hPending

theorem commits_save_draft {draft : WorkflowDefinition J} (changes : SnapshotChanges J)
    (hDraft : s.committed.definitions.draft? = some draft)
    (hRow : (s.committed.definitions.lookup draft.id).isSome = true) :
    Commits s ((saveWorkflowDraft changes).eval (execute ()) s).2
      [.edit draft.id (draft.snapshot.changesTo (draft.snapshot.edit changes)),
        .workflow (s.committed.workflow.snapshot.changesTo (draft.snapshot.edit changes)) none] := by
  obtain ⟨hMatched, hEdit⟩ := (writes_nil hPending).edit
    (draft.snapshot.changesTo (draft.snapshot.edit changes)) hRow
  have hClose := eval_sync_commit hEdit (draft.snapshot.edit changes) none draft.id
  rw [ite_self] at hClose
  simp only [saveWorkflowDraft, Program.call_bind, Program.eval_await, Program.proceed_ok]
  rw [show (execute () .selectDraft s).1 = some draft from hDraft]
  simp only [Program.eval_await, Program.proceed_ok]
  rw [show (execute () .selectDraft s).2 = s from rfl, hMatched]
  exact hClose

theorem commits_save_new (changes : SnapshotChanges J) (hDraft : s.committed.definitions.draft? = none) :
    let snapshot := (s.committed.definitions.published?.elim ⟨∅, ∅, ∅⟩
      WorkflowDefinition.snapshot).edit changes
    Commits s ((saveWorkflowDraft changes).eval (execute ()) s).2
      [.insert ⟨s.lastDefinitionId + 1, snapshot, .draft, s.committed.definitions.maxVersion + 1, false⟩,
        .workflow (s.committed.workflow.snapshot.changesTo snapshot) none] := by
  intro snapshot
  have hInsert := (writes_nil hPending).insert snapshot (s.committed.definitions.maxVersion + 1)
  have hClose := eval_sync_commit hInsert snapshot none (s.lastDefinitionId + 1)
  rw [ite_self] at hClose
  simp only [saveWorkflowDraft, Program.call_bind, Program.eval_await, Program.proceed_ok]
  rw [show (execute () .selectDraft s).1 = none from hDraft]
  exact hClose

omit [EmptyCollection J]

theorem commits_publish (workflowId : Nat) {draft : WorkflowDefinition J}
    (hDraft : s.committed.definitions.draft? = some draft)
    (hRow : (s.committed.definitions.lookup draft.id).isSome = true) :
    Commits s ((publishWorkflowDraft workflowId).eval (execute ()) s).2
      ((execute () .scanPublished s).1.map VersionWrite.archive ++ [.publish draft.id,
        .workflow (s.committed.workflow.snapshot.changesTo draft.snapshot)
          (if s.committed.workflow.releasedDefinitionId = some draft.id then none else some draft.id)]) := by
  have hIds : ∀ id ∈ (execute () .scanPublished s).1, s.isPublished id = true := by
    intro id hId
    obtain ⟨row, hRow, rfl⟩ := List.mem_map.mp hId
    obtain ⟨hMem, hStatus⟩ := List.mem_filter.mp hRow
    rw [isPublished, Table.lookup_of_mem hMem]
    exact hStatus
  obtain ⟨next, hArchive, hArchived⟩ := eval_archiveAll _ (writes_nil hPending) hIds
  obtain ⟨hMatched, hPublish⟩ := hArchived.publish hRow
  have hClose := eval_sync_commit hPublish draft.snapshot (some draft.id) draft.id
  simp only [publishWorkflowDraft, Program.call_bind, Program.eval_await, Program.proceed_ok]
  rw [show (execute () .selectDraft s).1 = some draft from hDraft]
  simp only [Program.eval_await, Program.proceed_ok]
  rw [show (execute () .selectDraft s).2 = s from rfl,
    show (execute () .scanPublished s).2 = s from rfl, Program.eval_bind hArchive]
  simp only [Program.eval_await, Program.proceed_ok]
  rw [hMatched]
  simpa using hClose

omit [DecidableEq J]

theorem commits_discard (workflowId : Nat) {draft : WorkflowDefinition J}
    (hDraft : s.committed.definitions.draft? = some draft)
    (hReleased : s.committed.workflow.releasedDefinitionId ≠ some draft.id)
    (hRow : (s.committed.definitions.lookup draft.id).isSome = true) :
    Commits s ((discardWorkflowDraft workflowId).eval (execute ()) s).2 [.delete draft.id] := by
  obtain ⟨hDeleted, hDelete⟩ := (writes_nil hPending).delete hReleased hRow
  simp only [discardWorkflowDraft, Program.call_bind, Program.eval_await, Program.proceed_ok]
  rw [show (execute () .selectDraft s).1 = some draft from hDraft]
  simp only [Program.eval_await, Program.proceed_ok]
  rw [show (execute () .selectDraft s).2 = s from rfl, hDeleted]
  exact hDelete.commit

theorem commits_revert (workflowId definitionId : Nat) {source : WorkflowDefinition J}
    (hDraft : s.committed.definitions.draft? = none)
    (hSource : s.committed.definitions.lookup definitionId = some source) :
    Commits s ((revertToVersion workflowId definitionId).eval (execute ()) s).2
      [.insert ⟨s.lastDefinitionId + 1, source.snapshot, .draft,
        s.committed.definitions.maxVersion + 1, false⟩] := by
  have hInsert := (writes_nil hPending).insert source.snapshot (s.committed.definitions.maxVersion + 1)
  simp only [revertToVersion, Program.call_bind, Program.eval_await, Program.proceed_ok]
  rw [show (execute () .selectDraft s).1 = none from hDraft]
  simp only [Program.eval_await, Program.proceed_ok]
  rw [show (execute () (.selectVersion definitionId) (execute () .selectDraft s).2).1 = some source
    from hSource]
  simp only [Program.eval_await, Program.proceed_ok]
  rw [eval_commitAndRefresh]
  exact hInsert.commit

end Methods

end VersionStore

/-! ## What the version queries find -/

section Queries

variable {t : Definitions J} {v : Versions J} {row : WorkflowDefinition J}

theorem draft_found (h : t.draft? = some row) : row ∈ t.rows ∧ row.status = .draft :=
  ⟨List.mem_of_find?_eq_some h, of_decide_eq_true (List.find?_some (p := fun row =>
    decide (WorkflowDefinition.status row = .draft)) h)⟩

theorem draft?_eq_none : t.draft? = none ↔ ∀ row ∈ t.rows, row.status ≠ .draft := by
  simp [Definitions.draft?]

theorem OneDraft.draft?_eq (h : OneDraft t) (hRow : row ∈ t.rows) (hStatus : row.status = .draft) :
    t.draft? = some row := by
  cases hDraft : t.draft? with
  | none => exact absurd hStatus (draft?_eq_none.mp hDraft row hRow)
  | some found =>
    obtain ⟨hFound, hDraft⟩ := draft_found hDraft
    exact congrArg some (h.drafts found hFound row hRow hDraft hStatus)

theorem ReleasedRow.published?_eq {released : Option Nat} (h : ReleasedRow t released)
    (hRow : row ∈ t.rows) (hPointer : released = some row.id) : t.published? = some row := by
  have hStatus := (h.published row hRow).mpr hPointer
  obtain ⟨found, hFound⟩ : ∃ found, t.published? = some found :=
    Option.isSome_iff_exists.mp (List.find?_isSome.mpr ⟨row, hRow, decide_eq_true hStatus⟩)
  have hMem : found ∈ t.rows := List.mem_of_find?_eq_some hFound
  have hPublished : found.status = .published := of_decide_eq_true
    (List.find?_some (p := fun row => decide (WorkflowDefinition.status row = .published)) hFound)
  have hFoundPointer := (h.published found hMem).mp hPublished
  have hId : found.id = row.id := Option.some.inj (hFoundPointer.symm.trans hPointer)
  exact hFound.trans (congrArg some (List.inj_on_of_nodup_map t.distinct hMem hRow hId))

theorem mirrorsEditable_draft (h : v.definitions.draft? = some row) :
    MirrorsEditable v ↔ row.snapshot = v.workflow.snapshot := by
  simp [MirrorsEditable, Definitions.editable?, h]

theorem mirrorsEditable_published (hDraft : v.definitions.draft? = none)
    (h : v.definitions.published? = some row) : MirrorsEditable v ↔ row.snapshot = v.workflow.snapshot := by
  simp [MirrorsEditable, Definitions.editable?, hDraft, h]

theorem version_le_maxVersion (h : row ∈ t.rows) : row.versionNumber ≤ t.maxVersion :=
  List.le_max_of_le' 0 (List.mem_map_of_mem h) le_rfl

theorem origin_write {write : VersionWrite J} (h : row ∈ (v.write write).definitions.rows) :
    (∃ old ∈ v.definitions.rows, old.id = row.id ∧ (row.status = .draft → old.status = .draft)) ∨
      write = .insert row := by
  have hUpdate : ∀ {id : Nat} {f : WorkflowDefinition J → WorkflowDefinition J}
      (hId : ∀ row, (f row).id = row.id), Steady f → row ∈ (v.definitions.updateAt id f hId).rows →
      ∃ old ∈ v.definitions.rows, old.id = row.id ∧ (row.status = .draft → old.status = .draft) := by
    intro id f hId hSteady hRow
    obtain ⟨old, hOld, rfl⟩ := (mem_updateAt hId).mp hRow
    split
    · exact ⟨old, hOld, (hId old).symm, hSteady.draft old⟩
    · exact ⟨old, hOld, rfl, fun hStatus => hStatus⟩
  cases write with
  | archive id => exact .inl (hUpdate WorkflowDefinition.archive_id steady_archive h)
  | edit id changes =>
    exact .inl (hUpdate (WorkflowDefinition.edit_id changes) (steady_edit changes) h)
  | publish id => exact .inl (hUpdate WorkflowDefinition.publish_id steady_publish h)
  | insert new =>
    obtain hRow | ⟨rfl, -⟩ := mem_insert h
    · exact .inl ⟨row, hRow, rfl, fun hStatus => hStatus⟩
    · exact .inr rfl
  | delete id => exact .inl ⟨row, List.mem_of_mem_filter h, rfl, fun hStatus => hStatus⟩
  | workflow changes pointer => exact .inl ⟨row, h, rfl, fun hStatus => hStatus⟩

theorem origin_writes {writes : List (VersionWrite J)}
    (h : row ∈ (writes.foldl Versions.write v).definitions.rows) :
    (∃ old ∈ v.definitions.rows, old.id = row.id ∧ (row.status = .draft → old.status = .draft)) ∨
      ∃ new, .insert new ∈ writes ∧ new.id = row.id := by
  induction writes generalizing v with
  | nil => exact .inl ⟨row, h, rfl, fun hStatus => hStatus⟩
  | cons write writes ih =>
    obtain ⟨middle, hMiddle, hId, hDraft⟩ | ⟨new, hNew, hId⟩ := ih h
    · obtain ⟨old, hOld, hOldId, hOldDraft⟩ | rfl := origin_write hMiddle
      · exact .inl ⟨old, hOld, hOldId.trans hId, fun hStatus => hOldDraft (hDraft hStatus)⟩
      · exact .inr ⟨middle, List.mem_cons_self, hId⟩
    · exact .inr ⟨new, List.mem_cons_of_mem _ hNew, hId⟩

end Queries

/-! ## Operations one after the other -/

section Sequence

structure VersionsSettled (s : VersionStore Unit J) : Prop where
  drafts : OneDraft s.committed.definitions
  released : ReleasedRow s.committed.definitions s.committed.workflow.releasedDefinitionId
  pending : s.pending () = []
  ids : ∀ row ∈ s.committed.definitions.rows, row.id ≤ s.lastDefinitionId

namespace VersionsSettled

variable {s s' : VersionStore Unit J} {writes : List (VersionWrite J)}

theorem commits (h : VersionsSettled s) (hCommits : s.Commits s' writes)
    (hForm : ∀ write ∈ writes, write.WellFormed) (hLand : AllLand s.committed writes)
    (hReleased : ReleasedRow (writes.foldl Versions.write s.committed).definitions
      (writes.foldl Versions.write s.committed).workflow.releasedDefinitionId) : VersionsSettled s' where
  drafts := hCommits.committed ▸ h.drafts.writes hForm hLand
  released := hCommits.committed ▸ hReleased
  pending := hCommits.pending
  ids row hRow := by
    rw [hCommits.committed] at hRow
    obtain ⟨old, hOld, hId, -⟩ | ⟨new, hNew, hId⟩ := origin_writes hRow
    · exact hId ▸ (h.ids old hOld).trans hCommits.last
    · exact hId ▸ (hCommits.inserts new hNew).2

theorem spares (h : VersionsSettled s) (hCommits : s.Commits s' writes)
    (hForm : ∀ write ∈ writes, write.WellFormed) (hLand : AllLand s.committed writes)
    (hSpares : ∀ write ∈ writes, write.Spares s.committed.workflow.releasedDefinitionId) :
    VersionsSettled s' := by
  obtain ⟨hPointer, hReleased⟩ := h.released.writes hSpares
  exact h.commits hCommits hForm hLand (hPointer.symm ▸ hReleased)

theorem lookup_isSome {row : WorkflowDefinition J} (hRow : row ∈ s.committed.definitions.rows) :
    (s.committed.definitions.lookup row.id).isSome = true := by
  rw [Table.lookup_of_mem hRow]
  rfl

theorem landsInsert (hDraft : s.committed.definitions.draft? = none) (snapshot : Snapshot J) :
    Lands s.committed (.insert ⟨s.lastDefinitionId + 1, snapshot, .draft,
      s.committed.definitions.maxVersion + 1, false⟩) := by
  intro other hOther
  refine ⟨draft?_eq_none.mp hDraft other hOther, fun hSame => ?_⟩
  have hLe := version_le_maxVersion hOther
  simp only at hSame
  omega

theorem inserted (h : VersionsSettled s) (row : WorkflowDefinition J)
    (hId : row.id = s.lastDefinitionId + 1) : row ∈ (s.committed.definitions.insert row).rows := by
  rw [Table.rows_insert]
  · exact List.mem_cons_self
  · cases hRow : s.committed.definitions.lookup row.id with
    | none => rfl
    | some found =>
      obtain ⟨hMem, hSame⟩ := Table.lookup_eq_some.mp hRow
      have hLe := h.ids found hMem
      omega

theorem save_draft [DecidableEq J] (h : VersionsSettled s) {draft : WorkflowDefinition J}
    (hDraft : s.committed.definitions.draft? = some draft) {snapshot : Snapshot J}
    (hCommits : s.Commits s' [.edit draft.id (draft.snapshot.changesTo snapshot),
      .workflow (s.committed.workflow.snapshot.changesTo snapshot) none]) :
    VersionsSettled s' ∧ MirrorsEditable s'.committed := by
  obtain ⟨hRow, hStatus⟩ := draft_found hDraft
  have hSettled : VersionsSettled s' := by
    refine h.spares hCommits ?_ ⟨trivial, trivial, trivial⟩ ?_
    · exact List.forall_mem_cons.mpr ⟨trivial, List.forall_mem_singleton.mpr trivial⟩
    · exact List.forall_mem_cons.mpr ⟨trivial, List.forall_mem_singleton.mpr rfl⟩
  refine ⟨hSettled, ?_⟩
  have hEdited : draft.edit (draft.snapshot.changesTo snapshot) ∈ s'.committed.definitions.rows := by
    rw [hCommits.committed]
    exact (mem_updateAt (WorkflowDefinition.edit_id _)).mpr ⟨draft, hRow, if_pos rfl⟩
  rw [mirrorsEditable_draft (hSettled.drafts.draft?_eq hEdited hStatus), hCommits.committed]
  exact (draft.snapshot.edit_changesTo snapshot).trans
    (s.committed.workflow.snapshot.edit_changesTo snapshot).symm

theorem save_new [DecidableEq J] (h : VersionsSettled s)
    (hDraft : s.committed.definitions.draft? = none) {snapshot : Snapshot J}
    (hCommits : s.Commits s' [.insert ⟨s.lastDefinitionId + 1, snapshot, .draft,
        s.committed.definitions.maxVersion + 1, false⟩,
      .workflow (s.committed.workflow.snapshot.changesTo snapshot) none]) :
    VersionsSettled s' ∧ MirrorsEditable s'.committed := by
  have hSettled : VersionsSettled s' := by
    refine h.spares hCommits ?_ ⟨landsInsert hDraft snapshot, trivial, trivial⟩ ?_
    · exact List.forall_mem_cons.mpr ⟨⟨rfl, rfl⟩, List.forall_mem_singleton.mpr trivial⟩
    · exact List.forall_mem_cons.mpr ⟨rfl, List.forall_mem_singleton.mpr rfl⟩
  refine ⟨hSettled, ?_⟩
  have hInserted : ⟨s.lastDefinitionId + 1, snapshot, .draft,
      s.committed.definitions.maxVersion + 1, false⟩ ∈ s'.committed.definitions.rows := by
    rw [hCommits.committed]
    exact h.inserted _ rfl
  rw [mirrorsEditable_draft (hSettled.drafts.draft?_eq hInserted rfl),
    hCommits.committed]
  exact (s.committed.workflow.snapshot.edit_changesTo snapshot).symm

theorem allLand_publish {ids : List Nat} (hIds : ids = (VersionStore.execute () .scanPublished s).1)
    (id : Nat) (sync : VersionWrite J) (hSync : ∀ v : Versions J, Lands v sync) :
    AllLand s.committed (ids.map VersionWrite.archive ++ [.publish id, sync]) := by
  refine allLand_append.mpr ⟨allLand_archives ids _, fun row hRow hPublished => ?_, hSync _, trivial⟩
  obtain ⟨hOld, hNot⟩ := (archives_foldl ids s.committed).published row hRow hPublished
  rw [hIds] at hNot
  exact absurd (List.mem_map_of_mem (List.mem_filter.mpr ⟨hOld, decide_eq_true hPublished⟩)) hNot

theorem settled_publish [DecidableEq J] (h : VersionsSettled s) {draft : WorkflowDefinition J}
    (hDraft : s.committed.definitions.draft? = some draft)
    (hCommits : s.Commits s' ((VersionStore.execute () .scanPublished s).1.map VersionWrite.archive ++
      [.publish draft.id, .workflow (s.committed.workflow.snapshot.changesTo draft.snapshot)
        (if s.committed.workflow.releasedDefinitionId = some draft.id then none else some draft.id)])) :
    VersionsSettled s' ∧ s'.committed.definitions.draft? = none ∧
      s'.committed.definitions.published? = some draft.publish := by
  obtain ⟨hRow, hStatus⟩ := draft_found hDraft
  obtain ⟨ids, hIds⟩ : ∃ ids, ids = (VersionStore.execute () .scanPublished s).1 := ⟨_, rfl⟩
  obtain ⟨pointer, hPointerIs⟩ : ∃ pointer, pointer =
      if s.committed.workflow.releasedDefinitionId = some draft.id then none
      else some draft.id := ⟨_, rfl⟩
  obtain ⟨changes, hChanges⟩ : ∃ changes, changes =
      s.committed.workflow.snapshot.changesTo draft.snapshot := ⟨_, rfl⟩
  rw [← hIds, ← hPointerIs, ← hChanges] at hCommits
  have hArchives := archives_foldl ids s.committed
  have hLand := allLand_publish hIds draft.id (.workflow changes pointer) fun _ => trivial
  have hPublishes : Publishes s.committed.definitions (ids.map VersionWrite.archive ++
      [.publish draft.id, .workflow changes pointer]) draft.id [.workflow changes pointer] :=
    ⟨⟨draft, hRow, rfl⟩, ids, rfl⟩
  have hPoints : pointer.or s.committed.workflow.releasedDefinitionId = some draft.id := by
    rw [hPointerIs]
    split
    · rename_i hSame
      exact hSame
    · rfl
  obtain ⟨hPointer, hReleased⟩ := hPublishes.releasedRow hLand hPoints
  have hSettled : VersionsSettled s' := by
    refine h.commits hCommits (fun write hWrite => ?_) hLand (hPointer.symm ▸ hReleased)
    obtain hWrite | hWrite := List.mem_append.mp hWrite
    · obtain ⟨id, -, rfl⟩ := List.mem_map.mp hWrite
      trivial
    · exact List.forall_mem_cons.mpr ⟨trivial, List.forall_mem_singleton.mpr trivial⟩ write hWrite
  have hKept : draft.id ∉ ids := by
    rw [hIds]
    intro hMem
    obtain ⟨row, hOld, hId⟩ := List.mem_map.mp hMem
    obtain ⟨hOld, hPublished⟩ := List.mem_filter.mp hOld
    have hSame := List.inj_on_of_nodup_map s.committed.definitions.distinct hOld hRow hId
    rw [hSame, hStatus] at hPublished
    cases hPublished
  have hPublished : draft.publish ∈ s'.committed.definitions.rows := by
    rw [hCommits.committed, List.foldl_append]
    exact (mem_updateAt WorkflowDefinition.publish_id).mpr
      ⟨draft, hArchives.others draft hRow hKept, if_pos rfl⟩
  have hNone : s'.committed.definitions.draft? = none := by
    rw [draft?_eq_none]
    intro row hMem hDraftRow
    have hOrigin := hMem
    rw [hCommits.committed] at hOrigin
    obtain ⟨old, hOld, hId, hBack⟩ | ⟨new, hNew, -⟩ := origin_writes hOrigin
    · have hSame := h.drafts.drafts old hOld draft hRow (hBack hDraftRow) hStatus
      have hRowId : row.id = draft.publish.id := by rw [← hId, hSame, WorkflowDefinition.publish_id]
      rw [List.inj_on_of_nodup_map s'.committed.definitions.distinct hMem hPublished hRowId]
        at hDraftRow
      cases hDraftRow
    · simp at hNew
  have hAfter : s'.committed.workflow.releasedDefinitionId = some draft.publish.id :=
    hCommits.committed ▸ hPointer
  exact ⟨hSettled, hNone, hSettled.released.published?_eq hPublished hAfter⟩

theorem publish [DecidableEq J] (h : VersionsSettled s) {draft : WorkflowDefinition J}
    (hDraft : s.committed.definitions.draft? = some draft)
    (hCommits : s.Commits s' ((VersionStore.execute () .scanPublished s).1.map VersionWrite.archive ++
      [.publish draft.id, .workflow (s.committed.workflow.snapshot.changesTo draft.snapshot)
        (if s.committed.workflow.releasedDefinitionId = some draft.id then none else some draft.id)])) :
    VersionsSettled s' ∧ MirrorsEditable s'.committed := by
  obtain ⟨hSettled, hNone, hPublished⟩ := h.settled_publish hDraft hCommits
  have hArchives := archives_foldl (VersionStore.execute () .scanPublished s).1 s.committed
  refine ⟨hSettled, ?_⟩
  obtain ⟨changes, hChanges⟩ : ∃ changes, changes =
      s.committed.workflow.snapshot.changesTo draft.snapshot := ⟨_, rfl⟩
  rw [mirrorsEditable_published hNone hPublished, hCommits.committed, List.foldl_append, ← hChanges]
  have hSync := s.committed.workflow.snapshot.edit_changesTo draft.snapshot
  rw [← hChanges, ← hArchives.workflow] at hSync
  exact hSync.symm

theorem draft_not_released (h : VersionsSettled s) {draft : WorkflowDefinition J}
    (hDraft : s.committed.definitions.draft? = some draft) :
    s.committed.workflow.releasedDefinitionId ≠ some draft.id := by
  obtain ⟨hRow, hStatus⟩ := draft_found hDraft
  intro hPointer
  have hPublished := (h.released.published draft hRow).mpr hPointer
  rw [hStatus] at hPublished
  cases hPublished

theorem settled_discard (h : VersionsSettled s) {draft : WorkflowDefinition J}
    (hDraft : s.committed.definitions.draft? = some draft) (hCommits : s.Commits s' [.delete draft.id]) :
    VersionsSettled s' :=
  h.spares hCommits (List.forall_mem_singleton.mpr trivial) ⟨trivial, trivial⟩
    (List.forall_mem_singleton.mpr (h.draft_not_released hDraft))

theorem discard (h : VersionsSettled s) {draft : WorkflowDefinition J}
    (hDraft : s.committed.definitions.draft? = some draft)
    (hCommits : s.Commits s' [.delete draft.id]) (hMirrors : MirrorsEditable s.committed) :
    VersionsSettled s' ∧ (MirrorsEditable s'.committed ↔ KeepsColumns s.committed .discard) := by
  obtain ⟨hRow, hStatus⟩ := draft_found hDraft
  have hReleased := h.draft_not_released hDraft
  have hSettled := h.settled_discard hDraft hCommits
  refine ⟨hSettled, ?_⟩
  obtain ⟨published, hPublished, hPointer⟩ := h.released.found
  have hKept : published ∈ s'.committed.definitions.rows := by
    rw [hCommits.committed]
    refine List.mem_filter.mpr ⟨hPublished, decide_eq_true fun hId => hReleased ?_⟩
    exact hPointer.trans (congrArg some hId)
  have hNone : s'.committed.definitions.draft? = none := by
    rw [draft?_eq_none, hCommits.committed]
    intro row hMem hOther
    obtain ⟨hMem, hId⟩ := List.mem_filter.mp hMem
    have hSame := h.drafts.drafts row hMem draft hRow hOther hStatus
    exact of_decide_eq_true hId (congrArg WorkflowDefinition.id hSame)
  have hColumns : s'.committed.workflow = s.committed.workflow := by
    rw [hCommits.committed]
    rfl
  rw [mirrorsEditable_published hNone (hSettled.released.published?_eq hKept (hColumns ▸ hPointer)),
    hColumns, ← (mirrorsEditable_draft hDraft).mp hMirrors]
  simp only [KeepsColumns, hDraft, h.released.published?_eq hPublished hPointer, Option.mem_def,
    Option.some.injEq, forall_eq']
  exact eq_comm

theorem settled_revert (h : VersionsSettled s) {source : WorkflowDefinition J}
    (hDraft : s.committed.definitions.draft? = none)
    (hCommits : s.Commits s' [.insert ⟨s.lastDefinitionId + 1, source.snapshot, .draft,
      s.committed.definitions.maxVersion + 1, false⟩]) : VersionsSettled s' :=
  h.spares hCommits (List.forall_mem_singleton.mpr ⟨rfl, rfl⟩)
    ⟨landsInsert hDraft source.snapshot, trivial⟩ (List.forall_mem_singleton.mpr rfl)

theorem revert (h : VersionsSettled s) {source : WorkflowDefinition J} {definitionId : Nat}
    (hDraft : s.committed.definitions.draft? = none)
    (hSource : s.committed.definitions.lookup definitionId = some source)
    (hCommits : s.Commits s' [.insert ⟨s.lastDefinitionId + 1, source.snapshot, .draft,
      s.committed.definitions.maxVersion + 1, false⟩]) (hMirrors : MirrorsEditable s.committed) :
    VersionsSettled s' ∧
      (MirrorsEditable s'.committed ↔ KeepsColumns s.committed (.revert definitionId)) := by
  have hSettled := h.settled_revert hDraft hCommits
  refine ⟨hSettled, ?_⟩
  obtain ⟨published, hPublished, hPointer⟩ := h.released.found
  have hFound := h.released.published?_eq hPublished hPointer
  have hInserted : ⟨s.lastDefinitionId + 1, source.snapshot, .draft,
      s.committed.definitions.maxVersion + 1, false⟩ ∈ s'.committed.definitions.rows := by
    rw [hCommits.committed]
    exact h.inserted _ rfl
  have hColumns : s'.committed.workflow = s.committed.workflow := by
    rw [hCommits.committed]
    rfl
  rw [mirrorsEditable_draft (hSettled.drafts.draft?_eq hInserted rfl),
    hColumns, ← (mirrorsEditable_published hDraft hFound).mp hMirrors]
  simp [KeepsColumns, hDraft, hSource, hFound]

theorem unchanged (h : VersionsSettled s) (hMirrors : MirrorsEditable s.committed)
    {P : Prop} (hP : P) : VersionsSettled s ∧ (MirrorsEditable s.committed ↔ P) :=
  ⟨h, iff_of_true hMirrors hP⟩

theorem operation [DecidableEq J] [EmptyCollection J] (h : VersionsSettled s)
    (hMirrors : MirrorsEditable s.committed) (workflowId : Nat) (operation : VersionOperation J) :
    VersionsSettled (s.after workflowId operation) ∧
      (MirrorsEditable (s.after workflowId operation).committed ↔ KeepsColumns s.committed operation) := by
  cases operation with
  | save changes =>
    have hAfter : s.after workflowId (.save changes) =
        ((saveWorkflowDraft changes).eval (VersionStore.execute ()) s).2 :=
      VersionStore.eval_unit _ s
    rw [hAfter]
    cases hDraft : s.committed.definitions.draft? with
    | some draft =>
      obtain ⟨hSettled, hMirrors⟩ := h.save_draft hDraft
        (VersionStore.commits_save_draft h.pending changes hDraft
          (lookup_isSome (draft_found hDraft).1))
      exact ⟨hSettled, iff_of_true hMirrors trivial⟩
    | none =>
      obtain ⟨hSettled, hMirrors⟩ := h.save_new hDraft
        (VersionStore.commits_save_new h.pending changes hDraft)
      exact ⟨hSettled, iff_of_true hMirrors trivial⟩
  | publish =>
    have hAfter : s.after workflowId .publish =
        ((publishWorkflowDraft workflowId).eval (VersionStore.execute ()) s).2 :=
      VersionStore.eval_unit _ s
    rw [hAfter]
    cases hDraft : s.committed.definitions.draft? with
    | some draft =>
      obtain ⟨hSettled, hMirrors⟩ := h.publish hDraft
        (VersionStore.commits_publish h.pending workflowId hDraft
          (lookup_isSome (draft_found hDraft).1))
      exact ⟨hSettled, iff_of_true hMirrors trivial⟩
    | none =>
      have hSame : ((publishWorkflowDraft workflowId).eval (VersionStore.execute ()) s).2 = s := by
        simp only [publishWorkflowDraft, Program.call_bind, Program.eval_await, Program.proceed_ok]
        rw [show (VersionStore.execute () .selectDraft s).1 = none from hDraft]
        rfl
      rw [hSame]
      exact h.unchanged hMirrors trivial
  | discard =>
    cases hDraft : s.committed.definitions.draft? with
    | some draft =>
      exact h.discard hDraft (VersionStore.commits_discard h.pending workflowId hDraft
        (h.draft_not_released hDraft) (lookup_isSome (draft_found hDraft).1)) hMirrors
    | none =>
      have hSame : s.after workflowId .discard = s := by
        simp only [VersionStore.after, VersionOperation.method, discardWorkflowDraft,
          Program.call_bind, Program.eval_await, Program.proceed_ok]
        rw [show (VersionStore.execute () .selectDraft s).1 = none from hDraft]
        rfl
      rw [hSame]
      refine h.unchanged hMirrors ?_
      rw [KeepsColumns, hDraft]
      exact nofun
  | revert definitionId =>
    have hAfter : s.after workflowId (.revert definitionId) =
        ((revertToVersion workflowId definitionId).eval (VersionStore.execute ()) s).2 :=
      VersionStore.eval_unit _ s
    rw [hAfter]
    cases hDraft : s.committed.definitions.draft? with
    | some draft =>
      have hSame : ((revertToVersion workflowId definitionId).eval (VersionStore.execute ()) s).2 =
          s := by
        simp only [revertToVersion, Program.call_bind, Program.eval_await, Program.proceed_ok]
        rw [show (VersionStore.execute () .selectDraft s).1 = some draft from hDraft]
        rfl
      rw [hSame]
      refine h.unchanged hMirrors fun hNone => ?_
      rw [hDraft] at hNone
      cases hNone
    | none =>
      cases hSource : s.committed.definitions.lookup definitionId with
      | some source =>
        exact h.revert hDraft hSource
          (VersionStore.commits_revert h.pending workflowId definitionId hDraft hSource) hMirrors
      | none =>
        have hSame : ((revertToVersion workflowId definitionId).eval (VersionStore.execute ()) s).2 =
            s := by
          simp only [revertToVersion, Program.call_bind, Program.eval_await, Program.proceed_ok]
          rw [show (VersionStore.execute () .selectDraft s).1 = none from hDraft]
          simp only [Program.eval_await, Program.proceed_ok]
          rw [show (VersionStore.execute () (.selectVersion definitionId)
            (VersionStore.execute () .selectDraft s).2).1 = none from hSource]
          rfl
        rw [hSame]
        refine h.unchanged hMirrors fun _ => ?_
        rw [hSource]
        exact nofun

end VersionsSettled

variable [DecidableEq J] [EmptyCollection J]

def VersionStore.afterAll (workflowId : Nat) (s : VersionStore Unit J)
    (operations : List (VersionOperation J)) : VersionStore Unit J :=
  operations.foldl (VersionStore.after workflowId) s

theorem mirrorsEditable_iff {s : VersionStore Unit J} (h : VersionsSettled s)
    (hMirrors : MirrorsEditable s.committed) (workflowId : Nat) (operations : List (VersionOperation J)) :
    (∀ n, MirrorsEditable (s.afterAll workflowId (operations.take n)).committed) ↔
      AllKeepColumns workflowId s operations := by
  induction operations generalizing s with
  | nil =>
    refine iff_of_true (fun n => ?_) trivial
    rw [List.take_nil]
    exact hMirrors
  | cons operation operations ih =>
    obtain ⟨hSettled, hKeeps⟩ := h.operation hMirrors workflowId operation
    constructor
    · intro hAll
      have hFirst : MirrorsEditable (s.after workflowId operation).committed := hAll 1
      exact ⟨hKeeps.mp hFirst, (ih hSettled hFirst).mp fun n => hAll (n + 1)⟩
    · rintro ⟨hFirst, hRest⟩ n
      cases n with
      | zero => exact hMirrors
      | succ n => exact (ih hSettled (hKeeps.mpr hFirst)).mpr hRest n

omit [DecidableEq J] in
theorem versionsSettled_created (definitionId : Nat) (workflowDefinition : J) :
    VersionsSettled (VersionStore.created Unit definitionId workflowDefinition) := by
  refine ⟨?_, ?_, rfl, ?_⟩
  · constructor <;> simp [VersionStore.created, createWorkflow, Table.insert, Table.empty]
  · constructor <;> simp [VersionStore.created, createWorkflow, Table.insert, Table.empty]
  · simp [VersionStore.created, createWorkflow, Table.insert, Table.empty]

/-- The legacy columns mirror the editable version after every operation exactly when each discarded
draft and each version that is taken up again has the columns of the published version. -/
theorem legacy_columns_mirror_iff (workflowId definitionId : Nat) (workflowDefinition : J)
    (operations : List (VersionOperation J)) :
    (∀ n, MirrorsEditable ((VersionStore.created Unit definitionId workflowDefinition).afterAll
      workflowId (operations.take n)).committed) ↔
    AllKeepColumns workflowId (.created Unit definitionId workflowDefinition) operations := by
  refine mirrorsEditable_iff (versionsSettled_created definitionId workflowDefinition) ?_ workflowId operations
  simp [MirrorsEditable, Definitions.editable?, Definitions.draft?, Definitions.published?,
    VersionStore.created, createWorkflow, Table.insert, Table.empty]

end Sequence

instance [DecidableEq J] (v : Versions J) : Decidable (MirrorsEditable v) :=
  inferInstanceAs (Decidable (_ = _))

theorem discard_leaves_draft_columns : ¬ ∀ (workflowId definitionId : Nat)
    (workflowDefinition : List Nat) (operations : List (VersionOperation (List Nat))),
    MirrorsEditable ((VersionStore.created Unit definitionId workflowDefinition).afterAll
      workflowId operations).committed := by
  intro h
  exact absurd (h 1 1 [] [.save { workflowJson := some [1] }, .discard]) (by decide +kernel)

end FastVoice.Workflows
