import FastVoice.Workflows.Versions

/-! # What the writes of a transaction do to the versions

The writes of a transaction are applied in order at its commit. An insert and a publish keep the versions
in order only for what they find there; the other writes do so always.
-/
namespace FastVoice.Workflows
open Sql

variable {J : Type}

structure VersionInvariant (v : Versions J) : Prop where
  published : ∃! row, row ∈ v.definitions.rows ∧ row.status = .published
  current : ∀ row ∈ v.definitions.rows, row.isCurrent = true ↔ row.status = .published
  released : ∀ row ∈ v.definitions.rows, row.status = .published →
    v.workflow.releasedDefinitionId = some row.id
  drafts : ∀ row ∈ v.definitions.rows, ∀ other ∈ v.definitions.rows,
    row.status = .draft → other.status = .draft → row = other
  versions : (v.definitions.rows.map WorkflowDefinition.versionNumber).Nodup

structure OneDraft (t : Definitions J) : Prop where
  current : ∀ row ∈ t.rows, row.isCurrent = true ↔ row.status = .published
  drafts : ∀ row ∈ t.rows, ∀ other ∈ t.rows, row.status = .draft → other.status = .draft → row = other
  versions : (t.rows.map WorkflowDefinition.versionNumber).Nodup

structure ReleasedRow (t : Definitions J) (released : Option Nat) : Prop where
  found : ∃ row ∈ t.rows, released = some row.id
  published : ∀ row ∈ t.rows, row.status = .published ↔ released = some row.id

theorem versionInvariant_iff {v : Versions J} : VersionInvariant v ↔
    OneDraft v.definitions ∧ ReleasedRow v.definitions v.workflow.releasedDefinitionId := by
  constructor
  · intro h
    obtain ⟨row, ⟨hRow, hStatus⟩, hOnly⟩ := h.published
    have hReleased := h.released row hRow hStatus
    refine ⟨⟨h.current, h.drafts, h.versions⟩, ⟨row, hRow, hReleased⟩, fun other hOther => ?_⟩
    constructor
    · exact h.released other hOther
    · intro hPointer
      have hId : other.id = row.id := Option.some.inj (hPointer.symm.trans hReleased)
      have hSame := List.inj_on_of_nodup_map v.definitions.distinct hOther hRow hId
      exact hSame ▸ hStatus
  · rintro ⟨hDraft, ⟨row, hRow, hPointer⟩, hPublished⟩
    refine ⟨⟨row, ⟨hRow, (hPublished row hRow).mpr hPointer⟩, ?_⟩, hDraft.current,
      fun other hOther => (hPublished other hOther).mp, hDraft.drafts, hDraft.versions⟩
    rintro other ⟨hOther, hStatus⟩
    have hOtherPointer := (hPublished other hOther).mp hStatus
    have hId : other.id = row.id := Option.some.inj (hOtherPointer.symm.trans hPointer)
    exact List.inj_on_of_nodup_map v.definitions.distinct hOther hRow hId

structure Steady (f : WorkflowDefinition J → WorkflowDefinition J) : Prop where
  version : ∀ row, (f row).versionNumber = row.versionNumber
  draft : ∀ row, (f row).status = .draft → row.status = .draft
  current : ∀ row, (row.isCurrent = true ↔ row.status = .published) →
    ((f row).isCurrent = true ↔ (f row).status = .published)

theorem steady_archive : Steady (WorkflowDefinition.archive (J := J)) :=
  ⟨fun _ => rfl, nofun, fun _ _ => by simp [WorkflowDefinition.archive]⟩

theorem steady_publish : Steady (WorkflowDefinition.publish (J := J)) :=
  ⟨fun _ => rfl, nofun, fun _ _ => by simp [WorkflowDefinition.publish]⟩

theorem steady_edit (changes : SnapshotChanges J) : Steady (WorkflowDefinition.edit changes) :=
  ⟨fun _ => rfl, fun _ => id, fun _ => id⟩

section Rows

variable {t : Definitions J} {id : Nat} {f : WorkflowDefinition J → WorkflowDefinition J}

theorem mem_updateAt (hId : ∀ row, (f row).id = row.id) {row : WorkflowDefinition J} :
    row ∈ (t.updateAt id f hId).rows ↔ ∃ old ∈ t.rows, (if old.id = id then f old else old) = row := List.mem_map

theorem exists_id_updateAt (hId : ∀ row, (f row).id = row.id) {other : Nat} :
    (∃ row ∈ (t.updateAt id f hId).rows, row.id = other) ↔ ∃ row ∈ t.rows, row.id = other := by
  have hKeep : ∀ old : WorkflowDefinition J, (if old.id = id then f old else old).id = old.id := by
    intro old
    split
    · exact hId old
    · rfl
  constructor
  · rintro ⟨row, hRow, hOther⟩
    obtain ⟨old, hOld, rfl⟩ := (mem_updateAt hId).mp hRow
    exact ⟨old, hOld, (hKeep old).symm.trans hOther⟩
  · rintro ⟨old, hOld, hOther⟩
    exact ⟨_, (mem_updateAt hId).mpr ⟨old, hOld, rfl⟩, (hKeep old).trans hOther⟩

theorem OneDraft.updateAt (h : OneDraft t) (hf : Steady f) (hId : ∀ row, (f row).id = row.id) :
    OneDraft (t.updateAt id f hId) where
  current row hRow := by
    obtain ⟨old, hOld, rfl⟩ := (mem_updateAt hId).mp hRow
    split
    · exact hf.current old (h.current old hOld)
    · exact h.current old hOld
  drafts row hRow other hOther hDraft hOtherDraft := by
    obtain ⟨old, hOld, rfl⟩ := (mem_updateAt hId).mp hRow
    obtain ⟨oldOther, hOldOther, rfl⟩ := (mem_updateAt hId).mp hOther
    have hBack : ∀ old : WorkflowDefinition J,
        (if old.id = id then f old else old).status = .draft → old.status = .draft := by
      intro old hStatus
      split at hStatus
      · exact hf.draft old hStatus
      · exact hStatus
    rw [h.drafts old hOld oldOther hOldOther (hBack old hDraft) (hBack oldOther hOtherDraft)]
  versions := by
    have hMap : (t.updateAt id f hId).rows.map WorkflowDefinition.versionNumber =
        t.rows.map WorkflowDefinition.versionNumber := by
      simp only [Definitions.updateAt, Table.update, List.map_map]
      refine List.map_congr_left fun row _ => ?_
      simp only [Function.comp_apply]
      split
      · exact hf.version row
      · rfl
    exact hMap ▸ h.versions

theorem OneDraft.delete (h : OneDraft t) (id : Nat) : OneDraft (t.delete id) where
  current row hRow := h.current row (List.mem_of_mem_filter hRow)
  drafts row hRow other hOther :=
    h.drafts row (List.mem_of_mem_filter hRow) other (List.mem_of_mem_filter hOther)
  versions := h.versions.sublist (List.filter_sublist.map _)

theorem mem_insert {row other : WorkflowDefinition J} (h : other ∈ (t.insert row).rows) :
    other ∈ t.rows ∨ other = row ∧ ∀ old ∈ t.rows, old.id ≠ row.id := by
  unfold Table.insert at h
  split at h
  · exact .inl h
  · rename_i hNew
    obtain rfl | hOther := List.mem_cons.mp h
    · exact .inr ⟨rfl, fun old hOld hId => hNew (List.mem_map.mpr ⟨old, hOld, hId⟩)⟩
    · exact .inl hOther

theorem subset_insert {row other : WorkflowDefinition J} (h : other ∈ t.rows) :
    other ∈ (t.insert row).rows := by
  unfold Table.insert
  split
  · exact h
  · exact List.mem_cons_of_mem _ h

theorem OneDraft.insert (h : OneDraft t) {row : WorkflowDefinition J} (hStatus : row.status = .draft)
    (hCurrent : row.isCurrent = false) (hDraft : ∀ other ∈ t.rows, other.status ≠ .draft)
    (hVersion : ∀ other ∈ t.rows, other.versionNumber ≠ row.versionNumber) : OneDraft (t.insert row) where
  current other hOther := by
    obtain hOther | ⟨rfl, -⟩ := mem_insert hOther
    · exact h.current other hOther
    · simp [hStatus, hCurrent]
  drafts other hOther third hThird hOtherDraft hThirdDraft := by
    obtain hOther | ⟨rfl, -⟩ := mem_insert hOther
    · exact absurd hOtherDraft (hDraft other hOther)
    obtain hThird | ⟨rfl, -⟩ := mem_insert hThird
    · exact absurd hThirdDraft (hDraft third hThird)
    rfl
  versions := by
    unfold Table.insert
    split
    · exact h.versions
    · refine List.nodup_cons.mpr ⟨fun hMem => ?_, h.versions⟩
      obtain ⟨other, hOther, hSame⟩ := List.mem_map.mp hMem
      exact hVersion other hOther hSame

end Rows

def Lands (v : Versions J) : VersionWrite J → Prop
  | .insert row => ∀ other ∈ v.definitions.rows,
      other.status ≠ .draft ∧ other.versionNumber ≠ row.versionNumber
  | .publish id => ∀ row ∈ v.definitions.rows, row.status = .published → row.id = id
  | _ => True

instance (v : Versions J) (write : VersionWrite J) : Decidable (Lands v write) := by
  unfold Lands
  split <;> infer_instance

def AllLand : Versions J → List (VersionWrite J) → Prop
  | _, [] => True
  | v, write :: writes => Lands v write ∧ AllLand (v.write write) writes

def decidableAllLand : (v : Versions J) → (writes : List (VersionWrite J)) →
    Decidable (AllLand v writes)
  | _, [] => isTrue trivial
  | v, write :: writes =>
    have := decidableAllLand (v.write write) writes
    inferInstanceAs (Decidable (Lands v write ∧ AllLand (v.write write) writes))

instance (v : Versions J) (writes : List (VersionWrite J)) : Decidable (AllLand v writes) :=
  decidableAllLand v writes

def VersionWrite.WellFormed : VersionWrite J → Prop
  | .insert row => row.status = .draft ∧ row.isCurrent = false
  | _ => True

theorem OneDraft.write {v : Versions J} (h : OneDraft v.definitions) {write : VersionWrite J}
    (hForm : write.WellFormed) (hLands : Lands v write) : OneDraft (v.write write).definitions := by
  cases write with
  | archive id => exact h.updateAt steady_archive WorkflowDefinition.archive_id
  | edit id changes => exact h.updateAt (steady_edit changes) (WorkflowDefinition.edit_id changes)
  | publish id => exact h.updateAt steady_publish WorkflowDefinition.publish_id
  | insert row =>
    exact h.insert hForm.1 hForm.2 (fun other hOther => (hLands other hOther).1)
      fun other hOther => (hLands other hOther).2
  | delete id => exact h.delete id
  | workflow changes released => exact h

theorem OneDraft.writes {v : Versions J} (h : OneDraft v.definitions) {writes : List (VersionWrite J)}
    (hForm : ∀ write ∈ writes, write.WellFormed) (hLand : AllLand v writes) :
    OneDraft (writes.foldl Versions.write v).definitions := by
  induction writes generalizing v with
  | nil => exact h
  | cons write writes ih =>
    exact ih (h.write (hForm write List.mem_cons_self) hLand.1)
      (fun other hOther => hForm other (List.mem_cons_of_mem _ hOther)) hLand.2

def VersionWrite.Spares (released : Option Nat) : VersionWrite J → Prop
  | .insert row => row.status = .draft
  | .edit _ _ => True
  | .delete id => released ≠ some id
  | .workflow _ pointer => pointer = none
  | _ => False

theorem ReleasedRow.write {v : Versions J} {write : VersionWrite J}
    (h : ReleasedRow v.definitions v.workflow.releasedDefinitionId)
    (hSpares : write.Spares v.workflow.releasedDefinitionId) :
    (v.write write).workflow.releasedDefinitionId = v.workflow.releasedDefinitionId ∧
      ReleasedRow (v.write write).definitions v.workflow.releasedDefinitionId := by
  obtain ⟨⟨released, hReleased, hPointer⟩, hPublished⟩ := h
  cases write with
  | insert row =>
    refine ⟨rfl, ⟨released, subset_insert hReleased, hPointer⟩, fun other hOther => ?_⟩
    obtain hOther | ⟨rfl, hNew⟩ := mem_insert hOther
    · exact hPublished other hOther
    · refine iff_of_false (fun hStatus => ?_) fun hOtherPointer => ?_
      · rw [show other.status = .draft from hSpares] at hStatus
        cases hStatus
      · exact hNew released hReleased (Option.some.inj (hPointer.symm.trans hOtherPointer))
  | edit id changes =>
    refine ⟨rfl, ?_, fun row hRow => ?_⟩
    · obtain ⟨row, hRow, hId⟩ :=
        (exists_id_updateAt (WorkflowDefinition.edit_id changes)).mpr ⟨released, hReleased, rfl⟩
      exact ⟨row, hRow, hId ▸ hPointer⟩
    · obtain ⟨old, hOld, rfl⟩ := (mem_updateAt (WorkflowDefinition.edit_id changes)).mp hRow
      have hOldPublished := hPublished old hOld
      split <;> exact hOldPublished
  | delete id =>
    refine ⟨rfl, ⟨released, ?_, hPointer⟩, fun row hRow => ?_⟩
    · refine List.mem_filter.mpr ⟨hReleased, decide_eq_true fun hId => hSpares ?_⟩
      exact hPointer.trans (congrArg some hId)
    · exact hPublished row (List.mem_of_mem_filter hRow)
  | workflow changes pointer =>
    cases hSpares
    exact ⟨rfl, ⟨released, hReleased, hPointer⟩, hPublished⟩
  | archive id => cases hSpares
  | publish id => cases hSpares

theorem ReleasedRow.writes {v : Versions J} {writes : List (VersionWrite J)}
    (h : ReleasedRow v.definitions v.workflow.releasedDefinitionId)
    (hSpares : ∀ write ∈ writes, write.Spares v.workflow.releasedDefinitionId) :
    (writes.foldl Versions.write v).workflow.releasedDefinitionId = v.workflow.releasedDefinitionId ∧
      ReleasedRow (writes.foldl Versions.write v).definitions v.workflow.releasedDefinitionId := by
  induction writes generalizing v with
  | nil => exact ⟨rfl, h⟩
  | cons write writes ih =>
    obtain ⟨hPointer, hRow⟩ := h.write (hSpares write List.mem_cons_self)
    have hRest := ih (v := v.write write) (hPointer ▸ hRow) fun other hOther => by
      rw [hPointer]
      exact hSpares other (List.mem_cons_of_mem _ hOther)
    rw [hPointer] at hRest
    exact hRest

theorem allLand_append {v : Versions J} {first second : List (VersionWrite J)} :
    AllLand v (first ++ second) ↔ AllLand v first ∧ AllLand (first.foldl Versions.write v) second := by
  induction first generalizing v with
  | nil => simp [AllLand]
  | cons write first ih => simp [AllLand, ih, and_assoc]

structure Archives (v v' : Versions J) (ids : List Nat) : Prop where
  workflow : v'.workflow = v.workflow
  keys : ∀ id, (∃ row ∈ v'.definitions.rows, row.id = id) ↔ ∃ row ∈ v.definitions.rows, row.id = id
  others : ∀ row ∈ v.definitions.rows, row.id ∉ ids → row ∈ v'.definitions.rows
  published : ∀ row ∈ v'.definitions.rows, row.status = .published →
    row ∈ v.definitions.rows ∧ row.id ∉ ids

theorem archives_foldl (ids : List Nat) (v : Versions J) :
    Archives v ((ids.map VersionWrite.archive).foldl Versions.write v) ids := by
  induction ids generalizing v with
  | nil => exact ⟨rfl, fun _ => Iff.rfl, fun row hRow _ => hRow, fun row hRow _ => ⟨hRow, nofun⟩⟩
  | cons id ids ih =>
    have hRest := ih (v.write (.archive id))
    refine ⟨hRest.workflow, fun other => ?_, fun row hRow hNot => ?_, fun row hRow hStatus => ?_⟩
    · exact (hRest.keys other).trans (exists_id_updateAt WorkflowDefinition.archive_id)
    · rw [List.mem_cons, not_or] at hNot
      refine hRest.others row ((mem_updateAt WorkflowDefinition.archive_id).mpr ⟨row, hRow, ?_⟩) hNot.2
      exact if_neg hNot.1
    · obtain ⟨hMiddle, hNot⟩ := hRest.published row hRow hStatus
      obtain ⟨old, hOld, hSame⟩ := (mem_updateAt WorkflowDefinition.archive_id).mp hMiddle
      split at hSame
      · rw [← hSame] at hStatus
        cases hStatus
      · rename_i hOther
        subst hSame
        exact ⟨hOld, List.not_mem_cons_of_ne_of_not_mem hOther hNot⟩

theorem allLand_archives (ids : List Nat) (v : Versions J) : AllLand v (ids.map VersionWrite.archive) := by
  induction ids generalizing v with
  | nil => trivial
  | cons id ids ih => exact ⟨trivial, ih _⟩

theorem ReleasedRow.publish {t : Definitions J} {id : Nat} (hRow : ∃ row ∈ t.rows, row.id = id)
    (hLands : ∀ row ∈ t.rows, row.status = .published → row.id = id) :
    ReleasedRow (t.publish id) (some id) where
  found := by
    obtain ⟨row, hRow, hId⟩ := (exists_id_updateAt WorkflowDefinition.publish_id).mpr hRow
    exact ⟨row, hRow, congrArg some hId.symm⟩
  published row hRow := by
    obtain ⟨old, hOld, rfl⟩ := (mem_updateAt WorkflowDefinition.publish_id).mp hRow
    split
    · rename_i hId
      exact iff_of_true rfl (congrArg some hId.symm)
    · rename_i hId
      refine iff_of_false (fun hStatus => hId (hLands old hOld hStatus)) fun hPointer => ?_
      exact hId (Option.some.inj hPointer).symm

structure Publishes (t : Definitions J) (writes : List (VersionWrite J)) (id : Nat)
    (rest : List (VersionWrite J)) : Prop where
  row : ∃ row ∈ t.rows, row.id = id
  writes : ∃ ids : List Nat, writes = ids.map VersionWrite.archive ++ .publish id :: rest

def Points (released : Option Nat) (id : Nat) : List (VersionWrite J) → Prop
  | [] => released = some id
  | [.workflow _ pointer] => pointer.or released = some id
  | _ => False

theorem Publishes.releasedRow {v : Versions J} {writes rest : List (VersionWrite J)} {id : Nat}
    (h : Publishes v.definitions writes id rest) (hLand : AllLand v writes)
    (hPoints : Points v.workflow.releasedDefinitionId id rest) :
    (writes.foldl Versions.write v).workflow.releasedDefinitionId = some id ∧
      ReleasedRow (writes.foldl Versions.write v).definitions (some id) := by
  obtain ⟨hRow, ids, rfl⟩ := h
  obtain ⟨-, hLands, -⟩ := allLand_append.mp hLand
  have hArchives := archives_foldl ids v
  rw [List.foldl_append, List.foldl_cons]
  have hPublish := ReleasedRow.publish ((hArchives.keys id).mpr hRow) hLands
  have hPointer := congrArg Workflow.releasedDefinitionId hArchives.workflow
  match rest, hPoints with
  | [], hPoints => exact ⟨hPointer.trans hPoints, hPublish⟩
  | [.workflow changes pointer], hPoints =>
    exact ⟨(congrArg pointer.or hPointer).trans hPoints, hPublish⟩

theorem Publishes.archived {v : Versions J} {writes rest : List (VersionWrite J)} {id other : Nat}
    (h : Publishes v.definitions writes id rest) (hLand : AllLand v writes)
    (hReleased : ReleasedRow v.definitions (some other)) : other = id ∨ .archive other ∈ writes := by
  obtain ⟨hRow, ids, rfl⟩ := h
  obtain ⟨-, hLands, -⟩ := allLand_append.mp hLand
  obtain ⟨row, hRow, hPointer⟩ := hReleased.found
  obtain rfl : other = row.id := Option.some.inj hPointer
  by_cases hIds : row.id ∈ ids
  · right
    exact List.mem_append_left _ (List.mem_map_of_mem hIds)
  · left
    have hKept := (archives_foldl ids v).others row hRow hIds
    exact hLands row hKept ((hReleased.published row hRow).mpr rfl)

end FastVoice.Workflows
