import FastVoice.Recordings.Renaming
import Mathlib.Data.List.Nodup

/-! # Recordings in the database

The rows of `workflow_recordings` with the constraints of the table, its queries, and the routes that create,
rename and delete recordings.
-/
namespace FastVoice.Recordings

inductive StorageBackend where
  | s3
  | minio
  deriving DecidableEq

structure StoredRecording extends Recording where
  transcript : String
  storageKey : String
  storageBackend : StorageBackend
  deriving DecidableEq

/-- The rows, the newest first, and the next value of the sequence. -/
structure RecordingTable where
  rows : List StoredRecording
  nextId : Nat
  ids : (rows.map (·.id)).Nodup
  /-- `uq_workflow_recordings_recording_id_org` -/
  names : (rows.map fun row => (row.recordingId, row.organizationId)).Nodup

structure RecordingCreateRequest where
  recordingId : String
  transcript : String
  storageKey : String

structure BatchRecordingCreateRequest where
  recordings : List RecordingCreateRequest
  minLength : 1 ≤ recordings.length
  maxLength : recordings.length ≤ 20

/-- What a column of a given width stores of a text: what is too long is refused, unless blanks alone are. -/
def varchar (width : Nat) (text : String) : Option String :=
  if text.length ≤ width then
    some text
  else if (text.toList.drop width).all (· = ' ') then
    some (String.ofList (text.toList.take width))
  else
    none

namespace RecordingTable

def empty : RecordingTable := ⟨[], 1, List.nodup_nil, List.nodup_nil⟩

variable (t : RecordingTable)

/-- A statement that breaks a constraint is refused. -/
def commit (rows : List StoredRecording) : Option RecordingTable :=
  if h : (rows.map (·.id)).Nodup ∧ (rows.map fun row => (row.recordingId, row.organizationId)).Nodup then
    some { t with rows := rows, ids := h.1, names := h.2 }
  else
    none

def getRecordings (organizationId : Nat) : List StoredRecording :=
  t.rows.filter fun row => row.organizationId = organizationId && row.isActive

def getRecordingByRecordingId (recordingId : String) (organizationId : Nat) : Option StoredRecording :=
  t.rows.find? fun row =>
    row.recordingId = recordingId && row.organizationId = organizationId && row.isActive

def getRecordingById (id : Int) (organizationId : Nat) : Option StoredRecording :=
  t.rows.find? fun row => row.id = id && row.organizationId = organizationId && row.isActive

def checkRecordingIdExists (recordingId : String) (organizationId : Nat) : Bool :=
  (t.getRecordingByRecordingId recordingId organizationId).isSome

def createRecording (request : RecordingCreateRequest) (organizationId : Nat) (backend : StorageBackend) :
    Option StoredRecording × RecordingTable :=
  let started := { t with nextId := t.nextId + 1 }
  let created := (varchar 64 request.recordingId).bind fun recordingId =>
    let row : StoredRecording :=
      { id := t.nextId
        recordingId
        organizationId
        isActive := true
        transcript := request.transcript
        storageKey := request.storageKey
        storageBackend := backend }
    (started.commit (row :: t.rows)).map fun stored => (row, stored)
  match created with
  | none => (none, started)
  | some (row, stored) => (some row, stored)

def updateRecordingId (id : Int) (newRecordingId : String) (organizationId : Nat) :
    Except HTTPException RecordingTable :=
  match t.getRecordingById id organizationId with
  | none => .error ⟨404, "Recording not found"⟩
  | some recording =>
    match t.commit (t.rows.map fun row =>
      if row.id = recording.id then { row with recordingId := newRecordingId } else row) with
    | none => .error ⟨500, "Failed to update recording"⟩
    | some updated => .ok updated

/-- The row is found whether it is active or not. -/
def deleteRecording (recordingId : String) (organizationId : Nat) : Option RecordingTable :=
  match t.rows.find? fun row => row.recordingId = recordingId && row.organizationId = organizationId with
  | none => none
  | some recording =>
    t.commit (t.rows.map fun row => if row.id = recording.id then { row with isActive := false } else row)

end RecordingTable

/-- The first recording that cannot be stored ends the request; those before it stay. -/
def createRecordings (organizationId : Nat) (backend : StorageBackend) :
    List RecordingCreateRequest → RecordingTable → Except HTTPException (List StoredRecording) × RecordingTable
  | [], t => (.ok [], t)
  | request :: requests, t =>
    match t.createRecording request organizationId backend with
    | (none, t) => (.error ⟨500, "Failed to create recordings"⟩, t)
    | (some recording, t) =>
      let (results, t) := createRecordings organizationId backend requests t
      (results.map (recording :: ·), t)

/-- The definitions of workflows, which the route rewrites as well, are not looked at here. -/
def updateRecording (t : RecordingTable) (id : Int) (request : RecordingUpdateRequest) (organizationId : Nat) :
    Except HTTPException RecordingTable :=
  let newId := Text.strip request.recordingId
  if newId = "" then
    .error ⟨400, "Recording ID cannot be empty"⟩
  else
    match t.getRecordingById id organizationId with
    | none => .error ⟨404, "Recording not found"⟩
    | some existing =>
      if newId = existing.recordingId then
        .ok t
      else if t.checkRecordingIdExists newId organizationId then
        .error ⟨409, "Recording ID '" ++ newId ++ "' is already in use"⟩
      else
        t.updateRecordingId id newId organizationId

def deleteRecording (t : RecordingTable) (recordingId : String) (organizationId : Nat) :
    Except HTTPException RecordingTable :=
  match t.deleteRecording recordingId organizationId with
  | none => .error ⟨404, "Recording not found"⟩
  | some deleted => .ok deleted

structure FetchRequest where
  recordingPk : Option Int := none
  recordingId : Option String := none

/-- An active recording of the organization has the primary key, or the identifier where no key is given. -/
structure Names (organizationId : Nat) (request : FetchRequest) (recording : StoredRecording) : Prop where
  active : recording.isActive = true
  organization : recording.organizationId = organizationId
  key : ∀ pk ∈ request.recordingPk, recording.id = pk
  identifier : request.recordingPk = none → request.recordingId = some recording.recordingId

/-- `_lookup_recording`, without what it remembers. -/
def RecordingTable.lookupRecording (t : RecordingTable) (organizationId : Nat) (request : FetchRequest) :
    Option StoredRecording :=
  match request.recordingPk, request.recordingId with
  | some pk, _ => t.getRecordingById pk organizationId
  | none, some recordingId => t.getRecordingByRecordingId recordingId organizationId
  | none, none => none

variable {t : RecordingTable} {organizationId : Nat}

theorem names_of_lookup {request : FetchRequest} {recording : StoredRecording}
    (h : t.lookupRecording organizationId request = some recording) :
    recording ∈ t.rows ∧ Names organizationId request recording := by
  obtain ⟨recordingPk, recordingId⟩ := request
  cases recordingPk with
  | some pk =>
    have hFound := List.find?_some h
    simp only [Bool.and_eq_true, decide_eq_true_eq] at hFound
    obtain ⟨⟨hKey, hOrganization⟩, hActive⟩ := hFound
    refine ⟨List.mem_of_find?_eq_some h, hActive, hOrganization, ?_, nofun⟩
    rintro _ ⟨⟩
    exact hKey
  | none =>
    cases recordingId with
    | none => cases h
    | some recordingId =>
      have hFound := List.find?_some h
      simp only [Bool.and_eq_true, decide_eq_true_eq] at hFound
      obtain ⟨⟨rfl, hOrganization⟩, hActive⟩ := hFound
      exact ⟨List.mem_of_find?_eq_some h, hActive, hOrganization, nofun, fun _ => rfl⟩

theorem Names.unique {request : FetchRequest} {recording other : StoredRecording} (hRow : recording ∈ t.rows)
    (hOther : other ∈ t.rows) (h : Names organizationId request recording)
    (h' : Names organizationId request other) : recording = other := by
  cases hKey : request.recordingPk with
  | some pk =>
    have hIds : recording.id = other.id := by
      have := h.key pk hKey
      have := h'.key pk hKey
      omega
    exact List.inj_on_of_nodup_map t.ids hRow hOther hIds
  | none =>
    have hIdentifier : some recording.recordingId = some other.recordingId :=
      (h.identifier hKey).symm.trans (h'.identifier hKey)
    apply List.inj_on_of_nodup_map t.names hRow hOther
    rw [Option.some.inj hIdentifier, h.organization, h'.organization]

theorem lookup_of_names {request : FetchRequest} {recording : StoredRecording} (hRow : recording ∈ t.rows)
    (h : Names organizationId request recording) :
    t.lookupRecording organizationId request = some recording := by
  cases hLookup : t.lookupRecording organizationId request with
  | some found =>
    obtain ⟨hFound, hNames⟩ := names_of_lookup hLookup
    rw [hNames.unique hFound hRow h]
  | none =>
    obtain ⟨recordingPk, recordingId⟩ := request
    cases recordingPk with
    | some pk =>
      have hNot := List.find?_eq_none.mp hLookup recording hRow
      simp [h.key pk rfl, h.organization, h.active] at hNot
    | none =>
      obtain rfl : recordingId = some recording.recordingId := h.identifier rfl
      have hNot := List.find?_eq_none.mp hLookup recording hRow
      simp [h.organization, h.active] at hNot

theorem lookup_eq_some_iff {request : FetchRequest} {recording : StoredRecording} :
    t.lookupRecording organizationId request = some recording ↔
      recording ∈ t.rows ∧ Names organizationId request recording :=
  ⟨names_of_lookup, fun ⟨hRow, h⟩ => lookup_of_names hRow h⟩

end FastVoice.Recordings
