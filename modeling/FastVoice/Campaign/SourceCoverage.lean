import FastVoice.Campaign.Database
import FastVoice.Runtime.Dict
import FastVoice.Runtime.Text
import Mathlib.Data.List.GetD

/-! # Source data

What is checked of a CSV source before its campaign is created, and the queued runs that are built
from the source later. `str.lower` and the digest of the file key are parameters.
-/
namespace FastVoice.Campaign
open Text

structure ValidationError where
  message : String
  invalidRows : Option (List Nat)
  deriving DecidableEq

structure ValidationResult where
  isValid : Bool
  error : Option ValidationError
  headers : Option (List String)
  rows : Option (List (List String))
  deriving DecidableEq

def ValidationResult.reject (message : String) (invalidRows : Option (List Nat)) :
    ValidationResult where
  isValid := false
  error := some { message, invalidRows }
  headers := none
  rows := none

def normalizeHeaders (lower : String → String) (headers : List String) : List String :=
  headers.map fun h => lower (strip h)

def rowsStr (rows : List Nat) : String :=
  if 5 < rows.length then
    let shown := ", ".intercalate ((rows.take 5).map toString)
    s!"{shown} and {rows.length - 5} more"
  else
    ", ".intercalate (rows.map toString)

/-- The cell that is checked; a row without enough columns has none. -/
def checkedPhone (phoneNumberIdx : Nat) (row : List String) : Option String :=
  row[phoneNumberIdx]?.map strip

def invalidRows (phoneNumberIdx : Nat) (rows : List (List String)) : List Nat :=
  (rows.zipIdx 2).filterMap fun (row, rowIdx) =>
    match checkedPhone phoneNumberIdx row with
    | none => none
    | some phoneNumber =>
      if phoneNumber ≠ "" ∧ beginsWith phoneNumber '+' = false then some rowIdx else none

def duplicateRows (phoneNumberIdx : Nat) : List (List String) → Nat → List String → List Nat
  | [], _, _ => []
  | row :: rows, rowIdx, seenPhones =>
    match checkedPhone phoneNumberIdx row with
    | none => duplicateRows phoneNumberIdx rows (rowIdx + 1) seenPhones
    | some phoneNumber =>
      if phoneNumber = "" then duplicateRows phoneNumberIdx rows (rowIdx + 1) seenPhones
      else if phoneNumber ∈ seenPhones then
        rowIdx :: duplicateRows phoneNumberIdx rows (rowIdx + 1) seenPhones
      else duplicateRows phoneNumberIdx rows (rowIdx + 1) (phoneNumber :: seenPhones)

def validateSourceData (lower : String → String) (headers : List String)
    (rows : List (List String)) : ValidationResult :=
  let normalizedHeaders := normalizeHeaders lower headers
  if "phone_number" ∉ normalizedHeaders then
    .reject "Source must contain a 'phone_number' column" none
  else
    let phoneNumberIdx := normalizedHeaders.idxOf "phone_number"
    let invalid := invalidRows phoneNumberIdx rows
    let duplicates := duplicateRows phoneNumberIdx rows 2 []
    if invalid ≠ [] then
      .reject s!"Invalid phone numbers in rows: {rowsStr invalid}. All phone numbers must include country code (start with '+')"
        (some invalid)
    else if duplicates ≠ [] then
      .reject s!"Duplicate phone numbers found in rows: {rowsStr duplicates}. Phone numbers in a campaign must be unique."
        (some duplicates)
    else { isValid := true, error := none, headers := some normalizedHeaders, rows := some rows }

def emptyRows (idx : Nat) (rows : List (List String)) : List Nat :=
  (rows.zipIdx 2).filterMap fun (row, rowIdx) =>
    if row[idx]?.all (strip · = "") then some rowIdx else none

def validateTemplateColumns (lower : String → String) (headers : List String)
    (rows : List (List String)) (requiredColumns : List String) : ValidationResult :=
  let normalizedHeaders := normalizeHeaders lower headers
  let missing := requiredColumns.filter (· ∉ normalizedHeaders)
  if missing ≠ [] then
    let missingStr := ", ".intercalate
      ((missing.insertionSort (· ≤ ·)).map fun column => "'" ++ column ++ "'")
    .reject s!"Workflow uses template variables that are missing from the source data: {missingStr}. Add the missing columns or remove them from the workflow."
      none
  else
    let firstEmpty := requiredColumns.find? fun column =>
      emptyRows (normalizedHeaders.idxOf column) rows ≠ []
    match firstEmpty with
    | some column =>
      let empty := emptyRows (normalizedHeaders.idxOf column) rows
      .reject s!"Template variable '{column}' is empty in rows: {rowsStr empty}. All template variables used in the workflow must have values in every row."
        (some empty)
    | none => { isValid := true, error := none, headers := none, rows := none }

/-- A value of `initial_context`: a cell, or the greeting that replaces the default one. -/
inductive ContextValue where
  | cell (text : String)
  | textGreeting (text : String)
  | audioGreeting (recordingId : String)
  deriving DecidableEq

def ContextValue.isBlank : ContextValue → Bool
  | .cell text => strip text = ""
  | _ => false

def greetingOverrideTypeColumn : String := "greeting_override_type"
def greetingOverrideTextColumn : String := "greeting_override_text"
def greetingOverrideRecordingIdColumn : String := "greeting_override_recording_id"

def buildContextVariables (lower : String → String) (headers rowValues : List String) :
    Dict String ContextValue :=
  let paddedRow := rowValues ++ List.replicate (headers.length - rowValues.length) ""
  let contextVars := Dict.ofPairs (headers.zip paddedRow)
  let (overrideType, contextVars) := Dict.pop contextVars greetingOverrideTypeColumn ""
  let overrideType := lower (strip overrideType)
  let (overrideText, contextVars) := Dict.pop contextVars greetingOverrideTextColumn ""
  let (recordingId, contextVars) :=
    Dict.pop contextVars greetingOverrideRecordingIdColumn ""
  let recordingId := strip recordingId
  let contextVars := Dict.mapValues .cell contextVars
  if overrideType = "text" ∧ strip overrideText ≠ "" then
    contextVars.insert "greeting_override" (.textGreeting overrideText)
  else if overrideType = "audio" ∧ recordingId ≠ "" then
    contextVars.insert "greeting_override" (.audioGreeting recordingId)
  else contextVars

structure NewQueuedRun where
  campaignId : Nat
  sourceUuid : String
  contextVariables : Dict String ContextValue
  state : QueuedRunState
  deriving DecidableEq

def rowUuid (hexdigest : String → String) (fileKey : String) (idx : Nat) : String :=
  let fileHash := String.ofList ((hexdigest fileKey).toList.take 8)
  s!"csv_{fileHash}_row_{idx}"

def syncedRuns (lower hexdigest : String → String) (campaignId : Nat) (fileKey : String)
    (csvData : List (List String)) : List NewQueuedRun :=
  match csvData with
  | [] | [_] => []
  | header :: rows =>
    let headers := normalizeHeaders lower header
    (rows.zipIdx 1).filterMap fun (rowValues, idx) =>
      let contextVars := buildContextVariables lower headers rowValues
      match contextVars.lookup "phone_number" with
      | none | some (.cell "") => none
      | some _ => some
        { campaignId, sourceUuid := rowUuid hexdigest fileKey idx,
          contextVariables := contextVars, state := .queued }

end FastVoice.Campaign

/-! # What the source validation covers

The validation reads the first column of a name and strips it; a context holds the last column of
that name as it stands. The queued runs carry what was validated exactly when the two readings
agree on the phone numbers and on the required columns.
-/
namespace FastVoice.Campaign
open Text

section Rows

variable {α β : Type}

theorem map_filter_eq_iff (l : List α) (p q : α → Bool) (f : α → β)
    (hInjective : ∀ x ∈ l, ∀ y ∈ l, f x = f y → x = y) :
    (l.filter p).map f = (l.filter q).map f ↔ ∀ x ∈ l, (p x = true ↔ q x = true) := by
  have hOneSide : ∀ p q : α → Bool, (l.filter p).map f = (l.filter q).map f →
      ∀ x ∈ l, p x = true → q x = true := by
    intro p q hMap x hx hp
    have hMem : f x ∈ (l.filter q).map f := by
      rw [← hMap]
      exact List.mem_map_of_mem (List.mem_filter.mpr ⟨hx, hp⟩)
    obtain ⟨y, hy, hEq⟩ := List.mem_map.mp hMem
    obtain ⟨hy, hq⟩ := List.mem_filter.mp hy
    rwa [← hInjective y hy x hx hEq]
  constructor
  · intro hMap x hx
    exact ⟨hOneSide p q hMap x hx, hOneSide q p hMap.symm x hx⟩
  · intro h
    rw [List.filter_congr fun x hx => Bool.eq_iff_iff.mpr (h x hx)]

theorem zipIdx_snd_inj {l : List α} {n : Nat} {first second : α × Nat}
    (hFirst : first ∈ l.zipIdx n) (hSecond : second ∈ l.zipIdx n) (h : first.2 = second.2) :
    first = second := by
  rw [List.mem_zipIdx_iff_le_and_getElem?_sub] at hFirst hSecond
  obtain ⟨-, hFirst⟩ := hFirst
  obtain ⟨-, hSecond⟩ := hSecond
  rw [h, hSecond] at hFirst
  exact Prod.ext (Option.some.inj hFirst).symm h

end Rows

section Columns

def lastCell (headers : List String) (column : String) (row : List String) : String :=
  if column ∈ headers then row.getD (Dict.lastIdxOf column headers) "" else ""

def greetingColumns : List String :=
  [greetingOverrideTypeColumn, greetingOverrideTextColumn, greetingOverrideRecordingIdColumn]

def greetingOverride (lower : String → String) (headers row : List String) : Option ContextValue :=
  let overrideType := lower (strip (lastCell headers greetingOverrideTypeColumn row))
  let overrideText := lastCell headers greetingOverrideTextColumn row
  let recordingId := strip (lastCell headers greetingOverrideRecordingIdColumn row)
  if overrideType = "text" ∧ strip overrideText ≠ "" then some (.textGreeting overrideText)
  else if overrideType = "audio" ∧ recordingId ≠ "" then some (.audioGreeting recordingId)
  else none

theorem getD_padded (row : List String) (n i : Nat) :
    (row ++ List.replicate n "").getD i "" = row.getD i "" := by
  rw [List.getD_eq_getElem?_getD, List.getD_eq_getElem?_getD]
  by_cases h : i < row.length
  · rw [List.getElem?_append_left h]
  · have hNone : row[i]? = none := List.getElem?_eq_none (by omega)
    rw [List.getElem?_append_right (by omega), hNone, List.getElem?_replicate]
    split <;> rfl

theorem lookup_row (headers row : List String) (column : String) :
    (Dict.ofPairs (headers.zip (row ++ List.replicate (headers.length - row.length) ""))).lookup
        column = if column ∈ headers then some (lastCell headers column row) else none := by
  rw [Dict.lookup_ofPairs headers _ column "" (by simp; omega)]
  by_cases h : column ∈ headers
  · rw [if_pos h, if_pos h, getD_padded, lastCell, if_pos h]
  · rw [if_neg h, if_neg h]

theorem getD_lookup_row (headers row : List String) (column : String) :
    ((Dict.ofPairs (headers.zip (row ++ List.replicate (headers.length - row.length) ""))).lookup
        column).getD "" = lastCell headers column row := by
  rw [lookup_row]
  by_cases h : column ∈ headers
  · simp [h]
  · simp [h, lastCell]

def plainColumns (headers row : List String) : Dict String ContextValue :=
  let columns := Dict.ofPairs
    (headers.zip (row ++ List.replicate (headers.length - row.length) ""))
  Dict.mapValues .cell (((columns.erase greetingOverrideTypeColumn).erase
    greetingOverrideTextColumn).erase greetingOverrideRecordingIdColumn)

theorem lookup_plainColumns (headers row : List String) (column : String) :
    (plainColumns headers row).lookup column = if column ∈ greetingColumns then none
      else if column ∈ headers then some (.cell (lastCell headers column row)) else none := by
  rw [plainColumns, Dict.lookup_mapValues]
  by_cases hRecording : column = greetingOverrideRecordingIdColumn
  · subst hRecording
    rw [AList.lookup_erase, if_pos (by simp [greetingColumns])]
    rfl
  rw [AList.lookup_erase_ne hRecording]
  by_cases hText : column = greetingOverrideTextColumn
  · subst hText
    rw [AList.lookup_erase, if_pos (by simp [greetingColumns])]
    rfl
  rw [AList.lookup_erase_ne hText]
  by_cases hType : column = greetingOverrideTypeColumn
  · subst hType
    rw [AList.lookup_erase, if_pos (by simp [greetingColumns])]
    rfl
  have hOther : column ∉ greetingColumns := by
    simp only [greetingColumns, List.mem_cons, List.not_mem_nil, or_false, not_or]
    exact ⟨hType, hText, hRecording⟩
  rw [AList.lookup_erase_ne hType, lookup_row, if_neg hOther]
  by_cases hHeader : column ∈ headers
  · rw [if_pos hHeader, if_pos hHeader, Option.map_some]
  · rw [if_neg hHeader, if_neg hHeader, Option.map_none]

theorem buildContextVariables_eq (lower : String → String) (headers row : List String) :
    buildContextVariables lower headers row =
      (greetingOverride lower headers row).elim (plainColumns headers row) fun greeting =>
        (plainColumns headers row).insert "greeting_override" greeting := by
  have hText : greetingOverrideTextColumn ≠ greetingOverrideTypeColumn := by decide +kernel
  have hRecordingText : greetingOverrideRecordingIdColumn ≠ greetingOverrideTextColumn := by
    decide +kernel
  have hRecordingType : greetingOverrideRecordingIdColumn ≠ greetingOverrideTypeColumn := by
    decide +kernel
  simp only [buildContextVariables, Dict.pop, AList.lookup_erase_ne hText,
    AList.lookup_erase_ne hRecordingText, AList.lookup_erase_ne hRecordingType, getD_lookup_row,
    greetingOverride]
  split
  · rfl
  · split <;> rfl

theorem lookup_buildContextVariables (lower : String → String) (headers row : List String)
    (column : String) (h : column ≠ "greeting_override") :
    (buildContextVariables lower headers row).lookup column = (plainColumns headers row).lookup column := by
  rw [buildContextVariables_eq]
  cases greetingOverride lower headers row with
  | none => rfl
  | some greeting => exact AList.lookup_insert_ne h

theorem lookup_greetingOverride (lower : String → String) (headers row : List String) :
    (buildContextVariables lower headers row).lookup "greeting_override" =
      (greetingOverride lower headers row).or ((plainColumns headers row).lookup "greeting_override") := by
  rw [buildContextVariables_eq]
  cases greetingOverride lower headers row with
  | none => rfl
  | some greeting => exact AList.lookup_insert _

theorem lookup_phoneNumber (lower : String → String) (headers row : List String)
    (h : "phone_number" ∈ headers) : (buildContextVariables lower headers row).lookup "phone_number" =
      some (.cell (lastCell headers "phone_number" row)) := by
  rw [lookup_buildContextVariables _ _ _ _ (by decide +kernel), lookup_plainColumns,
    if_neg (by decide +kernel), if_pos h]

theorem greetingOverride_isBlank (lower : String → String) (headers row : List String)
    (greeting : ContextValue) (h : greetingOverride lower headers row = some greeting) :
    greeting.isBlank = false := by
  simp only [greetingOverride] at h
  split at h
  · cases h
    rfl
  · split at h
    · cases h
      rfl
    · cases h

theorem plainColumn_iff (headers row : List String) (column : String) (h : column ∈ headers) :
    (∃ value, (plainColumns headers row).lookup column = some value ∧ value.isBlank = false) ↔
      column ∉ greetingColumns ∧ strip (lastCell headers column row) ≠ "" := by
  rw [lookup_plainColumns]
  by_cases hGreeting : column ∈ greetingColumns
  · simp [hGreeting]
  · simp [hGreeting, h, ContextValue.isBlank]

theorem requiredColumn_iff (lower : String → String) (headers row : List String) (column : String)
    (h : column ∈ headers) : (∃ value, (buildContextVariables lower headers row).lookup column = some value ∧
        value.isBlank = false) ↔ column ∉ greetingColumns ∧ (strip (lastCell headers column row) ≠ "" ∨
        column = "greeting_override" ∧ (greetingOverride lower headers row).isSome) := by
  by_cases hName : column = "greeting_override"
  · subst hName
    have hKept : "greeting_override" ∉ greetingColumns := by decide +kernel
    rw [lookup_greetingOverride]
    cases hGreeting : greetingOverride lower headers row with
    | none =>
      rw [Option.none_or, plainColumn_iff headers row _ h]
      simp
    | some greeting =>
      have hBlank := greetingOverride_isBlank lower headers row greeting hGreeting
      simp [hKept, hBlank]
  · rw [lookup_buildContextVariables lower headers row column hName,
      plainColumn_iff headers row column h]
    simp [hName]

theorem forall_checkedPhone_iff (headers row : List String) (column : String)
    (h : column ∈ headers) (P : String → Prop) :
    (∀ phone ∈ checkedPhone (Dict.lastIdxOf column headers) row, phone ≠ "" → P phone) ↔
      (strip (lastCell headers column row) ≠ "" → P (strip (lastCell headers column row))) := by
  rw [lastCell, if_pos h, List.getD_eq_getElem?_getD, checkedPhone]
  cases row[Dict.lastIdxOf column headers]? with
  | none => simp
  | some cell => simp

end Columns

section Checks

def checkedPhones (phoneNumberIdx : Nat) (rows : List (List String)) : List String :=
  (rows.filterMap (checkedPhone phoneNumberIdx)).filter (· ≠ "")

theorem invalidRows_eq_nil_iff (phoneNumberIdx : Nat) (rows : List (List String)) :
    invalidRows phoneNumberIdx rows = [] ↔
      ∀ row ∈ rows, ∀ phone ∈ checkedPhone phoneNumberIdx row, phone ≠ "" → beginsWith phone '+' = true := by
  rw [invalidRows, List.filterMap_eq_nil_iff]
  constructor
  · intro h row hRow phone hPhone hNonempty
    obtain ⟨i, hRowAt⟩ := List.getElem?_of_mem hRow
    have hPair := h (row, 2 + i) (List.mk_add_mem_zipIdx_iff_getElem?.mpr hRowAt)
    simp only [Option.mem_def.mp hPhone] at hPair
    by_contra hPlus
    simp [hNonempty, hPlus] at hPair
  · rintro h ⟨row, rowIdx⟩ hPair
    have hRow : row ∈ rows := List.fst_mem_of_mem_zipIdx hPair
    cases hPhone : checkedPhone phoneNumberIdx row with
    | none => simp only [hPhone]
    | some phone =>
      have hPlus := h row hRow phone hPhone
      by_cases hNonempty : phone = ""
      · simp [hPhone, hNonempty]
      · simp [hPhone, hPlus hNonempty]

theorem duplicateRows_eq_nil_iff (phoneNumberIdx : Nat) (rows : List (List String)) (rowIdx : Nat)
    (seen : List String) : duplicateRows phoneNumberIdx rows rowIdx seen = [] ↔
      (checkedPhones phoneNumberIdx rows).Nodup ∧
        ∀ phone ∈ checkedPhones phoneNumberIdx rows, phone ∉ seen := by
  induction rows generalizing rowIdx seen with
  | nil => simp [duplicateRows, checkedPhones]
  | cons row rows ih =>
    rw [duplicateRows]
    cases hPhone : checkedPhone phoneNumberIdx row with
    | none =>
      have hSame : checkedPhones phoneNumberIdx (row :: rows) = checkedPhones phoneNumberIdx rows := by
        simp [checkedPhones, hPhone]
      rw [hSame]
      exact ih (rowIdx + 1) seen
    | some phone =>
      by_cases hEmpty : phone = ""
      · have hSame :
            checkedPhones phoneNumberIdx (row :: rows) = checkedPhones phoneNumberIdx rows := by
          simp [checkedPhones, hPhone, hEmpty]
        simp only [if_pos hEmpty, hSame]
        exact ih (rowIdx + 1) seen
      · have hMore : checkedPhones phoneNumberIdx (row :: rows) =
            phone :: checkedPhones phoneNumberIdx rows := by
          simp [checkedPhones, hPhone, hEmpty]
        simp only [if_neg hEmpty, hMore, List.nodup_cons, List.forall_mem_cons]
        by_cases hSeen : phone ∈ seen
        · simp [hSeen]
        · rw [if_neg hSeen, ih (rowIdx + 1) (phone :: seen)]
          constructor
          · rintro ⟨hNodup, hFresh⟩
            refine ⟨⟨fun hLater => ?_, hNodup⟩, hSeen, fun other hOther hIn => ?_⟩
            · exact hFresh phone hLater List.mem_cons_self
            · exact hFresh other hOther (List.mem_cons_of_mem _ hIn)
          · rintro ⟨⟨hLater, hNodup⟩, -, hFresh⟩
            refine ⟨hNodup, fun other hOther hIn => ?_⟩
            rcases List.mem_cons.mp hIn with rfl | hIn
            · exact hLater hOther
            · exact hFresh other hOther hIn

theorem validateSourceData_isValid_iff (lower : String → String) (headers : List String)
    (rows : List (List String)) : (validateSourceData lower headers rows).isValid = true ↔
      "phone_number" ∈ normalizeHeaders lower headers ∧
        invalidRows ((normalizeHeaders lower headers).idxOf "phone_number") rows = [] ∧
        (checkedPhones ((normalizeHeaders lower headers).idxOf "phone_number") rows).Nodup := by
  have hDuplicates := duplicateRows_eq_nil_iff
    ((normalizeHeaders lower headers).idxOf "phone_number") rows 2 []
  simp only [List.not_mem_nil, not_false_eq_true, implies_true, and_true] at hDuplicates
  rw [← hDuplicates]
  simp only [validateSourceData]
  by_cases hHeader : "phone_number" ∈ normalizeHeaders lower headers
  · rw [if_neg (not_not_intro hHeader)]
    split
    · simp [ValidationResult.reject, *]
    · split
      · rename_i hDuplicate
        simp [ValidationResult.reject, hDuplicate]
      · simp_all
  · simp [hHeader, ValidationResult.reject]

theorem validateTemplateColumns_mem (lower : String → String) (headers : List String)
    (rows : List (List String)) (requiredColumns : List String)
    (h : (validateTemplateColumns lower headers rows requiredColumns).isValid = true)
    (column : String) (hColumn : column ∈ requiredColumns) : column ∈ normalizeHeaders lower headers := by
  simp only [validateTemplateColumns] at h
  split at h
  · cases h
  · rename_i hMissing
    by_contra hAbsent
    exact hMissing (List.ne_nil_of_mem
      (List.mem_filter.mpr ⟨hColumn, decide_eq_true hAbsent⟩))

theorem validateTemplateColumns_emptyRows (lower : String → String) (headers : List String)
    (rows : List (List String)) (requiredColumns : List String)
    (h : (validateTemplateColumns lower headers rows requiredColumns).isValid = true)
    (column : String) (hColumn : column ∈ requiredColumns) :
    emptyRows ((normalizeHeaders lower headers).idxOf column) rows = [] := by
  simp only [validateTemplateColumns] at h
  split at h
  · cases h
  · split at h
    · cases h
    · rename_i hNone
      have hEmpty := List.find?_eq_none.mp hNone column hColumn
      simpa using hEmpty

end Checks

section Runs

variable (lower hexdigest : String → String) (campaignId : Nat) (fileKey : String)

def syncedRun (headers : List String) (row : List String × Nat) : NewQueuedRun where
  campaignId := campaignId
  sourceUuid := rowUuid hexdigest fileKey row.2
  contextVariables := buildContextVariables lower (normalizeHeaders lower headers) row.1
  state := .queued

def dialledRows (headers : List String) (rows : List (List String)) : List (List String × Nat) :=
  (rows.zipIdx 1).filter fun row =>
    lastCell (normalizeHeaders lower headers) "phone_number" row.1 ≠ ""

def validatedRows (headers : List String) (rows : List (List String)) : List (List String × Nat) :=
  (rows.zipIdx 1).filter fun row =>
    (checkedPhone ((normalizeHeaders lower headers).idxOf "phone_number") row.1).any (· ≠ "")

theorem syncedRuns_eq (headers : List String) (rows : List (List String))
    (h : "phone_number" ∈ normalizeHeaders lower headers) :
    syncedRuns lower hexdigest campaignId fileKey (headers :: rows) = (dialledRows lower headers rows).map
        (syncedRun lower hexdigest campaignId fileKey headers) := by
  cases rows with
  | nil => rfl
  | cons first rows =>
    simp only [syncedRuns]
    rw [dialledRows, ← List.filterMap_eq_map, List.filterMap_filter]
    refine List.filterMap_congr fun row _ => ?_
    obtain ⟨row, idx⟩ := row
    simp only [lookup_phoneNumber _ _ row h]
    by_cases hEmpty : lastCell (normalizeHeaders lower headers) "phone_number" row = ""
    · simp [hEmpty]
    · split
      · simp_all
      · simp_all
      · simp [hEmpty, syncedRun]

theorem rowUuid_injective {i j : Nat} (h : rowUuid hexdigest fileKey i = rowUuid hexdigest fileKey j) :
    i = j := by
  apply toString_injective
  rw [← String.toList_inj]
  have hList := congrArg String.toList h
  simpa only [rowUuid, String.toList_append, List.append_assoc, List.append_cancel_left_eq]
    using hList

structure Covers (headers : List String) (rows : List (List String))
    (requiredColumns : List String) : Prop where
  international : ∀ run ∈ syncedRuns lower hexdigest campaignId fileKey (headers :: rows),
    ∃ phone, run.contextVariables.lookup "phone_number" = some (.cell phone) ∧
      beginsWith phone '+' = true
  distinct : ((syncedRuns lower hexdigest campaignId fileKey (headers :: rows)).map
    (·.contextVariables.lookup "phone_number")).Nodup
  onePerRow : (syncedRuns lower hexdigest campaignId fileKey (headers :: rows)).map (·.sourceUuid) =
    (validatedRows lower headers rows).map fun row => rowUuid hexdigest fileKey row.2
  templated : (validateTemplateColumns lower headers rows requiredColumns).isValid = true →
    ∀ run ∈ syncedRuns lower hexdigest campaignId fileKey (headers :: rows),
      ∀ column ∈ requiredColumns, ∃ value,
        run.contextVariables.lookup column = some value ∧ value.isBlank = false

structure LastPhonesPass (headers : List String) (rows : List (List String)) : Prop where
  accepted : invalidRows (Dict.lastIdxOf "phone_number" (normalizeHeaders lower headers)) rows = []
  distinct : ((rows.map (lastCell (normalizeHeaders lower headers) "phone_number")).filter
    (· ≠ "")).Nodup
  sameRows : ∀ row ∈ rows,
    (lastCell (normalizeHeaders lower headers) "phone_number" row ≠ "" ↔
      (checkedPhone ((normalizeHeaders lower headers).idxOf "phone_number") row).any (· ≠ "") = true)

/-- No phone cell begins with whitespace, a repeated column passes where it stands last, and no
required column describes a greeting. -/
structure ReadAsChecked (headers : List String) (rows : List (List String))
    (requiredColumns : List String) : Prop where
  unspaced : ∀ row ∈ rows,
    beginsWithSpace (lastCell (normalizeHeaders lower headers) "phone_number" row) = false
  phones : (normalizeHeaders lower headers).count "phone_number" = 1 ∨
    LastPhonesPass lower headers rows
  columns : (validateTemplateColumns lower headers rows requiredColumns).isValid = true →
    ∀ row ∈ rows, lastCell (normalizeHeaders lower headers) "phone_number" row ≠ "" →
      ∀ column ∈ requiredColumns, column ∉ greetingColumns ∧
        ((normalizeHeaders lower headers).count column = 1 ∨
          strip (lastCell (normalizeHeaders lower headers) column row) ≠ "" ∨
          column = "greeting_override" ∧
            (greetingOverride lower (normalizeHeaders lower headers) row).isSome)

variable {lower hexdigest campaignId fileKey}

section Accepted

variable {headers : List String} {rows : List (List String)}

theorem mem_dialledRows (row : List String) : (∃ idx, (row, idx) ∈ dialledRows lower headers rows) ↔
      row ∈ rows ∧ lastCell (normalizeHeaders lower headers) "phone_number" row ≠ "" := by
  simp only [dialledRows, List.mem_filter, decide_eq_true_eq]
  constructor
  · rintro ⟨idx, hRow, hCell⟩
    exact ⟨List.fst_mem_of_mem_zipIdx hRow, hCell⟩
  · rintro ⟨hRow, hCell⟩
    obtain ⟨i, hRowAt⟩ := List.getElem?_of_mem hRow
    exact ⟨1 + i, List.mk_add_mem_zipIdx_iff_getElem?.mpr hRowAt, hCell⟩

theorem forall_syncedRuns (h : "phone_number" ∈ normalizeHeaders lower headers)
    (P : Dict String ContextValue → Prop) :
    (∀ run ∈ syncedRuns lower hexdigest campaignId fileKey (headers :: rows), P run.contextVariables) ↔
      ∀ row ∈ rows, lastCell (normalizeHeaders lower headers) "phone_number" row ≠ "" →
        P (buildContextVariables lower (normalizeHeaders lower headers) row) := by
  rw [syncedRuns_eq lower hexdigest campaignId fileKey headers rows h, List.forall_mem_map]
  constructor
  · intro hRuns row hRow hCell
    obtain ⟨idx, hPair⟩ := (mem_dialledRows row).mpr ⟨hRow, hCell⟩
    exact hRuns (row, idx) hPair
  · rintro hRows ⟨row, idx⟩ hPair
    obtain ⟨hRow, hCell⟩ := (mem_dialledRows row).mp ⟨idx, hPair⟩
    exact hRows row hRow hCell

theorem international_iff (h : "phone_number" ∈ normalizeHeaders lower headers) :
    (∀ run ∈ syncedRuns lower hexdigest campaignId fileKey (headers :: rows),
        ∃ phone, run.contextVariables.lookup "phone_number" = some (.cell phone) ∧
          beginsWith phone '+' = true) ↔ (∀ row ∈ rows,
        beginsWithSpace (lastCell (normalizeHeaders lower headers) "phone_number" row) = false) ∧
      invalidRows (Dict.lastIdxOf "phone_number" (normalizeHeaders lower headers)) rows = [] := by
  rw [forall_syncedRuns h fun context => ∃ phone,
    context.lookup "phone_number" = some (.cell phone) ∧ beginsWith phone '+' = true,
    invalidRows_eq_nil_iff]
  simp only [lookup_phoneNumber lower _ _ h, Option.some.injEq, ContextValue.cell.injEq,
    exists_eq_left', forall_checkedPhone_iff _ _ _ h (beginsWith · '+' = true)]
  rw [← forall₂_and]
  exact forall₂_congr fun row _ => beginsWith_iff_stripped _ '+' (by decide +kernel)

theorem distinct_iff (h : "phone_number" ∈ normalizeHeaders lower headers) :
    ((syncedRuns lower hexdigest campaignId fileKey (headers :: rows)).map
        (·.contextVariables.lookup "phone_number")).Nodup ↔
      ((rows.map (lastCell (normalizeHeaders lower headers) "phone_number")).filter (· ≠ "")).Nodup := by
  have hPhones : (syncedRuns lower hexdigest campaignId fileKey (headers :: rows)).map
      (·.contextVariables.lookup "phone_number") =
        ((rows.map (lastCell (normalizeHeaders lower headers) "phone_number")).filter
          (· ≠ "")).map fun cell => some (.cell cell) := by
    rw [syncedRuns_eq lower hexdigest campaignId fileKey headers rows h, List.map_map,
      List.filter_map, List.map_map]
    nth_rewrite 2 [← List.zipIdx_map_fst 1 rows]
    rw [List.filter_map, List.map_map, dialledRows]
    exact List.map_congr_left fun row _ => lookup_phoneNumber lower _ row.1 h
  rw [hPhones]
  exact List.nodup_map_iff fun first second hSame => by simpa using hSame

theorem onePerRow_iff (h : "phone_number" ∈ normalizeHeaders lower headers) :
    (syncedRuns lower hexdigest campaignId fileKey (headers :: rows)).map (·.sourceUuid) =
        (validatedRows lower headers rows).map (fun row => rowUuid hexdigest fileKey row.2) ↔ ∀ row ∈ rows,
        (lastCell (normalizeHeaders lower headers) "phone_number" row ≠ "" ↔
          (checkedPhone ((normalizeHeaders lower headers).idxOf "phone_number") row).any
            (· ≠ "") = true) := by
  rw [syncedRuns_eq lower hexdigest campaignId fileKey headers rows h, List.map_map]
  have hRows : (dialledRows lower headers rows).map
        ((·.sourceUuid) ∘ syncedRun lower hexdigest campaignId fileKey headers) =
      (validatedRows lower headers rows).map (fun row => rowUuid hexdigest fileKey row.2) ↔ _ :=
    map_filter_eq_iff (rows.zipIdx 1) _ _ (fun row => rowUuid hexdigest fileKey row.2)
      fun first hFirst second hSecond hUuid =>
        zipIdx_snd_inj hFirst hSecond (rowUuid_injective hexdigest fileKey hUuid)
  rw [hRows]
  constructor
  · intro hSame row hRow
    obtain ⟨i, hRowAt⟩ := List.getElem?_of_mem hRow
    simpa using hSame (row, 1 + i) (List.mk_add_mem_zipIdx_iff_getElem?.mpr hRowAt)
  · rintro hSame ⟨row, idx⟩ hPair
    simpa using hSame row (List.fst_mem_of_mem_zipIdx hPair)

theorem templated_iff (h : "phone_number" ∈ normalizeHeaders lower headers) {requiredColumns : List String}
    (hTemplate : (validateTemplateColumns lower headers rows requiredColumns).isValid = true) :
    (∀ run ∈ syncedRuns lower hexdigest campaignId fileKey (headers :: rows),
        ∀ column ∈ requiredColumns, ∃ value,
          run.contextVariables.lookup column = some value ∧ value.isBlank = false) ↔
      ∀ row ∈ rows, lastCell (normalizeHeaders lower headers) "phone_number" row ≠ "" →
        ∀ column ∈ requiredColumns, column ∉ greetingColumns ∧
          (strip (lastCell (normalizeHeaders lower headers) column row) ≠ "" ∨ column = "greeting_override" ∧
              (greetingOverride lower (normalizeHeaders lower headers) row).isSome) := by
  rw [forall_syncedRuns h fun context => ∀ column ∈ requiredColumns, ∃ value,
    context.lookup column = some value ∧ value.isBlank = false]
  refine forall₃_congr fun row _ _ => forall₂_congr fun column hColumn => ?_
  exact requiredColumn_iff lower _ row column
    (validateTemplateColumns_mem lower headers rows requiredColumns hTemplate column hColumn)

theorem checkedPhones_lastCell (h : "phone_number" ∈ normalizeHeaders lower headers)
    (hUnspaced : ∀ row ∈ rows,
      beginsWithSpace (lastCell (normalizeHeaders lower headers) "phone_number" row) = false) :
    checkedPhones (Dict.lastIdxOf "phone_number" (normalizeHeaders lower headers)) rows =
      ((rows.map (lastCell (normalizeHeaders lower headers) "phone_number")).filter (· ≠ "")).map strip := by
  induction rows with
  | nil => rfl
  | cons row rows ih =>
    obtain ⟨hRow, hRows⟩ := List.forall_mem_cons.mp hUnspaced
    have hStrip := strip_eq_empty_iff _ hRow
    rw [List.map_cons, checkedPhones, List.filterMap_cons]
    rw [lastCell, if_pos h, List.getD_eq_getElem?_getD] at hStrip ⊢
    have hRest := ih hRows
    rw [checkedPhones] at hRest
    cases hCell : row[Dict.lastIdxOf "phone_number" (normalizeHeaders lower headers)]? with
    | none =>
      simp only [checkedPhone, hCell, Option.map_none, Option.getD_none]
      rw [List.filter_cons_of_neg (by simp)]
      exact hRest
    | some cell =>
      simp only [hCell, Option.getD_some] at hStrip
      simp only [checkedPhone, hCell, Option.map_some, Option.getD_some]
      by_cases hEmpty : cell = ""
      · rw [List.filter_cons_of_neg (by simp [hEmpty]), List.filter_cons_of_neg (by simp [hEmpty])]
        exact hRest
      · rw [List.filter_cons_of_pos (by simpa [hStrip] using hEmpty),
          List.filter_cons_of_pos (by simpa using hEmpty), List.map_cons]
        exact congrArg (strip cell :: ·) hRest

theorem lastPhonesPass_of_count (hValid : (validateSourceData lower headers rows).isValid = true)
    (hUnspaced : ∀ row ∈ rows,
      beginsWithSpace (lastCell (normalizeHeaders lower headers) "phone_number" row) = false)
    (hCount : (normalizeHeaders lower headers).count "phone_number" = 1) :
    LastPhonesPass lower headers rows := by
  obtain ⟨hHeader, hAccepted, hNodup⟩ := (validateSourceData_isValid_iff lower headers rows).mp hValid
  have hIdx := Dict.lastIdxOf_eq_idxOf _ _ hCount
  rw [← hIdx] at hAccepted hNodup
  refine ⟨hAccepted, ?_, fun row hRow => ?_⟩
  · rw [checkedPhones_lastCell hHeader hUnspaced] at hNodup
    exact hNodup.of_map
  · have hStrip := strip_eq_empty_iff _ (hUnspaced row hRow)
    rw [← hIdx, Ne, ← hStrip.not, lastCell, if_pos hHeader, List.getD_eq_getElem?_getD, checkedPhone]
    cases row[Dict.lastIdxOf "phone_number" (normalizeHeaders lower headers)]? with
    | none => simp
    | some cell => simp

theorem requiredCell_of_count {requiredColumns : List String}
    (hTemplate : (validateTemplateColumns lower headers rows requiredColumns).isValid = true)
    {row column : _} (hRow : row ∈ rows) (hColumn : column ∈ requiredColumns)
    (hCount : (normalizeHeaders lower headers).count column = 1) :
    strip (lastCell (normalizeHeaders lower headers) column row) ≠ "" := by
  have hHeader := validateTemplateColumns_mem lower headers rows requiredColumns hTemplate column
    hColumn
  have hFull := validateTemplateColumns_emptyRows lower headers rows requiredColumns hTemplate column
    hColumn
  rw [lastCell, if_pos hHeader, Dict.lastIdxOf_eq_idxOf _ _ hCount, List.getD_eq_getElem?_getD]
  obtain ⟨i, hRowAt⟩ := List.getElem?_of_mem hRow
  rw [emptyRows, List.filterMap_eq_nil_iff] at hFull
  have hCell := hFull (row, 2 + i) (List.mk_add_mem_zipIdx_iff_getElem?.mpr hRowAt)
  cases hAt : row[(normalizeHeaders lower headers).idxOf column]? with
  | none => simp [hAt] at hCell
  | some cell => simpa [hAt] using hCell

end Accepted

/-- What is dialled is what was validated exactly when the cells are read as they were checked. -/
theorem source_validation_covers_iff (headers : List String) (rows : List (List String))
    (requiredColumns : List String) (hValid : (validateSourceData lower headers rows).isValid = true) :
    Covers lower hexdigest campaignId fileKey headers rows requiredColumns ↔
      ReadAsChecked lower headers rows requiredColumns := by
  obtain ⟨hHeader, -, -⟩ := (validateSourceData_isValid_iff lower headers rows).mp hValid
  constructor
  · intro h
    obtain ⟨hUnspaced, hAccepted⟩ := (international_iff hHeader).mp h.international
    have hPass : LastPhonesPass lower headers rows :=
      ⟨hAccepted, (distinct_iff hHeader).mp h.distinct, (onePerRow_iff hHeader).mp h.onePerRow⟩
    refine ⟨hUnspaced, .inr hPass, fun hTemplate row hRow hCell column hColumn => ?_⟩
    obtain ⟨hPlain, hValue⟩ :=
      (templated_iff hHeader hTemplate).mp (h.templated hTemplate) row hRow hCell column hColumn
    exact ⟨hPlain, .inr hValue⟩
  · intro h
    have hPass : LastPhonesPass lower headers rows :=
      h.phones.elim (lastPhonesPass_of_count hValid h.unspaced) id
    refine ⟨(international_iff hHeader).mpr ⟨h.unspaced, hPass.accepted⟩,
      (distinct_iff hHeader).mpr hPass.distinct, (onePerRow_iff hHeader).mpr hPass.sameRows,
      fun hTemplate => (templated_iff hHeader hTemplate).mpr fun row hRow hCell column hColumn => ?_⟩
    obtain ⟨hPlain, hValue⟩ := h.columns hTemplate row hRow hCell column hColumn
    refine ⟨hPlain, hValue.elim (fun hCount => ?_) id⟩
    exact .inl (requiredCell_of_count hTemplate hRow hColumn hCount)

end Runs

def asciiLower (s : String) : String := String.ofList (s.toList.map Char.toLower)

def leadsDigest (_fileKey : String) : String := "fc4caa32b3fca6153a04359776bbb055"

theorem source_validation_covers_leads :
    (validateSourceData asciiLower [" Phone_Number", "name"]
      [["+15550001 ", "Ann"], ["", "Bob"], ["+15550002", "Cid"]]).isValid = true ∧
    Covers asciiLower leadsDigest 1 "campaigns/1/leads.csv" [" Phone_Number", "name"]
      [["+15550001 ", "Ann"], ["", "Bob"], ["+15550002", "Cid"]] ["name"] := by
  have hValid : (validateSourceData asciiLower [" Phone_Number", "name"]
      [["+15550001 ", "Ann"], ["", "Bob"], ["+15550002", "Cid"]]).isValid = true := by
    decide +kernel
  refine ⟨hValid, (source_validation_covers_iff _ _ _ hValid).mpr ⟨?_, .inl ?_, fun _ => ?_⟩⟩
  · decide +kernel
  · decide +kernel
  · decide +kernel

theorem source_validation_not_covers :
    ¬ ∀ (headers : List String) (rows : List (List String)) (requiredColumns : List String),
      (validateSourceData asciiLower headers rows).isValid = true →
        Covers asciiLower leadsDigest 1 "campaigns/1/leads.csv" headers rows requiredColumns := by
  intro h
  have hCovers := h ["phone_number"] [[" +15550001"]] [] (by decide +kernel)
  have hChecked := (source_validation_covers_iff _ _ _ (by decide +kernel)).mp hCovers
  have hSpace := hChecked.unspaced [" +15550001"] List.mem_cons_self
  revert hSpace
  decide +kernel

end FastVoice.Campaign
