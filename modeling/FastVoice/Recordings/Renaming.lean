import FastVoice.Python.JsonReading
import FastVoice.Recordings.References
import FastVoice.Runtime.Outcome

/-! # Renaming a recording

The route and its queries. The definitions of workflows are stored as text, as `json.dumps` wrote them,
and a renaming rewrites that text in the drafts and versions of the organization that are not legacy.
-/
namespace FastVoice.Recordings
open Python Replacing

structure Recording where
  id : Nat
  recordingId : String
  organizationId : Nat
  isActive : Bool
  deriving DecidableEq

structure Workflow where
  id : Nat
  organizationId : Option Nat
  workflowDefinition : List Char
  deriving DecidableEq

inductive DefinitionStatus where
  | draft
  | published
  | archived
  | legacy
  deriving DecidableEq

structure WorkflowDefinition where
  id : Nat
  workflowId : Option Nat
  status : DefinitionStatus
  workflowJson : List Char
  deriving DecidableEq

structure Database where
  recordings : List Recording
  workflows : List Workflow
  definitions : List WorkflowDefinition
  deriving DecidableEq

structure HTTPException where
  statusCode : Nat
  detail : String
  deriving DecidableEq

structure RecordingUpdateRequest where
  recordingId : String
  maxLength : recordingId.length ≤ 64
  pattern : IsRecordingId recordingId.toList

/-- `LIKE`, for a pattern without a backslash. -/
def like : List Char → List Char → Bool
  | [], text => text.isEmpty
  | c :: pattern, text =>
    if c = '%' then
      text.tails.any (like pattern)
    else
      match text with
      | [] => false
      | x :: text => (c = '_' || c = x) && like pattern text

namespace Database

variable (db : Database)

def getRecordingById (id organizationId : Nat) : Option Recording :=
  db.recordings.find? fun recording =>
    recording.id = id && recording.organizationId = organizationId && recording.isActive

def checkRecordingIdExists (recordingId : String) (organizationId : Nat) : Except HTTPException Bool :=
  match db.recordings.filter fun recording => recording.recordingId = recordingId &&
      recording.organizationId = organizationId && recording.isActive with
  | [] => .ok false
  | [_] => .ok true
  | _ => .error ⟨500, "Failed to update recording"⟩

def updateRecordingId (id : Nat) (newRecordingId : String) (organizationId : Nat) :
    Option (Recording × Database) :=
  (db.getRecordingById id organizationId).map fun recording =>
    let updated := { recording with recordingId := newRecordingId }
    (updated, { db with recordings := db.recordings.map fun row =>
      if row.id = id then updated else row })

def ownsWorkflow (organizationId : Nat) (definition : WorkflowDefinition) : Bool :=
  db.workflows.any fun workflow =>
    definition.workflowId = some workflow.id && workflow.organizationId = some organizationId

def replaceRecordingIdInWorkflows (oldId newId : String) (organizationId : Nat) : Nat × Database :=
  let oldPattern := marker ++ oldId.toList
  let newPattern := marker ++ newId.toList
  let matching (text : List Char) : Bool := like ("%%".toList ++ (oldPattern ++ "%%".toList)) text
  let inWorkflows (workflow : Workflow) : Bool :=
    workflow.organizationId = some organizationId && matching workflow.workflowDefinition
  let inDefinitions (definition : WorkflowDefinition) : Bool :=
    db.ownsWorkflow organizationId definition && definition.status ≠ .legacy &&
      matching definition.workflowJson
  (db.workflows.countP inWorkflows + db.definitions.countP inDefinitions,
    { db with
      workflows := db.workflows.map fun workflow =>
        if inWorkflows workflow then
          { workflow with
            workflowDefinition := replace oldPattern newPattern workflow.workflowDefinition }
        else
          workflow
      definitions := db.definitions.map fun definition =>
        if inDefinitions definition then
          { definition with workflowJson := replace oldPattern newPattern definition.workflowJson }
        else
          definition })

def updateRecording (id : Nat) (request : RecordingUpdateRequest) (organizationId : Nat) :
    Except HTTPException (Recording × Database) :=
  let newId := Text.strip request.recordingId
  if newId = "" then
    .error ⟨400, "Recording ID cannot be empty"⟩
  else
    match db.getRecordingById id organizationId with
    | none => .error ⟨404, "Recording not found"⟩
    | some existing =>
      if newId = existing.recordingId then
        .ok (existing, db)
      else do
        if ← db.checkRecordingIdExists newId organizationId then
          .error ⟨409, "Recording ID '" ++ newId ++ "' is already in use"⟩
        else
          match db.updateRecordingId id newId organizationId with
          | none => .error ⟨404, "Recording not found"⟩
          | some (recording, db) =>
            .ok (recording,
              (db.replaceRecordingIdInWorkflows existing.recordingId newId organizationId).2)

def liveTexts (organizationId : Nat) : List (List Char) :=
  (db.workflows.filter (·.organizationId = some organizationId)).map (·.workflowDefinition) ++
    (db.definitions.filter fun definition =>
      db.ownsWorkflow organizationId definition && definition.status ≠ .legacy).map (·.workflowJson)

end Database

def field? (key : String) : Json → Option Json
  | .obj entries => (entries.find? (·.1 = key)).map (·.2)
  | _ => none

def promptOf (node : Json) : Option String :=
  match (field? "data" node).bind (field? "prompt") with
  | some (.str prompt) => some prompt
  | _ => none

def prompts (document : Json) : List String :=
  match field? "nodes" document with
  | some (.arr nodes) => nodes.filterMap promptOf
  | _ => []

def renameIn (oldId newId : String) (s : String) : String :=
  Json.Replaceable.inString (marker ++ oldId.toList) (marker ++ newId.toList) s

theorem toList_renameIn (oldId newId s : String) :
    (renameIn oldId newId s).toList = replaceReferences oldId.toList newId.toList s.toList := by
  rw [renameIn, Json.Replaceable.inString, String.toList_ofList, replaceReferences]

theorem renameIn_eq_iff (oldId newId s : String) {key : String} (hKey : 'R' ∉ key.toList) :
    renameIn oldId newId s = key ↔ s = key := by
  have hMissing : ∀ id : List Char, ¬marker ++ id <:+: key.toList := fun id hInfix =>
    hKey (hInfix.subset (List.mem_append_left _ (by decide)))
  rw [← String.toList_inj, toList_renameIn, ← String.toList_inj]
  constructor
  · intro h
    obtain hSame | hInfix := replace_eq_or_infix (marker ++ oldId.toList)
      (marker ++ newId.toList) s.toList
    · exact hSame.symm.trans h
    · rw [replaceReferences] at h
      rw [h] at hInfix
      exact absurd hInfix (hMissing _)
  · intro h
    rw [h]
    exact replace_of_not_infix (hMissing _)

section

variable {f : String → String}

theorem field?_mapStrings {key : String} (h : ∀ s, f s = key ↔ s = key) (document : Json) :
    field? key (document.mapStrings f) = (field? key document).map (Json.mapStrings f) := by
  cases document with
  | obj entries =>
    simp only [Json.mapStrings, field?]
    induction entries with
    | nil => rfl
    | cons entry entries ih =>
      obtain ⟨name, value⟩ := entry
      rw [Json.mapEntries, List.find?_cons, List.find?_cons]
      by_cases hName : name = key
      · simp [hName, (h key).mpr rfl]
      · have hRenamed : f name ≠ key := fun hSame => hName ((h name).mp hSame)
        simpa [hName, hRenamed] using ih
  | null => rfl
  | bool b => rfl
  | number n => rfl
  | str s => rfl
  | arr items => rfl

theorem promptOf_mapStrings (hData : ∀ s, f s = "data" ↔ s = "data")
    (hPrompt : ∀ s, f s = "prompt" ↔ s = "prompt") (node : Json) :
    promptOf (node.mapStrings f) = (promptOf node).map f := by
  have hField : (field? "data" (node.mapStrings f)).bind (field? "prompt") =
      ((field? "data" node).bind (field? "prompt")).map (Json.mapStrings f) := by
    rw [field?_mapStrings hData, Option.bind_map, Option.map_bind]
    exact congrArg _ (funext fun data => field?_mapStrings hPrompt data)
  rw [promptOf, promptOf, hField]
  cases (field? "data" node).bind (field? "prompt") with
  | none => rfl
  | some value => cases value <;> rfl

theorem prompts_mapStrings (hNodes : ∀ s, f s = "nodes" ↔ s = "nodes")
    (hData : ∀ s, f s = "data" ↔ s = "data") (hPrompt : ∀ s, f s = "prompt" ↔ s = "prompt")
    (document : Json) : prompts (document.mapStrings f) = (prompts document).map f := by
  rw [prompts, prompts, field?_mapStrings hNodes]
  cases field? "nodes" document with
  | none => rfl
  | some value =>
    cases value with
    | arr nodes =>
      simp only [Option.map_some, Json.mapStrings]
      induction nodes with
      | nil => rfl
      | cons node nodes ih =>
        rw [Json.mapItems, List.filterMap_cons, List.filterMap_cons,
          promptOf_mapStrings hData hPrompt, ih]
        cases promptOf node <;> rfl
    | null => rfl
    | bool b => rfl
    | number n => rfl
    | str s => rfl
    | obj entries => rfl

end

theorem prompts_rename (oldId newId : String) (document : Json) :
    prompts (document.mapStrings (renameIn oldId newId)) = (prompts document).map (renameIn oldId newId) :=
  prompts_mapStrings (fun s => renameIn_eq_iff oldId newId s (by decide))
    (fun s => renameIn_eq_iff oldId newId s (by decide))
    (fun s => renameIn_eq_iff oldId newId s (by decide)) document

theorem toNat_of_isIdChar {c : Char} (h : isIdChar c = true) :
    45 ≤ c.toNat ∧ c.toNat ≤ 122 ∧ c.toNat ≠ 92 := by
  change (((decide (c.val ≥ 'A'.val ∧ c.val ≤ 'Z'.val) ||
    (decide (c.val ≥ 'a'.val) && decide (c.val ≤ 'z'.val))) ||
    (decide (c.val ≥ '0'.val) && decide (c.val ≤ '9'.val))) || decide (c = '_') || decide (c = '-')) = true at h
  simp only [Bool.or_eq_true, Bool.and_eq_true, decide_eq_true_eq, ge_iff_le, UInt32.le_iff_toNat_le] at h
  have hNat : c.toNat = c.val.toNat := rfl
  rcases h with (((⟨hLow, hHigh⟩ | ⟨hLow, hHigh⟩) | ⟨hLow, hHigh⟩) | rfl) | rfl
  · have hBounds : 65 ≤ c.val.toNat ∧ c.val.toNat ≤ 90 := ⟨hLow, hHigh⟩
    omega
  · have hBounds : 97 ≤ c.val.toNat ∧ c.val.toNat ≤ 122 := ⟨hLow, hHigh⟩
    omega
  · have hBounds : 48 ≤ c.val.toNat ∧ c.val.toNat ≤ 57 := ⟨hLow, hHigh⟩
    omega
  · decide
  · decide

theorem escapeChar_of_isIdChar {c : Char} (h : isIdChar c = true) : Json.escapeChar c = [c] := by
  obtain ⟨hLow, hHigh, hBackslash⟩ := toNat_of_isIdChar h
  have hTable : Json.escapeTable.lookup c.toNat = none := by
    have hAll : ∀ entry ∈ Json.escapeTable, entry.1 < 45 ∨ entry.1 = 92 := by decide
    refine List.lookup_eq_none_iff.mpr fun entry hEntry => ?_
    have hOther := hAll entry hEntry
    simp only [bne_iff_ne, ne_eq]
    omega
  rw [Json.escapeChar, hTable]
  exact if_pos ⟨by omega, by omega⟩

theorem replaceable {old new : List Char} (hOld : IsRecordingId old) (hNew : IsRecordingId new) :
    Json.Replaceable (marker ++ old) (marker ++ new) := by
  have hMarker : Json.Plain marker := by decide
  have hPlain : ∀ {id : List Char}, IsRecordingId id → Json.Plain (marker ++ id) := by
    intro id hId c hc
    exact (List.mem_append.mp hc).elim (hMarker c) fun hc => escapeChar_of_isIdChar (hId.2 c hc)
  exact ⟨hPlain hOld, hPlain hNew, 'R', rfl, by decide⟩

theorem replace_definition {oldId newId : String} (hOld : IsRecordingId oldId.toList)
    (hNew : IsRecordingId newId.toList) (document : Json) :
    replace (marker ++ oldId.toList) (marker ++ newId.toList) document.dumps =
      (document.mapStrings (renameIn oldId newId)).dumps := by
  have hReplaced := (replaceable hOld hNew).replace_dumps document []
  rw [List.append_nil, replace_nil, List.append_nil] at hReplaced
  exact hReplaced

theorem like_percent {pattern text : List Char} :
    like ('%' :: pattern) text = true ↔ ∃ rest, rest <:+ text ∧ like pattern rest = true := by
  simp [like, List.mem_tails]

theorem like_of_prefix {pattern text : List Char} (hLiteral : '%' ∉ pattern) (h : pattern <+: text) :
    like (pattern ++ "%%".toList) text = true := by
  induction pattern generalizing text with
  | nil =>
    have hAll : ∀ text, like ['%'] text = true := fun text =>
      like_percent.mpr ⟨[], List.nil_suffix, rfl⟩
    exact like_percent.mpr ⟨text, List.suffix_refl text, hAll text⟩
  | cons c pattern ih =>
    cases text with
    | nil => exact absurd (List.prefix_nil.mp h) (List.cons_ne_nil _ _)
    | cons x text =>
      obtain ⟨rfl, hRest⟩ := List.cons_prefix_cons.mp h
      have hFirst : c ≠ '%' := fun hSame => hLiteral (hSame ▸ List.mem_cons_self)
      have hLater : '%' ∉ pattern := fun hMem => hLiteral (List.mem_cons_of_mem _ hMem)
      rw [List.cons_append, like, if_neg hFirst]
      exact Bool.and_eq_true_iff.mpr ⟨by simp, ih hLater hRest⟩

theorem replace_of_not_like {pattern new text : List Char} (hLiteral : '%' ∉ pattern)
    (h : like ("%%".toList ++ (pattern ++ "%%".toList)) text = false) : replace pattern new text = text := by
  apply replace_of_not_infix
  rintro ⟨first, last, hText⟩
  have hSuffix : pattern ++ last <:+ text := ⟨first, by rw [← hText, List.append_assoc]⟩
  have hHere : like (pattern ++ "%%".toList) (pattern ++ last) = true :=
    like_of_prefix hLiteral (List.prefix_append _ _)
  have hLike : like ("%%".toList ++ (pattern ++ "%%".toList)) text = true :=
    like_percent.mpr ⟨_, hSuffix, like_percent.mpr ⟨_, List.suffix_refl _, hHere⟩⟩
  rw [h] at hLike
  cases hLike

theorem strip_of_isRecordingId {id : String} (h : IsRecordingId id.toList) : Text.strip id = id := by
  apply Text.strip_of_noSpace
  intro c hc
  obtain ⟨hLow, hHigh, -⟩ := toNat_of_isIdChar (h.2 c hc)
  rw [Text.isSpace]
  simp only [decide_eq_false_iff_not]
  omega

theorem map_filter_update {Row : Type} {rows : List Row} {p : Row → Bool} {update : Row → Row}
    {text : Row → List Char} {rewrite : List Char → List Char} (hKept : ∀ row, p (update row) = p row)
    (hText : ∀ row, p row = true → text (update row) = rewrite (text row)) :
    ((rows.map update).filter p).map text = ((rows.filter p).map text).map rewrite := by
  have hSame : p ∘ update = p := funext hKept
  rw [List.filter_map, hSame, List.map_map, List.map_map]
  refine List.map_congr_left fun row hRow => ?_
  exact hText row (List.mem_filter.mp hRow).2

namespace Database

variable {db : Database} {organizationId : Nat}

theorem liveTexts_replace {oldId : String} (hOld : IsRecordingId oldId.toList) (newId : String) :
    (db.replaceRecordingIdInWorkflows oldId newId organizationId).2.liveTexts organizationId =
      (db.liveTexts organizationId).map (replace (marker ++ oldId.toList) (marker ++ newId.toList)) := by
  have hLiteral : '%' ∉ marker ++ oldId.toList := by
    intro hMem
    obtain hMem | hMem := List.mem_append.mp hMem
    · exact absurd hMem (by decide)
    · exact absurd (hOld.2 _ hMem) (by decide)
  have hOwns : ∀ definition,
      (db.replaceRecordingIdInWorkflows oldId newId organizationId).2.ownsWorkflow organizationId
        definition = db.ownsWorkflow organizationId definition := by
    intro definition
    rw [ownsWorkflow, ownsWorkflow, replaceRecordingIdInWorkflows, List.any_map]
    refine congrArg (db.workflows.any ·) (funext fun workflow => ?_)
    dsimp only [Function.comp_apply]
    split <;> rfl
  rw [liveTexts, liveTexts, List.map_append, funext hOwns]
  congr 1
  · apply map_filter_update
    · intro workflow
      dsimp only
      split <;> rfl
    · intro workflow hLive
      dsimp only
      split
      · rfl
      · next hSkipped =>
        refine (replace_of_not_like hLiteral ?_).symm
        simpa [of_decide_eq_true hLive] using hSkipped
  · apply map_filter_update
    · intro definition
      dsimp only
      split <;> rfl
    · intro definition hLive
      dsimp only
      split
      · rfl
      · next hSkipped =>
        refine (replace_of_not_like hLiteral ?_).symm
        have hSelected : db.ownsWorkflow organizationId definition = true ∧
            definition.status ≠ .legacy := by simpa using hLive
        simpa [hSelected] using hSkipped

theorem liveTexts_updateRecording {db' : Database} {id : Nat} {request : RecordingUpdateRequest}
    {existing updated : Recording} (hOld : IsRecordingId existing.recordingId.toList)
    (hExisting : db.getRecordingById id organizationId = some existing)
    (hOther : existing.recordingId ≠ request.recordingId)
    (hOk : db.updateRecording id request organizationId = .ok (updated, db')) :
    db'.liveTexts organizationId = (db.liveTexts organizationId).map
      (replace (marker ++ existing.recordingId.toList) (marker ++ request.recordingId.toList)) := by
  have hNonempty : request.recordingId ≠ "" := fun hEmpty =>
    request.pattern.1 (by rw [hEmpty]; rfl)
  have hUpdated : db.updateRecordingId id request.recordingId organizationId =
      some ({ existing with recordingId := request.recordingId }, { db with
        recordings := db.recordings.map fun row =>
          if row.id = id then { existing with recordingId := request.recordingId } else row }) := by
    rw [updateRecordingId, hExisting, Option.map_some]
  rw [updateRecording, strip_of_isRecordingId request.pattern] at hOk
  simp only [hNonempty, hExisting, Ne.symm hOther, if_false] at hOk
  obtain ⟨exists?, -, hRest⟩ := Outcome.bind_eq_ok_iff.mp hOk
  split at hRest
  · cases hRest
  · rw [hUpdated] at hRest
    cases hRest
    exact liveTexts_replace hOld request.recordingId

/-- Each live definition, read before and after, has the same prompts apart from the names of the
references that the renaming is about. -/
def KeepsReferences (db db' : Database) (organizationId : Nat) (oldId newId : String) : Prop :=
  List.Forall₂ (fun text text' => ∀ document : Json, document.dumps = text →
      ∃ document' : Json, document'.dumps = text' ∧
        List.Forall₂ (fun prompt prompt' =>
          Keeps oldId.toList newId.toList prompt.toList prompt'.toList)
          (prompts document) (prompts document'))
    (db.liveTexts organizationId) (db'.liveTexts organizationId)

/-- Every reference in a prompt that could be taken for one to the recording is one, and no other
reference starts inside it. -/
def ClearReferences (db : Database) (organizationId : Nat) (oldId : String) : Prop :=
  ∀ document : Json, document.dumps ∈ db.liveTexts organizationId →
    ∀ prompt ∈ prompts document, Clear oldId.toList prompt.toList

/-- A renaming keeps the references of the organization's prompts exactly if none of them names an
identifier that goes on where the old one ends. -/
theorem updateRecording_keepsReferences_iff {db' : Database} {id : Nat}
    {request : RecordingUpdateRequest} {existing updated : Recording}
    (hIds : ∀ recording ∈ db.recordings, IsRecordingId recording.recordingId.toList)
    (hExisting : db.getRecordingById id organizationId = some existing)
    (hOther : existing.recordingId ≠ request.recordingId)
    (hOk : db.updateRecording id request organizationId = .ok (updated, db')) :
    KeepsReferences db db' organizationId existing.recordingId request.recordingId ↔
      ClearReferences db organizationId existing.recordingId := by
  have hOld := hIds existing (List.mem_of_find?_eq_some hExisting)
  have hDifferent : existing.recordingId.toList ≠ request.recordingId.toList := fun hSame =>
    hOther (String.toList_inj.mp hSame)
  have hPrompts : ∀ ps : List String, List.Forall₂ (fun prompt prompt' =>
      Keeps existing.recordingId.toList request.recordingId.toList prompt.toList prompt'.toList) ps
        (ps.map (renameIn existing.recordingId request.recordingId)) ↔
      ∀ prompt ∈ ps, Clear existing.recordingId.toList prompt.toList := by
    intro ps
    rw [List.forall₂_map_right_iff, List.forall₂_same]
    refine forall₂_congr fun prompt _ => ?_
    rw [toList_renameIn]
    exact keeps_iff_clear hOld request.pattern hDifferent
  rw [KeepsReferences, liveTexts_updateRecording hOld hExisting hOther hOk,
    List.forall₂_map_right_iff, List.forall₂_same]
  constructor
  · intro h document hDocument
    obtain ⟨document', hText, hKept⟩ := h _ hDocument document rfl
    rw [replace_definition hOld request.pattern] at hText
    rw [Json.eq_of_dumps_eq hText, prompts_rename] at hKept
    exact (hPrompts _).mp hKept
  · rintro h _ hText document rfl
    refine ⟨_, (replace_definition hOld request.pattern document).symm, ?_⟩
    rw [prompts_rename]
    exact (hPrompts _).mpr (h document hText)

end Database

/-! Two recordings, of which the one that is renamed has the start of the other's identifier. -/

def definitionWith (prompt : String) : Json :=
  .obj [("nodes", .arr [.obj [("data", .obj [("prompt", .str prompt)])]])]

def greetings (prompt : String) : Database where
  recordings := [⟨1, "greet", 7, true⟩, ⟨2, "greet2", 7, true⟩]
  workflows := [⟨3, some 7, (definitionWith prompt).dumps⟩]
  definitions := []

def toHello : RecordingUpdateRequest := ⟨"hello", by decide, by decide⟩

def renamedGreetings (prompt : String) : Database where
  recordings := [⟨1, "hello", 7, true⟩, ⟨2, "greet2", 7, true⟩]
  workflows := [⟨3, some 7, (definitionWith prompt).dumps⟩]
  definitions := []

theorem clear_of_tails {old text : List Char}
    (h : ∀ rest ∈ text.tails, ∀ id ∈ (referenceAt rest).toList, old <+: id → id = old ∧
      ∀ more ∈ rest.tails, more ≠ rest → rest.length < more.length + (marker ++ old).length →
        referenceAt more = none) : Clear old text := by
  intro before rest hText id hId hPrefix
  obtain ⟨hSame, hInside⟩ := h rest ((List.mem_tails _ _).mpr ⟨before, hText⟩) id
    (Option.mem_toList.mpr hId) hPrefix
  refine ⟨hSame, fun first more hMore hNonempty hShort => ?_⟩
  have hLength := congrArg List.length hMore
  rw [List.length_append] at hLength
  refine hInside more ((List.mem_tails _ _).mpr ⟨first, hMore⟩) ?_ (by omega)
  rintro rfl
  have hPositive := List.length_pos_of_ne_nil hNonempty
  omega

theorem existing_greetings (prompt : String) :
    (greetings prompt).getRecordingById 1 7 = some ⟨1, "greet", 7, true⟩ := rfl

theorem greet_kept :
    (greetings "RECORDING_ID: greet [Hi!]").updateRecording 1 toHello 7 =
      .ok (⟨1, "hello", 7, true⟩, renamedGreetings "RECORDING_ID: hello [Hi!]") ∧
    Database.KeepsReferences (greetings "RECORDING_ID: greet [Hi!]")
      (renamedGreetings "RECORDING_ID: hello [Hi!]") 7 "greet" "hello" := by
  have hOk : (greetings "RECORDING_ID: greet [Hi!]").updateRecording 1 toHello 7 =
      .ok (⟨1, "hello", 7, true⟩, renamedGreetings "RECORDING_ID: hello [Hi!]") := by
    decide +kernel
  refine ⟨hOk, (Database.updateRecording_keepsReferences_iff (by decide +kernel)
    (existing_greetings _) (by decide) hOk).mpr ?_⟩
  intro document hDocument prompt hPrompt
  rw [Json.eq_of_dumps_eq (List.mem_singleton.mp hDocument)] at hPrompt
  rw [List.mem_singleton.mp hPrompt]
  apply clear_of_tails
  decide +kernel

theorem greet2_lost :
    (greetings "RECORDING_ID: greet2 [Hi!]").updateRecording 1 toHello 7 =
      .ok (⟨1, "hello", 7, true⟩, renamedGreetings "RECORDING_ID: hello2 [Hi!]") ∧
    ¬Database.KeepsReferences (greetings "RECORDING_ID: greet2 [Hi!]")
      (renamedGreetings "RECORDING_ID: hello2 [Hi!]") 7 "greet" "hello" := by
  refine ⟨by decide +kernel, fun h => ?_⟩
  obtain ⟨document', hText, hPrompts⟩ := (List.forall₂_cons.mp h).1 _ rfl
  rw [Json.eq_of_dumps_eq hText] at hPrompts
  obtain ⟨rest', hPlace, hNamed⟩ := (List.forall₂_cons.mp hPrompts).1 [] _ rfl "greet2".toList
    (by decide +kernel)
  rw [replaceReferences, replace_nil, List.nil_append] at hPlace
  rw [← hPlace] at hNamed
  revert hNamed
  decide +kernel

end FastVoice.Recordings
