import FastVoice.Engine.EndCall
import FastVoice.Runtime.Grouping

/-! # Extractions in the background

A transition starts the extraction of the node that it leaves as a task, and the end of the call extracts
from the node it finds. Each task writes into the gathered context when the model answers, whatever has been
written there since it was started.
-/
namespace FastVoice.Engine
open Python

abbrev ExtractedData := List (String × Json)

structure GatheringState where
  currentNode : Option DefinitionNode := none
  gathered : Gathered
  own : Gathered
  started : List (List String) := []
  pending : List Nat := []
  completed : List (Nat × ExtractedData) := []

def sameText (text value : Json) : Bool := value.text? == text.text?

def recordExtracted (data : ExtractedData) (gathered : Gathered) : Gathered :=
  match gathered.lookup "extracted_variables" with
  | none => gathered.set "extracted_variables" (.obj (Gathered.update [] data))
  | some (.obj extracted) => gathered.set "extracted_variables" (.obj (Gathered.update extracted data))
  | some _ => gathered

/-! ## What the engine writes -/

/-- A text is appended to the list under a key unless it is there; what is no list raises. -/
def appended (key text : String) (gathered : Gathered) : Gathered :=
  match appendTag sameText (.str text) ((gathered.lookup key).getD (.arr [])) with
  | .ok tags => [(key, tags)]
  | .error _ => []

/-- `function_call_params.arguments.get("reason", "") or "end_call_tool"`. -/
def endReason (reason : Json) : Json := if reason.truthy then reason else .str "end_call_tool"

inductive GatheringEvent where
  | transition (nodeId : String)
  | extractNow
  | complete (task : Nat) (data : ExtractedData)
  | fail (task : Nat)
  | endCallTool (reason : Json)
  | externalTransfer

section

variable (engine : PipecatEngine)

def engineWrites (gathered : Gathered) : GatheringEvent → Gathered
  | .transition nodeId =>
    match nodeById engine.definition.nodes nodeId with
    | none => []
    | some node => appended "nodes_visited" node.data.name gathered
  | .endCallTool reason =>
    ("call_disposition", endReason reason) :: appended "call_tags" "end_call_tool" gathered
  | .externalTransfer => [("external_pbx_transferred", .bool true)]
  | _ => []

namespace GatheringState

def begin (s : GatheringState) : Except RenderError GatheringState :=
  (prepareExtraction engine.host engine.callContextVars s.currentNode).map fun
    | none => s
    | some extraction =>
      { s with
        started := s.started ++ [extraction.extractionVariables.map ExtractionVariable.name]
        pending := s.started.length :: s.pending }

def write (event : GatheringEvent) (s : GatheringState) : GatheringState :=
  { s with
    gathered := s.gathered.update (engineWrites engine s.gathered event)
    own := s.own.update (engineWrites engine s.own event) }

/-- `set_node` as far as it changes what is gathered; an unknown node raises. -/
def enterNode (nodeId : String) (s : GatheringState) : GatheringState :=
  match nodeById engine.definition.nodes nodeId with
  | none => s
  | some node => { s.write engine (.transition nodeId) with currentNode := some node }

def complete (task : Nat) (data : ExtractedData) (s : GatheringState) : GatheringState :=
  { s with
    gathered := applyExtraction (.obj data) s.gathered
    own := recordExtracted data s.own
    pending := s.pending.erase task
    completed := (task, data) :: s.completed }

/-- A dictionary with some of the variables that the task asks for. -/
def Answers (s : GatheringState) (task : Nat) (data : ExtractedData) : Prop :=
  task ∈ s.pending ∧ (data.map Prod.fst).Nodup ∧ ∀ key ∈ data.map Prod.fst, key ∈ (s.started[task]?).getD []

instance (s : GatheringState) (task : Nat) (data : ExtractedData) : Decidable (s.Answers task data) :=
  inferInstanceAs (Decidable (_ ∧ _ ∧ _))

end GatheringState

/-- An exception of a prompt ends a transition before the node is entered. -/
def gathering : Machine GatheringState GatheringEvent where
  step s
    | .transition nodeId =>
      match s.begin engine with
      | .ok s => some (s.enterNode engine nodeId)
      | .error _ => some s
    | .extractNow =>
      match s.begin engine with
      | .ok s => some s
      | .error _ => some s
    | .complete task data => if s.Answers task data then some (s.complete task data) else none
    | .fail task => if task ∈ s.pending then some { s with pending := s.pending.erase task } else none
    | .endCallTool reason => some (s.write engine (.endCallTool reason))
    | .externalTransfer => some (s.write engine .externalTransfer)

end

end FastVoice.Engine

/-! # The order in which extractions end

What is gathered for a variable is what the extraction that was started last returned for it, and the keys of
the engine are what the engine wrote there, exactly in the runs in which no answer touches these keys or
replaces a different answer that was asked for later.
-/
namespace FastVoice.Engine
open Python Newest

/-! ## Dictionaries -/

section Dictionaries

variable {gathered gathered' : Gathered} {data : ExtractedData} {name : String}

theorem lookup_set (gathered : Gathered) (key name : String) (value : Json) :
    (gathered.set key value).lookup name = if name = key then some value else gathered.lookup name :=
  Json.lookup_setEntry key name value gathered

theorem lookup_eq_none_of_notMem {entries : List (String × Json)} (h : name ∉ entries.map Prod.fst) :
    entries.lookup name = none := by
  cases hLookup : entries.lookup name with
  | none => rfl
  | some value => exact absurd (List.mem_map.mpr ⟨_, Json.mem_of_lookup hLookup, rfl⟩) h

theorem lookup_update (hKeys : (data.map Prod.fst).Nodup) (gathered : Gathered) (name : String) :
    (gathered.update data).lookup name = (data.lookup name).or (gathered.lookup name) := by
  induction data generalizing gathered with
  | nil => rfl
  | cons entry data ih =>
    obtain ⟨key, value⟩ := entry
    obtain ⟨hFirst, hRest⟩ := List.nodup_cons.mp hKeys
    change ((gathered.set key value).update data).lookup name = _
    rw [ih hRest, lookup_set, Json.lookup_cons]
    split
    · rename_i hName
      have hNone : data.lookup name = none := lookup_eq_none_of_notMem (by rw [hName]; exact hFirst)
      rw [hNone]
      rfl
    · rfl

theorem lookup_recordExtracted_of_ne (hName : name ≠ "extracted_variables") (data : ExtractedData)
    (gathered : Gathered) : (recordExtracted data gathered).lookup name = gathered.lookup name := by
  unfold recordExtracted
  split
  · rw [lookup_set, if_neg hName]
  · rw [lookup_set, if_neg hName]
  · rfl

theorem lookup_recordExtracted (data : ExtractedData)
    (hSame : gathered.lookup "extracted_variables" = gathered'.lookup "extracted_variables") :
    (recordExtracted data gathered).lookup "extracted_variables" =
      (recordExtracted data gathered').lookup "extracted_variables" := by
  unfold recordExtracted
  rw [hSame]
  split
  · rw [lookup_set, lookup_set, if_pos rfl, if_pos rfl]
  · rw [lookup_set, lookup_set, if_pos rfl, if_pos rfl]
  · exact hSame

def Records (gathered : Gathered) : Prop :=
  ∀ value ∈ gathered.lookup "extracted_variables", value.isDict = true

theorem exists_recorded (data : ExtractedData) (h : Records gathered) :
    ∃ recorded, (recordExtracted data gathered).lookup "extracted_variables" =
      some (.obj (Gathered.update recorded data)) := by
  unfold recordExtracted
  split
  · exact ⟨[], by rw [lookup_set, if_pos rfl]⟩
  · rename_i extracted _
    exact ⟨extracted, by rw [lookup_set, if_pos rfl]⟩
  · rename_i value hOther hValue
    have hDict := h value hValue
    cases value with
    | obj entries => exact absurd rfl (hOther entries)
    | _ => cases hDict

theorem lookup_ne_self {entries : List (String × Json)} (h : entries.lookup name = some (.obj entries)) :
    False := by
  have hMem := Json.mem_of_lookup h
  have hEntry : sizeOf (name, Json.obj entries) < sizeOf entries := List.sizeOf_lt_of_mem hMem
  simp at hEntry
  omega

end Dictionaries

/-! ## What the engine writes -/

def engineKeys : List String :=
  ["nodes_visited", "call_tags", "call_disposition", "external_pbx_transferred"]

section Writes

variable {engine : PipecatEngine} {gathered own : Gathered} {event : GatheringEvent}

theorem appended_congr {key : String} (text : String) (h : gathered.lookup key = own.lookup key) :
    appended key text gathered = appended key text own := by
  rw [appended, appended, h]

theorem keys_appended (key text : String) (gathered : Gathered) :
    ((appended key text gathered).map Prod.fst).Sublist [key] := by
  unfold appended
  split
  · exact List.Sublist.refl _
  · exact List.nil_sublist _

theorem keys_engineWrites (engine : PipecatEngine) (gathered : Gathered) (event : GatheringEvent) :
    ∃ keys : List String, ((engineWrites engine gathered event).map Prod.fst).Sublist keys ∧
      keys.Nodup ∧ ∀ key ∈ keys, key ∈ engineKeys := by
  cases event with
  | transition nodeId =>
    refine ⟨["nodes_visited"], ?_, by decide, by decide⟩
    simp only [engineWrites]
    split
    · exact List.nil_sublist _
    · exact keys_appended _ _ _
  | endCallTool reason =>
    refine ⟨["call_disposition", "call_tags"], ?_, by decide, by decide⟩
    exact (keys_appended _ _ _).cons_cons _
  | externalTransfer => exact ⟨["external_pbx_transferred"], List.Sublist.refl _, by decide, by decide⟩
  | _ => exact ⟨[], List.nil_sublist _, by decide, by decide⟩

theorem nodup_engineWrites : ((engineWrites engine gathered event).map Prod.fst).Nodup := by
  obtain ⟨keys, hSub, hKeys, -⟩ := keys_engineWrites engine gathered event
  exact hKeys.sublist hSub

theorem engineWrites_other {name : String} (h : name ∉ engineKeys) :
    (engineWrites engine gathered event).lookup name = none := by
  obtain ⟨keys, hSub, -, hKeys⟩ := keys_engineWrites engine gathered event
  exact lookup_eq_none_of_notMem fun hName => h (hKeys name (hSub.subset hName))

theorem engineWrites_congr (h : ∀ key ∈ engineKeys, gathered.lookup key = own.lookup key) :
    engineWrites engine gathered event = engineWrites engine own event := by
  cases event with
  | transition nodeId =>
    simp only [engineWrites]
    rw [funext fun node : DefinitionNode => appended_congr node.data.name (h "nodes_visited" (by decide))]
  | endCallTool reason =>
    exact congrArg _ (appended_congr "end_call_tool" (h "call_tags" (by decide)))
  | _ => rfl

end Writes

/-! ## What is gathered -/

section Runs

variable {engine : PipecatEngine} {s next : GatheringState}

/-- The claim about a state. -/
structure InOrder (s : GatheringState) : Prop where
  latest : ∀ name number value, IsNewest (List.lookup name) s.completed number value →
    s.gathered.lookup name = some value
  own : ∀ key ∈ "extracted_variables" :: engineKeys, s.gathered.lookup key = s.own.lookup key

structure Answered (s : GatheringState) : Prop where
  numbers : (s.pending ++ s.completed.map Prod.fst).Nodup
  started : ∀ number ∈ s.pending ++ s.completed.map Prod.fst, number < s.started.length
  apart : ∀ answer ∈ s.completed, answer.2.lookup "extracted_variables" = none
  records : Records s.own

/-- What the engine writes under a key is what the newest answer gave for it, if one did. -/
def KeepsLatest (engine : PipecatEngine) (s : GatheringState) (event : GatheringEvent) : Prop :=
  ∀ name value, (engineWrites engine s.gathered event).lookup name = some value →
    ∀ number found, IsNewest (List.lookup name) s.completed number found → found = value

/-- What an answer must not do. -/
structure Harmless (s : GatheringState) (task : Nat) (data : ExtractedData) : Prop where
  apart : data.lookup "extracted_variables" = none
  engineKeys : ∀ key ∈ engineKeys, ∀ value, data.lookup key = some value →
    s.gathered.lookup key = some value
  later : ∀ name value, data.lookup name = some value → ∀ number found,
    IsNewest (List.lookup name) s.completed number found → task < number → found = value

/-- The steps that leave what is gathered in order. -/
def LeavesOrder (engine : PipecatEngine) (s : GatheringState) : GatheringEvent → Prop
  | .complete task data => Harmless s task data
  | .transition nodeId => (s.begin engine).isOk = true → KeepsLatest engine s (.transition nodeId)
  | event => KeepsLatest engine s event

theorem inOrder_congr (hGathered : next.gathered = s.gathered) (hOwn : next.own = s.own)
    (hCompleted : next.completed = s.completed) : InOrder next ↔ InOrder s := by
  constructor
  · rintro ⟨hLatest, hKeys⟩
    rw [hGathered, hCompleted] at hLatest
    rw [hGathered, hOwn] at hKeys
    exact ⟨hLatest, hKeys⟩
  · rintro ⟨hLatest, hKeys⟩
    rw [← hGathered, ← hCompleted] at hLatest
    rw [← hGathered, ← hOwn] at hKeys
    exact ⟨hLatest, hKeys⟩

/-! ### The engine writes -/

theorem extracted_notMem_engineKeys : "extracted_variables" ∉ engineKeys := by decide

theorem lookup_write (event : GatheringEvent) (name : String) : (s.write engine event).gathered.lookup name =
      ((engineWrites engine s.gathered event).lookup name).or (s.gathered.lookup name) :=
  lookup_update nodup_engineWrites s.gathered name

theorem InOrder.writes_eq (h : InOrder s) (event : GatheringEvent) :
    engineWrites engine s.gathered event = engineWrites engine s.own event :=
  engineWrites_congr fun key hKey => h.own key (List.mem_cons_of_mem _ hKey)

theorem inOrder_write (h : InOrder s) (event : GatheringEvent) :
    InOrder (s.write engine event) ↔ KeepsLatest engine s event := by
  constructor
  · rintro ⟨hLatest, -⟩ name value hWritten number found hNewest
    have hAfter := hLatest name number found hNewest
    rw [lookup_write, hWritten] at hAfter
    exact (Option.some.inj hAfter).symm
  · intro hKeeps
    constructor
    · intro name number value hNewest
      rw [lookup_write]
      cases hWritten : (engineWrites engine s.gathered event).lookup name with
      | none => exact h.latest name number value hNewest
      | some written => exact congrArg some (hKeeps name written hWritten number value hNewest).symm
    · intro key hKey
      have hOwn : (s.write engine event).own.lookup key =
          ((engineWrites engine s.own event).lookup key).or (s.own.lookup key) :=
        lookup_update nodup_engineWrites s.own key
      rw [lookup_write, hOwn, h.writes_eq event, h.own key hKey]

theorem Answered.write (h : Answered s) (event : GatheringEvent) : Answered (s.write engine event) := by
  refine ⟨h.numbers, h.started, h.apart, ?_⟩
  intro value hValue
  have hOwn : (s.write engine event).own.lookup "extracted_variables" =
      ((engineWrites engine s.own event).lookup "extracted_variables").or
        (s.own.lookup "extracted_variables") :=
    lookup_update nodup_engineWrites s.own _
  rw [hOwn, engineWrites_other extracted_notMem_engineKeys] at hValue
  exact h.records value hValue

/-! ### An extraction starts -/

theorem begin_cases (h : s.begin engine = .ok next) : next = s ∨ ∃ names, next = { s with
      started := s.started ++ [names]
      pending := s.started.length :: s.pending } := by
  obtain ⟨prepared, -, rfl⟩ := Outcome.map_eq_ok_iff.mp h
  cases prepared with
  | none => exact .inl rfl
  | some extraction => exact .inr ⟨_, rfl⟩

theorem inOrder_begin (h : s.begin engine = .ok next) : InOrder next ↔ InOrder s := by
  obtain rfl | ⟨names, rfl⟩ := begin_cases h
  · rfl
  · exact inOrder_congr rfl rfl rfl

theorem Answered.begin (hAnswered : Answered s) (h : s.begin engine = .ok next) : Answered next := by
  obtain rfl | ⟨names, rfl⟩ := begin_cases h
  · exact hAnswered
  · refine ⟨?_, ?_, hAnswered.apart, hAnswered.records⟩
    · rw [List.cons_append, List.nodup_cons]
      exact ⟨fun hMem => Nat.lt_irrefl _ (hAnswered.started _ hMem), hAnswered.numbers⟩
    · intro number hNumber
      rw [List.length_append]
      obtain rfl | hOld := List.mem_cons.mp hNumber
      · simp
      · exact Nat.lt_succ_of_lt (hAnswered.started number hOld)

theorem keepsLatest_begin {event : GatheringEvent} (h : s.begin engine = .ok next) :
    KeepsLatest engine next event ↔ KeepsLatest engine s event := by
  obtain rfl | ⟨names, rfl⟩ := begin_cases h
  · rfl
  · rfl

/-! ### An extraction ends -/

theorem lookup_complete {task : Nat} {data : ExtractedData} (hKeys : (data.map Prod.fst).Nodup)
    {name : String} (hName : name ≠ "extracted_variables") :
    (s.complete task data).gathered.lookup name = (data.lookup name).or (s.gathered.lookup name) := by
  change (recordExtracted data (s.gathered.update data)).lookup name = _
  rw [lookup_recordExtracted_of_ne hName, lookup_update hKeys]

theorem Answered.not_isNewest (h : Answered s) {number : Nat} {value : Json}
    (hNewest : IsNewest (List.lookup "extracted_variables") s.completed number value) : False := by
  obtain ⟨⟨answer, hAnswer, hValue⟩, -⟩ := hNewest
  have hNone := h.apart _ hAnswer
  rw [hNone] at hValue
  cases hValue

theorem Answered.fresh (h : Answered s) {task : Nat} (hPending : task ∈ s.pending) :
    task ∉ s.completed.map Prod.fst :=
  fun hCompleted => (List.nodup_append.mp h.numbers).2.2 task hPending task hCompleted rfl

theorem Harmless.inOrder (h : InOrder s) (hAnswered : Answered s) {task : Nat} {data : ExtractedData}
    (hAnswers : s.Answers task data) (hHarmless : Harmless s task data) : InOrder (s.complete task data) := by
  obtain ⟨hPending, hKeys, -⟩ := hAnswers
  constructor
  · intro name number value hNewest
    cases hData : data.lookup name with
    | none =>
      have hOld := (isNewest_cons_of_none hData).mp hNewest
      have hName : name ≠ "extracted_variables" := by
        rintro rfl
        exact hAnswered.not_isNewest hOld
      rw [lookup_complete hKeys hName, hData]
      exact h.latest name number value hOld
    | some returned =>
      have hName : name ≠ "extracted_variables" := by
        rintro rfl
        rw [hHarmless.apart] at hData
        cases hData
      rw [lookup_complete hKeys hName, hData]
      obtain ⟨-, rfl, -⟩ | ⟨hLater, hOld⟩ :=
        (isNewest_cons_of_some hData (hAnswered.fresh hPending)).mp hNewest
      · rfl
      · exact congrArg some (hHarmless.later name returned hData number value hOld hLater).symm
  · intro key hKey
    obtain rfl | hEngine := List.mem_cons.mp hKey
    · apply lookup_recordExtracted
      rw [lookup_update hKeys, hHarmless.apart]
      exact h.own _ List.mem_cons_self
    · have hName : key ≠ "extracted_variables" := by
        rintro rfl
        exact extracted_notMem_engineKeys hEngine
      have hOwn : (s.complete task data).own.lookup key = s.own.lookup key :=
        lookup_recordExtracted_of_ne hName data s.own
      rw [lookup_complete hKeys hName, hOwn, ← h.own key hKey]
      cases hData : data.lookup key with
      | none => rfl
      | some value => exact (hHarmless.engineKeys key hEngine value hData).symm

theorem InOrder.harmless (h : InOrder s) (hAnswered : Answered s) {task : Nat} {data : ExtractedData}
    (hAnswers : s.Answers task data) (hNext : InOrder (s.complete task data)) : Harmless s task data := by
  obtain ⟨hPending, hKeys, -⟩ := hAnswers
  have hFresh := hAnswered.fresh hPending
  constructor
  · cases hData : data.lookup "extracted_variables" with
    | none => rfl
    | some value =>
      -- The record would have to hold itself.
      have hNewest : IsNewest (List.lookup "extracted_variables") (s.complete task data).completed task
          value := by
        refine (isNewest_cons_of_some hData hFresh).mpr (.inl ⟨rfl, rfl, ?_⟩)
        intro other hOther hSome
        rw [hAnswered.apart other hOther] at hSome
        cases hSome
      have hGathered := hNext.latest _ _ _ hNewest
      obtain ⟨recorded, hRecorded⟩ := exists_recorded data hAnswered.records
      have hValue : some value = some (.obj (Gathered.update recorded data)) :=
        hGathered.symm.trans ((hNext.own _ List.mem_cons_self).trans hRecorded)
      have hHeld : (Gathered.update recorded data).lookup "extracted_variables" =
          some (.obj (Gathered.update recorded data)) := by
        rw [lookup_update hKeys, hData]
        exact hValue
      exact (lookup_ne_self hHeld).elim
  · intro key hEngine value hData
    have hName : key ≠ "extracted_variables" := by
      rintro rfl
      exact extracted_notMem_engineKeys hEngine
    have hOwn : (s.complete task data).own.lookup key = s.own.lookup key :=
      lookup_recordExtracted_of_ne hName data s.own
    have hSame := hNext.own key (List.mem_cons_of_mem _ hEngine)
    rw [lookup_complete hKeys hName, hOwn, hData, ← h.own key (List.mem_cons_of_mem _ hEngine)] at hSame
    exact hSame.symm
  · intro name value hData number found hOld hLater
    have hName : name ≠ "extracted_variables" := by
      rintro rfl
      exact hAnswered.not_isNewest hOld
    have hNewest := (isNewest_cons_of_some hData hFresh).mpr (.inr ⟨hLater, hOld⟩)
    have hGathered := hNext.latest name number found hNewest
    rw [lookup_complete hKeys hName, hData] at hGathered
    exact (Option.some.inj hGathered).symm

theorem Answered.complete (h : Answered s) {task : Nat} {data : ExtractedData}
    (hAnswers : s.Answers task data) (hHarmless : Harmless s task data) :
    Answered (s.complete task data) := by
  obtain ⟨hPending, -, -⟩ := hAnswers
  have hPerm : (s.pending.erase task ++ task :: s.completed.map Prod.fst).Perm
      (s.pending ++ s.completed.map Prod.fst) :=
    List.perm_middle.trans (((List.perm_cons_erase hPending).symm).append_right _)
  refine ⟨hPerm.nodup_iff.mpr h.numbers, fun number hNumber => h.started number (hPerm.subset hNumber), ?_, ?_⟩
  · intro answer hAnswer
    obtain rfl | hOld := List.mem_cons.mp hAnswer
    · exact hHarmless.apart
    · exact h.apart answer hOld
  · intro value hValue
    obtain ⟨recorded, hRecorded⟩ := exists_recorded data h.records
    have hSame : value = .obj (Gathered.update recorded data) := Option.some.inj (hValue.symm.trans hRecorded)
    rw [hSame]
    rfl

theorem Answered.fail (h : Answered s) (task : Nat) :
    Answered { s with pending := s.pending.erase task } := by
  have hSub : (s.pending.erase task ++ s.completed.map Prod.fst).Sublist
      (s.pending ++ s.completed.map Prod.fst) := List.erase_sublist.append_right _
  exact ⟨h.numbers.sublist hSub, fun number hNumber => h.started number (hSub.subset hNumber), h.apart,
    h.records⟩

/-! ### Runs -/

theorem inOrder_enterNode (h : InOrder s) (nodeId : String) :
    InOrder (s.enterNode engine nodeId) ↔ KeepsLatest engine s (.transition nodeId) := by
  unfold GatheringState.enterNode
  split
  · rename_i hNode
    refine iff_of_true h ?_
    intro name value hWritten
    simp [engineWrites, hNode] at hWritten
  · have hWrite : InOrder (s.write engine (.transition nodeId)) ↔ KeepsLatest engine s (.transition nodeId) :=
      inOrder_write h (.transition nodeId)
    refine Iff.trans ?_ hWrite
    apply inOrder_congr
    · rfl
    · rfl
    · rfl

theorem Answered.enterNode (h : Answered s) (nodeId : String) : Answered (s.enterNode engine nodeId) := by
  unfold GatheringState.enterNode
  split
  · exact h
  · have hWritten : Answered (s.write engine (.transition nodeId)) := h.write (.transition nodeId)
    obtain ⟨hNumbers, hStarted, hApart, hRecords⟩ := hWritten
    exact ⟨hNumbers, hStarted, hApart, hRecords⟩

theorem keepsLatest_of_no_writes {event : GatheringEvent} (h : engineWrites engine s.gathered event = []) :
    KeepsLatest engine s event := by
  intro name value hWritten
  rw [h] at hWritten
  cases hWritten

theorem inOrder_step {event : GatheringEvent} (hAnswered : Answered s) (h : InOrder s)
    (hStep : (gathering engine).step s event = some next) :
    (InOrder next ↔ LeavesOrder engine s event) ∧ (InOrder next → Answered next) := by
  cases event with
  | transition nodeId =>
    simp only [gathering] at hStep
    split at hStep
    · rename_i begun hBegun
      obtain rfl := Option.some.inj hStep
      refine ⟨?_, fun _ => (hAnswered.begin hBegun).enterNode nodeId⟩
      rw [inOrder_enterNode ((inOrder_begin hBegun).mpr h), keepsLatest_begin hBegun, LeavesOrder, hBegun]
      exact ⟨fun hKeeps _ => hKeeps, fun hKeeps => hKeeps rfl⟩
    · rename_i error hError
      obtain rfl := Option.some.inj hStep
      refine ⟨iff_of_true h ?_, fun _ => hAnswered⟩
      intro hOk
      rw [hError] at hOk
      cases hOk
  | extractNow =>
    have hLeaves : LeavesOrder engine s .extractNow := keepsLatest_of_no_writes rfl
    simp only [gathering] at hStep
    split at hStep
    · rename_i begun hBegun
      obtain rfl := Option.some.inj hStep
      exact ⟨iff_of_true ((inOrder_begin hBegun).mpr h) hLeaves, fun _ => hAnswered.begin hBegun⟩
    · obtain rfl := Option.some.inj hStep
      exact ⟨iff_of_true h hLeaves, fun _ => hAnswered⟩
  | complete task data =>
    simp only [gathering] at hStep
    split at hStep
    · rename_i hAnswers
      obtain rfl := Option.some.inj hStep
      have hIff : InOrder (s.complete task data) ↔ Harmless s task data :=
        ⟨h.harmless hAnswered hAnswers, Harmless.inOrder h hAnswered hAnswers⟩
      exact ⟨hIff, fun hNext => hAnswered.complete hAnswers (hIff.mp hNext)⟩
    · cases hStep
  | fail task =>
    simp only [gathering] at hStep
    split at hStep
    · obtain rfl := Option.some.inj hStep
      have hSame : InOrder { s with pending := s.pending.erase task } ↔ InOrder s := by
        apply inOrder_congr
        · rfl
        · rfl
        · rfl
      exact ⟨iff_of_true (hSame.mpr h) (keepsLatest_of_no_writes rfl), fun _ => hAnswered.fail task⟩
    · cases hStep
  | endCallTool reason =>
    obtain rfl := Option.some.inj hStep
    exact ⟨inOrder_write h _, fun _ => hAnswered.write _⟩
  | externalTransfer =>
    obtain rfl := Option.some.inj hStep
    exact ⟨inOrder_write h _, fun _ => hAnswered.write _⟩

def newCall : GatheringState where
  gathered := []
  own := []

/-- In every order in which nodes are entered, tools are called and extractions are started and end, what is
gathered stays in order exactly if each step leaves it so. -/
theorem extractions_in_order_iff (engine : PipecatEngine) {events : List GatheringEvent}
    {last : GatheringState} (hRun : (gathering engine).run newCall events = some last) :
    (∀ n mid, (gathering engine).run newCall (events.take n) = some mid → InOrder mid) ↔
      (gathering engine).Follows (LeavesOrder engine) newCall events := by
  refine Machine.throughout_iff (K := Answered) (fun s event next => inOrder_step) hRun ?_ ?_
  · refine ⟨List.nodup_nil, ?_, ?_, ?_⟩
    · simp [newCall]
    · simp [newCall]
    · simp [newCall, Records]
  · refine ⟨?_, fun _ _ => rfl⟩
    intro name number value hNewest
    exact (not_isNewest_nil hNewest).elim

end Runs

/-! ## Two nodes that ask for the same variable -/

def visitedNode (name : String) (names : List String) : DefinitionNode where
  id := name
  type := .agentNode
  data :=
    { name := name
      extractionEnabled := true
      extractionVariables := names.map fun name => ⟨name, none⟩ }

def cityEngine : PipecatEngine where
  host := ⟨id, id, fun _ => none⟩
  definition :=
    { nodes := [visitedNode "ask" ["city"], visitedNode "confirm" ["city"], visitedNode "close" []]
      edges := []
      endsClosed := fun _ _ _ _ _ hEdge => nomatch hEdge }
  callContextVars := .obj []
  hasRecordings := false

def inAsk : GatheringState where
  currentNode := some (visitedNode "ask" ["city"])
  gathered := [("nodes_visited", .arr [.str "ask"])]
  own := [("nodes_visited", .arr [.str "ask"])]

def inClose : GatheringState where
  currentNode := some (visitedNode "close" [])
  gathered := [("nodes_visited", .arr [.str "ask", .str "close"])]
  own := [("nodes_visited", .arr [.str "ask", .str "close"])]
  started := [["city"]]
  pending := [0]

theorem keepsLatest_of_unanswered {engine : PipecatEngine} {s : GatheringState} {event : GatheringEvent}
    (h : s.completed = []) : KeepsLatest engine s event := by
  intro name value _ number found hNewest
  rw [h] at hNewest
  exact (not_isNewest_nil hNewest).elim

theorem harmless_city {s : GatheringState} {task : Nat} (answer : String)
    (h : ∀ other ∈ s.completed, other.1 ≤ task) : Harmless s task [("city", .str answer)] := by
  refine ⟨rfl, ?_, ?_⟩
  · intro key hKey value hData
    rw [Json.lookup_cons] at hData
    split at hData
    · rename_i hCity
      rw [hCity] at hKey
      exact absurd hKey (by decide)
    · cases hData
  · rintro name value - number found ⟨⟨data, hMem, -⟩, -⟩ hLater
    exact absurd (h _ hMem) (Nat.not_le.mpr hLater)

theorem visit_in_order : InOrder (inClose.complete 0 [("city", .str "Pune")]) := by
  have hAsk : (gathering cityEngine).step newCall (.transition "ask") = some inAsk := rfl
  have hClose : (gathering cityEngine).step inAsk (.transition "close") = some inClose := rfl
  have hRun : (gathering cityEngine).run newCall
      [.transition "ask", .transition "close", .complete 0 [("city", .str "Pune")]] =
        some (inClose.complete 0 [("city", .str "Pune")]) := rfl
  refine (extractions_in_order_iff cityEngine hRun).mpr ?_ 3 _ hRun
  apply Machine.Follows.cons hAsk
  · exact fun _ => keepsLatest_of_unanswered rfl
  apply Machine.Follows.cons hClose
  · exact fun _ => keepsLatest_of_unanswered rfl
  exact ⟨harmless_city "Pune" (fun _ hOther => nomatch hOther), fun _ _ => trivial⟩

theorem earlier_answer_wins : ¬ ∀ (engine : PipecatEngine) (events : List GatheringEvent) (last : GatheringState),
    (gathering engine).run newCall (events ++ [.extractNow]) = some last → last.pending = [] →
      InOrder last := by
  intro h
  have hRun : (gathering cityEngine).run newCall
      ([.transition "ask", .transition "confirm", .transition "close", .complete 1 [("city", .str "Delhi")],
        .complete 0 [("city", .str "Pune")]] ++ [.extractNow]) =
      some
        { currentNode := some (visitedNode "close" [])
          gathered := [("nodes_visited", .arr [.str "ask", .str "confirm", .str "close"]),
            ("city", .str "Pune"), ("extracted_variables", .obj [("city", .str "Pune")])]
          own := [("nodes_visited", .arr [.str "ask", .str "confirm", .str "close"]),
            ("extracted_variables", .obj [("city", .str "Pune")])]
          started := [["city"], ["city"]]
          completed := [(0, [("city", .str "Pune")]), (1, [("city", .str "Delhi")])] } := rfl
  have hNewest : IsNewest (List.lookup "city")
      [(0, [("city", Json.str "Pune")]), (1, [("city", .str "Delhi")])] 1 (.str "Delhi") := by
    refine ⟨⟨_, List.mem_cons_of_mem _ List.mem_cons_self, rfl⟩, ?_⟩
    intro other hOther _
    obtain rfl | hSecond := List.mem_cons.mp hOther
    · exact Nat.zero_le 1
    · obtain rfl := List.mem_singleton.mp hSecond
      exact Nat.le_refl 1
  have hGathered : some (Json.str "Pune") = some (.str "Delhi") :=
    (h _ _ _ hRun rfl).latest "city" 1 _ hNewest
  injection hGathered with hValue
  injection hValue with hText
  exact absurd hText (by decide)

end FastVoice.Engine
