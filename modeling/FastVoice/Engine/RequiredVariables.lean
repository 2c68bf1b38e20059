import FastVoice.Engine.Templates
import FastVoice.Workflows.Graph

/-! # The variables that a workflow expects

The check reads the placeholders of a text, and rendering fills them. The two disagree about the variables that the
clock supplies.
-/
namespace FastVoice.Engine
open Python Workflows

def variablesOf (text : String) : List TemplateVariable := (segments text).filterMap Sum.getRight?

def systemVariables : List String := ["campaign_id", "provider", "source_uuid"]

/-- Without a dot in the path and without a filter. -/
def TemplateVariable.isPlain (found : TemplateVariable) : Bool :=
  !found.path.toList.contains '.' && found.filterName.isNone

def extractTemplateVariables (text : String) : List String :=
  ((variablesOf text).filter fun found => found.isPlain && !systemVariables.contains found.path).map (·.path)

/-- A node of the graph. Only some types of nodes have texts. -/
structure SpeakingNode where
  nodeType : NodeType
  prompt : Option String
  greeting : Option String
  prompted : prompt ≠ none → nodeType ∈ [.startNode, .agentNode, .endNode, .globalNode]
  greets : greeting ≠ none → nodeType = .startNode

structure SpeakingEdge where
  transitionSpeech : Option String

structure SpeakingGraph where
  nodes : List SpeakingNode
  edges : List SpeakingEdge

def extractOptional (text : Option String) : List String := (text.map extractTemplateVariables).getD []

namespace SpeakingGraph

variable (graph : SpeakingGraph)

def getRequiredTemplateVariables : List String :=
  (graph.nodes.flatMap fun node =>
    (if node.nodeType ∈ [.startNode, .agentNode, .endNode, .globalNode] then extractOptional node.prompt else []) ++
      if node.nodeType = .startNode then extractOptional node.greeting else []) ++
    graph.edges.flatMap fun edge => extractOptional edge.transitionSpeech

def texts : List String :=
  (graph.nodes.flatMap fun node => node.prompt.toList ++ node.greeting.toList) ++
    graph.edges.flatMap fun edge => edge.transitionSpeech.toList

theorem mem_required_iff {name : String} : name ∈ graph.getRequiredTemplateVariables ↔
    ∃ text ∈ graph.texts, name ∈ extractTemplateVariables text := by
  have hOptional (text : Option String) : name ∈ extractOptional text ↔
      ∃ shown ∈ text.toList, name ∈ extractTemplateVariables shown := by
    cases text <;> simp [extractOptional]
  have hNode (node : SpeakingNode) :
      name ∈ (if node.nodeType ∈ [.startNode, .agentNode, .endNode, .globalNode] then extractOptional node.prompt
        else []) ++ (if node.nodeType = .startNode then extractOptional node.greeting else []) ↔
      ∃ shown ∈ node.prompt.toList ++ node.greeting.toList, name ∈ extractTemplateVariables shown := by
    have hPrompt : (if node.nodeType ∈ [.startNode, .agentNode, .endNode, .globalNode] then extractOptional node.prompt
        else []) = extractOptional node.prompt := by
      split
      · rfl
      · rename_i hType
        rw [Classical.not_not.mp (mt node.prompted hType)]
        rfl
    have hGreeting : (if node.nodeType = .startNode then extractOptional node.greeting else []) =
        extractOptional node.greeting := by
      split
      · rfl
      · rename_i hType
        rw [Classical.not_not.mp (mt node.greets hType)]
        rfl
    rw [hPrompt, hGreeting, List.mem_append, hOptional, hOptional]
    simp only [List.mem_append, or_and_right, exists_or]
  rw [getRequiredTemplateVariables, texts, List.mem_append, List.mem_flatMap, List.mem_flatMap]
  simp only [hNode, hOptional, List.mem_append, List.mem_flatMap]
  grind

end SpeakingGraph

/-- The times that the clock shows are not empty. -/
def Shows (host : Host) : Prop := ∀ key clock, host.zone key = some clock → clock.1 ≠ "" ∧ clock.2 ≠ ""

/-- A variable of the clock, whose zone is that of the text or one that is known. -/
def ClockVariable (host : Host) (path : String) : Prop :=
  usesDefaultZone path = true ∨
    ((afterPrefix "current_time_" path).bind host.zone).isSome = true ∨
    afterPrefix "current_time_" path = none ∧ ((afterPrefix "current_weekday_" path).bind host.zone).isSome = true

instance (host : Host) (path : String) : Decidable (ClockVariable host path) := by
  unfold ClockVariable
  infer_instance

/-- No other entries than those that the system adds. -/
def OnlySystem (context : Json) : Prop :=
  ∃ entries, context = .obj entries ∧ ∀ entry ∈ entries, entry.1 ∈ systemVariables

def substitute (host : Host) (text : String) (context : Json) (found : TemplateVariable) :
    Except RenderError (List Char) :=
  renderSegment host context (extractTimezoneFromTemplate text) (.inr found)

/-- A placeholder is asked for when the system's variables leave it empty. -/
def Agrees (host : Host) (text : String) : Prop :=
  ∀ found ∈ variablesOf text, found.isPlain = true →
    (found.path ∈ extractTemplateVariables text ↔
      ∀ context, OnlySystem context → substitute host text context found = .ok [])

def NoClock (host : Host) (text : String) : Prop :=
  ∀ found ∈ variablesOf text, found.isPlain = true → ¬ClockVariable host found.path

instance (host : Host) (text : String) : Decidable (NoClock host text) := by
  unfold NoClock
  infer_instance

section

variable {host : Host} {path text : String} {found : TemplateVariable} {context : Json}

theorem defaultZone_ne {defaultTz : Option String} {part : String × String → String}
    (hPart : ∀ key clock, host.zone key = some clock → part clock ≠ "") :
    (defaultZone host defaultTz).map (fun clock => some (part clock)) ≠ .ok none ∧
      (defaultZone host defaultTz).map (fun clock => some (part clock)) ≠ .ok (some "") := by
  rw [defaultZone]
  cases hZone : host.zone (defaultTz.getD "UTC") with
  | none =>
    constructor
    · intro hEmpty
      cases hEmpty
    · intro hEmpty
      cases hEmpty
  | some clock =>
    refine ⟨?_, fun hEmpty => hPart _ _ hZone ?_⟩
    · intro hEmpty
      cases hEmpty
    injection hEmpty with hEmpty
    injection hEmpty

theorem shown_of_isSome {key : Option String} {part : String × String → String}
    (hPart : ∀ key clock, host.zone key = some clock → part clock ≠ "")
    (hKnown : (key.bind host.zone).isSome = true) : key.bind (fun key => (host.zone key).map part) ≠ none ∧
      key.bind (fun key => (host.zone key).map part) ≠ some "" := by
  obtain ⟨clock, hClock⟩ := Option.isSome_iff_exists.mp hKnown
  obtain ⟨key, rfl, hZone⟩ := Option.bind_eq_some_iff.mp hClock
  rw [Option.bind_some, hZone]
  exact ⟨nofun, fun hEmpty => hPart _ _ hZone (Option.some.inj hEmpty)⟩

theorem bind_eq_none_of_not_isSome {key : Option String} {part : String × String → String}
    (hUnknown : ¬(key.bind host.zone).isSome = true) :
    key.bind (fun key => (host.zone key).map part) = none := by
  cases key with
  | none => rfl
  | some key =>
    rw [Option.bind_some, Option.not_isSome_iff_eq_none] at hUnknown
    rw [Option.bind_some, hUnknown]
    rfl

theorem resolveBuiltinVariable_of_clock (hShows : Shows host) (hClock : ClockVariable host path)
    (defaultTz : Option String) : resolveBuiltinVariable host path defaultTz ≠ .ok none ∧
      resolveBuiltinVariable host path defaultTz ≠ .ok (some "") := by
  have hTime : ∀ key clock, host.zone key = some clock → clock.1 ≠ "" :=
    fun key clock h => (hShows key clock h).1
  have hDay : ∀ key clock, host.zone key = some clock → clock.2 ≠ "" :=
    fun key clock h => (hShows key clock h).2
  unfold resolveBuiltinVariable
  split
  · exact defaultZone_ne hTime
  · rename_i hNotTime
    split
    · exact defaultZone_ne hDay
    · rename_i hNotDay
      rcases hClock with hUses | hKnown | ⟨hNone, hKnown⟩
      · simp [usesDefaultZone, hNotTime, hNotDay] at hUses
      · cases hPrefix : afterPrefix "current_time_" path with
        | none => simp [hPrefix] at hKnown
        | some key =>
          have hShown := shown_of_isSome hTime (hPrefix ▸ hKnown)
          exact ⟨fun h => hShown.1 (Except.ok.inj h), fun h => hShown.2 (Except.ok.inj h)⟩
      · rw [hNone]
        have hShown := shown_of_isSome hDay hKnown
        exact ⟨fun h => hShown.1 (Except.ok.inj h), fun h => hShown.2 (Except.ok.inj h)⟩

theorem resolveBuiltinVariable_of_not_clock {defaultTz : Option String} (hClock : ¬ClockVariable host path) :
    resolveBuiltinVariable host path defaultTz = .ok none := by
  rw [ClockVariable, not_or, not_or] at hClock
  obtain ⟨hUses, hTime, hDay⟩ := hClock
  have hNotTime : path ≠ "current_time" := fun h => hUses (by rw [h]; rfl)
  have hNotDay : path ≠ "current_weekday" := fun h => hUses (by rw [h]; rfl)
  unfold resolveBuiltinVariable
  rw [if_neg hNotTime, if_neg hNotDay]
  split
  · rename_i key hPrefix
    rw [hPrefix] at hTime
    exact congrArg Except.ok (bind_eq_none_of_not_isSome hTime)
  · rename_i hPrefix
    exact congrArg Except.ok (bind_eq_none_of_not_isSome fun hKnown => hDay ⟨hPrefix, hKnown⟩)

theorem filterAt_path {chars tail : List Char} (h : filterAt path chars = some (found, tail)) :
    found.path = path := by
  unfold filterAt at h
  grind

theorem variableAt_path {chars tail : List Char} (h : variableAt chars = some (found, tail)) :
    found.path ≠ "" := by
  unfold variableAt at h
  split at h
  · dsimp only at h
    split at h
    · nomatch h
    · rename_i hPath
      rw [filterAt_path h]
      exact fun hEmpty => hPath (String.ofList_eq_empty_iff.mp hEmpty)
  · nomatch h

theorem path_ne_of_mem (hFound : found ∈ variablesOf text) : found.path ≠ "" := by
  obtain ⟨segment, hSegment, hRight⟩ := List.mem_filterMap.mp hFound
  cases segment with
  | inl c => nomatch hRight
  | inr other =>
    cases Option.some.inj hRight
    revert hSegment
    rw [segments]
    generalize text.toList = chars
    generalize 0 = skip
    intro hSegment
    induction skip, chars using segmentsFrom.induct with
    | case1 => rw [segmentsFrom] at hSegment; exact absurd hSegment List.not_mem_nil
    | case2 skip c chars ih => rw [segmentsFrom] at hSegment; exact ih hSegment
    | case3 c chars found tail hAt ih =>
      rw [segmentsFrom, hAt] at hSegment
      rcases List.mem_cons.mp hSegment with hHere | hLater
      · cases hHere
        exact variableAt_path hAt
      · exact ih hLater
    | case4 c chars hAt ih =>
      rw [segmentsFrom, hAt] at hSegment
      rcases List.mem_cons.mp hSegment with hHere | hLater
      · nomatch hHere
      · exact ih hLater

theorem not_contains_of_isPlain (hPlain : found.isPlain = true) : '.' ∉ found.path.toList := by
  rw [TemplateVariable.isPlain, Bool.and_eq_true] at hPlain
  simpa using hPlain.1

theorem filterName_of_isPlain (hPlain : found.isPlain = true) : found.filterName = none := by
  rw [TemplateVariable.isPlain, Bool.and_eq_true] at hPlain
  exact Option.isNone_iff_eq_none.mp hPlain.2

theorem afterPrefix_initialContext (hDot : '.' ∉ path.toList) : afterPrefix "initial_context." path = none := by
  rw [afterPrefix, if_neg]
  intro hPrefix
  exact hDot ((List.isPrefixOf_iff_prefix.mp hPrefix).subset (by decide))

theorem contextValue_of_undotted (hDot : '.' ∉ path.toList) (hPath : path ≠ "") :
    contextValue context path = context.get path := by
  have hSplit : path.toList.splitOn '.' = [path.toList] := by
    rw [List.splitOn_eq_splitOnP]
    exact List.splitOnP_eq_singleton fun c hc => beq_false_of_ne fun hSame => hDot (hSame ▸ hc)
  have hNested : getNestedValue context path = context.get path := by
    rw [getNestedValue, if_neg hPath, hSplit, List.foldl_cons, List.foldl_nil, String.ofList_toList]
  rw [contextValue, hNested, afterPrefix_initialContext hDot]
  split
  · rename_i hNull
    rw [hNull]
    rfl
  · rfl

theorem substitute_of_not_clock (hFound : found ∈ variablesOf text) (hPlain : found.isPlain = true)
    (hClock : ¬ClockVariable host found.path) :
    substitute host text context found = .ok (shownValue (context.get found.path)).toList := by
  rw [substitute, renderSegment, resolveTemplateValue, resolveBuiltinVariable_of_not_clock hClock,
    filterName_of_isPlain hPlain,
    contextValue_of_undotted (not_contains_of_isPlain hPlain) (path_ne_of_mem hFound)]
  rfl

theorem substitute_of_clock (hShows : Shows host) (hClock : ClockVariable host found.path) :
    substitute host text context found ≠ .ok [] := by
  obtain ⟨hNone, hBlank⟩ :=
    resolveBuiltinVariable_of_clock hShows hClock (extractTimezoneFromTemplate text)
  rw [substitute, renderSegment, resolveTemplateValue]
  intro hEmpty
  generalize resolveBuiltinVariable host found.path (extractTimezoneFromTemplate text) = builtin at *
  cases builtin with
  | error => cases hEmpty
  | ok value =>
    cases value with
    | none => exact hNone rfl
    | some value =>
      have hValue : value.toList = [] := Except.ok.inj hEmpty
      exact hBlank (by rw [String.toList_eq_nil_iff.mp hValue])

theorem mem_extract_iff (hFound : found ∈ variablesOf text) (hPlain : found.isPlain = true) :
    found.path ∈ extractTemplateVariables text ↔ found.path ∉ systemVariables := by
  rw [extractTemplateVariables, List.mem_map]
  constructor
  · rintro ⟨other, hOther, hPath⟩
    rw [← hPath]
    have hKept := (List.mem_filter.mp hOther).2
    simp only [Bool.and_eq_true, Bool.not_eq_true', List.contains_eq_mem, decide_eq_false_iff_not] at hKept
    exact hKept.2
  · intro hSystem
    exact ⟨found, List.mem_filter.mpr ⟨hFound, by simpa [hPlain] using hSystem⟩, rfl⟩

theorem notMem_systemVariables_of_clock (hClock : ClockVariable host path) : path ∉ systemVariables := by
  have hAll : ∀ name ∈ systemVariables, usesDefaultZone name = false ∧
      afterPrefix "current_time_" name = none ∧ afterPrefix "current_weekday_" name = none := by
    decide
  intro hSystem
  obtain ⟨hUses, hTime, hDay⟩ := hAll path hSystem
  rcases hClock with h | h | ⟨-, h⟩
  · simp [hUses] at h
  · simp [hTime] at h
  · simp [hDay] at h

theorem get_of_onlySystem (hOnly : OnlySystem context) (hPath : path ∉ systemVariables) :
    context.get path = .null := by
  obtain ⟨entries, rfl, hEntries⟩ := hOnly
  have hNone : entries.lookup path = none := by
    rw [List.lookup_eq_none_iff]
    exact fun entry hEntry => by simpa using fun hSame : path = entry.1 => hPath (hSame ▸ hEntries entry hEntry)
  rw [Json.get, hNone]
  rfl

theorem onlySystem_empty : OnlySystem (.obj []) := ⟨[], rfl, fun _ h => absurd h List.not_mem_nil⟩

theorem onlySystem_single {name : String} (hName : name ∈ systemVariables) (value : Json) :
    OnlySystem (.obj [(name, value)]) := by
  refine ⟨_, rfl, fun entry hEntry => ?_⟩
  rw [List.mem_singleton.mp hEntry]
  exact hName

theorem agrees_iff (hShows : Shows host) (text : String) : Agrees host text ↔ NoClock host text := by
  constructor
  · intro hAgrees found hFound hPlain hClock
    have hAsked := (mem_extract_iff hFound hPlain).mpr (notMem_systemVariables_of_clock hClock)
    exact substitute_of_clock hShows hClock ((hAgrees found hFound hPlain).mp hAsked _ onlySystem_empty)
  · intro hClock found hFound hPlain
    rw [mem_extract_iff hFound hPlain]
    constructor
    · intro hSystem context hOnly
      rw [substitute_of_not_clock hFound hPlain (hClock found hFound hPlain), get_of_onlySystem hOnly hSystem]
      rfl
    · intro hEmpty hSystem
      have hShown := hEmpty _ (onlySystem_single hSystem (.str "x"))
      rw [substitute_of_not_clock hFound hPlain (hClock found hFound hPlain), Json.get, List.lookup_cons,
        beq_self_eq_true] at hShown
      have hText : "x".toList = [] := Except.ok.inj hShown
      exact absurd hText (by decide)

end

namespace SpeakingGraph

variable (host : Host) (graph : SpeakingGraph)

def IsSupplied (context : Json) : Prop :=
  ∀ name, name ∈ graph.getRequiredTemplateVariables ∨ name ∈ systemVariables → shownValue (context.get name) ≠ ""

def ShowsAll (context : Json) : Prop :=
  ∀ text ∈ graph.texts, ∀ found ∈ variablesOf text, found.isPlain = true →
    substitute host text context found ≠ .ok []

/-- What is asked for would be empty in some context. -/
def AsksForMissing : Prop :=
  ∀ text ∈ graph.texts, ∀ found ∈ variablesOf text, found.isPlain = true →
    found.path ∈ graph.getRequiredTemplateVariables → ∃ context, substitute host text context found = .ok []

variable {host} {graph}

theorem showsAll_of_isSupplied (hShows : Shows host) {context : Json} (hSupplied : graph.IsSupplied context) :
    graph.ShowsAll host context := by
  intro text hText found hFound hPlain
  by_cases hClock : ClockVariable host found.path
  · exact substitute_of_clock hShows hClock
  · rw [substitute_of_not_clock hFound hPlain hClock]
    intro hEmpty
    refine hSupplied found.path ?_ (String.toList_eq_nil_iff.mp (Except.ok.inj hEmpty))
    refine Classical.or_iff_not_imp_right.mpr fun hSystem => ?_
    exact (mem_required_iff graph).mpr ⟨text, hText, (mem_extract_iff hFound hPlain).mpr hSystem⟩

theorem asksForMissing_iff (hShows : Shows host) :
    graph.AsksForMissing host ↔ ∀ text ∈ graph.texts, NoClock host text := by
  constructor
  · intro hAsks text hText found hFound hPlain hClock
    have hAsked : found.path ∈ graph.getRequiredTemplateVariables := (mem_required_iff graph).mpr
      ⟨text, hText, (mem_extract_iff hFound hPlain).mpr (notMem_systemVariables_of_clock hClock)⟩
    obtain ⟨context, hEmpty⟩ := hAsks text hText found hFound hPlain hAsked
    exact substitute_of_clock hShows hClock hEmpty
  · intro hClock text hText found hFound hPlain hAsked
    refine ⟨.obj [], ?_⟩
    rw [substitute_of_not_clock hFound hPlain (hClock text hText found hFound hPlain)]
    rfl

end SpeakingGraph

/-- The check of a text agrees with rendering it, and a graph asks only for what rendering would leave empty, exactly
when no plain placeholder is a variable of the clock. The data that a graph asks for always fills it. -/
theorem required_variables_iff {host : Host} (hShows : Shows host) :
    (∀ text, Agrees host text ↔ NoClock host text) ∧
    ∀ graph : SpeakingGraph, (∀ context, graph.IsSupplied context → graph.ShowsAll host context) ∧
      (graph.AsksForMissing host ↔ ∀ text ∈ graph.texts, NoClock host text) :=
  ⟨agrees_iff hShows, fun _ => ⟨fun _ hSupplied => SpeakingGraph.showsAll_of_isSupplied hShows hSupplied,
    SpeakingGraph.asksForMissing_iff hShows⟩⟩

def utcHost : Host := ⟨id, id, fun key => if key = "UTC" then some ("2024-05-01 09:30:00 UTC", "Wednesday") else none⟩

def timeGreeting : SpeakingGraph :=
  ⟨[⟨.startNode, none, some "It is \x7b\x7bcurrent_time\x7d\x7d.", fun h => absurd rfl h, fun _ => rfl⟩], []⟩

theorem shows_utcHost : Shows utcHost := by
  intro key clock hZone
  rw [utcHost] at hZone
  dsimp only at hZone
  split at hZone
  · cases hZone
    decide
  · nomatch hZone

theorem required_variables_utc :
    (∀ text, Agrees utcHost text ↔ NoClock utcHost text) ∧
    ∀ graph : SpeakingGraph, (∀ context, graph.IsSupplied context → graph.ShowsAll utcHost context) ∧
      (graph.AsksForMissing utcHost ↔ ∀ text ∈ graph.texts, NoClock utcHost text) :=
  required_variables_iff shows_utcHost

theorem time_is_required : timeGreeting.getRequiredTemplateVariables = ["current_time"] ∧
    renderTemplate utcHost "It is \x7b\x7bcurrent_time\x7d\x7d." (.obj []) = .ok "It is 2024-05-01 09:30:00 UTC." ∧
    ¬Agrees utcHost "It is \x7b\x7bcurrent_time\x7d\x7d." ∧ ¬timeGreeting.AsksForMissing utcHost := by
  refine ⟨by decide +kernel, by decide +kernel, fun hAgrees => ?_, fun hAsks => ?_⟩
  · exact absurd ((agrees_iff shows_utcHost _).mp hAgrees) (by decide +kernel)
  · have hClock := (SpeakingGraph.asksForMissing_iff shows_utcHost).mp hAsks
    exact absurd (hClock _ (List.mem_singleton.mpr rfl)) (by decide +kernel)

end FastVoice.Engine
