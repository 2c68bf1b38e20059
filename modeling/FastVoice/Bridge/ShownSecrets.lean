import FastVoice.Bridge.SourcePieces
import FastVoice.Bridge.WorkingCopy
import FastVoice.Configuration.MaskedAlike

/-! # Secrets in generated source

Two definitions that are masked alike are shown alike by the routes. Their source is the same exactly if there
is none, or each secret is printed alike.
-/
namespace FastVoice.Bridge
open Python Configuration

variable {F : Type} {py : Interpreter F} {unicode : Unicode} {printer : Printer F} {loads : JsonNumber → Number F}
  {showList : List String → String}

theorem authored_append {properties : List (PropertySpec F)} (before after : Fields F) :
    authored py properties (before ++ after) = authored py properties before ++ authored py properties after := by
  simp [authored, knownData, withoutDefaults]

def secretOfType : Workflows.NodeType → Option String
  | .qa => some "qa_api_key"
  | .noveum => some "noveum_api_key"
  | .paygent => some "paygent_api_key"
  | .tuner => some "tuner_api_key"
  | _ => none

theorem secretFields_typeName (type : Workflows.NodeType) :
    secretFieldsForNodeType (some (typeName type)) = (secretOfType type).toList := by
  cases type <;> rfl

theorem typeName_of_typeOfName {name : String} {type : Workflows.NodeType} (h : typeOfName name = some type) :
    typeName type = name := by
  have hFound := List.find?_some (p := fun type => decide (typeName type = name)) h
  exact of_decide_eq_true hFound

theorem authored_entry {type : Workflows.NodeType} {field : String} (hField : secretOfType type = some field)
    (value : Value F) (after : Fields F) : authored py (nodeProperties py type) ((field, value) :: after) =
      (field, value) :: authored py (nodeProperties py type) after := by
  cases type <;> cases hField <;> rfl

theorem authored_secret {type : Workflows.NodeType} {name field : String} (hType : typeOfName name = some type)
    (hField : field ∈ secretFieldsForNodeType (some name)) (value : Value F) (after : Fields F) :
    authored py (nodeProperties py type) ((field, value) :: after) =
      (field, value) :: authored py (nodeProperties py type) after := by
  rw [← typeName_of_typeOfName hType, secretFields_typeName, Option.mem_toList] at hField
  exact authored_entry hField value after

theorem fieldsOf_append (before after : List (String × Json)) :
    fieldsOf loads (before ++ after) = fieldsOf loads before ++ fieldsOf loads after := List.map_append

variable (printer loads) in
def SecretsPrintAlike (node node' : Configuration.Node) : Prop := ∀ field ∈ node.secretFields,
  printed printer (valueOf loads (node.data.get field)) = printed printer (valueOf loads (node'.data.get field))

theorem name_notMem_secretFields (type : Option String) : "name" ∉ secretFieldsForNodeType type := by
  unfold secretFieldsForNodeType
  split <;> simp

theorem get_entry {before after : List (String × Json)} {field : String} (value : Json)
    (hFresh : field ∉ before.map Prod.fst) : (Json.obj (before ++ (field, value) :: after)).get field = value := by
  have hNone : before.lookup field = none := List.lookup_eq_none_iff.mpr fun entry hEntry => by
    have hOther : field ≠ entry.1 := fun hSame => hFresh (List.mem_map.mpr ⟨entry, hEntry, hSame.symm⟩)
    simpa using hOther
  simp [Json.get, List.lookup_append, hNone]

section Nodes

variable {node node' : Configuration.Node}

variable (py printer) in
theorem nodeLine_alike {type : Workflows.NodeType} (h : maskNode showList node = maskNode showList node')
    (hType : typeOfName (rawNode loads node).type = some type) (bound : String) :
    SameButData (nodeLine py (rawNode loads node) type bound) (nodeLine py (rawNode loads node') type bound) ∧
      ((nodeLine py (rawNode loads node) type bound).values.map (printed printer) =
          (nodeLine py (rawNode loads node') type bound).values.map (printed printer) ↔
        SecretsPrintAlike printer loads node node') := by
  obtain ⟨-, -, hSame | ⟨field, hField, hDiffers⟩⟩ := maskNode_inj h
  · have hData : (rawNode loads node).data = (rawNode loads node').data := congrArg (rawData loads) hSame
    rw [nodeLine, nodeLine, hData]
    refine ⟨.same _, iff_of_true rfl fun field _ => ?_⟩
    rw [hSame]
  · have hAll : SecretsPrintAlike printer loads node node' ↔ printed printer (valueOf loads (node.data.get field)) =
        printed printer (valueOf loads (node'.data.get field)) := by
      rw [SecretsPrintAlike, hField]
      simp
    rw [hAll]
    obtain ⟨id, nodeType, data⟩ := node
    obtain ⟨id', nodeType', data'⟩ := node'
    dsimp only at hDiffers ⊢
    cases hDiffers with
    | same => exact ⟨.same _, iff_of_true rfl rfl⟩
    | entry before after value value' hFresh =>
      have hSecret : field ∈ secretFieldsForNodeType (some (nodeType.getD "None")) := by
        cases nodeType with
        | none => cases hField
        | some name =>
          have hFields : secretFieldsForNodeType (some name) = [field] := hField
          simp [hFields]
      have hAuthored : ∀ value, authored py (nodeProperties py type)
          (fieldsOf loads (before ++ (field, value) :: after)) =
            authored py (nodeProperties py type) (fieldsOf loads before) ++
              (field, valueOf loads value) :: authored py (nodeProperties py type) (fieldsOf loads after) := by
        intro value
        rw [fieldsOf_append, authored_append]
        exact congrArg _ (authored_secret hType hSecret _ _)
      rw [get_entry value hFresh, get_entry value' hFresh]
      simp only [nodeLine, rawNode, rawData, Option.getD_some, hAuthored, Line.values]
      constructor
      · exact .node bound type (by simp)
      · simp

theorem rawName_alike (h : maskNode showList node = maskNode showList node') :
    rawName py printer (rawNode loads node) = rawName py printer (rawNode loads node') := by
  obtain ⟨hId, -, hSame | ⟨field, hField, hDiffers⟩⟩ := maskNode_inj h
  · simp only [rawName, rawNode, hId, hSame]
  · have hName : ("name" == field) = false := by
      rw [beq_eq_false_iff_ne]
      rintro rfl
      have hFields : secretFieldsForNodeType node.type = ["name"] := hField
      exact name_notMem_secretFields node.type (by simp [hFields])
    have hLookup : ((rawData loads node.data).getD []).lookup "name" =
        ((rawData loads node'.data).getD []).lookup "name" := by
      obtain ⟨id, nodeType, data⟩ := node
      obtain ⟨id', nodeType', data'⟩ := node'
      cases hDiffers with
      | same => rfl
      | entry before after value value' hFresh =>
        simp [rawData, fieldsOf, List.lookup_append, List.lookup_cons, hName]
    simp only [rawName, rawNode, hId, hLookup]

end Nodes

section Source

theorem variablesFrom_congr {nodes nodes' : List (RawNode F)}
    (h : nodes.map (rawName py printer) = nodes'.map (rawName py printer)) (used : List String) :
    variablesFrom py unicode printer used nodes = variablesFrom py unicode printer used nodes' := by
  induction nodes generalizing nodes' used with
  | nil =>
    obtain rfl : nodes' = [] := by simpa using h.symm
    rfl
  | cons node nodes ih =>
    cases nodes' with
    | nil => simp at h
    | cons node' nodes' =>
      obtain ⟨hName, hRest⟩ := List.cons.inj h
      rw [variablesFrom, variablesFrom, hName, ih hRest]

theorem length_variablesFrom (nodes : List (RawNode F)) (used : List String) :
    (variablesFrom py unicode printer used nodes).length = nodes.length := by
  induction nodes generalizing used with
  | nil => rfl
  | cons node nodes ih => simp [variablesFrom, ih]

/-- A node has a type that is not specified, or an edge leads to no node. -/
def HasNoSource (definition : Definition) : Prop :=
  (∃ node ∈ definition.nodes, typeOfName (node.type.getD "None") = none) ∨
    ∃ edge ∈ definition.edges, ¬(edge.source ∈ definition.nodes.map Configuration.Node.id ∧
      edge.target ∈ definition.nodes.map Configuration.Node.id)

theorem isOk_edgeLine {w : RawWorkflow F} {edge : RawEdge F} :
    (edgeLine (boundVariables py unicode printer w) edge).isOk = true ↔
      edge.source ∈ w.nodes.map RawNode.id ∧ edge.target ∈ w.nodes.map RawNode.id := by
  have hLookup : ∀ id, (boundVariables py unicode printer w).lookup id = none ↔ id ∉ w.nodes.map RawNode.id := by
    intro id
    rw [boundVariables, Dict.lookup_ofPairs _ _ id "" (by simp [nodeVariables, length_variablesFrom])]
    split <;> simp_all
  unfold edgeLine
  cases hSource : (boundVariables py unicode printer w).lookup edge.source with
  | none => simp [Except.isOk, Except.toBool, (hLookup _).mp hSource]
  | some source =>
    have hSourceMem : edge.source ∈ w.nodes.map RawNode.id := by
      by_contra hNot
      simp [(hLookup _).mpr hNot] at hSource
    cases hTarget : (boundVariables py unicode printer w).lookup edge.target with
    | none => simp [Except.isOk, Except.toBool, (hLookup _).mp hTarget]
    | some target =>
      have hTargetMem : edge.target ∈ w.nodes.map RawNode.id := by
        by_contra hNot
        simp [(hLookup _).mpr hNot] at hTarget
      simp [Except.isOk, Except.toBool, hSourceMem, hTargetMem]

theorem generateLines_eq {w : RawWorkflow F} (name : String)
    (hKnown : ∀ node ∈ w.nodes, (typeOfName node.type).isSome = true) :
    generateLines py unicode printer w name =
      (w.edges.mapM (edgeLine (boundVariables py unicode printer w))).map fun edges =>
        (importLines w ++ [.blank, .workflow name, .blank]) ++ (nodeLines py unicode printer w ++
          ((if w.edges.isEmpty then [] else [.blank]) ++ edges)) := by
  have hUnknown : (w.nodes.map RawNode.type).filter (fun type => (typeOfName type).isNone) = [] := by
    simpa [Option.isSome_iff_ne_none] using hKnown
  unfold generateLines
  dsimp only
  rw [hUnknown]
  cases w.edges.mapM (edgeLine (boundVariables py unicode printer w)) with
  | error error => rfl
  | ok edges => simp [Except.map, bind, Except.bind, pure, Except.pure]

def linesOf (py : Interpreter F) (loads : JsonNumber → Number F) (nodes : List Configuration.Node)
    (bounds : List String) : List (Line F) :=
  ((nodes.map (rawNode loads)).zip bounds).filterMap fun entry =>
    (typeOfName entry.1.type).map fun type => nodeLine py entry.1 type entry.2

variable (py printer) in
theorem linesOf_alike {nodes nodes' : List Configuration.Node}
    (h : List.Forall₂ (fun node node' => maskNode showList node = maskNode showList node') nodes nodes')
    (hKnown : ∀ node ∈ nodes, (typeOfName (rawNode loads node).type).isSome = true) (bounds : List String)
    (hLength : bounds.length = nodes.length) :
    List.Forall₂ SameButData (linesOf py loads nodes bounds) (linesOf py loads nodes' bounds) ∧
      (List.Forall₂ (ShowsAlike printer) (linesOf py loads nodes bounds) (linesOf py loads nodes' bounds) ↔
        List.Forall₂ (SecretsPrintAlike printer loads) nodes nodes') := by
  induction h generalizing bounds with
  | nil => exact ⟨.nil, iff_of_true .nil .nil⟩
  | @cons node node' nodes nodes' hMasked hRest ih =>
    cases bounds with
    | nil => cases hLength
    | cons bound bounds =>
      obtain ⟨hFirst, hKnownRest⟩ := List.forall_mem_cons.mp hKnown
      obtain ⟨type, hType⟩ := Option.isSome_iff_exists.mp hFirst
      have hSameType : (rawNode loads node').type = (rawNode (F := F) loads node).type :=
        congrArg (·.getD "None") (maskNode_inj hMasked).2.1.symm
      obtain ⟨hFits, hAlike⟩ := nodeLine_alike py printer hMasked hType bound
      obtain ⟨hFitsRest, hAlikeRest⟩ := ih hKnownRest bounds (Nat.succ.inj hLength)
      have hLines : ∀ node, typeOfName (rawNode loads node).type = some type →
          ∀ nodes : List Configuration.Node, linesOf py loads (node :: nodes) (bound :: bounds) =
            nodeLine py (rawNode loads node) type bound :: linesOf py loads nodes bounds := by
        intro node hType nodes
        simp [linesOf, hType]
      rw [hLines node hType, hLines node' (hSameType ▸ hType), List.forall₂_cons, List.forall₂_cons,
        List.forall₂_cons, hAlikeRest]
      exact ⟨⟨hFits, hFitsRest⟩, and_congr_left' hAlike⟩

theorem isCall_linesOf {nodes : List Configuration.Node} {bounds : List String} :
    ∀ line ∈ linesOf py loads nodes bounds, line.isCall = true := by
  intro line hLine
  obtain ⟨entry, -, hEntry⟩ := List.mem_filterMap.mp hLine
  obtain ⟨type, -, rfl⟩ := Option.map_eq_some_iff.mp hEntry
  rfl

theorem isCall_edgeLine {bound : Dict String String} {edge : RawEdge F} {line : Line F}
    (h : edgeLine bound edge = .ok line) : line.isCall = true := by
  unfold edgeLine at h
  split at h
  · cases h
    rfl
  · cases h

theorem edges_end_in_call {edges : List (RawEdge F)} {bound : Dict String String} {lines : List (Line F)}
    (h : edges.mapM (edgeLine bound) = .ok lines) :
    ((if edges.isEmpty then [] else [Line.blank]) ++ lines = []) ∨ ∃ first line,
      (if edges.isEmpty then [] else [Line.blank]) ++ lines = first ++ [line] ∧ line.isCall = true := by
  have hLines := Outcome.mapM_eq_ok_iff.mp h
  cases edges with
  | nil =>
    obtain rfl : lines = [] := List.forall₂_nil_left_iff.mp hLines
    exact .inl rfl
  | cons edge edges =>
    obtain rfl | ⟨first, line, rfl⟩ := List.eq_nil_or_concat' lines
    · cases hLines
    · have hLast := List.forall₂_drop_append (edge :: edges) first [line] hLines
      obtain ⟨last, _, hEdge, -, -⟩ := List.forall₂_cons_right_iff.mp hLast
      exact .inr ⟨.blank :: first, line, rfl, isCall_edgeLine hEdge⟩

section Definitions

variable {definition definition' : Definition}

theorem forall₂_masked (h : definition.masked showList = definition'.masked showList) :
    List.Forall₂ (fun node node' => maskNode showList node = maskNode showList node')
      definition.nodes definition'.nodes := by
  have hNodes : definition.nodes.map (maskNode showList) = definition'.nodes.map (maskNode showList) :=
    congrArg Definition.nodes h
  rw [← List.forall₂_eq_eq_eq, List.forall₂_map_left_iff, List.forall₂_map_right_iff] at hNodes
  exact hNodes

theorem map_eq_of_masked {α : Type} {f : Configuration.Node → α}
    (hKept : ∀ node node', maskNode showList node = maskNode showList node' → f node = f node')
    (h : definition.masked showList = definition'.masked showList) :
    definition.nodes.map f = definition'.nodes.map f := by
  rw [← List.forall₂_eq_eq_eq, List.forall₂_map_left_iff, List.forall₂_map_right_iff]
  exact (forall₂_masked h).imp hKept

variable (py unicode printer loads) in
theorem boundVariables_alike (h : definition.masked showList = definition'.masked showList) :
    nodeVariables py unicode printer (rawWorkflow loads (some definition)) =
        nodeVariables py unicode printer (rawWorkflow loads (some definition')) ∧
      boundVariables py unicode printer (rawWorkflow loads (some definition)) =
        boundVariables py unicode printer (rawWorkflow loads (some definition')) := by
  have hVariables : nodeVariables py unicode printer (rawWorkflow loads (some definition)) =
      nodeVariables py unicode printer (rawWorkflow loads (some definition')) := by
    apply variablesFrom_congr
    simp only [rawWorkflow, List.map_map]
    exact map_eq_of_masked (fun _ _ => rawName_alike) h
  have hIds : (definition.nodes.map (rawNode (F := F) loads)).map RawNode.id =
      (definition'.nodes.map (rawNode loads)).map RawNode.id := by
    simp only [List.map_map]
    exact map_eq_of_masked (fun _ _ hNode => (maskNode_inj hNode).1) h
  refine ⟨hVariables, ?_⟩
  unfold boundVariables
  rw [hVariables]
  simp only [rawWorkflow, hIds]

theorem importLines_alike (h : definition.masked showList = definition'.masked showList) :
    importLines (rawWorkflow (F := F) loads (some definition)) =
      importLines (rawWorkflow loads (some definition')) := by
  have hTypes : ∀ definition : Definition,
      (rawWorkflow (F := F) loads (some definition)).nodes.filterMap (fun node => typeOfName node.type) =
        (definition.nodes.map fun node => (rawNode (F := F) loads node).type).filterMap typeOfName := by
    intro definition
    simp only [rawWorkflow, List.filterMap_map]
    rfl
  have hSame : definition.nodes.map (fun node => (rawNode (F := F) loads node).type) =
      definition'.nodes.map fun node => (rawNode (F := F) loads node).type :=
    map_eq_of_masked (fun _ _ hNode => congrArg (·.getD "None") (maskNode_inj hNode).2.1) h
  unfold importLines
  rw [hTypes, hTypes, hSame]

theorem types_of_masked (h : definition.masked showList = definition'.masked showList) :
    definition.nodes.map (fun node => node.type.getD "None") =
      definition'.nodes.map fun node => node.type.getD "None" :=
  map_eq_of_masked (fun _ _ hNode => congrArg (·.getD "None") (maskNode_inj hNode).2.1) h

theorem generateLines_unknown (h : definition.masked showList = definition'.masked showList) (name : String)
    (hUnknown : ∃ node ∈ definition.nodes, typeOfName (node.type.getD "None") = none) :
    generateLines py unicode printer (rawWorkflow loads (some definition)) name =
      generateLines py unicode printer (rawWorkflow loads (some definition')) name := by
  have hTypes : ∀ definition : Definition, (rawWorkflow (F := F) loads (some definition)).nodes.map RawNode.type =
      definition.nodes.map fun node => node.type.getD "None" := by
    intro definition
    simp [rawWorkflow, rawNode]
  have hSome : (((definition.nodes.map fun node => node.type.getD "None")).filter fun type =>
      (typeOfName type).isNone).isEmpty = false := by
    obtain ⟨node, hNode, hNone⟩ := hUnknown
    rw [List.isEmpty_eq_false_iff_exists_mem]
    exact ⟨_, List.mem_filter.mpr ⟨List.mem_map.mpr ⟨node, hNode, rfl⟩, by simp [hNone]⟩⟩
  unfold generateLines
  rw [hTypes, hTypes, ← types_of_masked h]
  simp only [hSome, Bool.false_eq_true, if_false]

variable (py unicode printer loads) in
theorem isOk_edges (definition : Definition) : ((rawWorkflow loads (some definition)).edges.mapM (edgeLine
        (boundVariables py unicode printer (rawWorkflow loads (some definition))))).isOk = true ↔
      ∀ edge ∈ definition.edges, edge.source ∈ definition.nodes.map Configuration.Node.id ∧
        edge.target ∈ definition.nodes.map Configuration.Node.id := by
  have hIds : (definition.nodes.map (rawNode (F := F) loads)).map RawNode.id =
      definition.nodes.map Configuration.Node.id := by simp [rawNode, Function.comp_def]
  rw [Outcome.isOk_mapM]
  simp only [isOk_edgeLine, rawWorkflow, hIds, List.forall_mem_map, rawEdge]

theorem generateCode_eq_iff (hPrinter : ReadableLiterals printer)
    (h : definition.masked showList = definition'.masked showList) (name : String) :
    generateCode py unicode printer (rawWorkflow loads (some definition)) name =
        generateCode py unicode printer (rawWorkflow loads (some definition')) name ↔ HasNoSource definition ∨
        List.Forall₂ (SecretsPrintAlike printer loads) definition.nodes definition'.nodes := by
  by_cases hUnknown : ∃ node ∈ definition.nodes, typeOfName (node.type.getD "None") = none
  · refine iff_of_true ?_ (.inl (.inl hUnknown))
    unfold generateCode
    rw [generateLines_unknown h name hUnknown]
  · have hKnown : ∀ node ∈ definition.nodes, (typeOfName (node.type.getD "None")).isSome = true := by
      simpa [Option.isSome_iff_ne_none] using hUnknown
    have hKnown' : ∀ node ∈ definition'.nodes, (typeOfName (node.type.getD "None")).isSome = true := by
      have hAll : ∀ type ∈ definition.nodes.map fun node => node.type.getD "None",
          (typeOfName type).isSome = true := List.forall_mem_map.mpr hKnown
      rw [types_of_masked h] at hAll
      exact List.forall_mem_map.mp hAll
    have hEdges : definition'.edges = definition.edges := (congrArg Definition.edges h).symm
    obtain ⟨hVariables, hBound⟩ := boundVariables_alike py unicode printer loads h
    have hOk := isOk_edges py unicode printer loads definition
    have hRawEdges : (rawWorkflow loads (some definition')).edges =
        (rawWorkflow (F := F) loads (some definition)).edges := by
      simp only [rawWorkflow, hEdges]
    unfold generateCode
    rw [generateLines_eq name (List.forall_mem_map.mpr hKnown), generateLines_eq name (List.forall_mem_map.mpr hKnown'),
      hRawEdges, ← hBound, ← importLines_alike h]
    cases hMapped : (rawWorkflow loads (some definition)).edges.mapM
        (edgeLine (boundVariables py unicode printer (rawWorkflow loads (some definition)))) with
    | error error =>
      refine iff_of_true rfl (.inl (.inr ?_))
      rw [hMapped] at hOk
      by_contra hNone
      have hAll : ∀ edge ∈ definition.edges, edge.source ∈ definition.nodes.map Configuration.Node.id ∧
          edge.target ∈ definition.nodes.map Configuration.Node.id := by
        intro edge hEdge
        by_contra hNot
        exact hNone ⟨edge, hEdge, hNot⟩
      cases hOk.mpr hAll
    | ok edges =>
      have hSource : ¬HasNoSource definition := by
        rintro (hType | ⟨edge, hEdge, hNot⟩)
        · exact hUnknown hType
        · exact hNot (hOk.mp (by rw [hMapped]; rfl) edge hEdge)
      have hNodes : ∀ definition : Definition, nodeLines py unicode printer (rawWorkflow loads (some definition)) =
          linesOf py loads definition.nodes
            (nodeVariables py unicode printer (rawWorkflow loads (some definition))) := fun _ => rfl
      have hLength : (nodeVariables py unicode printer (rawWorkflow loads (some definition))).length =
          definition.nodes.length := by simp [nodeVariables, length_variablesFrom, rawWorkflow]
      obtain ⟨hFits, hAlike⟩ := linesOf_alike py printer (forall₂_masked h) hKnown _ hLength
      rw [or_iff_right hSource, ← hAlike, hNodes, hNodes, ← hVariables]
      exact (iff_of_eq (Except.ok.injEq _ _)).trans
        (sourceOf_eq_iff hPrinter _ _ hFits isCall_linesOf (edges_end_in_call hMapped))

end Definitions

end Source

end FastVoice.Bridge
