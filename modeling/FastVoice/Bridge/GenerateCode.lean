import FastVoice.Bridge.ParseCode

/-! # Generating workflow source

`generate_code`. The characters of names are classified by the Unicode database, and values are printed by
`pprint`; both are parameters.
-/
namespace FastVoice.Bridge
open Python Workflows

structure Unicode where
  lower : String → String
  /-- `\w`. -/
  isWord : Char → Bool
  isDigit : Char → Bool

structure Printer (F : Type) where
  pformat : Value F → String
  str : Value F → String

section Identifiers

variable (unicode : Unicode)

def joinWords (gap : Bool) : List Char → List Char
  | [] => []
  | c :: rest =>
    if unicode.isWord c then c :: joinWords false rest
    else if gap then joinWords true rest
    else '_' :: joinWords true rest

def stripUnderscores (chars : List Char) : List Char :=
  (chars.dropWhile (· = '_')).rdropWhile (· = '_')

def keywordList : List String :=
  ["False", "None", "True", "and", "as", "assert", "async", "await", "break", "class", "continue",
    "def", "del", "elif", "else", "except", "finally", "for", "from", "global", "if", "import", "in",
    "is", "lambda", "nonlocal", "not", "or", "pass", "raise", "return", "try", "while", "with",
    "yield"]

def baseIdentifier (raw : String) : String :=
  let slug := String.ofList
    (stripUnderscores (joinWords unicode false (unicode.lower (Text.strip raw)).toList))
  let word := if slug = "" then "node" else slug
  let candidate := if word.toList.head?.any unicode.isDigit then "n_" ++ word else word
  if candidate ∈ keywordList ∨ candidate = "workflow" then "node_" ++ candidate else candidate

def firstUnused (used : List String) (base : String) : Nat → Nat → String
  | 0, suffix => base ++ "_" ++ toString suffix
  | fuel + 1, suffix =>
    if base ++ "_" ++ toString suffix ∈ used then firstUnused used base fuel (suffix + 1)
    else base ++ "_" ++ toString suffix

def identifier (raw : String) (used : List String) : String :=
  let base := baseIdentifier unicode raw
  if base ∈ used then firstUnused used base used.length 2 else base

end Identifiers

section Data

variable {F : Type} (py : Interpreter F)

def knownRow (names : List String) : Value F → Value F
  | .dict row => .dict (row.filter fun entry => names.any (isKey · entry.1))
  | value => value

def knownRows (names : List String) : Value F → Value F
  | .list rows => .list (rows.map (knownRow names))
  | value => value

def knownValue (prop : PropertySpec F) (value : Value F) : Value F :=
  if prop.type = .fixedCollection then knownRows (prop.properties.map PropertySpec.name) value
  else value

def knownData (properties : List (PropertySpec F)) (data : Fields F) : Fields F :=
  data.filterMap fun field =>
    (properties.find? (·.name = field.1)).map fun prop => (field.1, knownValue prop field.2)

def isDefault (prop : PropertySpec F) (value : Value F) : Bool :=
  !prop.default.isNone && prop.default.eq py value

def withoutDefaults (properties : List (PropertySpec F)) (data : Fields F) : Fields F :=
  data.filter fun field => !(properties.find? (·.name = field.1)).any (isDefault py · field.2)

def authored (properties : List (PropertySpec F)) (data : Fields F) : Fields F :=
  withoutDefaults py properties (knownData properties data)

end Data

structure RawNode (F : Type) where
  id : String
  type : String
  data : Option (Fields F)

structure RawEdge (F : Type) where
  id : String
  source : String
  target : String
  data : Option (Fields F)

structure RawWorkflow (F : Type) where
  nodes : List (RawNode F)
  edges : List (RawEdge F)

structure PythonBridgeError where
  message : String
  deriving DecidableEq

inductive Line (F : Type) where
  | importing (text : String)
  | blank
  | workflow (name : String)
  | node (bound : String) (type : NodeType) (data : Fields F)
  | edge (source target : String) (data : Fields F)

section Source

variable {F : Type} (py : Interpreter F) (unicode : Unicode) (printer : Printer F)

def arguments (fields : Fields F) : String :=
  ", ".intercalate (fields.map fun field => field.1 ++ "=" ++ printer.pformat field.2)

def Line.text : Line F → String
  | .importing text => text
  | .blank => ""
  | .workflow name => "workflow = Workflow(name=" ++ py.quote name ++ ")"
  | .node bound type data =>
    bound ++ " = workflow.add_typed(" ++ className type ++ "(" ++ arguments printer data ++ "))"
  | .edge source target data =>
    "workflow.edge(" ++ source ++ ", " ++ target ++ ", " ++ arguments printer data ++ ")"

def sourceOf (lines : List (Line F)) : String :=
  let text := "\n".intercalate (lines.map (Line.text py printer))
  String.ofList (text.toList.rdropWhile Text.isSpace) ++ "\n"

def sortedSet (names : List String) : List String := names.dedup.mergeSort

def isTruthy : Value F → Bool
  | .none => false
  | .bool b => b
  | .number n => !py.eq n (.int 0)
  | .str text => text ≠ ""
  | .bytes bytes => !bytes.isEmpty
  | .ellipsis => true
  | .list items => !items.isEmpty
  | .tuple items => !items.isEmpty
  | .set items => !items.isEmpty
  | .dict entries => !entries.isEmpty

def rawName (node : RawNode F) : String :=
  match (node.data.getD []).lookup "name" with
  | some value =>
    if isTruthy py value then
      match value with
      | .str text => text
      | value => printer.str value
    else "node_" ++ node.id
  | none => "node_" ++ node.id

def variablesFrom (used : List String) : List (RawNode F) → List String
  | [] => []
  | node :: nodes =>
    let bound := identifier unicode (rawName py printer node) used
    bound :: variablesFrom (used ++ [bound]) nodes

def nodeVariables (w : RawWorkflow F) : List String := variablesFrom py unicode printer [] w.nodes

def boundVariables (w : RawWorkflow F) : Dict String String :=
  Dict.ofPairs ((w.nodes.map RawNode.id).zip (nodeVariables py unicode printer w))

def nodeLine (node : RawNode F) (type : NodeType) (bound : String) : Line F :=
  .node bound type (authored py (nodeProperties py type) (node.data.getD []))

def nodeLines (w : RawWorkflow F) : List (Line F) :=
  (w.nodes.zip (nodeVariables py unicode printer w)).filterMap fun entry =>
    (typeOfName entry.1.type).map fun type => nodeLine py entry.1 type entry.2

def edgeLine (bound : Dict String String) (edge : RawEdge F) : Except PythonBridgeError (Line F) :=
  match bound.lookup edge.source, bound.lookup edge.target with
  | some source, some target =>
    .ok (.edge source target ((edge.data.getD []).filter (·.1 ∈ edgeFields)))
  | _, _ => .error ⟨"Edge " ++ edge.id ++ " references an unknown node"⟩

def importLines (w : RawWorkflow F) : List (Line F) :=
  let classNames := sortedSet ((w.nodes.filterMap fun node => typeOfName node.type).map className)
  .importing "from fastvoice_sdk import Workflow" ::
    if classNames.isEmpty then []
    else [.importing ("from fastvoice_sdk.typed import " ++ ", ".intercalate classNames)]

def generateLines (w : RawWorkflow F) (workflowName : String) :
    Except PythonBridgeError (List (Line F)) :=
  let unknown := (w.nodes.map RawNode.type).filter fun type => (typeOfName type).isNone
  if unknown.isEmpty then do
    let edges ← w.edges.mapM (edgeLine (boundVariables py unicode printer w))
    return importLines w ++ [.blank, .workflow workflowName, .blank] ++
      nodeLines py unicode printer w ++ (if w.edges.isEmpty then [] else [.blank]) ++ edges
  else .error ⟨"Unknown node type in workflow: " ++ ", ".intercalate (sortedSet unknown)⟩

def generateCode (w : RawWorkflow F) (workflowName : String) : Except PythonBridgeError String :=
  (generateLines py unicode printer w workflowName).map (sourceOf py printer)

end Source

end FastVoice.Bridge
