import FastVoice.Bridge.NodeSpecs
import FastVoice.Runtime.Dict
import FastVoice.Runtime.Text

/-! # Parsing workflow source

`parse_code` over the abstract syntax that `ast.parse` gives. What it refuses is reported with the others
of its kind; an exception that it does not catch ends it.
-/
namespace FastVoice.Bridge
open Python Workflows

inductive PyError where
  | overflowError
  | typeError
  | valueError
  deriving DecidableEq

structure ErrorItem where
  message : String
  line : Option Nat
  column : Option Nat
  deriving DecidableEq

/-- A `ValueError` that the caller reports, or an exception that nobody catches. -/
inductive Failure where
  | rejected (message : String)
  | raised (error : PyError)
  deriving DecidableEq

abbrev Checked := Except Failure

abbrev Fields (F : Type) := List (String × Value F)

section Literals

variable {F : Type} (py : Interpreter F)

def literalValue (node : Expr F) : Checked (Value F) :=
  match literalEval py node with
  | .ok value => .ok value
  | .error .malformed => .error (.rejected ("Only strings, numbers, booleans, None, lists, tuples, " ++
      "and dictionaries are allowed"))
  | .error .overflowError => .error (.raised .overflowError)

def collectKeywords : List (Option String × Expr F) → Fields F → Checked (Fields F)
  | [], values => .ok values
  | (none, _) :: _, _ => .error (.rejected "Dictionary expansion is not allowed")
  | (some arg, node) :: rest, values =>
    if (values.lookup arg).isSome then .error (.rejected s!"Duplicate keyword: {arg}")
    else do
      let value ← literalValue py node
      collectKeywords rest (values ++ [(arg, value)])

def isStarred : Expr F → Bool
  | .starred _ => true
  | _ => false

def keywords (args : List (Expr F)) (keywords : List (Option String × Expr F)) :
    Checked (Fields F) := do
  let values ← collectKeywords py keywords []
  if args.any isStarred then .error (.rejected "Starred arguments are not allowed") else .ok values

def callName : Expr F → Option String
  | .name id => some id
  | _ => none

/-- Before there is a workflow, every variable passes for it. -/
def workflowMethod (workflowVar : Option String) : Expr F → Option String
  | .attribute (.name id) attr => if workflowVar.all (id = ·) then some attr else none
  | _ => none

end Literals

section Validation

variable {F : Type}

def shapeName : Value F → String
  | .none => "None"
  | .bool _ => "boolean"
  | .str _ => "string"
  | .number (.complex _ _) => "complex"
  | .number _ => "number"
  | .list _ => "list"
  | .dict _ => "dictionary"
  | .bytes _ => "bytes"
  | .ellipsis => "ellipsis"
  | .tuple _ => "tuple"
  | .set _ => "set"

abbrev Verdict := Except PyError (Option String)

def reprOf (py : Interpreter F) (value : Value F) : Except PyError String :=
  match py.repr value with
  | some text => .ok text
  | none => .error .valueError

def leastOf (py : Interpreter F) (values : List (Value F)) : Except PyError (Value F) :=
  match py.least values with
  | some value => .ok value
  | none => .error .typeError

def stringError (py : Interpreter F) (minLength maxLength : Option Nat) (pattern : Option String) :
    Value F → Option String
  | .str text =>
    match minLength.filter (text.length < ·) with
    | some limit => some s!"must contain at least {limit} characters"
    | none =>
      match maxLength.filter (text.length > ·) with
      | some limit => some s!"must contain at most {limit} characters"
      | none =>
        match pattern.filter fun pattern => !py.search pattern text with
        | some pattern => some s!"does not match required pattern {py.quote pattern}"
        | none => none
  | value => some s!"expected string, got {shapeName value}"

def limitError (py : Interpreter F) (minValue maxValue : Option F) (n : Number F) : Option String :=
  match minValue.filter fun limit => py.lt n (.float limit) with
  | some limit => some s!"must be at least {py.floatText limit}"
  | none =>
    match maxValue.filter fun limit => py.lt (.float limit) n with
    | some limit => some s!"must be at most {py.floatText limit}"
    | none => none

def numberError (py : Interpreter F) (minValue maxValue : Option F) : Value F → Option String
  | .number (.int n) => limitError py minValue maxValue (.int n)
  | .number (.float f) => limitError py minValue maxValue (.float f)
  | value => some s!"expected number, got {shapeName value}"

def booleanError : Value F → Option String
  | .bool _ => none
  | value => some s!"expected boolean, got {shapeName value}"

def isOption (options : List String) : Value F → Bool
  | .str text => text ∈ options
  | _ => false

def optionsError (py : Interpreter F) (options : List String) (value : Value F) : Verdict :=
  if options.isEmpty || isOption options value then return none
  else return some s!"value {← reprOf py value} is not an allowed option"

def isString : Value F → Bool
  | .str _ => true
  | _ => false

def refsError : Value F → Option String
  | .list items => if items.all isString then none else some "list items must be strings"
  | value => some s!"expected list, got {shapeName value}"

def multiOptionsError (options : List String) : Value F → Option String
  | .list items =>
    if options.isEmpty || items.all (isOption options) then none
    else some "contains a value that is not an allowed option"
  | value => some s!"expected list, got {shapeName value}"

def jsonError : Value F → Option String
  | .dict _ => none
  | value => some s!"expected dictionary, got {shapeName value}"

abbrev Row (F : Type) := List (Value F × Value F)

def isKey (name : String) : Value F → Bool
  | .str key => key = name
  | _ => false

def Row.get (row : Row F) (name : String) : Option (Value F) :=
  (row.find? fun entry => isKey name entry.1).map Prod.snd

def unknownKeys (names : List String) (row : Row F) : List (Value F) :=
  (row.map Prod.fst).filter fun key => !names.any (isKey · key)

def firstRowError (check : Row F → Verdict) : List (Value F) → Nat → Verdict
  | [], _ => return none
  | .dict row :: rows, index => do
    match ← check row with
    | some error => return some s!"row {index}{error}"
    | none => firstRowError check rows (index + 1)
  | _ :: _, index => return some s!"row {index}: expected dictionary"

def unknownKeyError (py : Interpreter F) (names : List String) (row : Row F) : Verdict :=
  match unknownKeys names row with
  | [] => return none
  | unknown => do
    let key ← leastOf py unknown
    return some s!": unknown field {← reprOf py key}"

mutual

def propertyError (py : Interpreter F) : PropertySpec F → Value F → Verdict
  | ⟨_, type, _, _, options, properties, minValue, maxValue, minLength, maxLength, pattern⟩, value =>
    match type with
    | .string | .mentionTextarea | .url | .recordingRef | .credentialRef =>
      return stringError py minLength maxLength pattern value
    | .number => return numberError py minValue maxValue value
    | .boolean => return booleanError value
    | .options => optionsError py options value
    | .toolRefs | .documentRefs => return refsError value
    | .multiOptions => return multiOptionsError options value
    | .json => return jsonError value
    | .fixedCollection =>
      match value with
      | .list rows =>
        firstRowError (fun row => do
          match ← unknownKeyError py (properties.map PropertySpec.name) row with
          | some error => return some error
          | none => rowError py properties row) rows 0
      | value => return some s!"expected list of dictionaries, got {shapeName value}"

def rowError (py : Interpreter F) : List (PropertySpec F) → Row F → Verdict
  | [], _ => return none
  | prop :: props, row =>
    match Row.get row prop.name with
    | some value => do
      match ← propertyError py prop value with
      | some error => return some s!", {py.quote prop.name}: {error}"
      | none => rowError py props row
    | none =>
      if prop.required && prop.default.isNone then
        return some s!": missing required field {py.quote prop.name}"
      else rowError py props row

end

def withDefaults (py : Interpreter F) (data : Fields F) :
    List (PropertySpec F) → Except String (Fields F)
  | [] => .ok []
  | prop :: props =>
    match data.lookup prop.name with
    | some value => (withDefaults py data props).map ((prop.name, value) :: ·)
    | none =>
      if prop.default.isNone then
        if prop.required then .error s!"Missing required field: {py.quote prop.name}."
        else withDefaults py data props
      else (withDefaults py data props).map ((prop.name, prop.default) :: ·)

def firstFieldError (py : Interpreter F) (properties : List (PropertySpec F)) : Fields F → Verdict
  | [] => return none
  | (name, value) :: rest =>
    match properties.find? (·.name = name) with
    | none => firstFieldError py properties rest
    | some prop => do
      match ← propertyError py prop value with
      | some error => return some s!"Field {py.quote name}: {error}."
      | none => firstFieldError py properties rest

def leastString : List String → String
  | [] => ""
  | text :: rest => rest.foldl (fun least text => if text < least then text else least) text

def validateData (py : Interpreter F) (properties : List (PropertySpec F)) (data : Fields F) :
    Except PyError (Except String (Fields F)) :=
  match (data.map Prod.fst).filter (· ∉ properties.map PropertySpec.name) with
  | [] =>
    match withDefaults py data properties with
    | .error message => .ok (.error message)
    | .ok result => do
      match ← firstFieldError py properties result with
      | some message => return .error message
      | none => return .ok result
  | unknown => .ok (.error s!"Unknown field: {py.quote (leastString unknown)}.")

end Validation

/-- `_class_name`: an underscore before each capital inside a word, and the words capitalized. -/
def splitWords : List Char → List Char
  | c :: d :: rest =>
    if (c.isLower || c.isDigit) && d.isUpper then c :: '_' :: splitWords (d :: rest)
    else c :: splitWords (d :: rest)
  | chars => chars

def capitalize : List Char → List Char
  | [] => []
  | c :: rest => c.toUpper :: rest

def className (nodeType : NodeType) : String :=
  String.ofList (((splitWords (typeName nodeType).toList).splitOn '_').flatMap capitalize)

def nodeTypes : List NodeType := allSpecs.map NodeSpec.name

def typeOfClass (name : String) : Option NodeType := nodeTypes.find? (className · = name)

def typeOfName (name : String) : Option NodeType := nodeTypes.find? (typeName · = name)

def edgeFields : List String :=
  ["label", "condition", "transition_speech", "transition_speech_type",
    "transition_speech_recording_id"]

structure ParsedNode (F : Type) where
  id : String
  type : NodeType
  position : F × F
  data : Fields F

structure ParsedEdge (F : Type) where
  id : String
  source : String
  target : String
  data : Fields F

structure ParserState (F : Type) where
  errors : List ErrorItem
  nodes : List (ParsedNode F)
  edges : List (ParsedEdge F)
  references : Dict String String
  workflowVar : Option String
  workflowName : String

def ParserState.start (F : Type) : ParserState F := ⟨[], [], [], ∅, none, ""⟩

section Statements

variable {F : Type} (py : Interpreter F)

def reject {α : Type} (message : String) : Checked α := .error (.rejected message)

/-- Whether an edge field holds more than whitespace. -/
def hasText (options : Fields F) (name : String) : Bool :=
  match options.lookup name with
  | some (.str text) => Text.strip text ≠ ""
  | _ => false

def edgeOptions (args : List (Expr F)) (kws : List (Option String × Expr F)) :
    Checked (Fields F) := do
  let options ← keywords py args kws
  match (options.map Prod.fst).filter (· ∉ edgeFields) with
  | [] =>
    if !hasText options "label" then reject "edge requires a non-empty label string."
    else if !hasText options "condition" then reject "edge requires a non-empty condition string."
    else return options
  | unknown => reject s!"Unknown edge field: {py.quote (leastString unknown)}."

def parseEdge (references : Dict String String) (args : List (Expr F))
    (kws : List (Option String × Expr F)) : Checked (ParsedEdge F) :=
  match args with
  | [.name source, .name target] =>
    match references.lookup source, references.lookup target with
    | some sourceId, some targetId => do
      let options ← edgeOptions py args kws
      return ⟨s!"{sourceId}-{targetId}", sourceId, targetId, options⟩
    | _, _ => reject "edge references an unknown node variable."
  | _ => reject "edge requires two previously bound node variables."

def literalStringsOnly : String := "Workflow accepts literal name and description strings only."

def parseWorkflow (args : List (Expr F)) (kws : List (Option String × Expr F)) : Checked String :=
  if !args.isEmpty then
    reject "Workflow accepts keyword arguments only in MCP-authored source."
  else do
    let values ← keywords py args kws
    let known := (values.map Prod.fst).all (· ∈ ["name", "description"])
    match values.lookup "name" with
    | none => if known then return "" else reject literalStringsOnly
    | some (.str name) => if known then return name else reject literalStringsOnly
    | some _ => reject literalStringsOnly

def coordinate : Value F → Option (Number F)
  | .number (.int n) => some (.int n)
  | .number (.float f) => some (.float f)
  | _ => none

def toFloat : Number F → Checked F
  | .int n => match py.ofInt n with
    | some f => .ok f
    | none => .error (.raised .overflowError)
  | .float f => .ok f
  | .complex _ _ => .error (.raised .typeError)

def sequence : Value F → Option (List (Value F))
  | .list items => some items
  | .tuple items => some items
  | _ => none

def parsePosition : Option (Value F) → Checked (F × F)
  | none => .ok (py.literal "0.0", py.literal "0.0")
  | some .none => .ok (py.literal "0.0", py.literal "0.0")
  | some value =>
    match sequence value with
    | some [first, second] =>
      match coordinate first, coordinate second with
      | some x, some y => do
        let left ← toFloat py x
        let top ← toFloat py y
        return (left, top)
      | _, _ => reject "position must be a two-number tuple or list."
    | _ => reject "position must be a two-number tuple or list."

structure NodeParts (F : Type) where
  type : NodeType
  position : F × F
  data : Fields F

def parseAddTyped (args : List (Expr F)) (kws : List (Option String × Expr F)) :
    Checked (NodeParts F) :=
  match args with
  | [.call func constructorArgs constructorKws] =>
    match (callName func).bind typeOfClass with
    | none => reject ("Unknown typed node class: " ++ (callName func).getD "<expression>" ++ ".")
    | some type =>
      if !constructorArgs.isEmpty then
        reject "Typed node constructors accept keyword arguments only."
      else do
        let data ← keywords py constructorArgs constructorKws
        let options ← keywords py args kws
        if (options.map Prod.fst).any (· ≠ "position") then
          reject "add_typed accepts only the position keyword."
        else
          let position ← parsePosition py (options.lookup "position")
          return ⟨type, position, data⟩
  | _ => reject "add_typed requires one typed node constructor."

def parseAdd (args : List (Expr F)) (kws : List (Option String × Expr F)) : Checked (NodeParts F) :=
  if !args.isEmpty then reject "add accepts keyword arguments only."
  else do
    let values ← keywords py args kws
    let data := values.filter fun field => field.1 ≠ "type" ∧ field.1 ≠ "position"
    match values.lookup "type" with
    | some (.str name) =>
      match typeOfName name with
      | some type =>
        let position ← parsePosition py (values.lookup "position")
        return ⟨type, position, data⟩
      | none => reject s!"Unknown node type: {py.quote name}."
    | value =>
      match py.repr (value.getD .none) with
      | some text => reject s!"Unknown node type: {text}."
      -- The `ValueError` that `repr` itself raises is reported alike.
      | none => reject ("Exceeds the limit (4300 digits) for integer string conversion; use " ++
          "sys.set_int_max_str_digits() to increase the limit")

def parseNode (workflowVar : Option String) (func : Expr F) (args : List (Expr F))
    (kws : List (Option String × Expr F)) : Checked (NodeParts F) :=
  match workflowMethod workflowVar func with
  | some "add_typed" => parseAddTyped py args kws
  | some "add" => parseAdd py args kws
  | _ => reject ("Workflow must be created before nodes; use workflow.add_typed(...) or " ++
      "workflow.add(...).")

def ParserState.report (s : ParserState F) (position : Position) (message : String) :
    ParserState F :=
  { s with errors := s.errors ++ [⟨message, some position.line, some position.column⟩] }

def ParserState.after {α : Type} (s : ParserState F) (position : Position) (next : α → ParserState F) :
    Checked α → Except PyError (ParserState F)
  | .ok value => .ok (next value)
  | .error (.rejected message) => .ok (s.report position message)
  | .error (.raised error) => .error error

def ParserState.addEdge (s : ParserState F) (edge : ParsedEdge F) : ParserState F :=
  { s with edges := s.edges ++ [edge] }

def ParserState.setWorkflow (s : ParserState F) (bound : String) (name : String) :
    ParserState F :=
  { s with workflowVar := some bound, workflowName := name }

def ParserState.addNode (s : ParserState F) (bound : String) (parts : NodeParts F) :
    ParserState F :=
  let id := toString (s.nodes.length + 1)
  { s with
    nodes := s.nodes ++ [⟨id, parts.type, parts.position, parts.data⟩]
    references := s.references.insert bound id }

def stepBinding (s : ParserState F) (bound : String) (value : Expr F)
    (position valuePosition : Position) : Except PyError (ParserState F) :=
  match value with
  | .call func args kws =>
    if callName func = some "Workflow" then
      if s.workflowVar.isSome then
        .ok (s.report position "Only one Workflow binding is allowed.")
      else s.after valuePosition (s.setWorkflow bound) (parseWorkflow py args kws)
    else s.after valuePosition (s.addNode bound) (parseNode py s.workflowVar func args kws)
  | _ => .ok (s.report position "Bindings must call Workflow, workflow.add_typed, or workflow.add.")

def notAllowed : String :=
  "Only imports, simple bindings, and workflow.edge(...) calls are allowed at the top level."

def step (s : ParserState F) : Stmt F → Except PyError (ParserState F)
  | .importing => .ok s
  | .assign [.name bound] value position valuePosition =>
    stepBinding py s bound value position valuePosition
  | .expr (.call func args kws) position valuePosition =>
    if workflowMethod s.workflowVar func = some "edge" then
      s.after valuePosition s.addEdge (parseEdge py s.references args kws)
    else .ok (s.report position
      "Only workflow.edge(source, target, ...) calls are allowed as bare statements.")
  | .assign _ _ position _ => .ok (s.report position notAllowed)
  | .expr _ position _ => .ok (s.report position notAllowed)
  | .other position => .ok (s.report position notAllowed)

end Statements

inductive Stage where
  | parse
  | validate
  deriving DecidableEq

inductive ParseResult (F : Type) where
  | parsed (nodes : List (ParsedNode F)) (edges : List (ParsedEdge F)) (workflowName : String)
  | failed (stage : Stage) (errors : List ErrorItem)

section Results

variable {F : Type} (py : Interpreter F)

def addChecked (node : ParsedNode F) : Except String (Fields F) →
    Except (List ErrorItem) (List (ParsedNode F)) → Except (List ErrorItem) (List (ParsedNode F))
  | .ok data, .ok validated => .ok ({ node with data := data } :: validated)
  | .ok _, .error errors => .error errors
  | .error message, .ok _ => .error [⟨s!"[{typeName node.type}] {message}", none, none⟩]
  | .error message, .error errors =>
    .error (⟨s!"[{typeName node.type}] {message}", none, none⟩ :: errors)

def validateNodes : List (ParsedNode F) →
    Except PyError (Except (List ErrorItem) (List (ParsedNode F)))
  | [] => .ok (.ok [])
  | node :: nodes => do
    let checked ← validateData py (nodeProperties py node.type) node.data
    let rest ← validateNodes nodes
    return addChecked node checked rest

def finish (s : ParserState F) : Except PyError (ParseResult F) :=
  if !s.errors.isEmpty then .ok (.failed .parse s.errors)
  else if s.workflowVar.isNone then
    .ok (.failed .parse [⟨"No Workflow construction found. Expected: " ++
      "workflow = Workflow(name='...').", none, none⟩])
  else do
    match ← validateNodes py s.nodes with
    | .error errors => return .failed .validate errors
    | .ok nodes => return .parsed nodes s.edges s.workflowName

def parseModule (body : List (Stmt F)) : Except PyError (ParseResult F) := do
  let s ← body.foldlM (step py) (ParserState.start F)
  finish py s

/-- `parse` is `ast.parse`. -/
def parseCode (parse : String → Except SyntaxError (List (Stmt F))) (code : String) :
    Except PyError (ParseResult F) :=
  match parse code with
  | .error error => .ok (.failed .parse [⟨error.message, error.line, error.column⟩])
  | .ok body => parseModule py body

end Results

end FastVoice.Bridge
