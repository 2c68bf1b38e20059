import FastVoice.Bridge.CheckExceptions
import FastVoice.Bridge.ParseExceptions

/-! # What parsed source means

Each name stands for what was bound to it last. The parser remembers only the nodes of a name, so a
name that the workflow takes over still stands for its node.
-/
namespace FastVoice.Bridge
open Python Workflows Outcome

variable {F : Type}

inductive Target where
  | workflow
  | node (id : String)
  deriving DecidableEq

structure Scope where
  nodes : Nat
  target : String → Option Target

def Scope.empty : Scope := ⟨0, fun _ => none⟩

def Scope.bind (scope : Scope) (name : String) (func : Expr F) : Scope :=
  if callName func = some "Workflow" then
    { scope with target := Function.update scope.target name (some .workflow) }
  else
    { nodes := scope.nodes + 1
      target := Function.update scope.target name (some (.node (toString (scope.nodes + 1)))) }

def Scope.next (scope : Scope) : Stmt F → Scope
  | .assign [.name bound] (.call func _ _) _ _ => scope.bind bound func
  | _ => scope

def Scope.connection (scope : Scope) : Stmt F → Option (Option Target × Option Target)
  | .expr (.call _ [.name source, .name target] _) _ _ =>
    some (scope.target source, scope.target target)
  | _ => none

def connections (scope : Scope) : List (Stmt F) → List (Option Target × Option Target)
  | [] => []
  | stmt :: body => (scope.connection stmt).toList ++ connections (scope.next stmt) body

structure SoundResult (py : Interpreter F) (body : List (Stmt F)) (nodes : List (ParsedNode F))
    (edges : List (ParsedEdge F)) (workflowName : String) : Prop where
  sources : ∀ edge ∈ edges, edge.source ∈ nodes.map ParsedNode.id
  targets : ∀ edge ∈ edges, edge.target ∈ nodes.map ParsedNode.id
  nodeIds : (nodes.map ParsedNode.id).Nodup
  edgeIds : (edges.map ParsedEdge.id).Nodup
  /-- Each edge connects what its arguments stand for. -/
  connected : edges.map (fun edge => (some (Target.node edge.source), some (Target.node edge.target))) =
    connections .empty body
  conforms : ∀ node ∈ nodes, Conforms py node
  accepted : ∀ stmt ∈ body, stmt.isImport = true ∨ isBindingOrEdge stmt = true
  independent : ∀ body' : List (Stmt F), relevant body' = relevant body →
    parseModule py body' = .ok (.parsed nodes edges workflowName)

/-- What is expected of every source. -/
def SoundSource (py : Interpreter F) (parse : String → Except SyntaxError (List (Stmt F)))
    (code : String) : Prop :=
  match parseCode py parse code with
  | .ok (.parsed nodes edges workflowName) =>
    ∀ body, parse code = .ok body → SoundResult py body nodes edges workflowName
  | .ok (.failed _ errors) => errors ≠ []
  | .error _ => False

structure Scoped (scope : Scope) (s : ParserState F) : Prop where
  count : scope.nodes = s.nodes.length
  ids : s.nodes.map ParsedNode.id = (List.range s.nodes.length).map fun i => toString (i + 1)
  references : ∀ name id, s.references.lookup name = some id → id ∈ s.nodes.map ParsedNode.id
  target : ∀ name, scope.target name ≠ some .workflow →
    scope.target name = (s.references.lookup name).map Target.node

structure Linked (ids : List String) (edge : ParsedEdge F) (pair : Option Target × Option Target) :
    Prop where
  id_eq : edge.id = edge.source ++ "-" ++ edge.target
  source_mem : edge.source ∈ ids
  target_mem : edge.target ∈ ids
  source : pair.1 ≠ some .workflow → pair.1 = some (.node edge.source)
  target : pair.2 ≠ some .workflow → pair.2 = some (.node edge.target)

section Names

variable {py : Interpreter F} {scope : Scope} {s s' : ParserState F}

theorem scoped_start : Scoped .empty (ParserState.start F) where
  count := rfl
  ids := rfl
  references name id h := by cases h
  target name _ := rfl

theorem Scoped.accepts {stmt : Stmt F} (h : Scoped scope s) (hAccepts : Accepts py s stmt s') :
    Scoped (scope.next stmt) s' := by
  cases hAccepts with
  | importing => exact h
  | workflow hFirst hCall hParse =>
    rename_i bound name func args kws position valuePosition
    rw [Scope.next, Scope.bind, if_pos hCall]
    refine ⟨h.count, h.ids, h.references, fun name hNot => ?_⟩
    by_cases hName : name = bound
    · subst hName
      exact absurd (Function.update_self ..) hNot
    · dsimp only at hNot ⊢
      rw [Function.update_of_ne hName] at hNot ⊢
      exact h.target name hNot
  | node hCall hParse =>
    rename_i bound func args kws position valuePosition parts
    rw [Scope.next, Scope.bind, if_neg hCall]
    have hIds : (s.addNode bound parts).nodes.map ParsedNode.id =
        s.nodes.map ParsedNode.id ++ [toString (s.nodes.length + 1)] := by
      rw [ParserState.addNode, List.map_append]
      rfl
    refine ⟨?_, ?_, fun name id hLookup => ?_, fun name hNot => ?_⟩
    · rw [h.count, ParserState.addNode, List.length_append]
      rfl
    · rw [hIds, h.ids, ParserState.addNode, List.length_append, List.length_singleton,
        List.range_succ, List.map_append]
      rfl
    · rw [hIds]
      by_cases hName : name = bound
      · subst hName
        rw [ParserState.addNode, AList.lookup_insert] at hLookup
        cases hLookup
        exact List.mem_append_right _ List.mem_cons_self
      · rw [ParserState.addNode, AList.lookup_insert_ne hName] at hLookup
        exact List.mem_append_left _ (h.references name id hLookup)
    · rw [ParserState.addNode]
      by_cases hName : name = bound
      · subst hName
        rw [AList.lookup_insert, ← h.count]
        exact Function.update_self ..
      · dsimp only at hNot ⊢
        rw [Function.update_of_ne hName] at hNot ⊢
        rw [AList.lookup_insert_ne hName]
        exact h.target name hNot
  | edge hMethod hParse =>
    exact ⟨h.count, h.ids, h.references, h.target⟩

theorem Scoped.linked (h : Scoped scope s) {args : List (Expr F)}
    {kws : List (Option String × Expr F)} {edge : ParsedEdge F} {func : Expr F}
    {position valuePosition : Position} (hParse : parseEdge py s.references args kws = .ok edge) :
    ∃ pair, scope.connection (.expr (.call func args kws) position valuePosition) = some pair ∧
      Linked (s.nodes.map ParsedNode.id) edge pair := by
  obtain ⟨source, target, sourceId, targetId, options, rfl, hSource, hTarget, rfl⟩ :=
    parseEdge_eq_ok hParse
  refine ⟨_, rfl, rfl, h.references _ _ hSource, h.references _ _ hTarget, fun hNot => ?_,
    fun hNot => ?_⟩
  · rw [h.target source hNot, hSource]
    rfl
  · rw [h.target target hNot, hTarget]
    rfl

theorem Linked.mono {ids more : List String} {edge : ParsedEdge F}
    {pair : Option Target × Option Target} (h : Linked ids edge pair) : Linked (ids ++ more) edge pair :=
  { h with
    source_mem := List.mem_append_left _ h.source_mem
    target_mem := List.mem_append_left _ h.target_mem }

theorem Accepts.ids_eq {stmt : Stmt F} (h : Accepts py s stmt s') :
    ∃ more, s'.nodes.map ParsedNode.id = s.nodes.map ParsedNode.id ++ more := by
  cases h with
  | importing => exact ⟨[], (List.append_nil _).symm⟩
  | workflow => exact ⟨[], (List.append_nil _).symm⟩
  | node => exact ⟨_, List.map_append⟩
  | edge => exact ⟨[], (List.append_nil _).symm⟩

theorem AcceptsAll.linked {body : List (Stmt F)} (h : AcceptsAll py s body s')
    (hScoped : Scoped scope s) {pairs : List (Option Target × Option Target)}
    (hEdges : List.Forall₂ (Linked (s.nodes.map ParsedNode.id)) s.edges pairs) :
    (∃ last, Scoped last s') ∧ List.Forall₂ (Linked (s'.nodes.map ParsedNode.id)) s'.edges
      (pairs ++ connections scope body) := by
  induction h generalizing scope pairs with
  | nil => exact ⟨⟨scope, hScoped⟩, by rwa [connections, List.append_nil]⟩
  | cons hFirst hRest ih =>
    rename_i s next last stmt body
    have hNext : List.Forall₂ (Linked (next.nodes.map ParsedNode.id)) next.edges
        (pairs ++ (scope.connection stmt).toList) := by
      obtain ⟨more, hMore⟩ := hFirst.ids_eq
      have hOld : List.Forall₂ (Linked (next.nodes.map ParsedNode.id)) s.edges pairs := by
        rw [hMore]
        exact hEdges.imp fun _ _ hLinked => hLinked.mono
      cases hFirst with
      | importing => simpa [Scope.connection] using hOld
      | workflow => simpa [Scope.connection, ParserState.setWorkflow] using hOld
      | node => simpa [Scope.connection, ParserState.addNode] using hOld
      | edge hMethod hParse =>
        obtain ⟨pair, hPair, hLinked⟩ := hScoped.linked hParse
        rw [hPair]
        exact List.rel_append hOld (.cons hLinked .nil)
    have hAll := ih (hScoped.accepts hFirst) hNext
    rwa [List.append_assoc] at hAll

end Names

/-- Nothing that the parser computes ends it with an exception. -/
structure NothingRaises (py : Interpreter F) (body : List (Stmt F)) : Prop where
  pass : NoneOverflows py (ParserState.start F) body
  checks : ∀ last, AcceptsAll py (ParserState.start F) body last → last.workflowVar.isSome = true →
    ∀ node ∈ last.nodes, ¬DataRaises py (nodeProperties py node.type) node.data

def Accepted (py : Interpreter F) (body : List (Stmt F)) : Prop :=
  ∃ last, AcceptsAll py (ParserState.start F) body last ∧ last.workflowVar.isSome = true ∧
    ∀ node ∈ last.nodes, ∃ data,
      validateData py (nodeProperties py node.type) node.data = .ok (.ok data)

/-- Each argument of an edge call stands for a node, and no two calls connect the same nodes. -/
structure EdgesApart (body : List (Stmt F)) : Prop where
  distinct : (connections .empty body).Nodup
  nodes : ∀ pair ∈ connections .empty body, pair.1 ≠ some .workflow ∧ pair.2 ≠ some .workflow

section Sources

variable {py : Interpreter F} {body : List (Stmt F)}

theorem finish_parsed {s : ParserState F} {nodes : List (ParsedNode F)} {edges : List (ParsedEdge F)}
    {workflowName : String} (h : finish py s = .ok (.parsed nodes edges workflowName)) :
    s.errors = [] ∧ s.workflowVar.isSome = true ∧ validateNodes py s.nodes = .ok (.ok nodes) ∧
      s.edges = edges := by
  rw [finish] at h
  split at h
  · cases h
  · rename_i hErrors
    split at h
    · cases h
    · rename_i hWorkflow
      cases hNodes : validateNodes py s.nodes with
      | error error =>
        rw [hNodes] at h
        cases h
      | ok result =>
        rw [hNodes] at h
        cases result with
        | error errors => cases h
        | ok validated =>
          cases h
          exact ⟨by simpa using hErrors, Option.isSome_iff_ne_none.mpr (by simpa using hWorkflow), rfl, rfl⟩

theorem finish_failed {s : ParserState F} {stage : Stage} {errors : List ErrorItem}
    (h : finish py s = .ok (.failed stage errors)) : errors ≠ [] := by
  rw [finish] at h
  split at h
  · rename_i hErrors
    cases h
    simpa using hErrors
  · split at h
    · cases h
      exact List.cons_ne_nil _ _
    · cases hNodes : validateNodes py s.nodes with
      | error error =>
        rw [hNodes] at h
        cases h
      | ok result =>
        rw [hNodes] at h
        cases result with
        | ok validated => cases h
        | error messages =>
          cases h
          exact validateNodes_errors hNodes

theorem finish_returns_iff {s : ParserState F} :
    (∃ result, finish py s = .ok result) ↔ (s.errors = [] → s.workflowVar.isSome = true →
      ∃ result, validateNodes py s.nodes = .ok result) := by
  rw [finish]
  split
  · rename_i hErrors
    exact ⟨fun _ hNone => absurd hNone (by simpa using hErrors), fun _ => ⟨_, rfl⟩⟩
  · rename_i hErrors
    split
    · rename_i hWorkflow
      exact ⟨fun _ _ hSome => absurd hSome (by simpa using hWorkflow), fun _ => ⟨_, rfl⟩⟩
    · rename_i hWorkflow
      have hErrors' : s.errors = [] := by simpa using hErrors
      have hWorkflow' : s.workflowVar.isSome = true :=
        Option.isSome_iff_ne_none.mpr (by simpa using hWorkflow)
      cases hNodes : validateNodes py s.nodes with
      | error error =>
        constructor
        · rintro ⟨_, h⟩
          cases h
        · intro h
          obtain ⟨_, hResult⟩ := h hErrors' hWorkflow'
          cases hResult
      | ok result =>
        refine ⟨fun _ _ _ => ⟨result, rfl⟩, fun _ => ?_⟩
        cases result with
        | ok validated => exact ⟨_, rfl⟩
        | error messages => exact ⟨_, rfl⟩

theorem parseModule_eq {last : ParserState F} (h : body.foldlM (step py) (ParserState.start F) = .ok last) :
    parseModule py body = finish py last := by
  rw [parseModule, h]
  rfl

theorem parseModule_returns_iff : (∃ result, parseModule py body = .ok result) ↔ NothingRaises py body := by
  constructor
  · rintro ⟨result, hResult⟩
    have hPass : ∃ last, body.foldlM (step py) (ParserState.start F) = .ok last := by
      cases hPass : body.foldlM (step py) (ParserState.start F) with
      | ok last => exact ⟨last, rfl⟩
      | error error =>
        rw [parseModule, hPass] at hResult
        cases hResult
    refine ⟨pass_returns_iff.mp hPass, fun last hLast hWorkflow node hNode hRaises => ?_⟩
    rw [parseModule_eq hLast.pass_eq] at hResult
    have hReturns := validateNodes_returns.mp
      (finish_returns_iff.mp ⟨result, hResult⟩ hLast.errors_eq hWorkflow) node hNode
    exact returns_iff_not_raises.mp hReturns
      ((validateData_raises_iff (nodup_properties py node.type)).mpr hRaises)
  · rintro ⟨hPass, hChecks⟩
    obtain ⟨last, hLast⟩ := pass_returns_iff.mpr hPass
    rw [parseModule_eq hLast]
    refine finish_returns_iff.mpr fun hErrors hWorkflow => validateNodes_returns.mpr fun node hNode => ?_
    rw [returns_iff_not_raises, validateData_raises_iff (nodup_properties py node.type)]
    exact hChecks last (acceptsAll_of_pass hLast hErrors) hWorkflow node hNode

theorem parsed_cases {nodes : List (ParsedNode F)} {edges : List (ParsedEdge F)}
    {workflowName : String} (h : parseModule py body = .ok (.parsed nodes edges workflowName)) :
    ∃ last, AcceptsAll py (ParserState.start F) body last ∧ last.workflowVar.isSome = true ∧
      validateNodes py last.nodes = .ok (.ok nodes) ∧ last.edges = edges ∧
      finish py last = .ok (.parsed nodes edges workflowName) := by
  cases hPass : body.foldlM (step py) (ParserState.start F) with
  | error error =>
    rw [parseModule, hPass] at h
    cases h
  | ok last =>
    rw [parseModule_eq hPass] at h
    obtain ⟨hErrors, hWorkflow, hNodes, hEdges⟩ := finish_parsed h
    exact ⟨last, acceptsAll_of_pass hPass hErrors, hWorkflow, hNodes, hEdges, h⟩

theorem failed_errors {stage : Stage} {errors : List ErrorItem}
    (h : parseModule py body = .ok (.failed stage errors)) : errors ≠ [] := by
  cases hPass : body.foldlM (step py) (ParserState.start F) with
  | error error =>
    rw [parseModule, hPass] at h
    cases h
  | ok last =>
    rw [parseModule_eq hPass] at h
    exact finish_failed h

theorem AcceptsAll.isBindingOrEdge {s s' : ParserState F} (h : AcceptsAll py s body s') :
    ∀ stmt ∈ body, stmt.isImport = true ∨ isBindingOrEdge stmt = true := by
  induction h with
  | nil => exact fun _ h => absurd h List.not_mem_nil
  | cons hFirst _ ih =>
    rintro stmt (_ | ⟨_, hStmt⟩)
    · exact hFirst.isBindingOrEdge
    · exact ih stmt hStmt

theorem linked_of_mem {ids : List String} {edges : List (ParsedEdge F)}
    {pairs : List (Option Target × Option Target)} (h : List.Forall₂ (Linked ids) edges pairs) :
    ∀ edge ∈ edges, ∃ pair ∈ pairs, Linked ids edge pair := by
  induction h with
  | nil => exact fun _ h => absurd h List.not_mem_nil
  | cons hFirst _ ih =>
    rintro edge (_ | ⟨_, hEdge⟩)
    · exact ⟨_, List.mem_cons_self, hFirst⟩
    · obtain ⟨pair, hPair, hLinked⟩ := ih edge hEdge
      exact ⟨pair, List.mem_cons_of_mem _ hPair, hLinked⟩

def ParsedEdge.ends (edge : ParsedEdge F) : Option Target × Option Target :=
  (some (.node edge.source), some (.node edge.target))

theorem ends_eq_of_linked {ids : List String} {edges : List (ParsedEdge F)}
    {pairs : List (Option Target × Option Target)} (h : List.Forall₂ (Linked ids) edges pairs)
    (hNodes : ∀ pair ∈ pairs, pair.1 ≠ some .workflow ∧ pair.2 ≠ some .workflow) :
    edges.map ParsedEdge.ends = pairs := by
  induction h with
  | nil => rfl
  | cons hFirst _ ih =>
    obtain ⟨hPair, hRest⟩ := List.forall_mem_cons.mp hNodes
    rw [List.map_cons, ih hRest, ParsedEdge.ends, ← hFirst.source hPair.1, ← hFirst.target hPair.2]

theorem nodup_edgeIds {ids : List String} (hIds : ∀ id ∈ ids, ∃ n : Nat, id = toString n)
    {edges : List (ParsedEdge F)} {pairs : List (Option Target × Option Target)}
    (h : List.Forall₂ (Linked ids) edges pairs) :
    (edges.map ParsedEdge.id).Nodup ↔ (edges.map ParsedEdge.ends).Nodup := by
  rw [List.Nodup, List.Nodup, List.pairwise_map, List.pairwise_map]
  refine List.Pairwise.iff_of_mem fun {edge other} hEdge hOther => not_congr ?_
  obtain ⟨_, _, hLinked⟩ := linked_of_mem h edge hEdge
  obtain ⟨_, _, hLinked'⟩ := linked_of_mem h other hOther
  obtain ⟨m, hm⟩ := hIds _ hLinked.target_mem
  obtain ⟨n, hn⟩ := hIds _ hLinked'.target_mem
  rw [hLinked.id_eq, hLinked'.id_eq, ParsedEdge.ends, ParsedEdge.ends, hm, hn]
  constructor
  · intro hEq
    obtain ⟨hSource, rfl⟩ := Text.append_dash_number_inj hEq
    rw [hSource]
  · intro hEq
    simp only [Prod.mk.injEq, Option.some.injEq, Target.node.injEq] at hEq
    rw [hEq.1, hEq.2]

theorem sound_iff {nodes : List (ParsedNode F)} {edges : List (ParsedEdge F)}
    {workflowName : String} (h : parseModule py body = .ok (.parsed nodes edges workflowName)) :
    SoundResult py body nodes edges workflowName ↔ EdgesApart body := by
  obtain ⟨last, hAccepts, hWorkflow, hNodes, rfl, hFinish⟩ := parsed_cases h
  obtain ⟨⟨scope, hScoped⟩, hLinked⟩ := hAccepts.linked scoped_start .nil
  rw [List.nil_append] at hLinked
  obtain ⟨hIds, hConforms⟩ := validateNodes_spec hNodes
  have hNumbers : ∀ id ∈ last.nodes.map ParsedNode.id, ∃ n : Nat, id = toString n := by
    intro id hId
    rw [hScoped.ids] at hId
    obtain ⟨i, -, rfl⟩ := List.mem_map.mp hId
    exact ⟨i + 1, rfl⟩
  constructor
  · intro hSound
    have hEnds : last.edges.map ParsedEdge.ends = connections .empty body := hSound.connected
    refine ⟨hEnds ▸ (nodup_edgeIds hNumbers hLinked).mp hSound.edgeIds, ?_⟩
    rw [← hEnds]
    intro pair hPair
    obtain ⟨edge, -, rfl⟩ := List.mem_map.mp hPair
    exact ⟨fun hEq => (by cases hEq), fun hEq => (by cases hEq)⟩
  · intro hApart
    have hEnds := ends_eq_of_linked hLinked hApart.nodes
    exact
      { sources := fun edge hEdge => by
          obtain ⟨_, _, hLink⟩ := linked_of_mem hLinked edge hEdge
          exact hIds ▸ hLink.source_mem
        targets := fun edge hEdge => by
          obtain ⟨_, _, hLink⟩ := linked_of_mem hLinked edge hEdge
          exact hIds ▸ hLink.target_mem
        nodeIds := by
          rw [hIds, hScoped.ids]
          exact List.nodup_range.map fun i j hEq => Nat.succ_injective (Text.toString_injective hEq)
        edgeIds := (nodup_edgeIds hNumbers hLinked).mpr (hEnds ▸ hApart.distinct)
        connected := hEnds
        conforms := hConforms
        accepted := hAccepts.isBindingOrEdge
        independent := fun body' hSame => by
          rw [parseModule_eq (hAccepts.of_relevant hSame).pass_eq, hFinish] }

theorem accepted_iff : Accepted py body ↔
    ∃ nodes edges workflowName, parseModule py body = .ok (.parsed nodes edges workflowName) := by
  constructor
  · rintro ⟨last, hAccepts, hWorkflow, hData⟩
    have hErrors : last.errors = [] := hAccepts.errors_eq
    obtain ⟨nodes, hNodes⟩ := validateNodes_valid_iff.mpr hData
    refine ⟨nodes, last.edges, last.workflowName, ?_⟩
    rw [parseModule_eq hAccepts.pass_eq, finish, hErrors, if_neg (by simp),
      if_neg (by simpa [Option.isSome_iff_ne_none] using hWorkflow), hNodes]
    rfl
  · rintro ⟨nodes, edges, workflowName, h⟩
    obtain ⟨last, hAccepts, hWorkflow, hNodes, -, -⟩ := parsed_cases h
    exact ⟨last, hAccepts, hWorkflow, validateNodes_valid_iff.mp ⟨nodes, hNodes⟩⟩

/-- Every source is answered soundly exactly if nothing raises and, where it is accepted, its edges are
apart. -/
theorem sound_source_iff (py : Interpreter F) (parse : String → Except SyntaxError (List (Stmt F)))
    (code : String) : SoundSource py parse code ↔ ∀ body, parse code = .ok body →
      NothingRaises py body ∧ (Accepted py body → EdgesApart body) := by
  rw [SoundSource, parseCode]
  cases hParse : parse code with
  | error error => exact ⟨fun _ _ h => (by cases h), fun _ => List.cons_ne_nil _ _⟩
  | ok body =>
    have hBody : ∀ {P : List (Stmt F) → Prop},
        (∀ other, (Except.ok body : Except SyntaxError _) = .ok other → P other) ↔ P body :=
      ⟨fun h => h body rfl, fun h other hOther => (by cases hOther; exact h)⟩
    rw [hBody]
    dsimp only
    cases hModule : parseModule py body with
    | error error =>
      refine ⟨False.elim, fun h => ?_⟩
      obtain ⟨_, hResult⟩ := parseModule_returns_iff.mpr h.1
      rw [hModule] at hResult
      cases hResult
    | ok result =>
      have hReturns : NothingRaises py body := parseModule_returns_iff.mp ⟨result, hModule⟩
      cases result with
      | failed stage errors =>
        refine ⟨fun _ => ⟨hReturns, fun hAccepted => ?_⟩, fun _ => failed_errors hModule⟩
        obtain ⟨_, _, _, hParsed⟩ := accepted_iff.mp hAccepted
        rw [hModule] at hParsed
        cases hParsed
      | parsed nodes edges workflowName =>
        have hAccepted : Accepted py body := accepted_iff.mpr ⟨_, _, _, hModule⟩
        dsimp only
        rw [hBody, sound_iff hModule]
        exact ⟨fun h => ⟨hReturns, fun _ => h⟩, fun h => h.2 hAccepted⟩

end Sources

def tenths : Interpreter Int where
  literal text := if text = "0.1" then 1 else if text = "2.0" then 20 else
    if text = "10.0" then 100 else 0
  ofInt n := some (n * 10)
  eq _ _ := false
  lt m n := match m, n with
    | .float m, .float n => m < n
    | _, _ => false
  neg n := n
  sum _ _ _ := none
  floatText _ := ""
  repr _ := none
  quote text := s!"'{text}'"
  least values := values.head?
  search _ _ := true

def sourceText : String :=
  String.intercalate "\n" [
    "workflow = Workflow(name=\"demo\")",
    "start = workflow.add(type=\"startCall\", prompt=\"Hello\")",
    "done = workflow.add(type=\"endCall\", prompt=\"Bye\")",
    "workflow.edge(start, done, label=\"done\", condition=\"the caller is done\")",
    "workflow.edge(start, done, label=\"stop\", condition=\"the caller is angry\")"]

def textKeyword (name value : String) : Option String × Expr Int :=
  (some name, .constant (.str value))

def addCall (bound type prompt : String) (line : Nat) : Stmt Int :=
  .assign [.name bound] (.call (.attribute (.name "workflow") "add") []
    [textKeyword "type" type, textKeyword "prompt" prompt]) ⟨line, 1⟩ ⟨line, bound.length + 4⟩

def edgeCall (label condition : String) (line : Nat) : Stmt Int :=
  .expr (.call (.attribute (.name "workflow") "edge") [.name "start", .name "done"]
    [textKeyword "label" label, textKeyword "condition" condition]) ⟨line, 1⟩ ⟨line, 1⟩

def sourceBody : List (Stmt Int) :=
  [.assign [.name "workflow"] (.call (.name "Workflow") [] [textKeyword "name" "demo"]) ⟨1, 1⟩
      ⟨1, 12⟩,
    addCall "start" "startCall" "Hello" 2, addCall "done" "endCall" "Bye" 3,
    edgeCall "done" "the caller is done" 4, edgeCall "stop" "the caller is angry" 5]

def parseText (code : String) : Except SyntaxError (List (Stmt Int)) :=
  if code = sourceText then .ok sourceBody else .error ⟨"invalid syntax", some 1, some 1⟩

theorem repeated_edge_ids : ¬ ∀ (py : Interpreter Int)
    (parse : String → Except SyntaxError (List (Stmt Int))) (code : String),
    SoundSource py parse code := by
  intro h
  have hRepeated : (parseModule tenths sourceBody).toOption.any (fun result => match result with
      | .parsed _ edges _ => decide (¬(edges.map ParsedEdge.id).Nodup)
      | .failed _ _ => false) = true := by
    decide +kernel
  obtain ⟨parse, code, hParse⟩ : ∃ (parse : String → Except SyntaxError (List (Stmt Int)))
      (code : String), parse code = .ok sourceBody :=
    ⟨parseText, sourceText, by simp only [parseText, if_true]⟩
  have hSound := h tenths parse code
  simp only [SoundSource, parseCode, hParse] at hSound
  cases hModule : parseModule tenths sourceBody with
  | error error =>
    rw [hModule] at hSound
    exact hSound
  | ok result =>
    rw [hModule] at hSound hRepeated
    cases result with
    | failed stage errors => cases hRepeated
    | parsed nodes edges workflowName =>
      exact of_decide_eq_true hRepeated (hSound sourceBody rfl).edgeIds

end FastVoice.Bridge
