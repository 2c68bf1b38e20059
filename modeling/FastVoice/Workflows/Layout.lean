import FastVoice.Runtime.Text
import Mathlib.Data.List.Find
import Mathlib.Data.List.Nodup
import Mathlib.Data.Set.Function

/-! # Positions of an edited workflow

The nodes of an edited workflow take the positions of the nodes that they match in the stored one, and the others are
placed beside a neighbour. A node that still is at the origin counts as one of the others.
-/
namespace FastVoice.Workflows.Layout

variable {K : Type}

structure Grid (K : Type) where
  zero : K
  isZero : K → Bool
  isZero_zero : isZero zero = true
  right : K → K
  down : K → K

structure Node (K : Type) where
  id : String
  type : String
  name : String
  position : Option (K × K)

structure Edge where
  source : String
  target : String

structure Workflow (K : Type) where
  nodes : List (Node K)
  edges : List Edge

def Node.label (node : Node K) : String := Text.strip node.name

def Node.moved (node : Node K) (position : Option (K × K)) : Node K :=
  { node with position := position.or node.position }

section

variable (grid : Grid K)

def Node.placed (node : Node K) : K × K := node.position.getD (grid.zero, grid.zero)

def Node.atOrigin (node : Node K) : Bool :=
  node.position.all fun position => grid.isZero position.1 && grid.isZero position.2

def namedPosition (previous : List (Node K)) (type name : String) : Option (K × K) :=
  (previous.reverse.find? fun node => node.type = type && node.label = name).map (·.placed grid)

def unnamedPositions (previous : List (Node K)) (type : String) : List (K × K) :=
  (previous.filter fun node => node.type = type && node.label = "").map (·.placed grid)

def matchNode (previous : List (Node K)) (cursor : String → Nat) (node : Node K) :
    Option (K × K) × (String → Nat) :=
  match if node.label = "" then none else namedPosition grid previous node.type node.label with
  | some position => (some position, cursor)
  | none =>
    match (unnamedPositions grid previous node.type)[cursor node.type]? with
    | some position => (some position, fun type => if type = node.type then cursor type + 1 else cursor type)
    | none => (none, cursor)

def matchNodes (previous : List (Node K)) : (String → Nat) → List (Node K) → List (Option (K × K))
  | _, [] => []
  | cursor, node :: nodes =>
    (matchNode grid previous cursor node).1 :: matchNodes previous (matchNode grid previous cursor node).2 nodes

def sourceOf (edges : List Edge) (nodes : List (Node K)) (node : Node K) : Option (Node K) :=
  (edges.find? fun edge => edge.target = node.id).bind fun edge =>
    if edge.source = "" then none else nodes.reverse.find? fun other => other.id = edge.source

def beside (source : Node K) : K × K := (grid.right (source.placed grid).1, grid.down (source.placed grid).2)

def inventedPosition (edges : List Edge) (nodes : List (Node K)) (node : Node K) : Option (K × K) :=
  if node.atOrigin grid then (sourceOf edges nodes node).map (beside grid) else none

/-- The loop of `_place_new_nodes`, behind the nodes that it has placed. -/
def placeFrom (edges : List Edge) : List (Node K) → List (Node K) → List (Node K)
  | placed, [] => placed
  | placed, node :: nodes =>
    placeFrom edges (placed ++ [node.moved (inventedPosition grid edges (placed ++ node :: nodes) node)]) nodes

def inventions (edges : List Edge) : List (Node K) → List (Node K) → List (Option (K × K))
  | _, [] => []
  | placed, node :: nodes =>
    let position := inventedPosition grid edges (placed ++ node :: nodes) node
    position :: inventions edges (placed ++ [node.moved position]) nodes

def placeNewNodes (workflow : Workflow K) : Workflow K :=
  { workflow with nodes := placeFrom grid workflow.edges [] workflow.nodes }

/-- What the nodes take from a previous workflow, if there is one. -/
def matchedPositions (new : Workflow K) : Option (Workflow K) → List (Option (K × K))
  | none => new.nodes.map fun _ => none
  | some previous => matchNodes grid previous.nodes (fun _ => 0) new.nodes

def matchedNodes (new : Workflow K) (previous : Option (Workflow K)) : List (Node K) :=
  List.zipWith Node.moved new.nodes (matchedPositions grid new previous)

def reconcilePositions (new : Workflow K) (previous : Option (Workflow K)) : Workflow K :=
  placeNewNodes grid { new with nodes := matchedNodes grid new previous }

end

def Workflow.ids (workflow : Workflow K) : List String :=
  workflow.nodes.map (·.id) ++ workflow.edges.flatMap fun edge => [edge.source, edge.target]

def renumbered (rename : String → String) (workflow : Workflow K) : Workflow K where
  nodes := workflow.nodes.map fun node => { node with id := rename node.id, position := none }
  edges := workflow.edges.map fun edge => ⟨rename edge.source, rename edge.target⟩

structure Renumbers (rename : String → String) (workflow : Workflow K) : Prop where
  distinct : (workflow.nodes.map (·.id)).Nodup
  injective : Set.InjOn rename {id | id ∈ workflow.ids}
  nonempty : ∀ node ∈ workflow.nodes, rename node.id ≠ ""

section

variable (grid : Grid K) (workflow : Workflow K)

def KeepsPositions (rename : String → String) : Prop :=
  (reconcilePositions grid (renumbered rename workflow) (some workflow)).nodes.map (·.position) =
    workflow.nodes.map fun node => some (node.placed grid)

/-- The position that a node takes: that of the last node of its type and name, or its own if it has no name. -/
def matchPosition (node : Node K) : K × K :=
  if node.label = "" then node.placed grid
  else (namedPosition grid workflow.nodes node.type node.label).getD (node.placed grid)

def neighborOf (node : Node K) : Option (Node K) :=
  (workflow.edges.find? fun edge => edge.target = node.id).bind fun edge =>
    workflow.nodes.find? fun other => other.id = edge.source

def standing (before : List (Node K)) (node : Node K) : K × K :=
  if before.any fun other => other.id = node.id then node.placed grid else matchPosition grid workflow node

/-- The position that a node takes, or the one beside its neighbour if that is the origin. -/
def landing (before : List (Node K)) (node : Node K) : K × K :=
  match grid.isZero (matchPosition grid workflow node).1 && grid.isZero (matchPosition grid workflow node).2,
      neighborOf workflow node with
  | true, some source =>
    (grid.right (standing grid workflow before source).1, grid.down (standing grid workflow before source).2)
  | _, _ => matchPosition grid workflow node

def Settled : Prop :=
  ∀ before node after, workflow.nodes = before ++ node :: after →
    node.placed grid = landing grid workflow before node

end

section

variable {grid : Grid K} {workflow : Workflow K} {rename : String → String}

theorem namedPosition_isSome (grid : Grid K) {previous : List (Node K)} {node : Node K} (hNode : node ∈ previous) :
    ∃ position, namedPosition grid previous node.type node.label = some position := by
  have hSome : (previous.reverse.find? fun other => other.type = node.type && other.label = node.label).isSome = true :=
    List.find?_isSome.mpr ⟨node, List.mem_reverse.mpr hNode, by simp⟩
  obtain ⟨found, hFound⟩ := Option.isSome_iff_exists.mp hSome
  exact ⟨found.placed grid, by rw [namedPosition, hFound]; rfl⟩

def counted (before : List (Node K)) (type : String) : Nat :=
  (before.filter fun node => node.type = type && node.label = "").length

theorem matchNode_renumbered (grid : Grid K) {before after : List (Node K)} {node : Node K}
    (hNodes : workflow.nodes = before ++ node :: after) (other : Node K) (hType : other.type = node.type)
    (hLabel : other.label = node.label) : matchNode grid workflow.nodes (counted before) other =
      (some (matchPosition grid workflow node), counted (before ++ [node])) := by
  have hMem : node ∈ workflow.nodes := hNodes ▸ List.mem_append_right _ List.mem_cons_self
  rw [matchNode, hType, hLabel]
  by_cases hName : node.label = ""
  · have hHere : (unnamedPositions grid workflow.nodes node.type)[counted before node.type]? =
        some (node.placed grid) := by
      rw [unnamedPositions, hNodes, List.filter_append, List.map_append, counted, List.getElem?_append_right (by simp),
        List.length_map, Nat.sub_self, List.filter_cons_of_pos (by simp [hName])]
      rfl
    rw [if_pos hName]
    dsimp only
    rw [hHere]
    refine Prod.ext (congrArg some (if_pos hName).symm) (funext fun type => ?_)
    change (if type = node.type then counted before type + 1 else counted before type) = counted (before ++ [node]) type
    by_cases hSame : type = node.type
    · simp [counted, hSame, hName]
    · have hOther : node.type ≠ type := fun h => hSame h.symm
      simp [counted, hSame, hOther]
  · obtain ⟨position, hPosition⟩ := namedPosition_isSome grid hMem
    rw [if_neg hName, hPosition]
    refine Prod.ext (congrArg some ?_) (funext fun type => ?_)
    · rw [matchPosition, if_neg hName, hPosition]
      rfl
    · simp [counted, hName]

theorem matchNodes_renumbered {after : List (Node K)} : ∀ before : List (Node K),
    workflow.nodes = before ++ after → matchNodes grid workflow.nodes (counted before)
      (after.map fun node => { node with id := rename node.id, position := none }) =
      after.map fun node => some (matchPosition grid workflow node) := by
  induction after with
  | nil => exact fun _ _ => rfl
  | cons node after ih =>
    intro before hNodes
    have hHere := matchNode_renumbered grid hNodes
      { node with id := rename node.id, position := none } rfl rfl
    rw [List.map_cons, matchNodes, hHere, List.map_cons]
    exact congrArg _ (ih _ (by rw [hNodes, List.append_assoc, List.singleton_append]))

def renamed (rename : String → String) (position : Node K → K × K) (node : Node K) : Node K :=
  { node with id := rename node.id, position := some (position node) }

theorem find?_unique {α : Type} {p : α → Bool} {l : List α} {a : α} (hMem : a ∈ l) (ha : p a = true)
    (hOnly : ∀ b ∈ l, p b = true → b = a) : l.find? p = some a := by
  obtain ⟨found, hFound⟩ := Option.isSome_iff_exists.mp (List.find?_isSome.mpr ⟨a, hMem, ha⟩)
  rw [hFound, hOnly found (List.mem_of_find?_eq_some hFound) (List.find?_some hFound)]

theorem inventedPosition_renamed (position : Node K → K × K) (edges : List Edge) (nodes : List (Node K))
    (node : Node K) : inventedPosition grid edges nodes (renamed rename position node) =
      if grid.isZero (position node).1 && grid.isZero (position node).2 then
        (sourceOf edges nodes (renamed rename position node)).map (beside grid)
      else none := rfl

theorem sourceOf_renamed (hRename : Renumbers rename workflow) (position : Node K → K × K) {node : Node K}
    (hNode : node ∈ workflow.nodes) :
    sourceOf (workflow.edges.map fun edge => ⟨rename edge.source, rename edge.target⟩)
      (workflow.nodes.map (renamed rename position)) (renamed rename position node) =
      (neighborOf workflow node).map (renamed rename position) := by
  have hIds : ∀ other ∈ workflow.nodes, other.id ∈ workflow.ids := fun other hOther =>
    List.mem_append_left _ (List.mem_map_of_mem hOther)
  have hEdges : ∀ edge ∈ workflow.edges, edge.source ∈ workflow.ids ∧ edge.target ∈ workflow.ids :=
    fun edge hEdge => ⟨List.mem_append_right _ (List.mem_flatMap.mpr ⟨edge, hEdge, by simp⟩),
      List.mem_append_right _ (List.mem_flatMap.mpr ⟨edge, hEdge, by simp⟩)⟩
  have hTarget : (workflow.edges.map fun edge => (⟨rename edge.source, rename edge.target⟩ : Edge)).find?
      (fun edge => edge.target = rename node.id) =
      (workflow.edges.find? fun edge => edge.target = node.id).map
        fun edge => ⟨rename edge.source, rename edge.target⟩ := by
    rw [List.find?_map]
    refine congrArg (Option.map _) (List.find?_congr fun edge hEdge => ?_)
    rw [Bool.eq_iff_iff, Function.comp_apply, decide_eq_true_eq, decide_eq_true_eq]
    exact ⟨fun h => hRename.injective (hEdges edge hEdge).2 (hIds node hNode) h, fun h => congrArg rename h⟩
  rw [sourceOf, neighborOf]
  change ((workflow.edges.map fun edge => (⟨rename edge.source, rename edge.target⟩ : Edge)).find?
    (fun edge => edge.target = rename node.id)).bind _ = _
  rw [hTarget]
  cases hEdge : workflow.edges.find? fun edge => edge.target = node.id with
  | none => rfl
  | some edge =>
    have hSource := (hEdges edge (List.mem_of_find?_eq_some hEdge)).1
    change (if rename edge.source = "" then none else
      (workflow.nodes.map (renamed rename position)).reverse.find? fun other => other.id = rename edge.source) =
      (workflow.nodes.find? fun other => other.id = edge.source).map (renamed rename position)
    cases hFound : workflow.nodes.find? fun other => other.id = edge.source with
    | none =>
      rw [Option.map_none]
      split
      · rfl
      · rw [List.find?_eq_none]
        intro other hOther hSame
        obtain ⟨before, hBefore, rfl⟩ := List.mem_map.mp (List.mem_reverse.mp hOther)
        have hId := hRename.injective (hIds before hBefore) hSource (of_decide_eq_true hSame)
        exact List.find?_eq_none.mp hFound before hBefore (decide_eq_true hId)
    | some source =>
      have hMem := List.mem_of_find?_eq_some hFound
      have hId : source.id = edge.source := by simpa using List.find?_some hFound
      rw [if_neg (hId ▸ hRename.nonempty source hMem), Option.map_some]
      refine find?_unique (List.mem_reverse.mpr (List.mem_map_of_mem hMem)) (decide_eq_true (congrArg rename hId)) ?_
      intro other hOther hSame
      obtain ⟨before, hBefore, rfl⟩ := List.mem_map.mp (List.mem_reverse.mp hOther)
      have hOtherId := hRename.injective (hIds before hBefore) hSource (of_decide_eq_true hSame)
      rw [List.inj_on_of_nodup_map hRename.distinct hBefore hMem (hOtherId.trans hId.symm)]

theorem placed_prefix (grid : Grid K) (edges : List Edge) (nodes : List (Node K)) : ∀ placed : List (Node K),
    placed <+: placeFrom grid edges placed nodes := by
  induction nodes with
  | nil => exact fun placed => List.prefix_refl placed
  | cons node nodes ih => exact fun placed => (List.prefix_append placed _).trans (ih _)

theorem current_nodes (hDistinct : (workflow.nodes.map (·.id)).Nodup) {before after : List (Node K)}
    (hNodes : workflow.nodes = before ++ after) : before.map (renamed rename (·.placed grid)) ++
      after.map (renamed rename (matchPosition grid workflow)) =
      workflow.nodes.map (renamed rename (standing grid workflow before)) := by
  rw [hNodes, List.map_append] at hDistinct
  rw [hNodes, List.map_append]
  refine congrArg₂ (· ++ ·) (List.map_congr_left fun node hNode => ?_) (List.map_congr_left fun node hNode => ?_)
  · have hBefore : (before.any fun other => decide (other.id = node.id)) = true :=
      List.any_eq_true.mpr ⟨node, hNode, decide_eq_true rfl⟩
    simp only [renamed, standing, if_pos hBefore]
  · have hAfter : ¬(before.any fun other => decide (other.id = node.id)) = true := by
      intro hAny
      obtain ⟨other, hOther, hSame⟩ := List.any_eq_true.mp hAny
      exact (List.nodup_append.mp hDistinct).2.2 _ (List.mem_map_of_mem hOther) _ (List.mem_map_of_mem hNode)
        (of_decide_eq_true hSame)
    simp only [renamed, standing, if_neg hAfter]

theorem moved_eq_landing (hRename : Renumbers rename workflow) {before after : List (Node K)} {node : Node K}
    (hNodes : workflow.nodes = before ++ node :: after) :
    (renamed rename (matchPosition grid workflow) node).moved (inventedPosition grid
      (workflow.edges.map fun edge => ⟨rename edge.source, rename edge.target⟩)
      (before.map (renamed rename (·.placed grid)) ++
        (node :: after).map (renamed rename (matchPosition grid workflow)))
      (renamed rename (matchPosition grid workflow) node)) =
      renamed rename (landing grid workflow before) node := by
  have hMem : node ∈ workflow.nodes := hNodes ▸ List.mem_append_right _ List.mem_cons_self
  have hSource := sourceOf_renamed hRename (standing grid workflow before) hMem
  have hHere : renamed rename (standing grid workflow before) node =
      renamed rename (matchPosition grid workflow) node := by
    have hAfter : ¬(before.any fun other => decide (other.id = node.id)) = true := by
      intro hAny
      obtain ⟨other, hOther, hSame⟩ := List.any_eq_true.mp hAny
      have hDistinct := hRename.distinct
      rw [hNodes, List.map_append] at hDistinct
      exact (List.nodup_append.mp hDistinct).2.2 _ (List.mem_map_of_mem hOther) _
        (List.mem_map_of_mem List.mem_cons_self) (of_decide_eq_true hSame)
    simp only [renamed, standing, if_neg hAfter]
  rw [hHere] at hSource
  rw [current_nodes hRename.distinct hNodes, inventedPosition_renamed, hSource]
  simp only [renamed, landing, Node.moved, Option.map_map]
  cases grid.isZero (matchPosition grid workflow node).1 && grid.isZero (matchPosition grid workflow node).2 with
  | false => rfl
  | true =>
    cases neighborOf workflow node with
    | none => rfl
    | some source => rfl

theorem placeFrom_keeps_iff (hRename : Renumbers rename workflow) {after : List (Node K)} :
    ∀ before : List (Node K), workflow.nodes = before ++ after →
      ((placeFrom grid (workflow.edges.map fun edge => ⟨rename edge.source, rename edge.target⟩)
          (before.map (renamed rename (·.placed grid)))
          (after.map (renamed rename (matchPosition grid workflow)))).map (·.position) =
        (workflow.nodes.map fun node => some (node.placed grid)) ↔
      ∀ mid node rest, after = mid ++ node :: rest →
        node.placed grid = landing grid workflow (before ++ mid) node) := by
  induction after with
  | nil =>
    intro before hNodes
    rw [hNodes, List.append_nil, List.map_nil, placeFrom, List.map_map]
    refine iff_of_true rfl fun mid node rest hEmpty => ?_
    exact absurd hEmpty.symm (by simp)
  | cons node after ih =>
    intro before hNodes
    rw [List.map_cons, placeFrom, ← List.map_cons, moved_eq_landing hRename hNodes]
    have hSplit : (∀ mid other rest, node :: after = mid ++ other :: rest →
        other.placed grid = landing grid workflow (before ++ mid) other) ↔
        node.placed grid = landing grid workflow before node ∧ ∀ mid other rest, after = mid ++ other :: rest →
          other.placed grid = landing grid workflow ((before ++ [node]) ++ mid) other := by
      constructor
      · intro hAll
        refine ⟨by simpa using hAll [] node after rfl, fun mid other rest hAfter => ?_⟩
        have hHere := hAll (node :: mid) other rest (by rw [hAfter, List.cons_append])
        rwa [List.append_assoc, List.singleton_append]
      · rintro ⟨hHere, hLater⟩ mid other rest hEq
        cases mid with
        | nil =>
          obtain ⟨rfl, -⟩ := List.cons.inj hEq
          rwa [List.append_nil]
        | cons first mid =>
          obtain ⟨rfl, hAfter⟩ := List.cons.inj hEq
          have hThere := hLater mid other rest hAfter
          rwa [List.append_assoc, List.singleton_append] at hThere
    rw [hSplit]
    by_cases hHere : node.placed grid = landing grid workflow before node
    · have hSame : renamed rename (landing grid workflow before) node = renamed rename (·.placed grid) node := by
        simp only [renamed, hHere]
      rw [and_iff_right hHere, ← ih _ (by rw [hNodes, List.append_assoc, List.singleton_append]), hSame,
        List.map_append, List.map_singleton]
    · refine iff_of_false (fun hAll => hHere ?_) fun h => hHere h.1
      obtain ⟨rest, hRest⟩ := placed_prefix grid
        (workflow.edges.map fun edge => ⟨rename edge.source, rename edge.target⟩)
        (after.map (renamed rename (matchPosition grid workflow)))
        (before.map (renamed rename (·.placed grid)) ++ [renamed rename (landing grid workflow before) node])
      have hAt := congrArg (fun positions => positions[before.length]?) hAll
      rw [← hRest, hNodes] at hAt
      simpa [renamed] using hAt.symm

theorem keepsPositions_iff (hRename : Renumbers rename workflow) :
    KeepsPositions grid workflow rename ↔ Settled grid workflow := by
  have hMatches : matchNodes grid workflow.nodes (fun _ => 0) (renumbered rename workflow).nodes =
      workflow.nodes.map fun node => some (matchPosition grid workflow node) :=
    matchNodes_renumbered [] rfl
  have hNodes : matchedNodes grid (renumbered rename workflow) (some workflow) =
      workflow.nodes.map (renamed rename (matchPosition grid workflow)) := by
    rw [matchedNodes, matchedPositions, hMatches, renumbered, List.zipWith_map_left, List.zipWith_map_right,
      List.zipWith_self]
    rfl
  rw [KeepsPositions, reconcilePositions, hNodes]
  exact placeFrom_keeps_iff hRename [] rfl

end

/-- Positions are made up for nodes that match no previous node only. -/
def OnlyNewInvented (grid : Grid K) (new : Workflow K) (previous : Option (Workflow K)) : Prop :=
  ∀ (i : Nat) (position : K × K),
    (inventions grid new.edges [] (matchedNodes grid new previous))[i]? = some (some position) →
    (matchedPositions grid new previous)[i]? = some none

/-- A node that matches a previous one at the origin has no neighbour. -/
def NoneAtOrigin (grid : Grid K) (new : Workflow K) (previous : Option (Workflow K)) : Prop :=
  ∀ (i : Nat) node position, new.nodes[i]? = some node →
    (matchedPositions grid new previous)[i]? = some (some position) →
    grid.isZero position.1 = true → grid.isZero position.2 = true → sourceOf new.edges new.nodes node = none

section

variable {grid : Grid K} {edges : List Edge}

theorem sourceOf_eq_none_iff {nodes : List (Node K)} {node : Node K} : sourceOf edges nodes node = none ↔
    ∀ edge, edges.find? (fun edge => edge.target = node.id) = some edge →
      edge.source = "" ∨ edge.source ∉ nodes.map (·.id) := by
  rw [sourceOf, Option.bind_eq_none_iff]
  refine forall_congr' fun edge => imp_congr_right fun _ => ?_
  by_cases hSource : edge.source = ""
  · simp [hSource]
  · rw [if_neg hSource, or_iff_right hSource, List.find?_eq_none, List.mem_map, not_exists]
    refine forall_congr' fun other => ?_
    rw [List.mem_reverse, decide_eq_true_eq, not_and]

theorem inventions_getElem? (grid : Grid K) (edges : List Edge) {nodes : List (Node K)} :
    ∀ (placed : List (Node K)) {i : Nat} {node : Node K}, nodes[i]? = some node →
      ∃ current : List (Node K), current.map (·.id) = (placed ++ nodes).map (·.id) ∧
      (inventions grid edges placed nodes)[i]? = some (inventedPosition grid edges current node) := by
  induction nodes with
  | nil => exact fun _ _ _ h => nomatch h
  | cons first nodes ih =>
    intro placed i node hNode
    cases i with
    | zero =>
      cases Option.some.inj hNode
      exact ⟨placed ++ first :: nodes, rfl, rfl⟩
    | succ i =>
      obtain ⟨current, hIds, hHere⟩ := ih (placed ++
        [first.moved (inventedPosition grid edges (placed ++ first :: nodes) first)]) (i := i) hNode
      refine ⟨current, ?_, hHere⟩
      rw [hIds]
      simp [Node.moved]

theorem length_inventions (grid : Grid K) (edges : List Edge) {nodes : List (Node K)} : ∀ placed : List (Node K),
    (inventions grid edges placed nodes).length = nodes.length := by
  induction nodes with
  | nil => exact fun _ => rfl
  | cons node nodes ih => exact fun _ => congrArg (· + 1) (ih _)

theorem length_matchNodes {previous nodes : List (Node K)} : ∀ {cursor : String → Nat},
    (matchNodes grid previous cursor nodes).length = nodes.length := by
  induction nodes with
  | nil => exact rfl
  | cons node nodes ih => exact congrArg (· + 1) ih

theorem length_matchedPositions (grid : Grid K) (new : Workflow K) (previous : Option (Workflow K)) :
    (matchedPositions grid new previous).length = new.nodes.length := by
  cases previous with
  | none => exact List.length_map _
  | some previous => exact length_matchNodes

theorem zipWith_left {α β γ : Type} (f : α → γ) : ∀ {as : List α} {bs : List β}, bs.length = as.length →
    List.zipWith (fun a _ => f a) as bs = as.map f
  | [], _, _ => rfl
  | _ :: _, _ :: _, hLength => congrArg _ (zipWith_left f (Nat.succ.inj hLength))

theorem map_id_matchedNodes (new : Workflow K) (previous : Option (Workflow K)) :
    (matchedNodes grid new previous).map (·.id) = new.nodes.map (·.id) := by
  rw [matchedNodes, List.map_zipWith]
  exact zipWith_left _ (length_matchedPositions grid new previous)

theorem matchedNodes_getElem? {new : Workflow K} {previous : Option (Workflow K)} {i : Nat} {node : Node K}
    {position : Option (K × K)} (hNode : new.nodes[i]? = some node)
    (hPosition : (matchedPositions grid new previous)[i]? = some position) :
    (matchedNodes grid new previous)[i]? = some (node.moved position) := by
  rw [matchedNodes, List.getElem?_zipWith, hNode, hPosition]

theorem onlyNewInvented_iff (new : Workflow K) (previous : Option (Workflow K)) :
    OnlyNewInvented grid new previous ↔ NoneAtOrigin grid new previous := by
  have hInvented {i : Nat} {node : Node K} {position : K × K} (hNode : new.nodes[i]? = some node)
      (hPosition : (matchedPositions grid new previous)[i]? = some (some position)) :
      (inventions grid new.edges [] (matchedNodes grid new previous))[i]? = some none ↔
        (grid.isZero position.1 = true → grid.isZero position.2 = true →
          sourceOf new.edges new.nodes node = none) := by
    obtain ⟨current, hIds, hHere⟩ := inventions_getElem? grid new.edges []
      (matchedNodes_getElem? hNode hPosition)
    have hSource : sourceOf new.edges current (node.moved (some position)) = none ↔
        sourceOf new.edges new.nodes node = none := by
      rw [sourceOf_eq_none_iff, sourceOf_eq_none_iff, hIds, List.nil_append, map_id_matchedNodes]
      rfl
    rw [hHere, Option.some_inj, inventedPosition]
    change (if grid.isZero position.1 && grid.isZero position.2 then
      (sourceOf new.edges current (node.moved (some position))).map (beside grid) else none) = none ↔ _
    rw [← hSource, ite_eq_right_iff, Option.map_eq_none_iff, Bool.and_eq_true, and_imp]
  have hLength : (matchedNodes grid new previous).length = new.nodes.length := by
    rw [← List.length_map (·.id), map_id_matchedNodes, List.length_map]
  constructor
  · intro hOnly i node position hNode hPosition
    refine (hInvented hNode hPosition).mp ?_
    obtain ⟨current, -, hHere⟩ := inventions_getElem? grid new.edges []
      (matchedNodes_getElem? hNode hPosition)
    cases hMade : inventedPosition grid new.edges current (node.moved (some position)) with
    | none => rw [hHere, hMade]
    | some made =>
      rw [hMade] at hHere
      exact nomatch hPosition.symm.trans (hOnly i made hHere)
  · intro hNone i made hMade
    have hBound : i < new.nodes.length := by
      rw [← hLength, ← length_inventions grid new.edges []]
      exact (List.getElem?_eq_some_iff.mp hMade).1
    have hBoundMatched := hBound
    rw [← length_matchedPositions grid new previous] at hBoundMatched
    rw [List.getElem?_eq_getElem hBoundMatched]
    cases hPosition : (matchedPositions grid new previous)[i] with
    | none => rfl
    | some position =>
      have hNode := List.getElem?_eq_getElem hBound
      have hMatched : (matchedPositions grid new previous)[i]? = some (some position) := by
        rw [List.getElem?_eq_getElem hBoundMatched, hPosition]
      have hNothing := (hInvented hNode hMatched).mpr (hNone i _ position hNode hMatched)
      exact nomatch hMade.symm.trans hNothing

end

/-- A save moves nothing where the nodes had settled, and makes up positions for new nodes only where none that it
matches stays at the origin beside a neighbour. -/
theorem layout_iff (grid : Grid K) {workflow : Workflow K} {rename : String → String}
    (hRename : Renumbers rename workflow) : (KeepsPositions grid workflow rename ↔ Settled grid workflow) ∧
      ∀ (new : Workflow K) (previous : Option (Workflow K)),
        OnlyNewInvented grid new previous ↔ NoneAtOrigin grid new previous :=
  ⟨keepsPositions_iff hRename, onlyNewInvented_iff⟩

def pixels : Grid Int := ⟨0, (· == 0), rfl, (· + 400), (· + 200)⟩

def greeting (id : String) (x y : Int) : Node Int := ⟨id, "agentNode", "Greeting", some (x, y)⟩

def namesakes : Workflow Int := ⟨[greeting "1" 100 0, greeting "2" 300 0], []⟩

def centered : Workflow Int := ⟨[⟨"1", "startCall", "Start", some (-400, 0)⟩, greeting "2" 0 0], [⟨"1", "2"⟩]⟩

theorem renumbers_namesakes : Renumbers id namesakes :=
  ⟨by decide, Function.injective_id.injOn, by decide⟩

theorem layout_namesakes : (KeepsPositions pixels namesakes id ↔ Settled pixels namesakes) ∧
    ∀ (new : Workflow Int) (previous : Option (Workflow Int)),
      OnlyNewInvented pixels new previous ↔ NoneAtOrigin pixels new previous :=
  layout_iff pixels renumbers_namesakes

theorem moved_by_save :
    Renumbers id namesakes ∧ ¬KeepsPositions pixels namesakes id ∧
      Renumbers id centered ∧ ¬KeepsPositions pixels centered id ∧
      ¬OnlyNewInvented pixels (renumbered id centered) (some centered) := by
  have hCentered : Renumbers id centered := ⟨by decide, Function.injective_id.injOn, by decide⟩
  refine ⟨renumbers_namesakes, by unfold KeepsPositions; decide +kernel, hCentered,
    by unfold KeepsPositions; decide +kernel, fun hOnly => ?_⟩
  have hMade : (inventions pixels (renumbered id centered).edges []
      (matchedNodes pixels (renumbered id centered) (some centered)))[1]? = some (some (0, 200)) := by decide +kernel
  have hMatched : (matchedPositions pixels (renumbered id centered) (some centered))[1]? = some (some (0, 0)) := by
    decide +kernel
  exact nomatch hMatched.symm.trans (hOnly 1 (0, 200) hMade)

end FastVoice.Workflows.Layout
