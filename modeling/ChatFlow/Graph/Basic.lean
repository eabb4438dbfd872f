import ChatFlow.Graph.Kind
import ChatFlow.Json.Basic

/-!
# Workflow graphs

A graph is the checked form of a workflow: every node has a kind, node ids are distinct, and
every connection joins two nodes of the graph.  Nodes and connections keep the order in which
they were declared; every ordering rule of the compiler refers to it.
-/

set_option autoImplicit false

namespace ChatFlow

structure Port where
  id : String
  label : Option String
  role : PortRole

/-- A node with its options by name. -/
structure Node where
  id : String
  kind : NodeKind
  options : Keyed Json
  inputs : List Port
  outputs : List Port

namespace Node

/-- An option as it was given, `null` included. -/
def option? (node : Node) (name : String) : Option Json := node.options.get? name

/-- An option that is a text; the empty text counts as unset. -/
def optionText? (node : Node) (name : String) : Option String :=
  match (node.option? name).bind Json.text? with
  | some "" => none
  | other => other

end Node

/-- The role of a port id on a list of declared ports: that of the first port with this id, or
the one its id suggests. -/
def Port.roleOf (ports : List Port) (portId : String) : PortRole :=
  match ports.find? (fun port => port.id = portId) with
  | some port => port.role
  | none => PortRole.inferred portId

/-- A connection between two nodes, with the roles of the ports at its ends. -/
structure Connection where
  id : String
  source : String
  sourcePort : String
  sourceRole : PortRole
  target : String
  targetPort : String
  targetRole : PortRole
  deriving DecidableEq

structure Graph where
  nodes : List Node
  connections : List Connection
  nonempty : nodes ≠ []
  distinct : (nodes.map Node.id).Nodup
  joined : ∀ c ∈ connections, c.source ∈ nodes.map Node.id ∧ c.target ∈ nodes.map Node.id

namespace Graph

/-- The ids of the nodes, in declaration order. -/
def ids (graph : Graph) : List String := graph.nodes.map Node.id

def node? (graph : Graph) (id : String) : Option Node :=
  graph.nodes.find? (fun node => node.id = id)

/-- The kind of the node with an id. -/
def kind? (graph : Graph) (id : String) : Option NodeKind := (graph.node? id).map Node.kind

/-- The declaration position of the node with an id. -/
def position? (graph : Graph) (id : String) : Option Nat :=
  graph.nodes.findIdx? (fun node => node.id = id)

/-- The connections that leave a node, in declaration order. -/
def outgoing (graph : Graph) (id : String) : List Connection :=
  graph.connections.filter (fun c => c.source = id)

/-- The connections that enter a node, in declaration order. -/
def incoming (graph : Graph) (id : String) : List Connection :=
  graph.connections.filter (fun c => c.target = id)

def size (graph : Graph) : Nat := graph.nodes.length

/-- Whether some node has a kind of the given sort. -/
def hasKind (graph : Graph) (sort : NodeKind → Bool) : Bool :=
  graph.nodes.any (fun node => sort node.kind)

theorem find?_of_mem_distinct (nodes : List Node) (distinct : (nodes.map Node.id).Nodup)
    (node : Node) (member : node ∈ nodes) :
    nodes.find? (fun other => other.id = node.id) = some node := by
  induction nodes with
  | nil => cases member
  | cons first rest ih =>
    have apart := List.nodup_cons.mp distinct
    rcases List.mem_cons.mp member with rfl | later
    · simp
    · have other : first.id ≠ node.id := by
        intro same
        exact apart.1 (same ▸ List.mem_map_of_mem later)
      rw [List.find?_cons_of_neg (by simpa using other)]
      exact ih apart.2 later

theorem node?_of_mem (graph : Graph) {node : Node} (member : node ∈ graph.nodes) :
    graph.node? node.id = some node :=
  find?_of_mem_distinct graph.nodes graph.distinct node member

theorem node?_eq_some (graph : Graph) (id : String) (node : Node) :
    graph.node? id = some node ↔ node ∈ graph.nodes ∧ node.id = id := by
  constructor
  · intro found
    exact ⟨List.mem_of_find?_eq_some found, by simpa using List.find?_some found⟩
  · rintro ⟨member, rfl⟩
    exact graph.node?_of_mem member

theorem kind?_of_mem (graph : Graph) {node : Node} (member : node ∈ graph.nodes) :
    graph.kind? node.id = some node.kind := by
  rw [kind?, graph.node?_of_mem member, Option.map_some]

theorem mem_of_kind? (graph : Graph) {id : String} {kind : NodeKind}
    (found : graph.kind? id = some kind) :
    ∃ node ∈ graph.nodes, node.id = id ∧ node.kind = kind := by
  obtain ⟨node, place, same⟩ := Option.map_eq_some_iff.mp found
  obtain ⟨present, here⟩ := (graph.node?_eq_some id node).mp place
  exact ⟨node, present, here, same⟩

theorem mem_ids_of_kind? (graph : Graph) {id : String} {kind : NodeKind}
    (found : graph.kind? id = some kind) : id ∈ graph.ids := by
  obtain ⟨node, present, rfl, _⟩ := graph.mem_of_kind? found
  exact List.mem_map_of_mem present

/-- The nodes of a kind, picked out in declaration order. -/
theorem mem_ids_filter_kind (graph : Graph) (kind : NodeKind) (id : String) :
    id ∈ (graph.nodes.filter (fun node => node.kind = kind)).map Node.id ↔
      graph.kind? id = some kind := by
  constructor
  · intro member
    obtain ⟨node, kept, rfl⟩ := List.mem_map.mp member
    obtain ⟨present, same⟩ := List.mem_filter.mp kept
    rw [graph.kind?_of_mem present, of_decide_eq_true same]
  · intro found
    obtain ⟨node, present, rfl, same⟩ := graph.mem_of_kind? found
    exact List.mem_map_of_mem (List.mem_filter.mpr ⟨present, decide_eq_true same⟩)

theorem ids_filter_nodup (graph : Graph) (choice : Node → Bool) :
    ((graph.nodes.filter choice).map Node.id).Nodup :=
  graph.distinct.sublist (List.filter_sublist.map Node.id)

end Graph

end ChatFlow
