import ChatFlow.Graph.Basic
import ChatFlow.Description.Basic

/-!
# From a description to a graph

Reading goes through the nodes and then through the connections, in declaration order, and stops
at the first offence.  Within a node its type comes first, then the roles of its inputs and of
its outputs, then its id; within a connection the source comes before the target.
-/

set_option autoImplicit false

namespace ChatFlow

inductive GraphError
  | emptyGraph
  | unknownNodeKind (node type : String)
  | duplicateNodeId (node : String)
  | danglingConnection (connection missing : String)
  | unknownPortRole (node port role : String)
  deriving DecidableEq, Repr

def GraphError.message : GraphError → String
  | .emptyGraph => "Workflow contains no nodes"
  | .unknownNodeKind node type => "Node '" ++ node ++ "' has an unknown type: '" ++ type ++ "'"
  | .duplicateNodeId node => "Duplicate node ID: '" ++ node ++ "'"
  | .danglingConnection connection missing =>
    "Connection '" ++ connection ++ "' references node '" ++ missing ++ "' which does not exist"
  | .unknownPortRole node port role =>
    "Port '" ++ port ++ "' on node '" ++ node ++ "' has an unknown role: '" ++ role ++ "'"

/-- A port of a node; without a role of its own it has the one its id suggests. -/
def Port.ofDescription (node : String) (port : Description.Port) : Except GraphError Port :=
  match port.role with
  | none => .ok ⟨port.id, port.label, PortRole.inferred port.id⟩
  | some role =>
    match PortRole.ofName? role with
    | some known => .ok ⟨port.id, port.label, known⟩
    | none => .error (.unknownPortRole node port.id role)

/-- The ports of a node, up to the first with an unknown role. -/
def Port.listOfDescription (node : String) :
    List Description.Port → Except GraphError (List Port)
  | [] => .ok []
  | port :: rest =>
    match Port.ofDescription node port with
    | .error e => .error e
    | .ok first =>
      match Port.listOfDescription node rest with
      | .error e => .error e
      | .ok others => .ok (first :: others)

def Node.ofDescription (node : Description.Node) : Except GraphError Node :=
  match NodeKind.ofName? node.type with
  | none => .error (.unknownNodeKind node.id node.type)
  | some kind =>
    match Port.listOfDescription node.id node.inputs with
    | .error e => .error e
    | .ok inputs =>
      match Port.listOfDescription node.id node.outputs with
      | .error e => .error e
      | .ok outputs => .ok ⟨node.id, kind, node.data, inputs, outputs⟩

namespace Graph

abbrev DistinctNodes := { nodes : List Node // (nodes.map Node.id).Nodup }

/-- Adds one more node with a new id. -/
def DistinctNodes.add (earlier : DistinctNodes) (node : Node)
    (fresh : node.id ∉ earlier.val.map Node.id) : DistinctNodes :=
  ⟨earlier.val ++ [node], by
    rw [List.map_append, List.nodup_append]
    refine ⟨earlier.property, by simp, ?_⟩
    intro a ha b hb same
    have isId : b = node.id := by simpa using hb
    exact fresh (isId ▸ same ▸ ha)⟩

/-- Reads the nodes that follow the `earlier` ones. -/
def readNodes (earlier : DistinctNodes) :
    List Description.Node → Except GraphError DistinctNodes
  | [] => .ok earlier
  | given :: rest =>
    match Node.ofDescription given with
    | .error e => .error e
    | .ok node =>
      if fresh : node.id ∉ earlier.val.map Node.id then readNodes (earlier.add node fresh) rest
      else .error (.duplicateNodeId node.id)

/-- A connection whose ends are among the given nodes. -/
abbrev Joined (nodes : List Node) :=
  { c : Connection // c.source ∈ nodes.map Node.id ∧ c.target ∈ nodes.map Node.id }

/-- A node among others, with its place there. -/
def findNode (nodes : List Node) (id : String) :
    Option { node : Node // node.id = id ∧ node ∈ nodes } :=
  match nodes with
  | [] => none
  | node :: rest =>
    if same : node.id = id then some ⟨node, same, List.mem_cons_self⟩
    else
      (findNode rest id).map fun found =>
        ⟨found.val, found.property.1, List.mem_cons_of_mem _ found.property.2⟩

/-- The id of a connection that was given none, from its position. -/
def defaultConnectionId (position : Nat) : String := "connection-" ++ toString position

def readConnection (nodes : List Node) (position : Nat) (given : Description.Connection) :
    Except GraphError (Joined nodes) :=
  let id := given.id.getD (defaultConnectionId position)
  match findNode nodes given.sourceNode with
  | none => .error (.danglingConnection id given.sourceNode)
  | some source =>
    match findNode nodes given.targetNode with
    | none => .error (.danglingConnection id given.targetNode)
    | some target =>
      .ok ⟨⟨id,
        source.val.id, given.sourcePort, Port.roleOf source.val.outputs given.sourcePort,
        target.val.id, given.targetPort, Port.roleOf target.val.inputs given.targetPort⟩,
        List.mem_map_of_mem source.property.2, List.mem_map_of_mem target.property.2⟩

/-- Reads the connections from a position on. -/
def readConnections (nodes : List Node) :
    (position : Nat) → List Description.Connection → Except GraphError (List (Joined nodes))
  | _, [] => .ok []
  | position, given :: rest =>
    match readConnection nodes position given with
    | .error e => .error e
    | .ok first =>
      match readConnections nodes (position + 1) rest with
      | .error e => .error e
      | .ok others => .ok (first :: others)

def ofDescription (description : Description) : Except GraphError Graph :=
  match readNodes ⟨[], List.nodup_nil⟩ description.nodes with
  | .error e => .error e
  | .ok nodes =>
    if present : nodes.val ≠ [] then
      match readConnections nodes.val 0 description.connections with
      | .error e => .error e
      | .ok connections =>
        .ok {
          nodes := nodes.val
          connections := connections.map Subtype.val
          nonempty := present
          distinct := nodes.property
          joined := by
            intro c member
            obtain ⟨joined, _, rfl⟩ := List.mem_map.1 member
            exact joined.property }
    else .error .emptyGraph

end Graph

end ChatFlow
