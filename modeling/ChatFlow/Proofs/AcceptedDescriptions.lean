import ChatFlow.Graph.OfDescription
import Mathlib.Data.List.Forall2
import Mathlib.Data.List.Nodup

/-!
# Which descriptions are graphs

Everything that is wrong with a description is listed in the order in which it was declared: the
nodes before the connections, and of a node its type, the roles of its inputs, the roles of its
outputs and then its id.  Reading a description is judged against this list.  It is refused for the
first entry, and if there is none it becomes a graph that holds what was described, in the same
places.
-/

set_option autoImplicit false

namespace ChatFlow

namespace Description

/-! ## What is wrong -/

def Port.offences (node : String) (port : Port) : List GraphError :=
  match port.role with
  | none => []
  | some role =>
    if PortRole.ofName? role = none then [.unknownPortRole node port.id role] else []

/-- What is wrong with a node by itself. -/
def Node.ownOffences (node : Node) : List GraphError :=
  (if NodeKind.ofName? node.type = none then [.unknownNodeKind node.id node.type] else []) ++
    (node.inputs.flatMap (Port.offences node.id) ++ node.outputs.flatMap (Port.offences node.id))

/-- What is wrong with a node after nodes with the `earlier` ids. -/
def Node.offences (earlier : List String) (node : Node) : List GraphError :=
  node.ownOffences ++ if node.id ∈ earlier then [.duplicateNodeId node.id] else []

/-- What is wrong with nodes that follow nodes with the `earlier` ids. -/
def nodeOffences (earlier : List String) : List Node → List GraphError
  | [] => []
  | node :: rest => node.offences earlier ++ nodeOffences (earlier ++ [node.id]) rest

/-- The ends of a connection that are not among the nodes, each with the id of the connection. -/
def Connection.offences (ids : List String) (position : Nat) (c : Connection) : List GraphError :=
  ([c.sourceNode, c.targetNode].filter (· ∉ ids)).map
    (.danglingConnection (c.id.getD (Graph.defaultConnectionId position)))

/-- What is wrong with connections from a position on. -/
def connectionOffences (ids : List String) (position : Nat) : List Connection → List GraphError
  | [] => []
  | c :: rest => c.offences ids position ++ connectionOffences ids (position + 1) rest

def ids (description : Description) : List String := description.nodes.map Node.id

/-- Everything that is wrong with a description, in the order of declaration. -/
def offences (description : Description) : List GraphError :=
  (if description.nodes = [] then [.emptyGraph] else []) ++
    (nodeOffences [] description.nodes ++
      connectionOffences description.ids 0 description.connections)

structure WellFormed (description : Description) : Prop where
  nonempty : description.nodes ≠ []
  kinds : ∀ node ∈ description.nodes, ∃ kind, NodeKind.ofName? node.type = some kind
  roles : ∀ node ∈ description.nodes, ∀ port ∈ node.inputs ++ node.outputs, ∀ role,
    port.role = some role → ∃ known, PortRole.ofName? role = some known
  distinct : description.ids.Nodup
  joined : ∀ c ∈ description.connections,
    c.sourceNode ∈ description.ids ∧ c.targetNode ∈ description.ids

/-! ## What becomes of a description -/

/-- The role of a port id on a list of declared ports: that of the first port with this id, or the
one its id suggests. -/
inductive RoleOn (ports : List ChatFlow.Port) (id : String) : PortRole → Prop
  | declared {before after : List ChatFlow.Port} {port : ChatFlow.Port}
      (place : ports = before ++ port :: after) (first : ∀ other ∈ before, other.id ≠ id)
      (here : port.id = id) : RoleOn ports id port.role
  | undeclared (none : ∀ port ∈ ports, port.id ≠ id) : RoleOn ports id (PortRole.inferred id)

structure Port.ReadAs (given : Port) (port : ChatFlow.Port) : Prop where
  id : port.id = given.id
  label : port.label = given.label
  role : match given.role with
    | some role => PortRole.ofName? role = some port.role
    | none => port.role = PortRole.inferred given.id

structure Node.ReadAs (given : Node) (node : ChatFlow.Node) : Prop where
  id : node.id = given.id
  kind : NodeKind.ofName? given.type = some node.kind
  options : node.options = given.data
  inputs : List.Forall₂ Port.ReadAs given.inputs node.inputs
  outputs : List.Forall₂ Port.ReadAs given.outputs node.outputs

/-- A connection at a position, between nodes on which the roles of its ports are looked up. -/
structure Connection.ReadAs (nodes : List ChatFlow.Node) (given : Connection × Nat)
    (c : ChatFlow.Connection) : Prop where
  id : c.id = given.1.id.getD (Graph.defaultConnectionId given.2)
  source : c.source = given.1.sourceNode
  sourcePort : c.sourcePort = given.1.sourcePort
  target : c.target = given.1.targetNode
  targetPort : c.targetPort = given.1.targetPort
  sourceRole : ∃ node ∈ nodes, node.id = c.source ∧ RoleOn node.outputs c.sourcePort c.sourceRole
  targetRole : ∃ node ∈ nodes, node.id = c.target ∧ RoleOn node.inputs c.targetPort c.targetRole

/-- The graph holds what was described, in the same places. -/
structure ReadAs (description : Description) (graph : Graph) : Prop where
  nodes : List.Forall₂ Node.ReadAs description.nodes graph.nodes
  connections : List.Forall₂ (Connection.ReadAs graph.nodes) description.connections.zipIdx
    graph.connections

end Description

open Description (RoleOn)

/-! ## Judging what was read -/

/-- What was read fits the list of what is wrong: the error is the first entry, or there is none
and the value is right. -/
def Judged {α : Type} (offences : List GraphError) (right : α → Prop) :
    Except GraphError α → Prop
  | .error e => offences.head? = some e
  | .ok value => offences = [] ∧ right value

namespace Judged

variable {α β : Type} {offences later : List GraphError} {right : α → Prop} {right' : β → Prop}

/-- What is read in two parts, of which the first may end it. -/
theorem followed {first : Except GraphError α} {result : Except GraphError β}
    (judged : Judged offences right first)
    (ended : ∀ e, first = .error e → result = .error e)
    (onward : ∀ value, first = .ok value → right value → Judged later right' result) :
    Judged (offences ++ later) right' result := by
  cases read : first with
  | error e =>
      rw [read] at judged
      have found : offences.head? = some e := judged
      rw [ended e read, Judged, List.head?_append, found, Option.some_or]
  | ok value =>
      rw [read] at judged
      obtain ⟨fine, holds⟩ := judged
      rw [fine, List.nil_append]
      exact onward value read holds

/-- What is read in two parts, of which the second cannot fail. -/
theorem completed {first : Except GraphError α} {result : Except GraphError β}
    (judged : Judged offences right first)
    (ended : ∀ e, first = .error e → result = .error e)
    (onward : ∀ value, first = .ok value → right value → ∃ made, result = .ok made ∧ right' made) :
    Judged offences right' result := by
  rw [← List.append_nil offences]
  refine judged.followed ended fun value read holds => ?_
  obtain ⟨made, done, holdsToo⟩ := onward value read holds
  rw [done]
  exact ⟨rfl, holdsToo⟩

theorem mono {right' : α → Prop} {result : Except GraphError α}
    (judged : Judged offences right result) (weaker : ∀ value, right value → right' value) :
    Judged offences right' result := by
  cases result with
  | error e => exact judged
  | ok value => exact ⟨judged.1, weaker value judged.2⟩

theorem ok_iff {result : Except GraphError α} (judged : Judged offences right result) :
    (∃ value, result = .ok value) ↔ offences = [] := by
  cases result with
  | error e =>
      have found : offences.head? = some e := judged
      refine iff_of_false (by rintro ⟨_, same⟩; cases same) fun none => ?_
      rw [none] at found
      cases found
  | ok value => exact iff_of_true ⟨value, rfl⟩ judged.1

theorem error_iff {result : Except GraphError α} (judged : Judged offences right result)
    (error : GraphError) : result = .error error ↔ offences.head? = some error := by
  cases result with
  | error e =>
      have found : offences.head? = some e := judged
      rw [found, Except.error.injEq, Option.some.injEq]
  | ok value =>
      refine iff_of_false (by rintro ⟨⟩) fun found => ?_
      rw [judged.1] at found
      cases found

end Judged

theorem Port.roleOn_roleOf (ports : List Port) (id : String) :
    RoleOn ports id (Port.roleOf ports id) := by
  rw [Port.roleOf]
  cases found : ports.find? (fun port => port.id = id) with
  | none => exact .undeclared (by simpa using found)
  | some port =>
      obtain ⟨here, before, after, place, first⟩ := List.find?_eq_some_iff_append.mp found
      exact .declared place (by simpa using first) (by simpa using here)

theorem Port.ofDescription_judged (node : String) (given : Description.Port) :
    Judged (given.offences node) given.ReadAs (Port.ofDescription node given) := by
  rw [Port.ofDescription, Description.Port.offences]
  cases role : given.role with
  | none => exact ⟨rfl, rfl, rfl, by rw [role]⟩
  | some name =>
      simp only
      cases known : PortRole.ofName? name with
      | none => rfl
      | some parsed => exact ⟨rfl, rfl, rfl, by rw [role]; exact known⟩

theorem Port.listOfDescription_judged (node : String) (given : List Description.Port) :
    Judged (given.flatMap (Description.Port.offences node))
      (List.Forall₂ Description.Port.ReadAs given) (Port.listOfDescription node given) := by
  induction given with
  | nil => exact ⟨rfl, .nil⟩
  | cons port rest ih =>
      rw [Port.listOfDescription, List.flatMap_cons]
      refine (Port.ofDescription_judged node port).followed (fun e failed => by rw [failed])
        fun first read asGiven => ?_
      rw [read]
      refine ih.completed (fun e failed => by rw [failed]) fun others readToo asGivenToo => ?_
      exact ⟨first :: others, by rw [readToo], .cons asGiven asGivenToo⟩

theorem Node.ofDescription_judged (given : Description.Node) :
    Judged given.ownOffences given.ReadAs (Node.ofDescription given) := by
  rw [Node.ofDescription, Description.Node.ownOffences]
  cases known : NodeKind.ofName? given.type with
  | none => rfl
  | some kind =>
      rw [if_neg (Option.some_ne_none kind), List.nil_append]
      refine (Port.listOfDescription_judged given.id given.inputs).followed
        (fun e failed => by simp only [failed]) fun inputs read asGiven => ?_
      rw [read]
      refine (Port.listOfDescription_judged given.id given.outputs).completed
        (fun e failed => by simp only [failed]) fun outputs readToo asGivenToo => ?_
      exact ⟨⟨given.id, kind, given.data, inputs, outputs⟩, by rw [readToo],
        ⟨rfl, known, rfl, asGiven, asGivenToo⟩⟩

namespace Graph

theorem ids_of_readAs {given : List Description.Node} {nodes : List Node}
    (read : List.Forall₂ Description.Node.ReadAs given nodes) :
    nodes.map Node.id = given.map Description.Node.id := by
  induction read with
  | nil => rfl
  | cons head _ ih => rw [List.map_cons, List.map_cons, head.id, ih]

theorem readNodes_judged {earlier : DistinctNodes} {ids : List String}
    (same : earlier.val.map Node.id = ids) (given : List Description.Node) :
    Judged (Description.nodeOffences ids given)
      (fun nodes => ∃ read, nodes.val = earlier.val ++ read ∧
        List.Forall₂ Description.Node.ReadAs given read)
      (readNodes earlier given) := by
  -- what is left to read gets shorter, while the nodes before it and their ids grow
  induction given generalizing earlier ids with
  | nil => exact ⟨rfl, [], (List.append_nil _).symm, .nil⟩
  | cons node rest ih =>
      rw [readNodes, Description.nodeOffences, Description.Node.offences, List.append_assoc]
      refine (Node.ofDescription_judged node).followed (fun e failed => by rw [failed])
        fun first read asGiven => ?_
      simp only [read, same, asGiven.id]
      by_cases fresh : node.id ∉ ids
      · rw [if_neg fresh, List.nil_append, dif_pos fresh]
        have next : (earlier.add first (by rwa [same, asGiven.id])).val.map Node.id =
            ids ++ [node.id] := by
          rw [DistinctNodes.add, List.map_append, same, List.map_singleton, asGiven.id]
        refine (ih next).mono fun nodes ⟨others, parts, asGivenToo⟩ => ?_
        refine ⟨first :: others, ?_, .cons asGiven asGivenToo⟩
        rw [parts, DistinctNodes.add, List.append_assoc, List.singleton_append]
      · rw [if_pos (Decidable.not_not.mp fresh), dif_neg fresh]
        rfl

theorem findNode_eq_none {nodes : List Node} {id : String} (missing : findNode nodes id = none) :
    id ∉ nodes.map Node.id := by
  induction nodes with
  | nil => exact List.not_mem_nil
  | cons node rest ih =>
      rw [findNode] at missing
      split at missing
      · cases missing
      · rename_i other
        rw [List.map_cons, List.mem_cons]
        rintro (same | later)
        · exact other same.symm
        · exact ih (Option.map_eq_none_iff.mp missing) later

theorem readConnection_judged (nodes : List Node) (position : Nat)
    (given : Description.Connection) :
    Judged (given.offences (nodes.map Node.id) position)
      (fun c => Description.Connection.ReadAs nodes (given, position) c.val)
      (readConnection nodes position given) := by
  rw [readConnection, Description.Connection.offences]
  cases source : findNode nodes given.sourceNode with
  | none =>
      have missing := findNode_eq_none source
      simp only [List.filter_cons, missing, not_false_eq_true, decide_true, if_true]
      rfl
  | some first =>
      obtain ⟨start, sameStart, startThere⟩ := first
      have known : given.sourceNode ∈ nodes.map Node.id :=
        sameStart ▸ List.mem_map_of_mem startThere
      cases target : findNode nodes given.targetNode with
      | none =>
          have missing := findNode_eq_none target
          simp only [List.filter_cons, known, missing, not_true_eq_false, not_false_eq_true,
            decide_true, decide_false, if_true]
          rfl
      | some second =>
          obtain ⟨finish, sameFinish, finishThere⟩ := second
          have knownToo : given.targetNode ∈ nodes.map Node.id :=
            sameFinish ▸ List.mem_map_of_mem finishThere
          refine ⟨?_, rfl, sameStart, rfl, sameFinish, rfl, ?_, ?_⟩
          · simp only [List.filter_cons, known, knownToo, not_true_eq_false, decide_false]
            rfl
          · exact ⟨start, startThere, rfl, Port.roleOn_roleOf _ _⟩
          · exact ⟨finish, finishThere, rfl, Port.roleOn_roleOf _ _⟩

theorem readConnections_judged (nodes : List Node) (position : Nat)
    (given : List Description.Connection) :
    Judged (Description.connectionOffences (nodes.map Node.id) position given)
      (fun read => List.Forall₂ (Description.Connection.ReadAs nodes) (given.zipIdx position)
        (read.map Subtype.val))
      (readConnections nodes position given) := by
  induction given generalizing position with
  | nil => exact ⟨rfl, .nil⟩
  | cons c rest ih =>
      rw [readConnections, Description.connectionOffences]
      refine (readConnection_judged nodes position c).followed (fun e failed => by rw [failed])
        fun first read asGiven => ?_
      rw [read]
      refine (ih (position + 1)).completed (fun e failed => by rw [failed])
        fun others readToo asGivenToo => ?_
      exact ⟨first :: others, by rw [readToo], .cons asGiven asGivenToo⟩

theorem ofDescription_judged (description : Description) :
    Judged description.offences description.ReadAs (ofDescription description) := by
  rw [ofDescription, Description.offences]
  by_cases empty : description.nodes = []
  · rw [empty, if_pos rfl]
    rfl
  · rw [if_neg empty, List.nil_append]
    have nodesJudged := @readNodes_judged ⟨[], List.nodup_nil⟩ [] rfl description.nodes
    refine nodesJudged.followed (fun e failed => by rw [failed])
      fun nodes read ⟨given, parts, asGiven⟩ => ?_
    obtain rfl : nodes.val = given := parts
    have present : nodes.val ≠ [] := by
      intro none
      rw [none, List.forall₂_nil_right_iff] at asGiven
      exact empty asGiven
    have ids : description.ids = nodes.val.map Node.id := (ids_of_readAs asGiven).symm
    rw [read, ids]
    simp only [dif_pos present]
    refine (readConnections_judged nodes.val 0 description.connections).completed
      (fun e failed => by rw [failed]) fun connections readToo asGivenToo => ?_
    exact ⟨_, by rw [readToo], asGiven, asGivenToo⟩

/-! ## Finding nodes -/

theorem position?_eq_some (graph : Graph) (id : String) (position : Nat) :
    graph.position? id = some position ↔ graph.ids[position]? = some id := by
  rw [position?, List.findIdx?_eq_some_iff_getElem, ids, List.getElem?_eq_some_iff]
  constructor
  · rintro ⟨inside, here, _⟩
    exact ⟨by rwa [List.length_map], by simpa using here⟩
  · rintro ⟨inside, here⟩
    have within : position < graph.nodes.length := by rwa [List.length_map] at inside
    rw [List.getElem_map] at here
    refine ⟨within, decide_eq_true here, fun earlier before same => ?_⟩
    -- the id has one place only
    have sameNode : graph.nodes[earlier] = graph.nodes[position] :=
      List.inj_on_of_nodup_map graph.distinct (List.getElem_mem _) (List.getElem_mem _)
        ((of_decide_eq_true same).trans here.symm)
    have samePlace := (List.Nodup.of_map _ graph.distinct).getElem_inj_iff.mp sameNode
    omega

theorem node?_eq_position (graph : Graph) (id : String) :
    graph.node? id = (graph.position? id).bind (graph.nodes[·]?) :=
  List.find?_eq_bind_findIdx?_getElem?

end Graph

/-! ## Nothing wrong -/

namespace Description

theorem Port.offences_eq_nil (node : String) (port : Port) :
    port.offences node = [] ↔
      ∀ role, port.role = some role → ∃ known, PortRole.ofName? role = some known := by
  rw [offences]
  cases port.role with
  | none => simp
  | some role => simp [Option.ne_none_iff_exists']

theorem Node.ownOffences_eq_nil (node : Node) :
    node.ownOffences = [] ↔ (∃ kind, NodeKind.ofName? node.type = some kind) ∧
      ∀ port ∈ node.inputs ++ node.outputs, ∀ role, port.role = some role →
        ∃ known, PortRole.ofName? role = some known := by
  rw [ownOffences, ← List.flatMap_append, List.append_eq_nil_iff, List.flatMap_eq_nil_iff]
  simp only [Port.offences_eq_nil]
  refine and_congr_left fun _ => ?_
  rw [← Option.ne_none_iff_exists']
  by_cases unknown : NodeKind.ofName? node.type = none <;> simp [unknown]

theorem nodeOffences_eq_nil (earlier : List String) (nodes : List Node) :
    nodeOffences earlier nodes = [] ↔ (∀ node ∈ nodes, node.ownOffences = []) ∧
      (nodes.map Node.id).Nodup ∧ ∀ id ∈ earlier, id ∉ nodes.map Node.id := by
  induction nodes generalizing earlier with
  | nil => simp [nodeOffences]
  | cons node rest ih =>
      have repeated : (if node.id ∈ earlier then [GraphError.duplicateNodeId node.id] else []) = []
          ↔ node.id ∉ earlier := by
        by_cases again : node.id ∈ earlier <;> simp [again]
      rw [nodeOffences, Node.offences, List.append_eq_nil_iff, List.append_eq_nil_iff, repeated, ih,
        List.forall_mem_cons, List.map_cons, List.nodup_cons]
      constructor
      · rintro ⟨⟨own, fresh⟩, others, distinct, apart⟩
        refine ⟨⟨own, others⟩, ⟨apart _ (by simp), distinct⟩, fun id before => ?_⟩
        rintro (_ | ⟨_, later⟩)
        · exact fresh before
        · exact apart id (List.mem_append_left _ before) later
      · rintro ⟨⟨own, others⟩, ⟨once, distinct⟩, apart⟩
        refine ⟨⟨own, fun before => apart _ before List.mem_cons_self⟩, others, distinct,
          fun id before later => ?_⟩
        rcases List.mem_append.mp before with long | here
        · exact apart id long (List.mem_cons_of_mem _ later)
        · obtain rfl := List.mem_singleton.mp here
          exact once later

theorem Connection.offences_eq_nil (ids : List String) (position : Nat) (c : Connection) :
    c.offences ids position = [] ↔ c.sourceNode ∈ ids ∧ c.targetNode ∈ ids := by
  simp [offences]

theorem connectionOffences_eq_nil (ids : List String) (position : Nat) (given : List Connection) :
    connectionOffences ids position given = [] ↔
      ∀ c ∈ given, c.sourceNode ∈ ids ∧ c.targetNode ∈ ids := by
  induction given generalizing position with
  | nil => simp [connectionOffences]
  | cons c rest ih =>
      rw [connectionOffences, List.append_eq_nil_iff, Connection.offences_eq_nil, ih,
        List.forall_mem_cons]

theorem offences_eq_nil (description : Description) :
    description.offences = [] ↔ description.WellFormed := by
  have given : (if description.nodes = [] then [GraphError.emptyGraph] else []) = [] ↔
      description.nodes ≠ [] := by
    by_cases empty : description.nodes = [] <;> simp [empty]
  rw [offences, List.append_eq_nil_iff, List.append_eq_nil_iff, given, nodeOffences_eq_nil,
    connectionOffences_eq_nil]
  simp only [Node.ownOffences_eq_nil]
  constructor
  · rintro ⟨nonempty, ⟨nodes, distinct, _⟩, joined⟩
    exact ⟨nonempty, fun node member => (nodes node member).1,
      fun node member => (nodes node member).2, distinct, joined⟩
  · rintro ⟨nonempty, kinds, roles, distinct, joined⟩
    exact ⟨nonempty, ⟨fun node member => ⟨kinds node member, roles node member⟩, distinct,
      fun _ none => absurd none List.not_mem_nil⟩, joined⟩

end Description

/-- A description becomes a graph exactly if it is well formed, and it is refused exactly for the
first of the things that are wrong with it.  The graph holds what was described, in the same places,
and its nodes are found by their ids. -/
theorem accepts_exactly_well_formed (description : Description) :
    ((∃ graph, Graph.ofDescription description = .ok graph) ↔ description.WellFormed) ∧
    (∀ error, Graph.ofDescription description = .error error ↔
      description.offences.head? = some error) ∧
    ∀ graph, Graph.ofDescription description = .ok graph →
      description.ReadAs graph ∧
      (∀ id node, graph.node? id = some node ↔ node ∈ graph.nodes ∧ node.id = id) ∧
      (∀ id position, graph.position? id = some position ↔ graph.ids[position]? = some id) ∧
      ∀ id, graph.node? id = (graph.position? id).bind (graph.nodes[·]?) := by
  have judged := Graph.ofDescription_judged description
  refine ⟨?_, judged.error_iff, fun graph accepted => ⟨?_, graph.node?_eq_some,
    graph.position?_eq_some, graph.node?_eq_position⟩⟩
  · rw [judged.ok_iff, Description.offences_eq_nil]
  · rw [accepted] at judged
    exact judged.2

/-- A question and its answer, which comes in through a port with a role given by the author. -/
def Description.shortTalk (role : String) : Description where
  nodes := [
    { id := "ask", type := "text-input" },
    { id := "say", type := " output ", inputs := [{ id := "in", role := some role }] }]
  connections := [{ sourceNode := "ask", targetNode := "say", targetPort := "in" }]

theorem shortTalk_needs_known_role :
    (∃ graph, Graph.ofDescription (.shortTalk "Context") = .ok graph ∧
      graph.ids = ["ask", "say"]) ∧
    Graph.ofDescription (.shortTalk "contxt") =
      .error (.unknownPortRole "say" "in" "contxt") := by
  obtain ⟨accepted, _, read⟩ := accepts_exactly_well_formed (.shortTalk "Context")
  obtain ⟨_, refused, _⟩ := accepts_exactly_well_formed (.shortTalk "contxt")
  have fine : (Description.shortTalk "Context").offences = [] := by decide +kernel
  obtain ⟨graph, made⟩ := accepted.mpr ((Description.offences_eq_nil _).mp fine)
  refine ⟨⟨graph, made, ?_⟩, (refused _).mpr (by decide +kernel)⟩
  exact Graph.ids_of_readAs (read graph made).1.nodes

/-- All nodes come before the connections: the repeated id is met first. -/
example : Description.offences
    { nodes := [{ id := "ask", type := "text-input" }, { id := "ask", type := "text-output" }]
      connections := [{ sourceNode := "ask", targetNode := "say" }] } =
    [.duplicateNodeId "ask", .danglingConnection "connection-0" "say"] := by
  decide +kernel

end ChatFlow
