import ChatFlow.Proofs.EdgeOrigins
import ChatFlow.Proofs.PlanRoutes

/-!
# The shape of a compiled plan

Plain edges, routers and exits are computed one after the other, and nothing in a plan says that
they fit together.  In a compiled plan they do: every node is left in exactly one of the three ways,
all that is led to is a node of the plan, and a router holds the branches of its node as they were
declared.
-/

set_option autoImplicit false

namespace ChatFlow

/-- The ways in which a walk may leave a node. -/
inductive Departure
  | edge
  | router
  | exit
  deriving DecidableEq

/-- The plan lists the node among those that are left in this way. -/
def Plan.LeavesBy (plan : Plan) (id : String) : Departure → Prop
  | .edge => id ∈ plan.edges.names
  | .router => id ∈ plan.routers.names
  | .exit => id ∈ plan.exits

namespace Graph

/-- How a node is left, as declared. -/
def departure (graph : Graph) (id : String) : Departure :=
  if graph.kind? id = some .conditional then .router
  else if (graph.first? id).isSome then .edge
  else .exit

/-- The targets of the connections that leave a node through ports of a role, in declaration order
and with repetitions. -/
def targetsThrough (graph : Graph) (id : String) (role : PortRole) : List String :=
  (graph.connections.filter (fun c => c.source = id && c.sourceRole = role)).map Connection.target

theorem mem_ids_of_first? (graph : Graph) {id : String} {c : Connection}
    (first : graph.first? id = some c) : id ∈ graph.ids := by
  obtain ⟨d, present, rfl⟩ := (graph.exists_first? id).mp ⟨c, first⟩
  exact (graph.joined d present).1

theorem departure_eq_router (graph : Graph) (id : String) :
    graph.departure id = .router ↔ graph.kind? id = some .conditional := by
  rw [departure]
  split_ifs <;> simp_all

theorem departure_eq_edge (graph : Graph) (id : String) :
    graph.departure id = .edge ↔
      graph.kind? id ≠ some .conditional ∧ ∃ c, graph.first? id = some c := by
  rw [departure, ← Option.isSome_iff_exists]
  split_ifs <;> simp_all

theorem departure_eq_exit (graph : Graph) (id : String) :
    graph.departure id = .exit ↔
      graph.kind? id ≠ some .conditional ∧ ¬ ∃ c, graph.first? id = some c := by
  rw [departure, ← Option.isSome_iff_exists]
  split_ifs <;> simp_all

end Graph

/-- The parts of the plan fit together and are those of the graph. -/
structure Plan.HasShapeOf (plan : Plan) (graph : Graph) : Prop where
  names : plan.nodes.names = graph.ids
  nodes : ∀ id node, plan.node? id = some node ↔ node ∈ graph.nodes ∧ node.id = id
  distinct : plan.edges.names.Nodup ∧ plan.routers.names.Nodup ∧ plan.exits.Nodup
  inside : ∀ id way, plan.LeavesBy id way → id ∈ plan.nodes.names
  oneWay : ∀ id ∈ plan.nodes.names, ∃! way, plan.LeavesBy id way
  asDeclared : ∀ id ∈ plan.nodes.names, plan.LeavesBy id (graph.departure id)
  conditional : ∀ id, plan.LeavesBy id .router ↔ graph.kind? id = some .conditional
  entry : plan.entry ∈ plan.nodes.names
  edgeTargets : ∀ edge ∈ plan.edges, edge.2 ∈ plan.nodes.names
  routerTargets : ∀ entry ∈ plan.routers, ∀ target ∈ entry.2.targets, target ∈ plan.nodes.names
  tables : ∀ entry ∈ plan.routers, entry.2 =
    ⟨entry.1, graph.targetsThrough entry.1 .onTrue, graph.targetsThrough entry.1 .onFalse⟩

/-! ## What is listed -/

namespace Resolution

theorem names_firstTargets_nodup (pairs : List (String × String)) :
    (firstTargets pairs).names.Nodup := by
  induction pairs with
  | nil => exact List.nodup_nil
  | cons pair rest ih =>
      rw [firstTargets, Keyed.names, List.map_cons, List.nodup_cons]
      exact ⟨by simp, ih.sublist (List.filter_sublist.map _)⟩

theorem mem_names_edges (graph : Graph) (id : String) :
    id ∈ (ofGraph graph).edges.names ↔
      graph.kind? id ≠ some .conditional ∧ ∃ c, graph.first? id = some c := by
  rw [← Keyed.has_iff, Keyed.has, Option.isSome_iff_exists, exists_edge]

end Resolution

theorem Router.ofConnections_outgoing (graph : Graph) (id : String) :
    Router.ofConnections id (graph.outgoing id) =
      ⟨id, graph.targetsThrough id .onTrue, graph.targetsThrough id .onFalse⟩ := by
  simp only [ofConnections, Graph.outgoing, Graph.targetsThrough, List.filter_filter,
    Bool.and_comm]

namespace Plan

theorem names_routersOf (graph : Graph) :
    (routersOf graph).names =
      (graph.nodes.filter (fun node => node.kind = .conditional)).map Node.id := by
  rw [routersOf, Keyed.names, List.map_map]
  rfl

theorem mem_names_routersOf (graph : Graph) (id : String) :
    id ∈ (routersOf graph).names ↔ graph.kind? id = some .conditional := by
  rw [names_routersOf, graph.mem_ids_filter_kind]

theorem mem_exitsOf (graph : Graph) (edges : Keyed String) (id : String) :
    id ∈ exitsOf graph edges ↔
      id ∈ graph.ids ∧ graph.kind? id ≠ some .conditional ∧ id ∉ edges.names := by
  rw [exitsOf, List.mem_map, Graph.ids, List.mem_map]
  constructor
  · rintro ⟨node, kept, rfl⟩
    obtain ⟨present, plain⟩ := List.mem_filter.mp kept
    rw [graph.kind?_of_mem present, ← Keyed.has_iff]
    exact ⟨⟨node, present, rfl⟩, by simpa using plain⟩
  · rintro ⟨⟨node, present, rfl⟩, plain⟩
    rw [graph.kind?_of_mem present, ← Keyed.has_iff] at plain
    exact ⟨node, List.mem_filter.mpr ⟨present, by simpa using plain⟩, rfl⟩

section Compiled

variable {graph : Graph} {plan : Plan} (compiled : compile graph = .ok plan)
include compiled

/-- A plan leaves the nodes of its graph and no others, each as it was declared. -/
theorem leavesBy_compiled (id : String) (way : Departure) :
    plan.LeavesBy id way ↔ id ∈ graph.ids ∧ graph.departure id = way := by
  cases way with
  | edge =>
      rw [LeavesBy, edges_compiled compiled, Resolution.mem_names_edges,
        graph.departure_eq_edge]
      refine ⟨fun left => ⟨?_, left⟩, And.right⟩
      obtain ⟨_, c, first⟩ := left
      exact graph.mem_ids_of_first? first
  | router =>
      rw [LeavesBy, routers_compiled compiled, mem_names_routersOf, graph.departure_eq_router]
      exact ⟨fun conditional => ⟨graph.mem_ids_of_kind? conditional, conditional⟩, And.right⟩
  | exit =>
      rw [LeavesBy, exits_compiled compiled, mem_exitsOf, Resolution.mem_names_edges,
        graph.departure_eq_exit]
      refine and_congr_right fun _ => and_congr_right fun plain => ?_
      exact not_congr (and_iff_right plain)

theorem names_nodup :
    plan.edges.names.Nodup ∧ plan.routers.names.Nodup ∧ plan.exits.Nodup := by
  rw [edges_compiled compiled, routers_compiled compiled, exits_compiled compiled,
    names_routersOf]
  exact ⟨Resolution.names_firstTargets_nodup _, graph.ids_filter_nodup _,
    graph.ids_filter_nodup _⟩

/-- What an entry for a router says: the branches of a conditional node as declared. -/
theorem router_compiled {entry : String × Router} (member : entry ∈ plan.routers) :
    plan.router? entry.1 = some entry.2 ∧ entry.2 =
      ⟨entry.1, graph.targetsThrough entry.1 .onTrue, graph.targetsThrough entry.1 .onFalse⟩ := by
  obtain ⟨_, distinct, _⟩ := names_nodup compiled
  have found : plan.router? entry.1 = some entry.2 :=
    Keyed.get?_of_mem plan.routers distinct member
  refine ⟨found, ?_⟩
  rw [router?_compiled compiled] at found
  split at found
  · rw [← Option.some.inj found, Router.ofConnections_outgoing]
  · cases found

end Compiled

/-- Every graph compiles, and the parts of the plan fit together: the nodes are those of the graph,
each is left in exactly one way, which its connections tell, a router stands for each conditional
node and has its branches as declared, and wherever the plan starts or leads there is a node. -/
theorem compile_has_shape (graph : Graph) :
    ∃ plan, compile graph = .ok plan ∧ plan.HasShapeOf graph := by
  obtain ⟨plan, compiled⟩ := exists_compile graph
  have names : plan.nodes.names = graph.ids := by
    rw [nodes_compiled compiled, nodesOf, Keyed.names, List.map_map]
    rfl
  -- one lemma gives all of the partition: which of the three ways it is depends on the graph alone
  have left := leavesBy_compiled compiled
  have asDeclared : ∀ id ∈ plan.nodes.names, plan.LeavesBy id (graph.departure id) :=
    fun id member => (left id _).mpr ⟨names ▸ member, rfl⟩
  have distinct := names_nodup compiled
  refine ⟨plan, compiled, ?_⟩
  exact {
    names := names
    nodes := fun id node => by rw [node?_compiled compiled, graph.node?_eq_some]
    distinct := distinct
    inside := fun id way leaves => names ▸ ((left id way).mp leaves).1
    oneWay := fun id member =>
      ⟨graph.departure id, asDeclared id member, fun way leaves => ((left id way).mp leaves).2.symm⟩
    asDeclared := asDeclared
    conditional := fun id => by
      rw [LeavesBy, routers_compiled compiled, mem_names_routersOf]
    entry := names ▸ entry_compiled compiled
    edgeTargets := fun edge member => by
      have found := Keyed.get?_of_mem plan.edges distinct.1 member
      exact names ▸ mem_ids_of_leads compiled (.inl found)
    routerTargets := fun entry member target listed => by
      obtain ⟨found, _⟩ := router_compiled compiled member
      exact names ▸ mem_ids_of_leads compiled (.inr ⟨entry.2, found, listed⟩)
    tables := fun entry member => (router_compiled compiled member).2 }

end Plan

end ChatFlow
