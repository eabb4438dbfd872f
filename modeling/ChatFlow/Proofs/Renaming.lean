import ChatFlow.Proofs.PlanRoutes
import Mathlib.SetTheory.Cardinal.Arithmetic

/-!
# Renaming of nodes

The compiler compares the ids of nodes and never looks into them: if the nodes of a graph get other
ids, the plan is the same but for the ids.  Every part of the compiler is shown to commute with a
renaming of all texts that keeps different texts different.  A renaming of the nodes of one graph
extends to such a renaming, and a plan contains no other ids than those of its graph.
-/

set_option autoImplicit false

namespace ChatFlow

def Node.rename (rename : String → String) (node : Node) : Node :=
  { node with id := rename node.id }

def Connection.rename (rename : String → String) (c : Connection) : Connection :=
  { c with source := rename c.source, target := rename c.target }

/-- The graph with other ids for its nodes; everything else stays in its place. -/
def Graph.rename (graph : Graph) (rename : String → String)
    (injective : Set.InjOn rename {id | id ∈ graph.ids}) : Graph where
  nodes := graph.nodes.map (Node.rename rename)
  connections := graph.connections.map (Connection.rename rename)
  nonempty := by simpa using graph.nonempty
  distinct := by
    have renamed : (graph.ids.map rename).Nodup := graph.distinct.map_on injective
    simpa [Graph.ids, Function.comp_def, Node.rename] using renamed
  joined := by
    intro c member
    obtain ⟨before, present, rfl⟩ := List.mem_map.mp member
    obtain ⟨source, target⟩ := graph.joined before present
    have names : (graph.nodes.map (Node.rename rename)).map Node.id = graph.ids.map rename := by
      simp [Graph.ids, Function.comp_def, Node.rename]
    rw [names]
    exact ⟨List.mem_map_of_mem source, List.mem_map_of_mem target⟩

def Router.rename (rename : String → String) (router : Router) : Router where
  node := rename router.node
  onTrue := router.onTrue.map rename
  onFalse := router.onFalse.map rename

/-- The plan with other ids in every place in which it has the id of a node. -/
def Plan.rename (rename : String → String) (plan : Plan) : Plan where
  entry := rename plan.entry
  nodes := plan.nodes.map fun entry => (rename entry.1, entry.2.rename rename)
  edges := plan.edges.map (Prod.map rename rename)
  routers := plan.routers.map fun entry => (rename entry.1, entry.2.rename rename)
  exits := plan.exits.map rename
  rewritten := plan.rewritten.map (Prod.map rename rename)

def Edge.rename (rename : String → String) (edge : Edge) : Edge :=
  { edge with source := rename edge.source, target := rename edge.target }

/-! ## Lists of what has names -/

section

variable {α β : Type} {f : α → β}

theorem filter_map_of_agree {p : β → Bool} {q : α → Bool} (agree : ∀ a, p (f a) = q a)
    (items : List α) : (items.map f).filter p = (items.filter q).map f := by
  rw [List.filter_map]
  exact congrArg (fun p => (items.filter p).map f) (funext agree)

theorem eraseDups_map [BEq α] [LawfulBEq α] [BEq β] [LawfulBEq β]
    (injective : Function.Injective f) (items : List α) :
    (items.map f).eraseDups = items.eraseDups.map f := by
  induction items using eraseDups_induction with
  | nil => rfl
  | cons item rest ih =>
      have others : (rest.map f).filter (fun other => !other == f item) =
          (rest.filter (fun other => !other == item)).map f :=
        filter_map_of_agree (fun other => by
          rw [Bool.eq_iff_iff]
          simp [injective.eq_iff]) rest
      rw [List.map_cons, List.eraseDups_cons, List.eraseDups_cons, List.map_cons, others, ih]

end

/-! ## Each part of the compiler -/

section

variable {rename : String → String} (injective : Function.Injective rename)
include injective

theorem Keyed.get?_map_rename {α β : Type} (value : α → β) (entries : Keyed α) (name : String) :
    Keyed.get? (entries.map (Prod.map rename value)) (rename name) =
      (entries.get? name).map value := by
  induction entries with
  | nil => rfl
  | cons entry rest ih =>
      by_cases same : entry.1 = name
      · simp [Keyed.get?, same]
      · simp [Keyed.get?, same, injective.eq_iff, ih]

namespace Graph

theorem kind?_rename (graph : Graph) (id : String) :
    (graph.rename rename injective.injOn).kind? (rename id) = graph.kind? id := by
  have same : (fun node : Node => decide (node.id = rename id)) ∘ Node.rename rename =
      fun node => decide (node.id = id) := by
    funext node
    simp [Node.rename, injective.eq_iff]
  rw [kind?, kind?, node?, node?, Graph.rename, List.find?_map, same, Option.map_map]
  rfl

theorem outgoing_rename (graph : Graph) (id : String) :
    (graph.rename rename injective.injOn).outgoing (rename id) =
      (graph.outgoing id).map (Connection.rename rename) :=
  filter_map_of_agree (fun c => by simp [Connection.rename, injective.eq_iff]) graph.connections

theorem incoming_rename (graph : Graph) (id : String) :
    (graph.rename rename injective.injOn).incoming (rename id) =
      (graph.incoming id).map (Connection.rename rename) :=
  filter_map_of_agree (fun c => by simp [Connection.rename, injective.eq_iff]) graph.connections

end Graph

namespace EntryPoints

omit injective in
theorem byPreference_rename (nodes : List Node) :
    byPreference (nodes.map (Node.rename rename)) =
      (byPreference nodes).map (Node.rename rename) := by
  have part : ∀ sort : NodeKind → Bool,
      (nodes.map (Node.rename rename)).filter (fun node => sort node.kind) =
        (nodes.filter (fun node => sort node.kind)).map (Node.rename rename) :=
    fun sort => filter_map_of_agree (fun _ => rfl) nodes
  rw [byPreference, byPreference, List.map_append, List.map_append]
  exact congrArg₂ _ (congrArg₂ _ (part NodeKind.isInput) (part fun kind => kind = .retrieval))
    (part fun kind => !kind.isInput && kind ≠ .retrieval)

theorem sources_rename (graph : Graph) :
    sources (graph.rename rename injective.injOn) = (sources graph).map (Node.rename rename) :=
  filter_map_of_agree (fun node => by
    rw [Node.rename, Graph.incoming_rename injective, List.isEmpty_map]) graph.nodes

theorem primary?_rename (graph : Graph) :
    (ofGraph (graph.rename rename injective.injOn)).primary? =
      (ofGraph graph).primary?.map rename := by
  have first : ∀ nodes : List Node, ((byPreference (nodes.map (Node.rename rename))).map
      Node.id).head? = ((byPreference nodes).map Node.id).head?.map rename := by
    intro nodes
    rw [byPreference_rename, List.map_map, ← List.head?_map, List.map_map]
    rfl
  rw [primary?, primary?, ofGraph_eq, ofGraph_eq, sources_rename injective, List.isEmpty_map]
  by_cases none : (sources graph).isEmpty = true
  · simp only [if_pos none]
    exact first graph.nodes
  · simp only [if_neg none]
    exact first (sources graph)

end EntryPoints

namespace Resolution

theorem written_rename (graph : Graph) :
    written (graph.rename rename injective.injOn) = (written graph).map (Edge.rename rename) := by
  have plain := filter_map_of_agree (f := Connection.rename rename)
    (p := fun c =>
      decide ((graph.rename rename injective.injOn).kind? c.source ≠ some .conditional))
    (q := fun c => decide (graph.kind? c.source ≠ some .conditional))
    (fun c => congrArg (fun kind? => decide (kind? ≠ some NodeKind.conditional))
      (Graph.kind?_rename injective graph c.source)) graph.connections
  rw [written, written, List.map_map]
  refine (congrArg _ plain).trans ?_
  rw [List.map_map]
  rfl

theorem feedsContext_rename (edges : List Edge) (consumer : String) (node : Node) :
    feedsContext (edges.map (Edge.rename rename)) (rename consumer) (node.rename rename) =
      feedsContext edges consumer node := by
  simp [feedsContext, List.any_map, Function.comp_def, Edge.rename, Node.rename, injective.eq_iff]

theorem producers_rename (graph : Graph) (edges : List Edge) (consumer : String) :
    producers (graph.rename rename injective.injOn) (edges.map (Edge.rename rename))
        (rename consumer) =
      (producers graph edges consumer).map rename := by
  have ofKind : ∀ kind : NodeKind,
      ((graph.nodes.map (Node.rename rename)).filter (fun node => node.kind = kind &&
          feedsContext (edges.map (Edge.rename rename)) (rename consumer) node)).map Node.id =
        ((graph.nodes.filter (fun node => node.kind = kind &&
          feedsContext edges consumer node)).map Node.id).map rename := by
    intro kind
    rw [filter_map_of_agree (fun node => by rw [feedsContext_rename injective]) graph.nodes,
      List.map_map, List.map_map]
    rfl
  rw [producers, producers, List.map_append]
  exact congrArg₂ _ (ofKind .retrieval) (ofKind .spreadsheet)

theorem following?_rename (name : String) (names : List String) :
    following? (rename name) (names.map rename) = (following? name names).map rename := by
  induction names with
  | nil => rfl
  | cons head rest ih =>
      by_cases same : head = name
      · simp [following?, same]
      · simp [following?, same, injective.eq_iff, ih]

theorem reachesWithin_rename (goal : String) (fuel : Nat) (edges : List Edge)
    (pending : List String) :
    reachesWithin (rename goal) fuel (edges.map (Edge.rename rename)) (pending.map rename) =
      reachesWithin goal fuel edges pending := by
  induction fuel generalizing edges pending with
  | zero => cases pending <;> rfl
  | succ fuel ih =>
      cases pending with
      | nil => rfl
      | cons id pending =>
          have others : withoutSource (edges.map (Edge.rename rename)) (rename id) =
              (withoutSource edges id).map (Edge.rename rename) :=
            filter_map_of_agree (fun e => by simp [Edge.rename, injective.eq_iff]) edges
          have targets : targetsFrom (edges.map (Edge.rename rename)) (rename id) =
              (targetsFrom edges id).map rename := by
            rw [targetsFrom, targetsFrom, filter_map_of_agree
              (q := fun e => decide (e.source = id))
              (fun e => by simp [Edge.rename, injective.eq_iff]) edges, List.map_map, List.map_map]
            rfl
          have here : decide (rename id = rename goal) = decide (id = goal) := by
            simp [injective.eq_iff]
          rw [List.map_cons, reachesWithin_cons, reachesWithin_cons, others, targets,
            ← List.map_append, ih, here]

theorem reaches_rename (edges : List Edge) (start goal : String) :
    reaches (edges.map (Edge.rename rename)) (rename start) (rename goal) =
      reaches edges start goal := by
  have within := reachesWithin_rename injective goal (edges.length + 1) edges [start]
  rw [reaches, reaches, List.length_map]
  exact within

theorem detour?_rename (graph : Graph) (names : List String) (source : String) :
    detour? (graph.rename rename injective.injOn) (names.map rename) (rename source) =
      (detour? graph names source).map rename := by
  rw [detour?, detour?, following?_rename injective, Graph.kind?_rename injective, List.head?_map]
  simp only [List.mem_map_of_injective injective]
  by_cases member : source ∈ names
  · simp [member]
  · by_cases input : (graph.kind? source).any NodeKind.isInput = true
    · simp [member, input]
    · simp [member, input]

theorem redirection?_rename (graph : Graph) (consumer : String) (names : List String)
    (edges : List Edge) (edge : Edge) :
    redirection? (graph.rename rename injective.injOn) (rename consumer) (names.map rename)
        (edges.map (Edge.rename rename)) (edge.rename rename) =
      (redirection? graph consumer names edges edge).map rename := by
  rw [redirection?, redirection?]
  by_cases target : edge.target = consumer
  · have same : (edge.rename rename).target = rename consumer := congrArg rename target
    rw [if_neg (not_not.mpr same), if_neg (not_not.mpr target), Edge.rename,
      detour?_rename injective]
    cases detour? graph names edge.source with
    | none => rfl
    | some producer =>
        simp only [Option.map_some, reaches_rename injective]
        split <;> rfl
  · have other : (edge.rename rename).target ≠ rename consumer := fun same =>
      target (injective same)
    rw [if_pos other, if_pos target]
    rfl

omit injective in
/-- The edges and the recorded connections of a redirection with other ids. -/
def Redirected.Renamed (rename : String → String) (before after : Redirected) : Prop :=
  after.edges = before.edges.map (Edge.rename rename) ∧
    after.rewritten = before.rewritten.map (Prod.map rename rename)

theorem redirectEdges_rename (graph : Graph) (consumer : String) (names : List String)
    (todo done : List Edge) :
    (redirectEdges graph consumer names done todo).Renamed rename
      (redirectEdges (graph.rename rename injective.injOn) (rename consumer) (names.map rename)
        (done.map (Edge.rename rename)) (todo.map (Edge.rename rename))) := by
  induction todo generalizing done with
  | nil => exact ⟨rfl, rfl⟩
  | cons edge rest ih =>
      have choice := redirection?_rename injective graph consumer names (done ++ edge :: rest) edge
      rw [List.map_append, List.map_cons] at choice
      rw [List.map_cons, redirectEdges, redirectEdges, choice]
      cases redirection? graph consumer names (done ++ edge :: rest) edge with
      | none =>
          have later := ih (done ++ [edge])
          rw [List.map_append] at later
          exact later
      | some producer =>
          have later := ih (done ++ [⟨edge.source, producer, false⟩])
          rw [List.map_append] at later
          exact ⟨later.1, congrArg _ later.2⟩

theorem redirectAll_rename (graph : Graph) (names : List String) (edges : List Edge) :
    (redirectAll graph names edges).Renamed rename
      (redirectAll (graph.rename rename injective.injOn) (names.map rename)
        (edges.map (Edge.rename rename))) := by
  induction names generalizing edges with
  | nil => exact ⟨rfl, rfl⟩
  | cons consumer rest ih =>
      have first : (redirectFor graph edges consumer).Renamed rename
          (redirectFor (graph.rename rename injective.injOn) (edges.map (Edge.rename rename))
            (rename consumer)) := by
        rw [redirectFor, redirectFor, producers_rename injective]
        exact redirectEdges_rename injective graph consumer _ edges []
      have later := ih (redirectFor graph edges consumer).edges
      rw [← first.1] at later
      rw [List.map_cons, redirectAll, redirectAll]
      refine ⟨later.1, ?_⟩
      simp only [first.2, later.2, List.map_append]

omit injective in
theorem ids_filter_rename (nodes : List Node) (sort : NodeKind → Bool) :
    ((nodes.map (Node.rename rename)).filter (fun node => sort node.kind)).map Node.id =
      ((nodes.filter (fun node => sort node.kind)).map Node.id).map rename := by
  rw [filter_map_of_agree (f := Node.rename rename) (fun _ => rfl) nodes, List.map_map,
    List.map_map]
  rfl

theorem redirected_rename (graph : Graph) :
    (redirected graph).Renamed rename (redirected (graph.rename rename injective.injOn)) := by
  have passes := redirectAll_rename injective graph (consumers graph) (written graph)
  rw [← written_rename injective] at passes
  have names : consumers (graph.rename rename injective.injOn) = (consumers graph).map rename :=
    ids_filter_rename graph.nodes fun kind => kind = .aiCall
  rw [redirected, redirected, names]
  exact passes

theorem links_rename (edges : List Edge) :
    links (edges.map (Edge.rename rename)) = (links edges).map (Prod.map rename rename) := by
  rw [links, links, ← eraseDups_map (injective.prodMap injective), List.map_map, List.map_map]
  rfl

theorem firstTargets_rename (pairs : List (String × String)) :
    firstTargets (pairs.map (Prod.map rename rename)) =
      (firstTargets pairs).map (Prod.map rename rename) := by
  induction pairs with
  | nil => rfl
  | cons pair rest ih =>
      have others := filter_map_of_agree (f := Prod.map rename rename)
        (p := fun entry : String × String => decide (entry.1 ≠ rename pair.1))
        (q := fun entry => decide (entry.1 ≠ pair.1))
        (fun entry => by simp [injective.eq_iff]) (firstTargets rest)
      rw [List.map_cons, Prod.map, firstTargets, ih, others]
      rfl

theorem ofGraph_rename (graph : Graph) :
    ofGraph (graph.rename rename injective.injOn) =
      ⟨(ofGraph graph).edges.map (Prod.map rename rename),
        (ofGraph graph).rewritten.map (Prod.map rename rename)⟩ := by
  obtain ⟨edges, rewritten⟩ := redirected_rename injective graph
  simp only [ofGraph, edges, rewritten, links_rename injective, firstTargets_rename injective,
    eraseDups_map (injective.prodMap injective)]

end Resolution

namespace Plan

theorem routersOf_rename (graph : Graph) :
    routersOf (graph.rename rename injective.injOn) =
      (routersOf graph).map fun entry => (rename entry.1, entry.2.rename rename) := by
  have kept := filter_map_of_agree (f := Node.rename rename)
    (p := fun node => decide (node.kind = .conditional)) (fun _ => rfl) graph.nodes
  have router : ∀ id, Router.ofConnections (rename id)
      ((graph.rename rename injective.injOn).outgoing (rename id)) =
        (Router.ofConnections id (graph.outgoing id)).rename rename := by
    intro id
    have branch : ∀ role : PortRole,
        (((graph.outgoing id).map (Connection.rename rename)).filter
            (fun c => c.sourceRole = role)).map Connection.target =
          (((graph.outgoing id).filter (fun c => c.sourceRole = role)).map
            Connection.target).map rename := by
      intro role
      rw [filter_map_of_agree (f := Connection.rename rename) (fun _ => rfl), List.map_map,
        List.map_map]
      rfl
    rw [Router.ofConnections, Graph.outgoing_rename injective, branch, branch]
    rfl
  rw [routersOf, routersOf, List.map_map]
  refine (congrArg _ kept).trans ?_
  rw [List.map_map]
  refine congrArg (fun entry => List.map entry _) (funext fun node => ?_)
  exact congrArg _ (router node.id)

theorem exitsOf_rename (graph : Graph) (edges : Keyed String) :
    exitsOf (graph.rename rename injective.injOn) (edges.map (Prod.map rename rename)) =
      (exitsOf graph edges).map rename := by
  have leads : ∀ id, Keyed.has (edges.map (Prod.map rename rename)) (rename id) =
      edges.has id := by
    intro id
    rw [Keyed.has, Keyed.has, Keyed.get?_map_rename injective, Option.isSome_map]
  rw [exitsOf, exitsOf, Graph.rename, List.map_map,
    filter_map_of_agree (f := Node.rename rename)
      (fun node => by rw [Node.rename, leads]) graph.nodes, List.map_map]
  rfl

theorem compile_rename (graph : Graph) {plan : Plan} (compiled : compile graph = .ok plan) :
    compile (graph.rename rename injective.injOn) = .ok (plan.rename rename) := by
  obtain ⟨entry, _, found⟩ := exists_entry graph
  have entry' := EntryPoints.primary?_rename injective graph
  rw [found, Option.map_some] at entry'
  rw [compile, found] at compiled
  cases compiled
  rw [compile, entry']
  have nodes : nodesOf (graph.rename rename injective.injOn) =
      (nodesOf graph).map fun entry => (rename entry.1, entry.2.rename rename) := by
    rw [nodesOf, nodesOf, Graph.rename, List.map_map, List.map_map]
    rfl
  simp only [Resolution.ofGraph_rename injective, exitsOf_rename injective,
    routersOf_rename injective, nodes, Plan.rename]

end Plan

end

/-! ## One graph -/

/-- A renaming of some texts is part of a renaming of all texts. -/
theorem exists_renaming_of_all (rename : String → String) (ids : List String)
    (injective : Set.InjOn rename {id | id ∈ ids}) :
    ∃ extended : String → String, Function.Injective extended ∧
      ∀ id ∈ ids, extended id = rename id := by
  let known : Set String := {id | id ∈ ids}
  have fewer : Cardinal.mk known < Cardinal.mk String :=
    (Cardinal.lt_aleph0_iff_set_finite.mpr (List.finite_toSet ids)).trans_le
      (Cardinal.aleph0_le_mk String)
  let renamed : known ↪ String :=
    ⟨fun id => rename id, fun a b same => Subtype.ext (injective a.2 b.2 same)⟩
  obtain ⟨extended, agree⟩ := Cardinal.extend_function_of_lt renamed fewer ⟨Equiv.refl String⟩
  exact ⟨extended, extended.injective, fun id member => agree ⟨id, member⟩⟩

theorem Graph.rename_congr (graph : Graph) {rename other : String → String}
    (agree : ∀ id ∈ graph.ids, rename id = other id)
    (injective : Set.InjOn rename {id | id ∈ graph.ids})
    (injective' : Set.InjOn other {id | id ∈ graph.ids}) :
    graph.rename rename injective = graph.rename other injective' := by
  have nodes : graph.nodes.map (Node.rename rename) = graph.nodes.map (Node.rename other) :=
    List.map_congr_left fun node member => by
      rw [Node.rename, Node.rename, agree node.id (List.mem_map_of_mem member)]
  have connections : graph.connections.map (Connection.rename rename) =
      graph.connections.map (Connection.rename other) :=
    List.map_congr_left fun c member => by
      obtain ⟨source, target⟩ := graph.joined c member
      rw [Connection.rename, Connection.rename, agree c.source source, agree c.target target]
  simp only [Graph.rename, nodes, connections]

theorem Resolution.mem_of_mem_firstTargets {pairs : List (String × String)}
    {pair : String × String} (member : pair ∈ firstTargets pairs) : pair ∈ pairs := by
  induction pairs with
  | nil => exact member
  | cons first rest ih =>
      rcases List.mem_cons.mp member with rfl | later
      · exact List.mem_cons_self
      · exact List.mem_cons_of_mem first (ih (List.mem_filter.mp later).1)

namespace Plan

/-- All ids in a plan are among these. -/
structure Within (plan : Plan) (ids : List String) : Prop where
  entry : plan.entry ∈ ids
  nodes : ∀ entry ∈ plan.nodes, entry.1 ∈ ids ∧ entry.2.id ∈ ids
  edges : ∀ edge ∈ plan.edges, edge.1 ∈ ids ∧ edge.2 ∈ ids
  routers : ∀ entry ∈ plan.routers,
    entry.1 ∈ ids ∧ entry.2.node ∈ ids ∧ ∀ id ∈ entry.2.targets, id ∈ ids
  exits : ∀ id ∈ plan.exits, id ∈ ids
  rewritten : ∀ pair ∈ plan.rewritten, pair.1 ∈ ids ∧ pair.2 ∈ ids

theorem Within.rename_congr {plan : Plan} {ids : List String} (within : plan.Within ids)
    {rename other : String → String} (agree : ∀ id ∈ ids, rename id = other id) :
    plan.rename rename = plan.rename other := by
  have pairs : ∀ list : List (String × String), (∀ pair ∈ list, pair.1 ∈ ids ∧ pair.2 ∈ ids) →
      list.map (Prod.map rename rename) = list.map (Prod.map other other) := by
    intro list inside
    refine List.map_congr_left fun pair member => ?_
    obtain ⟨first, second⟩ := inside pair member
    rw [Prod.map, Prod.map, agree _ first, agree _ second]
  have nodes : plan.nodes.map (fun entry => (rename entry.1, entry.2.rename rename)) =
      plan.nodes.map fun entry => (other entry.1, entry.2.rename other) :=
    List.map_congr_left fun entry member => by
      obtain ⟨key, id⟩ := within.nodes entry member
      rw [Node.rename, Node.rename, agree _ key, agree _ id]
  have routers : plan.routers.map (fun entry => (rename entry.1, entry.2.rename rename)) =
      plan.routers.map fun entry => (other entry.1, entry.2.rename other) :=
    List.map_congr_left fun entry member => by
      obtain ⟨key, node, targets⟩ := within.routers entry member
      have onTrue : entry.2.onTrue.map rename = entry.2.onTrue.map other :=
        List.map_congr_left fun id target => agree id (targets id (List.mem_append_left _ target))
      have onFalse : entry.2.onFalse.map rename = entry.2.onFalse.map other :=
        List.map_congr_left fun id target => agree id (targets id (List.mem_append_right _ target))
      rw [Router.rename, Router.rename, agree _ key, agree _ node, onTrue, onFalse]
  have exits : plan.exits.map rename = plan.exits.map other :=
    List.map_congr_left fun id member => agree id (within.exits id member)
  rw [Plan.rename, Plan.rename, agree _ within.entry, nodes, pairs _ within.edges, routers, exits,
    pairs _ within.rewritten]

theorem within_compiled {graph : Graph} {plan : Plan} (compiled : compile graph = .ok plan) :
    plan.Within graph.ids := by
  have written : Resolution.Inside graph (Resolution.written graph) := by
    intro e member
    obtain ⟨c, present, _, rfl⟩ := (Resolution.mem_written graph e).mp member
    exact graph.joined c present
  have consumers : ∀ name ∈ Resolution.consumers graph, name ∈ graph.ids := by
    intro name member
    exact (List.filter_sublist.map Node.id).subset member
  obtain ⟨edges, rewritten⟩ := Resolution.redirectAll_inside graph _ _ consumers written
  obtain ⟨entry, nodes, plain, routers, recorded⟩ := compile_parts compiled
  refine ⟨entry, ?_, ?_, ?_, ?_, ?_⟩
  · rw [nodes]
    intro entry member
    obtain ⟨node, present, rfl⟩ := List.mem_map.mp member
    exact ⟨List.mem_map_of_mem present, List.mem_map_of_mem present⟩
  · rw [plain]
    intro edge member
    have link := Resolution.mem_of_mem_firstTargets member
    rw [Resolution.links, List.mem_eraseDups] at link
    obtain ⟨e, present, rfl⟩ := List.mem_map.mp link
    exact edges e present
  · rw [routers]
    intro entry member
    obtain ⟨node, kept, rfl⟩ := List.mem_map.mp member
    have present := List.mem_map_of_mem (f := Node.id) (List.mem_filter.mp kept).1
    refine ⟨present, present, fun id target => ?_⟩
    obtain ⟨c, left, rfl⟩ := Router.mem_targets_ofConnections target
    exact (graph.joined c (List.mem_filter.mp left).1).2
  · rw [exits_compiled compiled]
    exact fun id member => (List.filter_sublist.map Node.id).subset member
  · rw [recorded]
    intro pair member
    rw [Resolution.ofGraph, List.mem_eraseDups] at member
    exact rewritten pair member

/-- Node ids are names and nothing else: a graph with other ids for its nodes has the same plan
with these other ids. -/
theorem compile_names_only (graph : Graph) (rename : String → String)
    (injective : Set.InjOn rename {id | id ∈ graph.ids}) :
    ∃ plan, compile graph = .ok plan ∧
      compile (graph.rename rename injective) = .ok (plan.rename rename) := by
  obtain ⟨plan, compiled⟩ := exists_compile graph
  obtain ⟨extended, distinct, agree⟩ := exists_renaming_of_all rename graph.ids injective
  refine ⟨plan, compiled, ?_⟩
  rw [graph.rename_congr (fun id member => (agree id member).symm) injective distinct.injOn,
    compile_rename distinct graph compiled]
  exact congrArg _ ((within_compiled compiled).rename_congr agree)

/-- A model with a retrieval node as context, whose answer is checked. -/
def checkedAnswer : Graph where
  nodes := [⟨"in", .input .text, [], [], []⟩, ⟨"rag", .retrieval, [], [], []⟩,
    ⟨"llm", .aiCall, [], [], []⟩, ⟨"check", .conditional, [], [], []⟩,
    ⟨"out", .output .text, [], [], []⟩]
  connections := [⟨"c1", "in", "out", .data, "llm", "in", .data⟩,
    ⟨"c2", "rag", "out", .data, "llm", "context", .context⟩,
    ⟨"c3", "llm", "out", .data, "check", "in", .data⟩,
    ⟨"c4", "check", "true", .onTrue, "out", "in", .data⟩]
  nonempty := by decide
  distinct := by decide
  joined := by decide

/-- Names in the opposite order; all other texts get the same one. -/
def backwards : String → String
  | "in" => "e"
  | "rag" => "d"
  | "llm" => "c"
  | "check" => "b"
  | "out" => "a"
  | _ => ""

theorem checkedAnswer_backwards :
    ∃ injective : Set.InjOn backwards {id | id ∈ checkedAnswer.ids}, ∃ plan,
      compile (checkedAnswer.rename backwards injective) = .ok plan ∧ plan.entry = "e" ∧
      plan.edges = [("e", "d"), ("d", "c"), ("c", "b")] ∧
      plan.routers = [("b", ⟨"b", ["a"], []⟩)] ∧ plan.exits = ["a"] ∧
      plan.rewritten = [("e", "c")] := by
  have injective : Set.InjOn backwards {id | id ∈ checkedAnswer.ids} :=
    List.inj_on_of_nodup_map (by decide)
  obtain ⟨plan, compiled, renamed⟩ := compile_names_only checkedAnswer backwards injective
  obtain ⟨same, known, parts⟩ : ∃ same, compile checkedAnswer = .ok same ∧
      same.entry = "in" ∧ same.edges = [("in", "rag"), ("rag", "llm"), ("llm", "check")] ∧
      same.routers = [("check", ⟨"check", ["out"], []⟩)] ∧ same.exits = ["out"] ∧
      same.rewritten = [("in", "llm")] := by
    rw [compile_eq]
    exact ⟨_, rfl, rfl, rfl, rfl, rfl, rfl⟩
  cases compiled.symm.trans known
  obtain ⟨entry, edges, routers, exits, rewritten⟩ := parts
  refine ⟨injective, _, renamed, ?_, ?_, ?_, ?_, ?_⟩
  · rw [Plan.rename, entry]
    rfl
  · rw [Plan.rename, edges]
    rfl
  · rw [Plan.rename, routers]
    rfl
  · rw [Plan.rename, exits]
    rfl
  · rw [Plan.rename, rewritten]
    rfl

end Plan

end ChatFlow
