import ChatFlow.Plan.Basic
import ChatFlow.Proofs.EntryOrder
import ChatFlow.Proofs.Redirection
import ChatFlow.Proofs.Repetitions

/-!
# The edges and routers of a compiled plan

The plain edge of a node is what redirection made of the first connection that leaves it, and only
conditional nodes have routers.  Every graph compiles, and the plain edges of a graph without loops
form no loop.
-/

set_option autoImplicit false

namespace ChatFlow

open Relation (TransGen ReflTransGen)

/-- The first declared connection that leaves a node. -/
def Graph.first? (graph : Graph) (id : String) : Option Connection := (graph.outgoing id).head?

/-- Some connection leads from a node that is not conditional to the other node, as written. -/
def Graph.PlainlyLeads (graph : Graph) (a b : String) : Prop :=
  graph.Leads a b ∧ graph.kind? a ≠ some .conditional

theorem Graph.leads_of_first? (graph : Graph) {id : String} {c : Connection}
    (first : graph.first? id = some c) : c.source = id ∧ graph.Leads id c.target := by
  have member := List.mem_filter.mp (List.mem_of_head? first)
  have source : c.source = id := of_decide_eq_true member.2
  exact ⟨source, c, member.1, source, rfl⟩

/-- Some connection leaves a node exactly if there is a first one. -/
theorem Graph.exists_first? (graph : Graph) (id : String) :
    (∃ c, graph.first? id = some c) ↔ ∃ c ∈ graph.connections, c.source = id := by
  constructor
  · rintro ⟨c, first⟩
    obtain ⟨present, source⟩ := List.mem_filter.mp (List.mem_of_head? first)
    exact ⟨c, present, of_decide_eq_true source⟩
  · rintro ⟨c, present, source⟩
    have left : c ∈ graph.outgoing id := List.mem_filter.mpr ⟨present, decide_eq_true source⟩
    exact ⟨_, List.head?_eq_some_head (List.ne_nil_of_mem left)⟩

namespace Resolution

/-! ## Collapse -/

theorem get?_firstTargets (pairs : List (String × String)) (id : String) :
    (firstTargets pairs).get? id = (pairs.find? (fun pair => pair.1 = id)).map (·.2) := by
  induction pairs with
  | nil => rfl
  | cons pair rest ih =>
      obtain ⟨source, target⟩ := pair
      by_cases same : source = id
      · simp [firstTargets, Keyed.get?, same]
      · have others := Keyed.get?_erase_other (firstTargets rest) (Ne.symm same)
        rw [Keyed.erase] at others
        simp only [firstTargets, Keyed.get?, if_neg same, others, ih]
        rw [List.find?_cons_of_neg (by simpa using same)]

/-- Of the edges that leave a node, the first counts. -/
theorem get?_firstTargets_links (edges : List Edge) (id : String) :
    (firstTargets (links edges)).get? id =
      (edges.find? (fun e => e.source = id)).map Edge.target := by
  rw [get?_firstTargets, links, find?_eraseDups, List.find?_map, Option.map_map]
  rfl

/-! ## Plain edges -/

/-- The edge that stands for a connection before redirection. -/
def edgeOf (c : Connection) : Edge := ⟨c.source, c.target, c.targetRole = .context⟩

theorem mem_written (graph : Graph) (e : Edge) :
    e ∈ written graph ↔
      ∃ c ∈ graph.connections, graph.kind? c.source ≠ some .conditional ∧ edgeOf c = e := by
  simp only [written, List.mem_map, List.mem_filter, decide_eq_true_eq, and_assoc]
  rfl

theorem linked_written (graph : Graph) (a b : String) :
    Linked (written graph) a b ↔ graph.PlainlyLeads a b := by
  constructor
  · rintro ⟨e, member, rfl, rfl⟩
    obtain ⟨c, present, plain, rfl⟩ := (mem_written graph e).mp member
    exact ⟨⟨c, present, rfl, rfl⟩, plain⟩
  · rintro ⟨⟨c, present, rfl, rfl⟩, plain⟩
    exact ⟨edgeOf c, (mem_written graph _).mpr ⟨c, present, plain, rfl⟩, rfl, rfl⟩

theorem find?_written (graph : Graph) (id : String) :
    (written graph).find? (fun e => e.source = id) =
      if graph.kind? id = some .conditional then none else (graph.first? id).map edgeOf := by
  have parts : (written graph).find? (fun e => e.source = id) =
      (graph.connections.find? (fun c => graph.kind? c.source ≠ some .conditional ∧
        c.source = id)).map edgeOf := by
    rw [written, List.find?_map, List.find?_filter]
    simp only [Function.comp_def, decide_eq_true_eq]
    rfl
  have here : ∀ c : Connection, (graph.kind? c.source ≠ some .conditional ∧ c.source = id) ↔
      (graph.kind? id ≠ some .conditional ∧ c.source = id) := by
    intro c
    constructor <;> rintro ⟨plain, rfl⟩ <;> exact ⟨plain, rfl⟩
  rw [parts, Graph.first?, Graph.outgoing, List.head?_filter]
  simp only [here]
  by_cases conditional : graph.kind? id = some .conditional
  · simp [conditional]
  · simp [conditional]

theorem find?_of_forall₂ {related : Edge → Edge → Prop} {edges others : List Edge}
    (pairs : List.Forall₂ related edges others)
    (sources : ∀ e other, related e other → other.source = e.source) (id : String) :
    Option.Rel related (edges.find? (fun e => e.source = id))
      (others.find? (fun e => e.source = id)) := by
  induction pairs with
  | nil => exact .none
  | @cons e other edges others head _ ih =>
      have same := sources e other head
      by_cases here : e.source = id
      · rw [List.find?_cons_of_pos (by simpa using here),
          List.find?_cons_of_pos (by simpa [same] using here)]
        exact .some head
      · rw [List.find?_cons_of_neg (by simpa using here),
          List.find?_cons_of_neg (by simpa [same] using here)]
        exact ih

theorem kind_of_mem_consumers (graph : Graph) {name : String} (member : name ∈ consumers graph) :
    graph.kind? name = some .aiCall :=
  (graph.mem_ids_filter_kind .aiCall name).mp member

theorem mem_consumers (graph : Graph) {name : String} (kind : graph.kind? name = some .aiCall) :
    name ∈ consumers graph :=
  (graph.mem_ids_filter_kind .aiCall name).mpr kind

theorem consumers_nodup (graph : Graph) : (consumers graph).Nodup := graph.ids_filter_nodup _

/-- What redirection may make of an edge of the graph. -/
def Moved (graph : Graph) (before after : Edge) : Prop :=
  Rerouted graph (written graph) (consumers graph) (redirected graph).rewritten before after

theorem redirected_moved (graph : Graph) :
    List.Forall₂ (Moved graph) (written graph) (redirected graph).edges :=
  redirectAll_rerouted graph (consumers graph) (written graph) (consumers_nodup graph)
    fun _ => kind_of_mem_consumers graph

theorem edge_of_first (graph : Graph) {id : String} {c : Connection}
    (plain : graph.kind? id ≠ some .conditional) (first : graph.first? id = some c) :
    ∃ after, Moved graph (edgeOf c) after ∧
      (ofGraph graph).edges.get? id = some after.target := by
  have together := find?_of_forall₂ (redirected_moved graph) (fun _ _ => Rerouted.source) id
  rw [find?_written, if_neg plain, first, Option.map_some] at together
  rw [ofGraph, get?_firstTargets_links]
  cases found : (redirected graph).edges.find? (fun e => e.source = id) with
  | none =>
      rw [found] at together
      cases together
  | some after =>
      rw [found] at together
      cases together with
      | some moved => exact ⟨after, moved, rfl⟩

theorem first_of_edge (graph : Graph) {id target : String}
    (found : (ofGraph graph).edges.get? id = some target) :
    graph.kind? id ≠ some .conditional ∧ ∃ c, graph.first? id = some c ∧
      ∃ after, Moved graph (edgeOf c) after ∧ after.target = target := by
  have together := find?_of_forall₂ (redirected_moved graph) (fun _ _ => Rerouted.source) id
  rw [ofGraph, get?_firstTargets_links] at found
  obtain ⟨after, place, rfl⟩ := Option.map_eq_some_iff.mp found
  rw [find?_written, place] at together
  by_cases conditional : graph.kind? id = some .conditional
  · rw [if_pos conditional] at together
    cases together
  · rw [if_neg conditional] at together
    cases first : graph.first? id with
    | none =>
        rw [first] at together
        cases together
    | some c =>
        rw [first] at together
        cases together with
        | some moved => exact ⟨conditional, c, rfl, after, moved, rfl⟩

theorem linked_of_edge (graph : Graph) {id target : String}
    (found : (ofGraph graph).edges.get? id = some target) :
    Linked (redirected graph).edges id target := by
  rw [ofGraph, get?_firstTargets_links] at found
  obtain ⟨e, place, rfl⟩ := Option.map_eq_some_iff.mp found
  exact ⟨e, List.mem_of_find?_eq_some place, by simpa using List.find?_some place, rfl⟩

/-- Without loops as written there are none after redirection. -/
theorem acyclic_edges (graph : Graph) (acyclic : Acyclic graph.PlainlyLeads) :
    Acyclic (fun a b => (ofGraph graph).edges.get? a = some b) := by
  have asWritten : Acyclic (Linked (written graph)) :=
    acyclic.mono fun a b => (linked_written graph a b).mp
  exact (redirectAll_acyclic graph (consumers graph) (written graph) asWritten).mono
    fun _ _ => linked_of_edge graph

end Resolution

namespace Plan

/-! ## Compilation -/

theorem exists_entry (graph : Graph) :
    ∃ entry ∈ graph.ids, (EntryPoints.ofGraph graph).primary? = some entry := by
  have candidates : ∃ nodes : List Node, nodes ≠ [] ∧ nodes ⊆ graph.nodes ∧
      (EntryPoints.ofGraph graph).ids = (EntryPoints.byPreference nodes).map Node.id := by
    rw [EntryPoints.ofGraph_eq]
    by_cases none : (EntryPoints.sources graph).isEmpty = true
    · exact ⟨graph.nodes, graph.nonempty, List.Subset.refl _, by rw [if_pos none]⟩
    · exact ⟨EntryPoints.sources graph, by simpa using none, List.filter_subset_self _, by
        rw [if_neg none]⟩
  obtain ⟨nodes, nonempty, inside, same⟩ := candidates
  cases order : EntryPoints.byPreference nodes with
  | nil =>
      obtain ⟨node, member⟩ := List.exists_mem_of_ne_nil nodes nonempty
      have listed := EntryPoints.mem_byPreference.mpr member
      rw [order] at listed
      cases listed
  | cons node rest =>
      have member := EntryPoints.mem_byPreference.mp (order ▸ List.mem_cons_self : node ∈ _)
      refine ⟨node.id, List.mem_map_of_mem (inside member), ?_⟩
      rw [EntryPoints.primary?, same, order]
      rfl

/-- Compilation starts at the preferred one of the nodes that no connection enters. -/
theorem compile_eq (graph : Graph) :
    compile graph =
      match (EntryPoints.byPreference (if (EntryPoints.sources graph).isEmpty then graph.nodes
        else EntryPoints.sources graph)).head? with
      | none => .error .emptyGraph
      | some first => .ok {
          entry := first.id
          nodes := nodesOf graph
          edges := (Resolution.ofGraph graph).edges
          routers := routersOf graph
          exits := exitsOf graph (Resolution.ofGraph graph).edges
          rewritten := (Resolution.ofGraph graph).rewritten } := by
  rw [compile, EntryPoints.ofGraph_eq, EntryPoints.primary?, List.head?_map]
  cases (EntryPoints.byPreference _).head? <;> rfl

theorem exists_compile (graph : Graph) : ∃ plan, compile graph = .ok plan := by
  obtain ⟨entry, _, found⟩ := exists_entry graph
  rw [compile, found]
  exact ⟨_, rfl⟩

section Compiled

variable {graph : Graph} {plan : Plan} (compiled : compile graph = .ok plan)
include compiled

theorem compile_parts : plan.entry ∈ graph.ids ∧ plan.nodes = nodesOf graph ∧
    plan.edges = (Resolution.ofGraph graph).edges ∧ plan.routers = routersOf graph ∧
    plan.rewritten = (Resolution.ofGraph graph).rewritten := by
  obtain ⟨entry, member, found⟩ := exists_entry graph
  rw [compile, found] at compiled
  cases compiled
  exact ⟨member, rfl, rfl, rfl, rfl⟩

theorem entry_compiled : plan.entry ∈ graph.ids := (compile_parts compiled).1

theorem nodes_compiled : plan.nodes = nodesOf graph := (compile_parts compiled).2.1

theorem edges_compiled : plan.edges = (Resolution.ofGraph graph).edges :=
  (compile_parts compiled).2.2.1

theorem routers_compiled : plan.routers = routersOf graph := (compile_parts compiled).2.2.2.1

theorem rewritten_compiled : plan.rewritten = (Resolution.ofGraph graph).rewritten :=
  (compile_parts compiled).2.2.2.2

theorem exits_compiled : plan.exits = exitsOf graph (Resolution.ofGraph graph).edges := by
  obtain ⟨entry, _, found⟩ := exists_entry graph
  rw [compile, found] at compiled
  cases compiled
  rfl

theorem primary?_compiled : (EntryPoints.ofGraph graph).primary? = some plan.entry := by
  obtain ⟨entry, _, found⟩ := exists_entry graph
  rw [compile, found] at compiled
  cases compiled
  exact found

theorem node?_compiled (id : String) : plan.node? id = graph.node? id := by
  rw [node?, nodes_compiled compiled, nodesOf, Keyed.get?_map, Graph.node?, Option.map_id']

theorem id_of_node? {id : String} {node : Node} (found : plan.node? id = some node) :
    node.id = id := by
  rw [node?_compiled compiled, graph.node?_eq_some] at found
  exact found.2

theorem size_compiled : plan.size = graph.size := by
  rw [size, nodes_compiled compiled, nodesOf, List.length_map, Graph.size]

theorem contains_compiled (id : String) : plan.contains id = true ↔ id ∈ graph.ids := by
  rw [contains, node?_compiled compiled, Graph.node?, List.find?_isSome, Graph.ids, List.mem_map]
  simp only [decide_eq_true_eq]

theorem router?_compiled (id : String) :
    plan.router? id =
      if graph.kind? id = some .conditional then some (.ofConnections id (graph.outgoing id))
      else none := by
  rw [router?, routers_compiled compiled, routersOf, Keyed.get?_map]
  split
  · rename_i conditional
    obtain ⟨node, present, rfl, kind⟩ := graph.mem_of_kind? conditional
    rw [Graph.find?_of_mem_distinct _ (graph.ids_filter_nodup _) node
      (List.mem_filter.mpr ⟨present, decide_eq_true kind⟩), Option.map_some]
  · rename_i plain
    rw [Option.map_eq_none_iff, List.find?_eq_none]
    rintro node kept same
    obtain ⟨present, kind⟩ := List.mem_filter.mp kept
    have found := graph.kind?_of_mem present
    rw [of_decide_eq_true same, of_decide_eq_true kind] at found
    exact plain found

theorem router?_eq_none {id : String} (plain : graph.kind? id ≠ some .conditional) :
    plan.router? id = none := by
  rw [router?_compiled compiled, if_neg plain]

end Compiled

end Plan

end ChatFlow
