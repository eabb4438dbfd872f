import ChatFlow.Plan.Resolution
import ChatFlow.Proofs.CycleSearch

/-!
# Neighbour lists

An adjacency grows edge by edge, and one addition touches two entries or, for an edge from a node to
itself, one.  However it has grown, from nothing or from the connections of a graph, it holds what
the list of the additions says: a node's neighbours are the targets added for it, each at the place
where it was added first, and the ends of all edges are known.  So nothing happens when an edge is
added again.
-/

set_option autoImplicit false

namespace ChatFlow

open Resolution (targetsOf)

/-- The connections of a graph as pairs of node ids, in declaration order. -/
def Graph.arrows (graph : Graph) : List (String × String) :=
  graph.connections.map fun c => (c.source, c.target)

namespace Adjacency

/-- Adds edges one after the other. -/
def addEdges (adjacency : Adjacency) (edges : List (String × String)) : Adjacency :=
  edges.foldl (fun known edge => known.addEdge edge.1 edge.2) adjacency

/-- The adjacency holds these nodes, and these edges in the order in which they were added. -/
structure Holds (adjacency : Adjacency) (nodes : List String) (edges : List (String × String)) :
    Prop where
  distinct : adjacency.lists.names.Nodup
  known : ∀ id, id ∈ adjacency.lists.names ↔
    id ∈ nodes ∨ ∃ edge ∈ edges, edge.1 = id ∨ edge.2 = id
  neighbours : ∀ id, adjacency.neighbours id = (targetsOf edges id).eraseDups

/-! ## One addition -/

theorem nodup_withName {names : List String} (distinct : names.Nodup) (name : String) :
    (withName names name).Nodup := by
  rw [withName]
  split
  · exact distinct
  · rename_i unknown
    exact distinct.append (List.nodup_singleton name) (by simpa using unknown)

theorem withName_eraseDups (names : List String) (name : String) :
    withName names.eraseDups name = (names ++ [name]).eraseDups := by
  rw [List.eraseDups_append, List.cons_removeAll, withName]
  by_cases known : name ∈ names
  · simp [known]
  · simp [known, List.eraseDups_cons]

theorem targetsOf_concat (edges : List (String × String)) (source target id : String) :
    targetsOf (edges ++ [(source, target)]) id =
      if source = id then targetsOf edges id ++ [target] else targetsOf edges id := by
  by_cases same : source = id <;> simp [targetsOf, same]

theorem names_addNode (adjacency : Adjacency) (id : String) :
    (adjacency.addNode id).lists.names = withName adjacency.lists.names id := by
  rw [addNode, withName]
  by_cases known : id ∈ adjacency.lists.names
  · rw [if_pos ((Keyed.has_iff _ id).mpr known), if_pos known]
  · rw [if_neg (mt (Keyed.has_iff _ id).mp known), Keyed.names_put]

theorem names_addEdge (adjacency : Adjacency) (source target : String) :
    (adjacency.addEdge source target).lists.names =
      withName (withName adjacency.lists.names source) target := by
  rw [addEdge, names_addNode, Keyed.names_put]
  rfl

theorem get?_of_mem_neighbours (adjacency : Adjacency) {a b : String}
    (neighbour : b ∈ adjacency.neighbours a) :
    adjacency.lists.get? a = some (adjacency.neighbours a) := by
  rw [neighbours] at neighbour ⊢
  cases entry : adjacency.lists.get? a with
  | none => simp [entry] at neighbour
  | some list => rfl

section Holding

variable {adjacency : Adjacency} {nodes : List String} {edges : List (String × String)}
  (holds : adjacency.Holds nodes edges)
include holds

theorem Holds.addEdge (source target : String) :
    (adjacency.addEdge source target).Holds nodes (edges ++ [(source, target)]) where
  distinct := by
    rw [names_addEdge]
    exact nodup_withName (nodup_withName holds.distinct source) target
  known := by
    intro id
    rw [names_addEdge, mem_withName, mem_withName, holds.known, or_assoc, or_assoc]
    simp only [List.mem_append, List.mem_singleton, or_and_right, exists_or, exists_eq_left,
      eq_comm]
  neighbours := by
    intro id
    rw [neighbours_addEdge, targetsOf_concat, holds.neighbours]
    split
    · exact withName_eraseDups _ target
    · rfl

theorem Holds.addEdges (added : List (String × String)) :
    (adjacency.addEdges added).Holds nodes (edges ++ added) := by
  induction added generalizing adjacency edges with
  | nil => simpa [Adjacency.addEdges] using holds
  | cons edge rest ih => simpa [Adjacency.addEdges] using ih (holds.addEdge edge.1 edge.2)

/-- Every neighbour is known. -/
theorem Holds.closed {a b : String} (neighbour : b ∈ adjacency.neighbours a) :
    b ∈ adjacency.lists.names := by
  rw [holds.neighbours, List.mem_eraseDups, targetsOf, List.mem_map] at neighbour
  obtain ⟨edge, kept, same⟩ := neighbour
  exact (holds.known b).mpr (.inr ⟨edge, (List.mem_filter.mp kept).1, .inr same⟩)

/-- An edge that is there is not added again. -/
theorem Holds.addEdge_again {a b : String} (neighbour : b ∈ adjacency.neighbours a) :
    adjacency.addEdge a b = adjacency := by
  have same : adjacency.lists.put a (withName (adjacency.neighbours a) b) = adjacency.lists := by
    rw [withName, if_pos neighbour]
    exact Keyed.put_of_get? _ (adjacency.get?_of_mem_neighbours neighbour)
  have known := (Keyed.has_iff _ b).mpr (holds.closed neighbour)
  rw [Adjacency.addEdge, same, addNode, if_pos known]

end Holding

/-! ## Where additions start -/

/-- What edges may be added to. -/
inductive Origin
  | nothing
  | successors (graph : Graph)
  | predecessors (graph : Graph)

namespace Origin

def adjacency : Origin → Adjacency
  | nothing => empty
  | successors graph => Adjacency.successors graph
  | predecessors graph => Adjacency.predecessors graph

/-- The nodes that are known from the beginning, also without an edge. -/
def nodes : Origin → List String
  | nothing => []
  | successors graph | predecessors graph => graph.ids

/-- The edges that are there from the beginning, in the order in which they were added. -/
def edges : Origin → List (String × String)
  | nothing => []
  | successors graph => graph.arrows
  | predecessors graph => graph.arrows.map Prod.swap

end Origin

theorem holds_empty : empty.Holds [] [] where
  distinct := List.nodup_nil
  known := by simp [empty, Keyed.names]
  neighbours := fun _ => rfl

theorem holds_ofNodes (graph : Graph) : (ofNodes graph).Holds graph.ids [] where
  distinct := by simpa [ofNodes, Keyed.names, Graph.ids, Function.comp_def] using graph.distinct
  known := by simp [ofNodes, Keyed.names, Function.comp_def]
  neighbours := fun id => List.eq_nil_iff_forall_not_mem.mpr (not_next_ofNodes graph id)

theorem Origin.holds (origin : Origin) : origin.adjacency.Holds origin.nodes origin.edges := by
  cases origin with
  | nothing => exact holds_empty
  | successors graph =>
      have grown := (holds_ofNodes graph).addEdges graph.arrows
      rw [addEdges, Graph.arrows, List.foldl_map] at grown
      exact grown
  | predecessors graph =>
      have grown := (holds_ofNodes graph).addEdges (graph.arrows.map Prod.swap)
      rw [addEdges, List.foldl_map, Graph.arrows, List.foldl_map] at grown
      exact grown

/-- Wherever additions start and whatever is added, each node has one entry, the nodes with an entry
are those of the beginning and the ends of edges, and the neighbours of a node are the targets added
for it, each once, in the order of their first additions.  Neighbours are nodes with an entry, and
another addition of an edge that is there leaves all as it is.  The two adjacencies of a graph are
one relation read in both directions, that of its connections. -/
theorem neighbours_in_order_of_first_addition (origin : Origin) (added : List (String × String)) :
    let adjacency := origin.adjacency.addEdges added
    let edges := origin.edges ++ added
    adjacency.lists.names.Nodup ∧
    (∀ id, id ∈ adjacency.lists.names ↔
      id ∈ origin.nodes ∨ ∃ edge ∈ edges, edge.1 = id ∨ edge.2 = id) ∧
    (∀ id, adjacency.neighbours id = (targetsOf edges id).eraseDups) ∧
    (∀ a b, b ∈ adjacency.neighbours a →
      b ∈ adjacency.lists.names ∧ adjacency.addEdge a b = adjacency) ∧
    (∀ (graph : Graph) (x y : String),
      (y ∈ (successors graph).neighbours x ↔ x ∈ (predecessors graph).neighbours y) ∧
      (x ∈ (predecessors graph).neighbours y ↔
        ∃ c ∈ graph.connections, c.source = x ∧ c.target = y)) := by
  intro adjacency edges
  have holds : adjacency.Holds origin.nodes edges := origin.holds.addEdges added
  refine ⟨holds.distinct, holds.known, holds.neighbours, ?_, ?_⟩
  · intro a b neighbour
    exact ⟨holds.closed neighbour, holds.addEdge_again neighbour⟩
  · intro graph x y
    have backward := next_predecessors graph y x
    exact ⟨(next_successors graph x y).trans backward.symm, backward⟩

example : (empty.addEdges [("a", "b"), ("a", "a"), ("a", "b")]).lists =
    [("a", ["b", "a"]), ("b", [])] := by decide

end Adjacency

end ChatFlow
