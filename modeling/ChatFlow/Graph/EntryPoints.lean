import ChatFlow.Graph.Adjacency

/-!
# Entry points

Where a conversation may start: the nodes that no connection enters, input nodes first, then
retrieval nodes, then the others, in declaration order within each group.
-/

set_option autoImplicit false

namespace ChatFlow

/-- The groups of kinds in which a start is looked for, one after the other. -/
def NodeKind.preference : NodeKind → Nat
  | .input _ => 0
  | .retrieval => 1
  | .aiCall | .spreadsheet | .conditional | .output _ => 2

structure EntryPoints where
  ids : List String
  deriving DecidableEq

namespace EntryPoints

/-- A node that a conversation may start at, with the group of its kind and its place in the
declaration. -/
structure Candidate where
  group : Nat
  place : Nat
  id : String

/-- Candidates compare by group, then by place, then by id. -/
def Candidate.order : Candidate → Candidate → Ordering :=
  compareLex (compareOn Candidate.group)
    (compareLex (compareOn Candidate.place) (compareOn Candidate.id))

/-- The candidates among the nodes of a graph, in declaration order. -/
def candidates (graph : Graph) (mayStart : Node → Bool) : List Candidate :=
  (graph.nodes.zipIdx.filter fun place => mayStart place.1).map fun place =>
    ⟨place.1.kind.preference, place.2, place.1.id⟩

/-- The ids of candidates, the preferred ones first. -/
def ordered (candidates : List Candidate) : List String :=
  (candidates.mergeSort fun a b => (Candidate.order a b).isLE).map Candidate.id

/-- The candidates of a graph: the nodes that nobody precedes.  If a connection enters every node,
all of them are candidates, so there is always a first one. -/
def ofGraph (graph : Graph) : EntryPoints :=
  let predecessors := Adjacency.predecessors graph
  let unentered := candidates graph fun node => predecessors.degree node.id = 0
  ⟨ordered (if unentered.isEmpty then candidates graph fun _ => true else unentered)⟩

def primary? (points : EntryPoints) : Option String := points.ids.head?

end EntryPoints

end ChatFlow
