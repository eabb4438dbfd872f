import ChatFlow.Graph.Basic

/-!
# Adjacency and cycles

Neighbour lists by node id, in the order in which edges were added and without repetitions, and
a depth-first search for a cycle.
-/

set_option autoImplicit false

namespace ChatFlow

structure Adjacency where
  lists : Keyed (List String)

namespace Adjacency

def empty : Adjacency := ⟨[]⟩

/-- The neighbours of a node; none if the node is unknown. -/
def neighbours (adjacency : Adjacency) (id : String) : List String :=
  (adjacency.lists.get? id).getD []

def degree (adjacency : Adjacency) (id : String) : Nat := (adjacency.neighbours id).length

/-- A list with one more name at its end, unless the name is there already. -/
def withName (names : List String) (name : String) : List String :=
  if name ∈ names then names else names ++ [name]

/-- Makes a node known; it starts without neighbours. -/
def addNode (adjacency : Adjacency) (id : String) : Adjacency :=
  if adjacency.lists.has id then adjacency else ⟨adjacency.lists.put id []⟩

/-- Adds an edge, once, and makes both of its ends known. -/
def addEdge (adjacency : Adjacency) (source target : String) : Adjacency :=
  addNode ⟨adjacency.lists.put source (withName (adjacency.neighbours source) target)⟩ target

/-- The nodes of a graph without any edge. -/
def ofNodes (graph : Graph) : Adjacency := ⟨graph.ids.map (fun id => (id, []))⟩

/-- From each node to the nodes that its connections enter. -/
def successors (graph : Graph) : Adjacency :=
  graph.connections.foldl (fun adjacency c => adjacency.addEdge c.source c.target) (ofNodes graph)

/-- From each node to the nodes whose connections enter it. -/
def predecessors (graph : Graph) : Adjacency :=
  graph.connections.foldl (fun adjacency c => adjacency.addEdge c.target c.source) (ofNodes graph)

/-- Where a depth-first search stands: the nodes seen so far, or the cycle that ended it. -/
inductive Search
  | seen (nodes : List String)
  | cycle (path : List String)

/-- The closed path from the first place of `next` on the path from the root, back to `next`. -/
def closedPath (path : List String) (next : String) : List String :=
  path.dropWhile (fun id => id ≠ next) ++ [next]

/-- Tries the neighbours of the last node of `path` in order; `visit` searches below a node that
was not seen before. -/
def searchNeighbours (visit : (seen path : List String) → String → Search)
    (path : List String) : (seen : List String) → (neighbours : List String) → Search
  | seen, [] => .seen seen
  | seen, next :: rest =>
    if next ∈ path then .cycle (closedPath path next)
    else if next ∈ seen then searchNeighbours visit path seen rest
    else
      match visit seen path next with
      | .cycle found => .cycle found
      | .seen seen => searchNeighbours visit path seen rest

/-- Searches below `node`, which `path` leads to from the root.  Fuel bounds the length of the
path. -/
def searchBelow (adjacency : Adjacency) :
    (fuel : Nat) → (seen path : List String) → (node : String) → Search
  | 0, seen, _, _ => .seen seen
  | fuel + 1, seen, path, node =>
    searchNeighbours (searchBelow adjacency fuel) (path ++ [node]) (node :: seen)
      (adjacency.neighbours node)

/-- Every id that a search may meet: known nodes, their neighbours and the roots. -/
def reachableIds (adjacency : Adjacency) (roots : List String) : List String :=
  roots ++ adjacency.lists.flatMap (fun entry => entry.1 :: entry.2)

def searchRoots (adjacency : Adjacency) (fuel : Nat) :
    (seen : List String) → (roots : List String) → Option (List String)
  | _, [] => none
  | seen, root :: rest =>
    if root ∈ seen then searchRoots adjacency fuel seen rest
    else
      match searchBelow adjacency fuel seen [] root with
      | .cycle path => some path
      | .seen seen => searchRoots adjacency fuel seen rest

/-- The first cycle that a search from the roots meets, as a path that ends where it begins.  A
path without repetition is no longer than the number of ids there are, which is the fuel. -/
def findCycle (adjacency : Adjacency) (roots : List String) : Option (List String) :=
  searchRoots adjacency ((reachableIds adjacency roots).length + 1) [] roots

end Adjacency

/-- The first cycle of the connections as declared, searching from the nodes in order. -/
def Graph.cycle? (graph : Graph) : Option (List String) :=
  (Adjacency.successors graph).findCycle graph.ids

end ChatFlow
