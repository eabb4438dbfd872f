import ChatFlow.Graph.Basic
import ChatFlow.Log.Event

/-!
# Resolution of edges

Connections are not followed as written.  Those that leave a conditional node become routers;
the others are rewritten by two rules.

1. *Context redirection.*  If retrieval or spreadsheet nodes are wired into the context port of
   an ai-call node, they are chained in front of it: retrievals before spreadsheets, declaration
   order within a kind.  An input node that leads to the ai-call node leads to the first of them
   instead.  A redirection that would close a loop is left out.
2. *Fan-out collapse.*  Of several edges that leave a node, the first declared one is kept.
-/

set_option autoImplicit false

namespace ChatFlow

/-- An edge on its way to the plan.  `isContext` says that the connection as written enters a
context port. -/
structure Edge where
  source : String
  target : String
  isContext : Bool
  deriving DecidableEq, Repr

/-- The plain edges of a plan by source, and the connections that were rewritten. -/
structure Resolution where
  edges : Keyed String
  rewritten : List (String × String)
  deriving DecidableEq, Repr

namespace Resolution

/-- The edges as written: one for each connection that does not leave a conditional node. -/
def written (graph : Graph) : List Edge :=
  (graph.connections.filter (fun c => graph.kind? c.source ≠ some .conditional)).map fun c =>
    ⟨c.source, c.target, c.targetRole = .context⟩

/-- Whether a node is wired into the context port of a consumer. -/
def feedsContext (edges : List Edge) (consumer : String) (node : Node) : Bool :=
  edges.any (fun e => e.source = node.id && e.target = consumer && e.isContext)

/-- The context producers of a consumer in the order in which they run. -/
def producers (graph : Graph) (edges : List Edge) (consumer : String) : List String :=
  let ofKind (kind : NodeKind) : List String :=
    (graph.nodes.filter (fun node =>
      node.kind = kind && feedsContext edges consumer node)).map Node.id
  ofKind .retrieval ++ ofKind .spreadsheet

/-- The name after the first place of a name in a list. -/
def following? (name : String) : List String → Option String
  | [] => none
  | head :: rest => if head = name then rest.head? else following? name rest

/-- Where an edge from `source` to the consumer should lead instead: from a producer to the next
one, from an input node to the first.  The last producer keeps its edge. -/
def detour? (graph : Graph) (producers : List String) (source : String) : Option String :=
  if source ∈ producers then following? source producers
  else if (graph.kind? source).any NodeKind.isInput then producers.head?
  else none

/-- Works through nodes to look at, at most `fuel` of them.  The edges of a node that was looked
at are used up, so a node is looked into once. -/
def reachesWithin (goal : String) : (fuel : Nat) → List Edge → (pending : List String) → Bool
  | _, _, [] => false
  | 0, _, _ :: _ => false
  | fuel + 1, edges, id :: pending =>
    id = goal ||
      reachesWithin goal fuel (edges.filter (fun e => e.source ≠ id))
        ((edges.filter (fun e => e.source = id)).map Edge.target ++ pending)

/-- Whether a path of edges leads from one node to another.  Each edge puts one node on the list
of those to look at, which is why the number of edges is fuel enough. -/
def reaches (edges : List Edge) (start goal : String) : Bool :=
  reachesWithin goal (edges.length + 1) edges [start]

/-- Edges with what was rewritten to get them, in the order of rewriting. -/
structure Redirected where
  edges : List Edge
  rewritten : List (String × String)
  events : List Event

/-- Where to send an edge to the consumer, if it is to be rewritten and no loop is closed. -/
def redirection? (graph : Graph) (consumer : String) (producers : List String)
    (edges : List Edge) (edge : Edge) : Option String :=
  if edge.target ≠ consumer then none
  else
    match detour? graph producers edge.source with
    | none => none
    | some producer => if reaches edges producer edge.source then none else some producer

/-- Goes through the edges after the `done` ones; each decision sees those before it. -/
def redirectEdges (graph : Graph) (consumer : String) (producers : List String) :
    (done todo : List Edge) → Redirected
  | done, [] => ⟨done, [], []⟩
  | done, edge :: rest =>
    match redirection? graph consumer producers (done ++ edge :: rest) edge with
    | none => redirectEdges graph consumer producers (done ++ [edge]) rest
    | some producer =>
      let later :=
        redirectEdges graph consumer producers (done ++ [⟨edge.source, producer, false⟩]) rest
      ⟨later.edges, (edge.source, consumer) :: later.rewritten,
        .contextEdgeRedirected edge.source consumer producer :: later.events⟩

def redirectFor (graph : Graph) (edges : List Edge) (consumer : String) : Redirected :=
  redirectEdges graph consumer (producers graph edges consumer) [] edges

/-- Redirection for several consumers, one after the other. -/
def redirectAll (graph : Graph) : (consumers : List String) → List Edge → Redirected
  | [], edges => ⟨edges, [], []⟩
  | consumer :: rest, edges =>
    let first := redirectFor graph edges consumer
    let later := redirectAll graph rest first.edges
    ⟨later.edges, first.rewritten ++ later.rewritten, first.events ++ later.events⟩

/-- The nodes that may consume context, in declaration order. -/
def consumers (graph : Graph) : List String :=
  (graph.nodes.filter (fun node => node.kind = .aiCall)).map Node.id

/-- The edges of a graph after redirection. -/
def redirected (graph : Graph) : Redirected :=
  redirectAll graph (consumers graph) (written graph)

/-- The ends of edges, each pair once, at its first place. -/
def links (edges : List Edge) : List (String × String) :=
  (edges.map (fun e => (e.source, e.target))).eraseDups

/-- The first target of each source, in the order of the sources. -/
def firstTargets : List (String × String) → Keyed String
  | [] => []
  | (source, target) :: rest =>
    (source, target) :: (firstTargets rest).filter (fun entry => entry.1 ≠ source)

/-- The targets of a source, in order. -/
def targetsOf (links : List (String × String)) (source : String) : List String :=
  (links.filter (fun link => link.1 = source)).map (·.2)

/-- One event for each node of which edges are dropped, in byte order of the nodes. -/
def collapseEvents (links : List (String × String)) : List Event :=
  (firstTargets links).inByteOrder.filterMap fun (source, kept) =>
    match (targetsOf links source).tail with
    | [] => none
    | dropped => some (.fanOutCollapsed source kept dropped)

def ofGraph (graph : Graph) : Resolution :=
  let result := redirected graph
  ⟨firstTargets (links result.edges), result.rewritten.eraseDups⟩

/-- What there is to report about the resolution of a graph. -/
def events (graph : Graph) : List Event :=
  let result := redirected graph
  result.events ++ collapseEvents (links result.edges)

end Resolution

end ChatFlow
