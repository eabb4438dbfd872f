import ChatFlow.Plan.Router
import ChatFlow.Plan.Resolution
import ChatFlow.Graph.EntryPoints
import ChatFlow.Graph.OfDescription

/-!
# Plans

The executable form of a workflow.  A node has one plain edge, or a router if it is conditional,
or neither, and then it is an exit.  Everything is in declaration order.
-/

set_option autoImplicit false

namespace ChatFlow

structure Plan where
  entry : String
  nodes : Keyed Node
  edges : Keyed String
  routers : Keyed Router
  exits : List String
  rewritten : List (String × String)

namespace Plan

def node? (plan : Plan) (id : String) : Option Node := plan.nodes.get? id

/-- Whether a node belongs to the plan. -/
def contains (plan : Plan) (id : String) : Bool := (plan.node? id).isSome

/-- Where a node without a router leads. -/
def next (plan : Plan) (id : String) : Route := Route.ofTarget? (plan.edges.get? id)

def router? (plan : Plan) (id : String) : Option Router := plan.routers.get? id

def size (plan : Plan) : Nat := plan.nodes.length

/-- The nodes of a graph under their ids. -/
def nodesOf (graph : Graph) : Keyed Node := graph.nodes.map fun node => (node.id, node)

/-- The routers of the conditional nodes of a graph. -/
def routersOf (graph : Graph) : Keyed Router :=
  (graph.nodes.filter (fun node => node.kind = .conditional)).map fun node =>
    (node.id, Router.ofConnections node.id (graph.outgoing node.id))

/-- The nodes that are not conditional and lead nowhere. -/
def exitsOf (graph : Graph) (edges : Keyed String) : List String :=
  (graph.nodes.filter (fun node =>
    node.kind ≠ .conditional && !edges.has node.id)).map Node.id

/-- Compiles a graph.  The entry is the first entry point; a graph has one, since it has nodes. -/
def compile (graph : Graph) : Except GraphError Plan :=
  match (EntryPoints.ofGraph graph).primary? with
  | none => .error .emptyGraph
  | some entry =>
    let resolution := Resolution.ofGraph graph
    .ok {
      entry := entry
      nodes := nodesOf graph
      edges := resolution.edges
      routers := routersOf graph
      exits := exitsOf graph resolution.edges
      rewritten := resolution.rewritten }

/-- What there is to report about a compilation: what was redirected and dropped, then the plan. -/
def events (graph : Graph) : List Event :=
  match compile graph with
  | .error _ => []
  | .ok plan =>
    Resolution.events graph ++
      [.planCompiled plan.entry plan.size plan.edges.length plan.routers.length
        plan.rewritten.length]

def ofDescription (description : Description) : Except GraphError Plan :=
  match Graph.ofDescription description with
  | .error e => .error e
  | .ok graph => compile graph

end Plan

end ChatFlow
