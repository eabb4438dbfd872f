import ChatFlow.Graph.Basic

/-!
# Routers

The routing table of a conditional node.  Targets are in declaration order; connections that
leave through a port without a branch role take no part.
-/

set_option autoImplicit false

namespace ChatFlow

inductive Route
  | node (id : String)
  | finish
  deriving DecidableEq, Repr

def Route.text : Route → String
  | .node id => id
  | .finish => "END"

/-- A route from the first of some targets. -/
def Route.ofTarget? : Option String → Route
  | some id => .node id
  | none => .finish

/-- The targets of a conditional node for either result. -/
structure Router where
  node : String
  onTrue : List String
  onFalse : List String
  deriving DecidableEq, Repr

namespace Router

/-- The table for the connections that leave a node. -/
def ofConnections (node : String) (outgoing : List Connection) : Router where
  node := node
  onTrue := (outgoing.filter (fun c => c.sourceRole = .onTrue)).map Connection.target
  onFalse := (outgoing.filter (fun c => c.sourceRole = .onFalse)).map Connection.target

def branch (router : Router) (result : Bool) : List String :=
  if result then router.onTrue else router.onFalse

/-- The first target for the result; if there is none, the first target of the other branch; if
both are empty, the end. -/
def route (router : Router) (result : Bool) : Route :=
  Route.ofTarget? ((router.branch result).head? <|> (router.branch (!result)).head?)

def targets (router : Router) : List String := router.onTrue ++ router.onFalse

end Router

end ChatFlow
