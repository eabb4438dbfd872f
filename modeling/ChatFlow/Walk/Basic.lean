import ChatFlow.Plan.Basic
import ChatFlow.Processor.Registry

/-!
# Walks through a plan

A walk starts at the entry of a plan and visits one node after the other.  After a conditional
node the router decides with the result recorded for the node; after any other node the plain edge
does.  A node that fails ends the walk with an answer that says so.  A walk is given up when its
visits exceed the budget, when it is sent to a node outside the plan, or when nobody does the work
of a kind of node.
-/

set_option autoImplicit false

namespace ChatFlow

inductive WalkError
  | cyclicGraph (node : String) (budget : Nat)
  | routing (source target : String)
  | processorNotRegistered (node kind : String)
  deriving DecidableEq, Repr

namespace WalkError

def message : WalkError → String
  | .cyclicGraph node budget =>
    "Cyclic workflow detected: visit budget of " ++ toString budget ++ " exceeded at node '" ++
      node ++ "'"
  | .routing source target =>
    "Routing error: node '" ++ source ++ "' routed to '" ++ target ++
      "' which is not part of the plan"
  | .processorNotRegistered node kind =>
    "No processor registered for node '" ++ node ++ "' of type '" ++ kind ++ "'"

/-- The node at which a walk was given up. -/
def node : WalkError → String
  | .cyclicGraph node _ => node
  | .routing _ target => target
  | .processorNotRegistered node _ => node

end WalkError

/-- How a walk ended, what happened on it, and the world after it. -/
structure Walked (World : Type) where
  outcome : Except WalkError State
  trace : Trace
  world : World

namespace Walk

variable {World : Type}

/-- What stands for the node before the entry. -/
def beforeEntry : String := "<entry>"

/-- The result recorded for a conditional node; none counts as false. -/
def resultOf (state : State) (id : String) : Bool := (state.conditionResults.get? id).getD false

/-- Where a walk goes after a node that succeeded. -/
def routeAfter (plan : Plan) (id : String) (state : State) : Route :=
  match plan.router? id with
  | some router => router.route (resultOf state id)
  | none => plan.next id

def reportRoute (plan : Plan) (id : String) (state : State) (trace : Trace) : Trace :=
  match plan.router? id with
  | some _ =>
    trace.report (.branchRouted id (resultOf state id) (routeAfter plan id state).text)
  | none => trace

/-- The response in place of an answer when a node has failed. -/
def failureText (id : String) (node : Node) (error : NodeError) : String :=
  "Error in " ++ node.kind.tag ++ " node '" ++ id ++ "': " ++ error.message

/-- The end of a walk that is not given up. -/
def complete (state : State) (trace : Trace) (world : World) : Walked World :=
  ⟨.ok state, trace.report (.executionCompleted state.executed.toList trace.elapsed), world⟩

def giveUp (error : WalkError) (trace : Trace) (world : World) : Walked World :=
  ⟨.error error, trace.report (.executionFailed error.node error.message), world⟩

/-- Goes on along a route with `left` visits left of the budget; `previous` is the node visited
last. -/
def go (plan : Plan) (registry : Registry World) (budget : Nat) :
    (left : Nat) → (previous : String) → Route → State → Trace → World → Walked World
  | _, _, .finish, state, trace, world => complete state trace world
  | left, previous, .node id, state, trace, world =>
    match plan.node? id with
    | none => giveUp (.routing previous id) trace world
    | some node =>
      match left with
      | 0 => giveUp (.cyclicGraph id budget) trace world
      | left + 1 =>
        match registry.get? node.kind with
        | none => giveUp (.processorNotRegistered id node.kind.tag) trace world
        | some processor =>
          let processed := processor.process node (state.record node.kind.tag) world
          let trace := (trace.report (.nodeVisited id node.kind.tag (budget - left))).append
            processed.trace
          match processed.failure with
          | some error =>
            complete { processed.state with response := failureText id node error }
              (trace.report (.nodeFailureRecovered id node.kind.tag error.message))
              processed.world
          | none =>
            go plan registry budget left id (routeAfter plan id processed.state) processed.state
              (reportRoute plan id processed.state trace) processed.world

end Walk

/-- Walks through plans with its processors.  The budget of a walk is the number of nodes times
the factor. -/
structure Executor (World : Type) where
  registry : Registry World
  factor : Nat := 1

namespace Executor

variable {World : Type}

/-- The executor with another factor, which is at least one. -/
def withFactor (executor : Executor World) (factor : Nat) : Executor World :=
  { executor with factor := max factor 1 }

/-- The executor that the settings ask for. -/
def ofSettings (registry : Registry World) (settings : Settings) : Executor World :=
  (⟨registry, 1⟩ : Executor World).withFactor settings.engine.visitBudgetFactor

/-- The visit budget for a plan of some nodes. -/
def budget (executor : Executor World) (nodes : Nat) : Nat :=
  saturatingProduct nodes executor.factor

def execute (executor : Executor World) (plan : Plan) (state : State) (world : World) :
    Walked World :=
  let budget := executor.budget plan.size
  Walk.go plan executor.registry budget budget Walk.beforeEntry (.node plan.entry) state
    (Trace.empty.report (.executionStarted plan.entry plan.size budget)) world

end Executor

end ChatFlow
