import ChatFlow.Plan.Basic

/-!
# Plans as JSON

Nodes, edges and routers are objects by node id; these and the exits and the rewritten connections
are in byte order.
-/

set_option autoImplicit false

namespace ChatFlow

def Port.toJson (port : Port) : Json :=
  .object [("id", .string port.id), ("label", .ofText? port.label),
    ("role", .string port.role.name)]

def Node.toJson (node : Node) : Json :=
  .object [
    ("id", .string node.id),
    ("kind", .string node.kind.tag),
    ("options", .object node.options.inByteOrder),
    ("inputs", .array (node.inputs.map Port.toJson)),
    ("outputs", .array (node.outputs.map Port.toJson))]

def Router.toJson (router : Router) : Json :=
  .object [
    ("node_id", .string router.node),
    ("true_targets", .array (router.onTrue.map .string)),
    ("false_targets", .array (router.onFalse.map .string))]

/-- Whether a pair of names stands before another, by the first names and then the second. -/
def Plan.pairBefore (a b : String × String) : Bool :=
  decide (a.1 < b.1) || (a.1 == b.1 && decide (a.2 ≤ b.2))

/-- The exits of a plan in byte order. -/
def Plan.sortedExits (plan : Plan) : List String :=
  plan.exits.mergeSort (fun a b => decide (a ≤ b))

/-- The rewritten connections of a plan in byte order. -/
def Plan.sortedRewritten (plan : Plan) : List (String × String) :=
  plan.rewritten.mergeSort Plan.pairBefore

def Plan.pairsJson (pairs : List (String × String)) : Json :=
  .array (pairs.map fun pair => .array [.string pair.1, .string pair.2])

def Plan.toJson (plan : Plan) : Json :=
  .object [
    ("entry", .string plan.entry),
    ("nodes", .object
      (plan.nodes.inByteOrder.map fun (id, node) => (id, node.toJson))),
    ("edges", .object
      (plan.edges.inByteOrder.map fun (source, target) => (source, .string target))),
    ("routers", .object
      (plan.routers.inByteOrder.map fun (id, router) => (id, router.toJson))),
    ("exits", .array (plan.sortedExits.map .string)),
    ("rewritten_edges", Plan.pairsJson plan.sortedRewritten)]

end ChatFlow
