import ChatFlow.Graph.Adjacency
import ChatFlow.Json.Basic
import ChatFlow.Log.Entry

/-!
# Validation

A report for the author of a workflow.  Issues decide whether the workflow is valid: an input, an
output or an ai-call node is missing, or nodes are touched by no connection.  Warnings do not:
branches without a target, and a cycle of connections.  A report never keeps a workflow from being
compiled.
-/

set_option autoImplicit false

namespace ChatFlow

/-- What there is to say about a graph. -/
structure ValidationReport where
  issues : List String
  warnings : List String
  nodes : Nat
  connections : Nat
  types : List String
  deriving DecidableEq, Repr

namespace ValidationReport

def valid (report : ValidationReport) : Bool := report.issues.isEmpty

end ValidationReport

namespace Validation

/-- The issues about kinds of nodes that every workflow needs. -/
def missingKinds (graph : Graph) : List String :=
  (if graph.hasKind NodeKind.isInput then []
    else ["Workflow needs an input node (text-input or voice-input)"]) ++
  (if graph.hasKind NodeKind.isOutput then []
    else ["Workflow needs an output node (text-output or voice-output)"]) ++
  (if graph.hasKind (· = .aiCall) then [] else ["Workflow needs an AI model node"])

/-- Whether a connection starts or ends at a node. -/
def isTouched (graph : Graph) (id : String) : Bool :=
  graph.connections.any (fun c => c.source = id || c.target = id)

def orphans (graph : Graph) : List String := graph.ids.filter (fun id => !isTouched graph id)

/-- The issue about nodes that no connection touches; a single node needs none. -/
def orphanIssue (graph : Graph) : List String :=
  if graph.size ≤ 1 then []
  else
    match orphans graph with
    | [] => []
    | ids =>
      ["Orphan nodes (not connected): [" ++
        Text.joined ", " (ids.map fun id => "'" ++ id ++ "'") ++ "]"]

/-- The warning about a conditional node, from the roles of the ports through which connections
leave it. -/
def branchWarning (id : String) (roles : List PortRole) : Option String :=
  match roles.contains .onTrue, roles.contains .onFalse with
  | true, true => none
  | true, false =>
    some ("Condition node '" ++ id ++
      "' has no false branch; a false result follows the true branch")
  | false, true =>
    some ("Condition node '" ++ id ++
      "' has no true branch; a true result follows the false branch")
  | false, false =>
    some ("Condition node '" ++ id ++
      "' has no true or false branch wired; the turn ends after it")

/-- The warnings about branches, in the order of the conditional nodes. -/
def branchWarnings (graph : Graph) : List String :=
  (graph.nodes.filter (fun node => node.kind = .conditional)).filterMap fun node =>
    branchWarning node.id ((graph.outgoing node.id).map Connection.sourceRole)

/-- What there is to report about a cycle. -/
def cycleEvents (graph : Graph) : List Event :=
  (graph.cycle?.map Event.cyclicConnectionDetected).toList

/-- The tags of the kinds that occur, in byte order. -/
def types (graph : Graph) : List String :=
  ((graph.nodes.map fun node => node.kind.tag).eraseDups).mergeSort (fun a b => decide (a ≤ b))

def report (graph : Graph) : ValidationReport where
  issues := missingKinds graph ++ orphanIssue graph
  warnings := branchWarnings graph ++ (cycleEvents graph).map Event.text
  nodes := graph.size
  connections := graph.connections.length
  types := types graph

def events (graph : Graph) : List Event :=
  let report := report graph
  cycleEvents graph ++ (report.issues ++ report.warnings).map Event.validationIssueFound ++
    [.validationCompleted report.valid report.nodes report.issues.length report.warnings.length]

end Validation

def ValidationReport.toJson (report : ValidationReport) : Json :=
  .object [
    ("valid", .bool report.valid),
    ("issues", .array (report.issues.map .string)),
    ("warnings", .array (report.warnings.map .string)),
    ("node_count", .ofNat report.nodes),
    ("connection_count", .ofNat report.connections),
    ("node_types", .array (report.types.map .string))]

end ChatFlow
