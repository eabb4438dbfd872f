import ChatFlow.Log.Event
import ChatFlow.Json.Basic
import ChatFlow.Decimal.Fixed
import ChatFlow.Text.Blank

/-!
# Log entries

The written form of an event: its level, one line of text and named fields.  The same event can
open a span, which wraps the work it describes and carries fewer fields.
-/

set_option autoImplicit false

namespace ChatFlow

inductive Level
  | error
  | warn
  | info
  | debug
  deriving DecidableEq, Repr

def Level.name : Level → String
  | .error => "ERROR"
  | .warn => "WARN"
  | .info => "INFO"
  | .debug => "DEBUG"

structure LogEntry where
  level : Level
  message : String
  fields : Keyed Json

structure LogSpan where
  name : String
  level : Level
  fields : Keyed Json

namespace Event

def level : Event → Level
  | .executionFailed .. => .error
  | .fanOutCollapsed .. | .nodeFailureRecovered .. | .invalidPattern ..
  | .collaboratorUnavailable .. | .documentSkipped .. | .cyclicConnectionDetected ..
  | .validationIssueFound .. => .warn
  | .executionStarted .. | .executionCompleted .. | .requestCompleted .. | .chatModelInvoked ..
  | .validationCompleted .. => .info
  | .contextEdgeRedirected .. | .planCompiled .. | .nodeVisited .. | .branchRouted ..
  | .conditionEvaluated .. | .contextProduced .. => .debug

/-- The names of a path, with arrows between them. -/
def path (names : List String) : String := Text.joined " -> " names

/-- The line of text of an event. -/
def text : Event → String
  | .contextEdgeRedirected source consumer producer =>
    "Redirected edge '" ++ source ++ "' -> '" ++ consumer ++ "' through context producer '" ++
      producer ++ "'"
  | .fanOutCollapsed node kept dropped =>
    "Node '" ++ node ++ "' has " ++ toString (dropped.length + 1) ++
      " outgoing edges; following '" ++ kept ++ "' and ignoring [" ++ Text.joined ", " dropped ++
      "]"
  | .planCompiled entry nodes edges routers rewritten =>
    "Compiled plan from '" ++ entry ++ "': " ++ toString nodes ++ " nodes, " ++ toString edges ++
      " edges, " ++ toString routers ++ " routers, " ++ toString rewritten ++ " rewritten edges"
  | .executionStarted entry nodes budget =>
    "Starting workflow execution at '" ++ entry ++ "': " ++ toString nodes ++
      " nodes, visit_budget=" ++ toString budget
  | .executionCompleted executed elapsed =>
    "Workflow execution completed: [" ++ path executed ++ "] in " ++ elapsed.text
  | .executionFailed node error => "Workflow execution failed at '" ++ node ++ "': " ++ error
  | .nodeVisited node kind visit =>
    "Visiting " ++ kind ++ " node '" ++ node ++ "' (visit " ++ toString visit ++ ")"
  | .branchRouted node result target =>
    "Condition '" ++ node ++ "' evaluated " ++ toString result ++ "; routing to '" ++ target ++ "'"
  | .nodeFailureRecovered node kind error =>
    kind ++ " node '" ++ node ++ "' failed, halting with degraded response: " ++ error
  | .requestCompleted session model milliseconds =>
    "Chat request for session '" ++ session.getD "-" ++ "' answered by '" ++ model.getD "-" ++
      "' in " ++ Decimal.fixed 2 milliseconds ++ "ms"
  | .chatModelInvoked node model historyTurns elapsed =>
    "Node '" ++ node ++ "' called model '" ++ model ++ "' with " ++ toString historyTurns ++
      " history turns in " ++ elapsed.text
  | .conditionEvaluated node condition field result =>
    "Condition '" ++ node ++ "' (" ++ condition ++ " on " ++ field ++ ") evaluated to " ++
      toString result
  | .invalidPattern node pattern error =>
    "Condition '" ++ node ++ "' has an invalid regex '" ++ pattern ++
      "', evaluating to false: " ++ error
  | .collaboratorUnavailable node collaborator reason =>
    "Node '" ++ node ++ "': " ++ collaborator ++ " unavailable: " ++ reason
  | .contextProduced node slot size =>
    "Node '" ++ node ++ "' filled the " ++ slot ++ " context: " ++ toString size ++ " bytes"
  | .documentSkipped path error => "Failed to load " ++ path ++ ": " ++ error
  | .cyclicConnectionDetected cycle => "Cyclic connection detected: " ++ path cycle
  | .validationIssueFound issue => "Validation issue: " ++ issue
  | .validationCompleted valid nodes issues warnings =>
    "Validated " ++ toString nodes ++ " nodes: valid=" ++ toString valid ++ ", " ++
      toString issues ++ " issues, " ++ toString warnings ++ " warnings"

/-- A field that is left out when there is no value. -/
def optionalField (name : String) : Option String → Keyed Json
  | none => []
  | some value => [(name, .string value)]

def fields : Event → Keyed Json
  | .contextEdgeRedirected source consumer producer =>
    [("source", .string source), ("consumer", .string consumer), ("producer", .string producer)]
  | .fanOutCollapsed node kept dropped =>
    [("node_id", .string node), ("kept", .string kept),
      ("dropped", .string (Text.joined ", " dropped))]
  | .planCompiled entry nodes edges routers rewritten =>
    [("entry", .string entry), ("node_count", .ofNat nodes), ("edge_count", .ofNat edges),
      ("router_count", .ofNat routers), ("rewritten_count", .ofNat rewritten)]
  | .executionStarted entry nodes budget =>
    [("entry", .string entry), ("node_count", .ofNat nodes), ("visit_budget", .ofNat budget)]
  | .executionCompleted executed elapsed =>
    [("nodes_executed", .string (path executed)), ("visit_count", .ofNat executed.length),
      ("duration_ms", .ofNat elapsed.milliseconds)]
  | .executionFailed node error => [("node_id", .string node), ("error", .string error)]
  | .nodeVisited node kind visit =>
    [("node_id", .string node), ("kind", .string kind), ("visit", .ofNat visit)]
  | .branchRouted node result target =>
    [("node_id", .string node), ("result", .bool result), ("target", .string target)]
  | .nodeFailureRecovered node kind error =>
    [("node_id", .string node), ("kind", .string kind), ("error", .string error)]
  | .requestCompleted session model milliseconds =>
    optionalField "session_id" session ++ optionalField "model_used" model ++
      [("processing_time_ms", .number (.float milliseconds))]
  | .chatModelInvoked node model historyTurns elapsed =>
    [("node_id", .string node), ("model", .string model), ("history_turns", .ofNat historyTurns),
      ("duration_ms", .ofNat elapsed.milliseconds)]
  | .conditionEvaluated node condition field result =>
    [("node_id", .string node), ("condition", .string condition), ("field", .string field),
      ("result", .bool result)]
  | .invalidPattern node pattern error =>
    [("node_id", .string node), ("pattern", .string pattern), ("error", .string error)]
  | .collaboratorUnavailable node collaborator reason =>
    [("node_id", .string node), ("collaborator", .string collaborator),
      ("reason", .string reason)]
  | .contextProduced node slot size =>
    [("node_id", .string node), ("slot", .string slot), ("size", .ofNat size)]
  | .documentSkipped path error => [("path", .string path), ("error", .string error)]
  | .cyclicConnectionDetected cycle =>
    [("cycle", .string (path cycle)), ("cycle_length", .ofNat cycle.length)]
  | .validationIssueFound issue => [("issue", .string issue)]
  | .validationCompleted valid nodes issues warnings =>
    [("valid", .bool valid), ("node_count", .ofNat nodes), ("issue_count", .ofNat issues),
      ("warning_count", .ofNat warnings)]

/-- The name of the span that an event opens. -/
def spanName : Event → String
  | .contextEdgeRedirected .. => "context_redirect"
  | .fanOutCollapsed .. => "fan_out_collapsed"
  | .planCompiled .. => "plan_compiled"
  | .executionStarted .. => "execution"
  | .executionCompleted .. => "execution_completed"
  | .executionFailed .. => "execution_failed"
  | .nodeVisited .. => "node"
  | .branchRouted .. => "branch"
  | .nodeFailureRecovered .. => "node_failure"
  | .requestCompleted .. => "request"
  | .chatModelInvoked .. => "chat_model"
  | .conditionEvaluated .. => "condition"
  | .invalidPattern .. => "invalid_regex"
  | .collaboratorUnavailable .. => "collaborator_unavailable"
  | .contextProduced .. => "context_produced"
  | .documentSkipped .. => "document_skipped"
  | .cyclicConnectionDetected .. => "cyclic_connection"
  | .validationIssueFound .. => "validation_issue"
  | .validationCompleted .. => "validation"

/-- The fields of the span that an event opens; `title` is the caller's name for it. -/
def spanFields (event : Event) (title : String) : Keyed Json :=
  ("span_name", .string title) :: match event with
  | .contextEdgeRedirected .. | .executionStarted .. | .executionFailed ..
  | .nodeFailureRecovered .. | .validationIssueFound .. => event.fields
  | .fanOutCollapsed node kept _ => [("node_id", .string node), ("kept", .string kept)]
  | .planCompiled entry nodes _ _ _ =>
    [("entry", .string entry), ("node_count", .ofNat nodes)]
  | .executionCompleted executed elapsed =>
    [("visit_count", .ofNat executed.length), ("duration", .string elapsed.text)]
  | .nodeVisited node kind _ => [("node_id", .string node), ("kind", .string kind)]
  | .branchRouted node result _ => [("node_id", .string node), ("result", .bool result)]
  | .requestCompleted session _ _ => optionalField "session_id" session
  | .chatModelInvoked node model _ _ => [("node_id", .string node), ("model", .string model)]
  | .conditionEvaluated node condition _ _ =>
    [("node_id", .string node), ("condition", .string condition)]
  | .invalidPattern node pattern _ => [("node_id", .string node), ("pattern", .string pattern)]
  | .collaboratorUnavailable node collaborator _ =>
    [("node_id", .string node), ("collaborator", .string collaborator)]
  | .contextProduced node slot _ => [("node_id", .string node), ("slot", .string slot)]
  | .documentSkipped path _ => [("path", .string path)]
  | .cyclicConnectionDetected cycle => [("cycle", .string (path cycle))]
  | .validationCompleted valid nodes _ _ => [("valid", .bool valid), ("node_count", .ofNat nodes)]

def entry (event : Event) : LogEntry := ⟨event.level, event.text, event.fields⟩

def span (event : Event) (title : String) : LogSpan :=
  ⟨event.spanName, event.level, event.spanFields title⟩

end Event

end ChatFlow
