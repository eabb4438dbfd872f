import ChatFlow.Log.Elapsed

/-!
# Events of the log

What the program reports while it works, as data: the compiler, the engine, the processors, the
validation.  How an event is written is said in `ChatFlow.Log.Entry`.
-/

set_option autoImplicit false

namespace ChatFlow

inductive Event
  | contextEdgeRedirected (source consumer producer : String)
  | fanOutCollapsed (node kept : String) (dropped : List String)
  | planCompiled (entry : String) (nodes edges routers rewritten : Nat)
  | executionStarted (entry : String) (nodes budget : Nat)
  | executionCompleted (executed : List String) (elapsed : Elapsed)
  | executionFailed (node error : String)
  | nodeVisited (node kind : String) (visit : Nat)
  | branchRouted (node : String) (result : Bool) (target : String)
  | nodeFailureRecovered (node kind error : String)
  | requestCompleted (session model : Option String) (milliseconds : Float)
  | chatModelInvoked (node model : String) (historyTurns : Nat) (elapsed : Elapsed)
  | conditionEvaluated (node condition field : String) (result : Bool)
  | invalidPattern (node pattern error : String)
  | collaboratorUnavailable (node collaborator reason : String)
  | contextProduced (node slot : String) (size : Nat)
  | documentSkipped (path error : String)
  | cyclicConnectionDetected (cycle : List String)
  | validationIssueFound (issue : String)
  | validationCompleted (valid : Bool) (nodes issues warnings : Nat)

end ChatFlow
