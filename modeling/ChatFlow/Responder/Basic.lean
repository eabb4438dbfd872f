import ChatFlow.Walk.Basic

/-!
# Answering messages

A responder compiles the description of a workflow for each message, walks through the plan and
hands out what the caller gets of the last state.
-/

set_option autoImplicit false

namespace ChatFlow

/-- What a caller gets of a walk. -/
structure Answer where
  response : String
  executed : List String
  modelUsed : Option String
  deriving DecidableEq, Repr

def State.answer (state : State) : Answer := ⟨state.response, state.executed.toList, state.modelUsed⟩

inductive WorkflowError
  | build (error : GraphError)
  | execution (error : WalkError)
  deriving DecidableEq, Repr

def WorkflowError.message : WorkflowError → String
  | .build error => "Error building workflow: " ++ error.message
  | .execution error => "Error executing workflow: " ++ error.message

/-- An outcome with what happened on the way to it, and the world after it. -/
structure Answered (World α : Type) where
  outcome : Except WorkflowError α
  trace : Trace
  world : World

structure ChatRequest where
  message : String
  workflow : Description
  history : List Turn := []
  session : Option String := none

/-- The answer to a request, which there always is, and the milliseconds it took. -/
structure ChatResponse where
  response : String
  modelUsed : Option String
  executed : List String
  milliseconds : Float

structure Responder (World : Type) where
  executor : Executor World

namespace Responder

variable {World : Type}

/-- The responder with a processor of its own for every kind. -/
def ofSettingsWith (search? : PatternSearch) (settings : Settings)
    (collaborators : Collaborators World) : Responder World :=
  ⟨Executor.ofSettings (Registry.completeWith search? collaborators settings) settings⟩

/-- `ofSettingsWith` for the patterns of the pattern language. -/
def ofSettings (settings : Settings) (collaborators : Collaborators World) : Responder World :=
  ofSettingsWith Pattern.search? settings collaborators

def walk (responder : Responder World) (workflow : Description) (message : String)
    (history : List Turn) (world : World) : Answered World State :=
  match Graph.ofDescription workflow with
  | .error e => ⟨.error (.build e), .empty, world⟩
  | .ok graph =>
    match Plan.compile graph with
    | .error e => ⟨.error (.build e), .empty, world⟩
    | .ok plan =>
      let walked := responder.executor.execute plan (.start message history) world
      let trace := (⟨(Plan.events graph).toArray, #[], .zero⟩ : Trace).append walked.trace
      match walked.outcome with
      | .error e => ⟨.error (.execution e), trace, walked.world⟩
      | .ok state => ⟨.ok state, trace, walked.world⟩

def run (responder : Responder World) (workflow : Description) (message : String)
    (history : List Turn) (world : World) : Answered World Answer :=
  let walked := responder.walk workflow message history world
  ⟨walked.outcome.map State.answer, walked.trace, walked.world⟩

/-- What a caller of `respond` gets: an error becomes the text of the response. -/
def response (outcome : Except WorkflowError Answer) (milliseconds : Float) : ChatResponse :=
  match outcome with
  | .ok answer => ⟨answer.response, answer.modelUsed, answer.executed, milliseconds⟩
  | .error e => ⟨e.message, none, [], milliseconds⟩

def millisecondsOf (elapsed : Elapsed) : Float := Float.ofNat elapsed.nanoseconds / 1000000.0

def respond (responder : Responder World) (request : ChatRequest) (world : World) :
    ChatResponse × Trace × World :=
  let answered := responder.run request.workflow request.message request.history world
  let response := response answered.outcome (millisecondsOf answered.trace.elapsed)
  (response,
    answered.trace.report
      (.requestCompleted request.session response.modelUsed response.milliseconds),
    answered.world)

end Responder

end ChatFlow
