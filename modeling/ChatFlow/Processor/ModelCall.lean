import ChatFlow.Json.Printer
import ChatFlow.Processor.Basic
import ChatFlow.Settings.Basic

/-!
# Calls of the chat model

The work of ai-call nodes.  The request starts with a system turn, goes on with the earlier turns
of the dialogue and ends with one user turn, which holds the context gathered so far and the
message.  The answer becomes the response and, if the node names one, an output variable.
-/

set_option autoImplicit false

namespace ChatFlow.ModelCall

/-- The system turn: the node's prompt or the default one, and the format that the node asks
for. -/
def systemPrompt (ai : Settings.Ai) (node : Node) : String :=
  (node.optionText? "systemPrompt").getD ai.defaultSystemPrompt ++
    match node.optionText? "expectedOutput" with
    | some format =>
      "\n\nIMPORTANT: Your response MUST follow this format: " ++ format
    | none => ""

/-- The context that the model is shown: the usable slots, each under a heading. -/
def contextParts (state : State) : List String :=
  (state.retrievalText?.map ("Relevant context from documents:\n" ++ ·)).toList ++
    (state.spreadsheetText?.map ("Data from spreadsheet:\n" ++ ·)).toList

/-- The last turn: the message, after the context if there is any. -/
def userContent (state : State) : String :=
  match contextParts state with
  | [] => state.message
  | parts => Text.joined "\n" parts ++ "\n\nUser query: " ++ state.message

def turns (ai : Settings.Ai) (state : State) (node : Node) : List Turn :=
  ⟨.system, systemPrompt ai node⟩ :: (state.dialogue ++ [⟨.user, userContent state⟩])

/-- The temperature: an option from 0 to 2, or the default if it is unset or null. -/
def temperature (ai : Settings.Ai) (node : Node) : Except NodeError Float :=
  match node.option? "temperature" with
  | none | some .null => .ok ai.defaultTemperature
  | some value =>
    match value.float?.filter (fun t => 0.0 ≤ t && t ≤ 2.0) with
    | some t => .ok t
    | none =>
      .error (.invalidOption "temperature"
        ("expected a number between 0 and 2, got " ++ value.compact))

def request (ai : Settings.Ai) (state : State) (node : Node) :
    Except NodeError CompletionRequest :=
  match temperature ai node with
  | .error e => .error e
  | .ok temperature =>
    .ok {
      model := (node.optionText? "modelName").getD ai.defaultModel
      temperature := temperature
      turns := turns ai state node
      query := state.message }

/-- What a reply comes to: it has to arrive in time and say something. -/
def accept (ai : Settings.Ai) (model : String) (reply : Reply) : Except NodeError Completion :=
  if ai.timeout.nanoseconds < reply.delay.nanoseconds then .error (.timedOut model ai.timeout)
  else
    match reply.result with
    | .error e => .error e
    | .ok completion =>
      if (Text.trimmed completion.content.toList).isEmpty then
        .error (.malformedResponse model "empty completion")
      else .ok completion

def write (state : State) (node : Node) (completion : Completion) : State :=
  { state with
    response := completion.content
    modelUsed := some completion.model
    outputVariables :=
      match node.optionText? "outputVariableName" with
      | some name => state.outputVariables.put name completion.content
      | none => state.outputVariables }

/-- How long a call took: until the reply came, or until nobody waited for it any more. -/
def waited (ai : Settings.Ai) (reply : Reply) : Elapsed :=
  if ai.timeout.nanoseconds < reply.delay.nanoseconds then ai.timeout else reply.delay

/-- What becomes of the state when a reply was accepted or refused. -/
def conclude {World : Type} (node : Node) (state : State) (request : CompletionRequest)
    (elapsed : Elapsed) (accepted : Except NodeError Completion) (world : World) :
    Processed World :=
  let trace : Trace := ⟨#[], #[.chat request], elapsed⟩
  match accepted with
  | .error e => .failed state e trace world
  | .ok completion =>
    .done (write state node completion)
      (trace.report (.chatModelInvoked node.id request.model state.history.length elapsed)) world

def process {World : Type} (collaborators : Collaborators World) (ai : Settings.Ai) (node : Node)
    (state : State) (world : World) : Processed World :=
  match request ai state node with
  | .error e => .failed state e .empty world
  | .ok request =>
    let (reply, world) := collaborators.complete request world
    conclude node state request (waited ai reply) (accept ai collaborators.chatName reply) world

/-- A call of the chat model: there is no request to send, or it is sent, and then the reply is
refused or written into the state. -/
theorem process_cases {World : Type} (collaborators : Collaborators World) (ai : Settings.Ai)
    (node : Node) (state : State) (world : World) :
    let processed := process collaborators ai node state world
    (∃ error, request ai state node = .error error ∧ processed.failure = some error ∧
      processed.state = state ∧ processed.trace.calls = #[]) ∨
    ∃ asked, request ai state node = .ok asked ∧ processed.trace.calls = #[.chat asked] ∧
      let accepted := accept ai collaborators.chatName (collaborators.complete asked world).1
      ((∃ error, accepted = .error error ∧ processed.failure = some error ∧
          processed.state = state) ∨
        ∃ completion, accepted = .ok completion ∧ processed.failure = none ∧
          processed.state = write state node completion) := by
  intro processed
  cases prepared : request ai state node with
  | error error =>
      have same : processed = .failed state error .empty world := by
        simp only [processed, process, prepared]
      exact .inl ⟨error, rfl, by rw [same]; exact ⟨rfl, rfl, rfl⟩⟩
  | ok asked =>
      refine .inr ⟨asked, rfl, ?_⟩
      have same : processed = conclude node state asked
          (waited ai (collaborators.complete asked world).1)
          (accept ai collaborators.chatName (collaborators.complete asked world).1)
          (collaborators.complete asked world).2 := by
        simp only [processed, process, prepared]
      rw [same]
      cases accept ai collaborators.chatName (collaborators.complete asked world).1 with
      | error error => exact ⟨rfl, .inl ⟨error, rfl, rfl, rfl⟩⟩
      | ok completion => exact ⟨rfl, .inr ⟨completion, rfl, rfl, rfl⟩⟩

theorem process_keeps {World : Type} (collaborators : Collaborators World) (ai : Settings.Ai)
    (node : Node) (state : State) (world : World) :
    state.KeptIn (process collaborators ai node state world).state := by
  rcases process_cases collaborators ai node state world with
    ⟨_, _, _, same, _⟩ | ⟨_, _, _, ⟨_, _, _, same⟩ | ⟨_, _, _, same⟩⟩
  · rw [same]
    exact .refl state
  · rw [same]
    exact .refl state
  · rw [same]
    exact ⟨rfl, rfl, rfl⟩

end ChatFlow.ModelCall
