import ChatFlow.Proofs.CollaboratorCalls

/-!
# What a chat model is told

Of a state a chat model gets to know the message, what user and assistant have said, and the usable
texts of the context slots.  All else is kept from it: the response so far, the log, results of
conditions, output variables, turns of other speakers, and the markers that say why there is no
context.  So two states that show the same lead to the same request, or to the same refusal.
-/

set_option autoImplicit false

namespace ChatFlow

/-- The turns of user and assistant, in order. -/
def State.spoken (state : State) : List Turn :=
  state.history.filter fun turn => turn.speaker = .user ∨ turn.speaker = .assistant

/-- Two states show a chat model the same. -/
structure State.ShowsSameAs (state other : State) : Prop where
  message : state.message = other.message
  spoken : state.spoken = other.spoken
  retrieved : ∀ text, state.retrievalContext = some (.available text) ↔
    other.retrievalContext = some (.available text)
  tabulated : ∀ text, state.spreadsheetContext = some (.available text) ↔
    other.spreadsheetContext = some (.available text)

/-- The turns of a request for a state: one system turn, what was spoken, and a turn of the user
that ends with the message. -/
def CompletionRequest.Presents (request : CompletionRequest) (state : State) : Prop :=
  ∃ prompt content, request.turns = ⟨.system, prompt⟩ :: (state.spoken ++ [⟨.user, content⟩]) ∧
    (∀ turn ∈ request.turns.tail, turn.speaker ≠ .system) ∧
    state.message.toList <:+ content.toList

theorem State.dialogue_eq (state : State) : state.dialogue = state.spoken := by
  have inDialogue : ∀ speaker : Speaker,
      speaker.isInDialogue = decide (speaker = .user ∨ speaker = .assistant) := by
    intro speaker
    cases speaker <;> rfl
  simp only [dialogue, spoken, inDialogue]

theorem ContextSlot.usable_iff (slot? : Option ContextSlot) (text : String) :
    slot?.bind usable? = some text ↔ slot? = some (.available text) := by
  rcases slot? with _ | _ | _ <;> simp [usable?]

namespace State.ShowsSameAs

variable {state other : State} (same : state.ShowsSameAs other)
include same

theorem retrievalText? : state.retrievalText? = other.retrievalText? := by
  ext text
  rw [State.retrievalText?, State.retrievalText?, ContextSlot.usable_iff, ContextSlot.usable_iff]
  exact same.retrieved text

theorem spreadsheetText? : state.spreadsheetText? = other.spreadsheetText? := by
  ext text
  rw [State.spreadsheetText?, State.spreadsheetText?, ContextSlot.usable_iff,
    ContextSlot.usable_iff]
  exact same.tabulated text

theorem userContent : ModelCall.userContent state = ModelCall.userContent other := by
  simp only [ModelCall.userContent, ModelCall.contextParts, same.retrievalText?,
    same.spreadsheetText?, same.message]

theorem request (ai : Settings.Ai) (node : Node) :
    ModelCall.request ai state node = ModelCall.request ai other node := by
  have turns : ModelCall.turns ai state node = ModelCall.turns ai other node := by
    rw [ModelCall.turns, ModelCall.turns, dialogue_eq, dialogue_eq, same.spoken, same.userContent]
  rw [ModelCall.request, ModelCall.request, turns, same.message]

end State.ShowsSameAs

namespace ModelCall

theorem suffix_userContent (state : State) :
    state.message.toList <:+ (userContent state).toList := by
  rw [userContent]
  split
  · exact List.suffix_refl _
  · rw [String.toList_append]
    exact List.suffix_append _ _

theorem presents_of_request {ai : Settings.Ai} {state : State} {node : Node}
    {asked : CompletionRequest} (prepared : request ai state node = .ok asked) :
    asked.Presents state := by
  rw [request] at prepared
  split at prepared
  · cases prepared
  · cases prepared
    refine ⟨systemPrompt ai node, userContent state, ?_, ?_, suffix_userContent state⟩
    · rw [turns, State.dialogue_eq]
    · intro turn member
      rcases List.mem_append.mp member with earlier | last
      · have inDialogue := (List.mem_filter.mp earlier).2
        intro system
        rw [system] at inDialogue
        cases inDialogue
      · rw [List.mem_singleton.mp last]
        exact Speaker.noConfusion

/-- A request is refused for its temperature only. -/
theorem invalidOption_of_request {ai : Settings.Ai} {state : State} {node : Node}
    {error : NodeError} (refused : request ai state node = .error error) :
    ∃ reason, error = .invalidOption "temperature" reason := by
  have cause : temperature ai node = .error error := by
    rw [request] at refused
    cases found : temperature ai node <;> rw [found] at refused <;> cases refused
    rfl
  rw [temperature] at cause
  split at cause
  · cases cause
  · cases cause
  · split at cause
    · cases cause
    · cases cause
      exact ⟨_, rfl⟩

/-- The chat model gets the request that the state leads to; if there is none, nobody is called. -/
theorem process_sends {World : Type} (collaborators : Collaborators World) (search? : PatternSearch)
    (settings : Settings) (node : Node) (state : State) (world : World) :
    let visit := (Registry.processorOf search? collaborators.recorded settings .aiCall).process node
      state (world, [])
    match request settings.ai state node with
    | .error error => visit.failure = some error ∧ visit.world.2 = []
    | .ok asked => visit.world.2 = [.chat asked] := by
  intro visit
  have noted : visit = (process collaborators settings.ai node state world).noted [] :=
    Registry.process_recorded collaborators search? settings .aiCall node state world []
  rw [noted]
  rcases process_cases collaborators settings.ai node state world with
    ⟨error, refused, failed, _, nobody⟩ | ⟨asked, prepared, called, _⟩
  · rw [refused]
    exact ⟨failed, congrArg Array.toList nobody⟩
  · rw [prepared]
    exact congrArg Array.toList called

/-- What the work of an ai-call node tells the chat model depends on what is shown of the state.  For
states that show the same, whatever else they hold, and whatever the services answer, the same
request is sent, or none because of the same invalid temperature.  A request that is sent has one
system turn, at its start, then what was spoken, then the message at the end of a turn of the
user. -/
theorem model_is_told_what_is_shown {World World' : Type} (collaborators : Collaborators World)
    (collaborators' : Collaborators World') (search? search?' : PatternSearch) (settings : Settings)
    (node : Node) {state other : State} (same : state.ShowsSameAs other) (world : World)
    (world' : World') :
    let visit := (Registry.processorOf search? collaborators.recorded settings .aiCall).process node
      state (world, [])
    let visit' := (Registry.processorOf search?' collaborators'.recorded settings .aiCall).process
      node other (world', [])
    (node.allowsTemperature = true ∧ ∃ request : CompletionRequest,
      visit.world.2 = [.chat request] ∧ visit'.world.2 = [.chat request] ∧
        request.Presents state) ∨
    (node.allowsTemperature = false ∧ ∃ reason,
      visit.failure = some (.invalidOption "temperature" reason) ∧
        visit'.failure = some (.invalidOption "temperature" reason) ∧
        visit.world.2 = [] ∧ visit'.world.2 = []) := by
  intro visit visit'
  have sends := process_sends collaborators search? settings node state world
  have sends' := process_sends collaborators' search?' settings node other world'
  have allowed := isOk_request settings.ai state node
  rw [← same.request] at sends'
  cases prepared : request settings.ai state node with
  | ok asked =>
      rw [prepared] at sends sends' allowed
      exact .inl ⟨allowed.symm, asked, sends, sends', presents_of_request prepared⟩
  | error error =>
      rw [prepared] at sends sends' allowed
      obtain ⟨reason, rfl⟩ := invalidOption_of_request prepared
      exact .inr ⟨allowed.symm, reason, sends.1, sends'.1, sends.2, sends'.2⟩

/-- A question after a search that found something. -/
def refundQuestion : State :=
  { State.start "Where is it?" [⟨.user, "hi"⟩, ⟨.system, "Be rude."⟩, ⟨.assistant, "hello"⟩] with
    executed := #["text-input", "rag-documents"]
    retrievalContext := some (.available "Refunds take 5 days.")
    spreadsheetContext := some (.unavailable "[No sheet]") }

/-- The same question in a later round, which has left more in the state. -/
def laterRefundQuestion : State :=
  { State.start "Where is it?" [⟨.unknown, "?"⟩, ⟨.user, "hi"⟩, ⟨.assistant, "hello"⟩] with
    retrievalContext := some (.available "Refunds take 5 days.")
    conditionResults := [("check", true)]
    response := "secret"
    outputVariables := [("draft", "secret")]
    modelUsed := some "mock" }

/-- A model that is asked for a short answer. -/
def terseModel : Node :=
  ⟨"llm", .aiCall, [("expectedOutput", .string "one word"), ("temperature", .null)], [], []⟩

theorem refundQuestions_are_one_request :
    let work := (Registry.processorOf Pattern.search?
      (Demo.collaborators .empty (Files.empty [])).recorded {} .aiCall).process terseModel
    refundQuestion.ShowsSameAs laterRefundQuestion ∧
      ∃ request prompt content,
        (work refundQuestion ((), [])).world.2 = [.chat request] ∧
        (work laterRefundQuestion ((), [])).world.2 = [.chat request] ∧
        request.turns =
          [⟨.system, prompt⟩, ⟨.user, "hi"⟩, ⟨.assistant, "hello"⟩, ⟨.user, content⟩] := by
  intro work
  have same : refundQuestion.ShowsSameAs laterRefundQuestion := {
    message := rfl
    spoken := by decide
    retrieved := fun text => Iff.rfl
    tabulated := fun text => by simp [refundQuestion, laterRefundQuestion, State.start] }
  refine ⟨same, ?_⟩
  rcases model_is_told_what_is_shown (Demo.collaborators .empty (Files.empty []))
    (Demo.collaborators .empty (Files.empty [])) Pattern.search? Pattern.search? {} terseModel same
    () () with ⟨_, request, sent, sent', prompt, content, turns, _⟩ | ⟨refused, _⟩
  · exact ⟨request, prompt, content, sent, sent', turns⟩
  · cases refused

end ModelCall

end ChatFlow
