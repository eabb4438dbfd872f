import ChatFlow.Collaborator.Demo
import ChatFlow.Proofs.ContextChains
import ChatFlow.Proofs.NodeWork
import Mathlib.Data.List.Infix

/-!
# Context on its way to the model

A context producer fills the slot of its kind, and nothing but a producer of the same kind writes
this slot again.  So an ai-call node shows the model what the last visited producer of each kind
has left.  What a producer gathered before another one of its kind is lost.
-/

set_option autoImplicit false

namespace ChatFlow

theorem Text.infix_joined {separator part : String} {parts : List String}
    (member : part ∈ parts) : part.toList <:+: (joined separator parts).toList := by
  -- on lists of characters, since a last part has no separator after it
  rw [joined, String.toList_intercalate]
  induction parts with
  | nil => cases member
  | cons first rest ih =>
      cases rest with
      | nil =>
          rw [List.mem_singleton.mp member]
          simp
      | cons second rest =>
          rw [List.map_cons, List.map_cons, List.intercalate_cons_cons]
          rcases List.mem_cons.mp member with rfl | later
          · rw [List.append_assoc]
            exact (List.prefix_append _ _).isInfix
          · exact (ih later).trans (List.suffix_append _ _).isInfix

/-- The slot that producers of some kind fill. -/
def State.slot? (state : State) : NodeKind → Option ContextSlot
  | .retrieval => state.retrievalContext
  | .spreadsheet => state.spreadsheetContext
  | _ => none

theorem NodeKind.Changes.slot?_other {made kind : NodeKind} {node : Node} {before after : State}
    (changes : made.Changes node before after) (other : made ≠ kind) :
    after.slot? kind = before.slot? kind := by
  cases made with
  | input _ | output _ =>
      have same : after = before := changes
      rw [same]
  | aiCall =>
      obtain ⟨_, _, rfl, _⟩ := changes
      cases kind <;> rfl
  | conditional =>
      obtain ⟨_, _, rfl, _⟩ := changes
      cases kind <;> rfl
  | retrieval =>
      obtain ⟨_, rfl⟩ := changes
      cases kind with
      | retrieval => exact absurd rfl other
      | _ => rfl
  | spreadsheet =>
      obtain ⟨_, rfl⟩ := changes
      cases kind with
      | spreadsheet => exact absurd rfl other
      | _ => rfl

namespace ModelCall

theorem mem_contextParts {state : State} {kind : NodeKind} {text : String}
    (filled : state.slot? kind = some (.available text)) :
    ∃ heading, heading ++ text ∈ contextParts state := by
  cases kind with
  | retrieval =>
      have usable : state.retrievalText? = some text := by
        rw [State.retrievalText?, show state.retrievalContext = _ from filled]
        rfl
      exact ⟨_, List.mem_append_left _ (by rw [usable]; exact List.mem_singleton_self _)⟩
  | spreadsheet =>
      have usable : state.spreadsheetText? = some text := by
        rw [State.spreadsheetText?, show state.spreadsheetContext = _ from filled]
        rfl
      exact ⟨_, List.mem_append_right _ (by rw [usable]; exact List.mem_singleton_self _)⟩
  | input _ | output _ | aiCall | conditional => cases filled

/-- The last turn contains the text of every slot that is usable. -/
theorem contains_userContent {state : State} {kind : NodeKind} {text : String}
    (filled : state.slot? kind = some (.available text)) :
    Text.contains (userContent state) text = true := by
  obtain ⟨heading, member⟩ := mem_contextParts filled
  have shown : (heading ++ text).toList <:+: (Text.joined "\n" (contextParts state)).toList :=
    Text.infix_joined member
  have inPart : text.toList <:+: (heading ++ text).toList := by
    rw [String.toList_append]
    exact (List.suffix_append _ _).isInfix
  rw [Text.contains, Text.occurs_iff, userContent]
  cases parts : contextParts state with
  | nil =>
      rw [parts] at member
      cases member
  | cons first rest =>
      rw [parts] at shown
      rw [String.toList_append, String.toList_append, List.append_assoc]
      exact (inPart.trans shown).trans (List.prefix_append _ _).isInfix

theorem turns_of_request {ai : Settings.Ai} {state : State} {node : Node}
    {asked : CompletionRequest} (prepared : request ai state node = .ok asked) :
    asked.turns.getLast? = some ⟨.user, userContent state⟩ := by
  rw [request] at prepared
  split at prepared
  · cases prepared
  · cases prepared
    rw [turns, ← List.cons_append, List.getLast?_concat]

/-- Whoever is called by an ai-call node is the chat model, with the request for the state. -/
theorem request_of_call {World : Type} {collaborators : Collaborators World} {ai : Settings.Ai}
    {node : Node} {state : State} {world : World} {asked : CompletionRequest}
    (called : .chat asked ∈ (process collaborators ai node state world).trace.calls) :
    request ai state node = .ok asked := by
  rcases process_cases collaborators ai node state world with
    ⟨_, _, _, _, calls⟩ | ⟨sent, prepared, calls, _⟩
  · simp [calls] at called
  · simp only [calls, Array.mem_singleton, Call.chat.injEq] at called
    rw [called]
    exact prepared

end ModelCall

/-! ## Slots along a walk -/

namespace Walk

variable {World : Type} {search? : PatternSearch} {collaborators : Collaborators World}
  {settings : Settings} {plan : Plan}

theorem Visit.At.slot?_other {visit : Visit World} {point : Point World} {kind : NodeKind}
    (here : visit.At plan (.completeWith search? collaborators settings) point)
    (other : visit.node.kind ≠ kind) :
    visit.processed.state.slot? kind = point.state.slot? kind := by
  have recorded : (point.state.record visit.tag).slot? kind = point.state.slot? kind := by
    cases kind <;> rfl
  rw [← recorded]
  rcases here.changes with ⟨_, changes⟩ | ⟨_, same⟩
  · exact changes.slot?_other other
  · rw [same]

theorem Passes.slot?_kept {start last : Point World} {visits : List (Visit World)}
    {kind : NodeKind}
    (passes : Passes plan (.completeWith search? collaborators settings) start visits last)
    (others : ∀ visit ∈ visits, visit.node.kind ≠ kind) :
    last.state.slot? kind = start.state.slot? kind := by
  induction passes with
  | done point => rfl
  | step here _ _ ih =>
      rw [ih fun visit member => others visit (List.mem_cons_of_mem _ member)]
      exact here.slot?_other (others _ List.mem_cons_self)

/-- A collaborator supplies a producer with usable content: with documents, which are quoted, or
with the text of a sheet. -/
inductive Supplies (collaborators : Collaborators World) (settings : Settings)
    (point : Point World) (visit : Visit World) : String → Prop
  | documents {asked : RetrievalQuery} {documents : List ScoredDocument}
      (kind : visit.node.kind = .retrieval)
      (query : ContextLookup.query settings.retrieval point.state visit.node = .ok asked)
      (found : (collaborators.retrieve asked point.world).1.result = .ok (.found documents))
      (nonempty : documents ≠ []) :
      Supplies collaborators settings point visit (Text.joined "\n\n"
        (ContextLookup.quotations settings.retrieval.longestSnippet 1 documents))
  | sheet {text : String} (kind : visit.node.kind = .spreadsheet)
      (read : (collaborators.readSheet
        (ContextLookup.sheetQuery settings.spreadsheet visit.node) point.world).1 =
          .ok (.available text)) :
      Supplies collaborators settings point visit text

/-- What a collaborator supplies goes into the slot of the producer. -/
theorem Supplies.slot? {visit : Visit World} {point : Point World} {text : String}
    (supplies : Supplies collaborators settings point visit text)
    (here : visit.At plan (.completeWith search? collaborators settings) point) :
    visit.processed.state.slot? visit.node.kind = some (.available text) := by
  have processed := here.processed
  cases supplies with
  | @documents asked documents kind query found nonempty =>
      rw [kind] at processed ⊢
      rcases ContextLookup.retrieve_cases collaborators settings.retrieval visit.node
          (point.state.record visit.tag) point.world with
        ⟨error, refused, _⟩ | ⟨sent, prepared, _, _, written⟩
      · cases query.symm.trans refused
      · cases query.symm.trans prepared
        have same : visit.processed.state = _ := (congrArg Processed.state processed).trans written
        -- an empty list of documents would leave a marker instead
        rw [same, found]
        obtain ⟨first, rest, rfl⟩ := List.exists_cons_of_ne_nil nonempty
        rfl
  | sheet kind read =>
      rw [kind] at processed ⊢
      obtain ⟨_, ⟨error, refused, _⟩ | ⟨slot, answered, _, written⟩⟩ :=
        ContextLookup.readSheet_cases collaborators settings.spreadsheet visit.node
          (point.state.record visit.tag) point.world
      · cases read.symm.trans refused
      · cases read.symm.trans answered
        have same : visit.processed.state = _ := (congrArg Processed.state processed).trans written
        rw [same]
        rfl

end Walk

open Walk

/-- In every run, the request that is sent for an ai-call node ends with a turn that contains what
a collaborator has supplied to a producer before, if no producer of the same kind was visited in
between. -/
theorem last_context_of_its_kind_is_shown {World : Type} (search? : PatternSearch)
    (collaborators : Collaborators World) (settings : Settings) (executor : Executor World)
    (own : executor.registry = .completeWith search? collaborators settings) (plan : Plan)
    (state : State) (world : World) {before between after : List (Visit World)}
    {producer consumer : Visit World}
    (made : executor.visits plan state world =
      (before ++ producer :: between) ++ consumer :: after)
    {point : Point World}
    (reached : Passes plan executor.registry (Executor.start plan state world) before point)
    {text : String} (supplies : Supplies collaborators settings point producer text)
    (last : ∀ visit ∈ between, visit.node.kind ≠ producer.node.kind)
    (aiCall : consumer.node.kind = .aiCall) {request : CompletionRequest}
    (called : .chat request ∈ consumer.processed.trace.calls) :
    ∃ content, request.turns.getLast? = some ⟨.user, content⟩ ∧
      Text.contains content text = true := by
  have ends := executor.ends_visits plan state world
  rw [made] at ends
  obtain ⟨entered, passes, here, _⟩ := ends.at_visit
  obtain ⟨there, first, visited, _, onward⟩ := passes.at_visit
  cases first.unique reached
  rw [own] at here visited onward
  -- the slot is filled at the producer and stays as it is up to the consumer
  have filled : entered.state.slot? producer.node.kind = some (.available text) := by
    rw [onward.slot?_kept last]
    exact supplies.slot? visited
  have processed := here.processed
  rw [aiCall] at processed
  rw [processed] at called
  have prepared := ModelCall.request_of_call called
  have recorded : (entered.state.record consumer.tag).slot? producer.node.kind =
      some (.available text) := by
    rw [← filled]
    cases producer.node.kind <;> rfl
  exact ⟨_, ModelCall.turns_of_request prepared, ModelCall.contains_userContent recorded⟩

/-- Two sheets that are both wired into the context port of a model. -/
def twoSheets : Graph where
  nodes := [⟨"in", .input .text, [], [], []⟩,
    ⟨"costs", .spreadsheet, [("sheetName", .string "Costs")], [], []⟩,
    ⟨"sales", .spreadsheet, [("sheetName", .string "Sales")], [], []⟩,
    ⟨"llm", .aiCall, [], [], []⟩]
  connections := [⟨"c1", "in", "out", .data, "llm", "in", .data⟩,
    ⟨"c2", "costs", "out", .data, "llm", "context", .context⟩,
    ⟨"c3", "sales", "out", .data, "llm", "context", .context⟩]
  nonempty := by decide
  distinct := by decide
  joined := by decide

theorem twoSheets_shows_the_second :
    ∃ plan, Plan.compile twoSheets = .ok plan ∧ ∃ before producer consumer,
      Demo.executor.visits plan (State.start "hi" []) () =
        (before ++ producer :: []) ++ [consumer] ∧
      producer.id = "sales" ∧ ∃ request content,
        .chat request ∈ consumer.processed.trace.calls ∧
        request.turns.getLast? = some ⟨.user, content⟩ ∧
        Text.contains content "[Demo] Data from Sales: Sample row 1, Sample row 2" = true := by
  obtain ⟨plan, before, producer, consumer, point, compiled, made, reached, supplies, id, aiCall,
      called⟩ : ∃ plan before producer consumer point,
      Plan.compile twoSheets = .ok plan ∧
      Demo.executor.visits plan (State.start "hi" []) () =
        (before ++ producer :: []) ++ [consumer] ∧
      Passes plan Demo.executor.registry (Executor.start plan (State.start "hi" []) ()) before
        point ∧
      Supplies (Demo.collaborators .empty (Files.empty [])) {} point producer
        "[Demo] Data from Sales: Sample row 1, Sample row 2" ∧
      producer.id = "sales" ∧ consumer.node.kind = .aiCall ∧
      ∃ request, .chat request ∈ consumer.processed.trace.calls := by
    rw [Plan.compile_eq]
    exact ⟨_, [_, _], _, _, _, rfl, rfl,
      .step ⟨rfl, rfl, _, rfl, rfl⟩ rfl (.step ⟨rfl, rfl, _, rfl, rfl⟩ rfl (.done _)),
      .sheet rfl rfl, rfl, rfl, _, Array.mem_singleton.mpr rfl⟩
  obtain ⟨request, sent⟩ := called
  obtain ⟨content, asked, text⟩ := last_context_of_its_kind_is_shown Pattern.search?
    (Demo.collaborators .empty (Files.empty [])) {} Demo.executor rfl plan (State.start "hi" []) ()
    made reached supplies (by simp) aiCall sent
  exact ⟨plan, compiled, before, producer, consumer, made, id, request, content, sent, asked, text⟩

/-- The first sheet is read and available, yet the model does not see it. -/
theorem twoSheets_forgets_the_first :
    ∃ plan, Plan.compile twoSheets = .ok plan ∧ "costs" ∈ twoSheets.contextProducers "llm" ∧
      ∃ before producer between consumer point,
        Demo.executor.visits plan (State.start "hi" []) () =
          (before ++ producer :: between) ++ [consumer] ∧
        Passes plan Demo.executor.registry (Executor.start plan (State.start "hi" []) ()) before
          point ∧
        producer.id = "costs" ∧
        Supplies (Demo.collaborators .empty (Files.empty [])) {} point producer
          "[Demo] Data from Costs: Sample row 1, Sample row 2" ∧
        consumer.id = "llm" ∧ consumer.node.kind = .aiCall ∧ ∃ request content,
          .chat request ∈ consumer.processed.trace.calls ∧
          request.turns.getLast? = some ⟨.user, content⟩ ∧
          Text.contains content "[Demo] Data from Costs: Sample row 1, Sample row 2" = false := by
  rw [Plan.compile_eq]
  refine ⟨_, rfl, by decide, [_], _, [_], _, _, rfl, .step ⟨rfl, rfl, _, rfl, rfl⟩ rfl (.done _),
    rfl, .sheet rfl rfl, rfl, rfl, ?_⟩
  exact ⟨_, _, Array.mem_singleton.mpr rfl, rfl, rfl⟩

end ChatFlow
