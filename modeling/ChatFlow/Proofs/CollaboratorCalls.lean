import ChatFlow.Proofs.NodeWork

/-!
# Who is called on the visits of a walk

Every visit calls the service that its node turns to, once, and asks it about the message; a visit
whose options are refused, or whose node needs no service, calls nobody.  The calls that a trace
lists are the calls that the services get: services that write down their calls have this list in
the end.
-/

set_option autoImplicit false

namespace ChatFlow

/-- The services that nodes turn to. -/
inductive Service
  | chatModel
  | retriever
  | sheetReader
  deriving DecidableEq, Repr

def Call.service : Call → Service
  | .chat _ => .chatModel
  | .retrieve _ => .retriever
  | .sheet _ => .sheetReader

/-- A chat model and a retriever are asked about the message; a sheet is read as it is. -/
def Call.Carries (message : String) : Call → Prop
  | .chat request => request.query = message
  | .retrieve query => query.query = message
  | .sheet _ => True

/-- Whether the temperature that a node asks for, if it asks for one, is a number from 0 to 2. -/
def Node.allowsTemperature (node : Node) : Bool :=
  match node.option? "temperature" with
  | none | some .null => true
  | some (.number n) => 0.0 ≤ n.toFloat && n.toFloat ≤ 2.0
  | some _ => false

/-- Whether the number of documents that a node asks for, if it asks for one, is a positive
integer. -/
def Node.allowsCount (node : Node) : Bool :=
  match node.option? "topK" with
  | none | some .null => true
  | some (.number (.int n)) => 0 < n
  | some _ => false

/-- The service that a visit of the node calls. -/
def Node.service? (node : Node) : Option Service :=
  match node.kind with
  | .aiCall => if node.allowsTemperature then some .chatModel else none
  | .retrieval => if node.allowsCount then some .retriever else none
  | .spreadsheet => some .sheetReader
  | .input _ | .output _ | .conditional => none

/-! ## The calls of a visit -/

theorem ModelCall.isOk_temperature (ai : Settings.Ai) (node : Node) :
    (temperature ai node).isOk = node.allowsTemperature := by
  rw [temperature, Node.allowsTemperature]
  cases node.option? "temperature" with
  | none => rfl
  | some value =>
      cases value with
      | number n =>
          cases within : (0.0 ≤ n.toFloat && n.toFloat ≤ 2.0 : Bool) <;>
            simp only [Json.float?, Option.filter, within] <;> rfl
      | _ => rfl

theorem Number.isSome_positive (n : Int) :
    ((Number.int n).toNat?.filter fun count => 0 < count).isSome = decide (0 < n) := by
  by_cases natural : 0 ≤ n
  · by_cases positive : 0 < n <;> simp [toNat?, natural, positive]
  · have negative : ¬ 0 < n := fun positive => natural (Int.le_of_lt positive)
    simp [toNat?, natural, negative]

theorem ContextLookup.isOk_count (retrieval : Settings.Retrieval) (node : Node) :
    (count retrieval node).isOk = node.allowsCount := by
  rw [count, Node.allowsCount]
  cases node.option? "topK" with
  | none => rfl
  | some value =>
      cases value with
      | number n =>
          cases n with
          | float x => rfl
          | int n =>
              dsimp only [Json.nat?]
              rw [← Number.isSome_positive]
              cases (Number.int n).toNat?.filter fun count => 0 < count <;> rfl
      | _ => rfl

theorem ModelCall.isOk_request (ai : Settings.Ai) (state : State) (node : Node) :
    (request ai state node).isOk = node.allowsTemperature := by
  rw [← isOk_temperature ai, request]
  cases temperature ai node <;> rfl

theorem ModelCall.query_of_request {ai : Settings.Ai} {state : State} {node : Node}
    {asked : CompletionRequest} (accepted : request ai state node = .ok asked) :
    asked.query = state.message := by
  rw [request] at accepted
  cases found : temperature ai node <;> rw [found] at accepted <;> cases accepted
  rfl

theorem ContextLookup.isOk_query (retrieval : Settings.Retrieval) (state : State) (node : Node) :
    (query retrieval state node).isOk = node.allowsCount := by
  rw [← isOk_count retrieval, query]
  cases count retrieval node <;> rfl

theorem ContextLookup.query_of_query {retrieval : Settings.Retrieval} {state : State}
    {node : Node} {asked : RetrievalQuery} (accepted : query retrieval state node = .ok asked) :
    asked.query = state.message := by
  rw [query] at accepted
  cases found : count retrieval node <;> rw [found] at accepted <;> cases accepted
  rfl

/-- The calls are those that a visit of the node makes for a message: one of its service, if it
turns to any. -/
structure Node.CallsFor (node : Node) (message : String) (calls : List Call) : Prop where
  service : calls.map Call.service = node.service?.toList
  carries : ∀ call ∈ calls, call.Carries message

theorem Node.callsFor_nil {node : Node} (unserved : node.service? = none) (message : String) :
    node.CallsFor message [] where
  service := by rw [unserved]; rfl
  carries := fun call member => absurd member List.not_mem_nil

theorem Node.callsFor_singleton {node : Node} {message : String} {call : Call}
    (served : node.service? = some call.service) (carries : call.Carries message) :
    node.CallsFor message [call] where
  service := by rw [served]; rfl
  carries := fun other member => List.mem_singleton.mp member ▸ carries

variable {World : Type} (collaborators : Collaborators World)

theorem ModelCall.process_callsFor (ai : Settings.Ai) {node : Node} (kind : node.kind = .aiCall)
    (state : State) (world : World) :
    node.CallsFor state.message
      (process collaborators ai node state world).trace.calls.toList := by
  have allowed := isOk_request ai state node
  rcases process_cases collaborators ai node state world with
    ⟨error, refused, _, _, nobody⟩ | ⟨asked, accepted, called, _⟩
  · rw [refused, Except.isOk, Except.toBool] at allowed
    rw [nobody]
    exact Node.callsFor_nil (by simp [Node.service?, kind, ← allowed]) _
  · rw [accepted, Except.isOk, Except.toBool] at allowed
    rw [called]
    refine Node.callsFor_singleton ?_ (query_of_request accepted)
    simp [Node.service?, kind, ← allowed, Call.service]

theorem ContextLookup.retrieve_callsFor (retrieval : Settings.Retrieval) {node : Node}
    (kind : node.kind = .retrieval) (state : State) (world : World) :
    node.CallsFor state.message
      (retrieve collaborators retrieval node state world).trace.calls.toList := by
  have allowed := isOk_query retrieval state node
  rcases retrieve_cases collaborators retrieval node state world with
    ⟨error, refused, _, _, nobody⟩ | ⟨asked, accepted, called, _⟩
  · rw [refused, Except.isOk, Except.toBool] at allowed
    rw [nobody]
    exact Node.callsFor_nil (by simp [Node.service?, kind, ← allowed]) _
  · rw [accepted, Except.isOk, Except.toBool] at allowed
    rw [called]
    refine Node.callsFor_singleton ?_ (query_of_query accepted)
    simp [Node.service?, kind, ← allowed, Call.service]

/-- The work of a node calls the service that the node turns to, once, with the message. -/
theorem Registry.process_callsFor (search? : PatternSearch) (settings : Settings) (node : Node)
    (state : State) (world : World) :
    node.CallsFor state.message
      ((processorOf search? collaborators settings node.kind).process node state
        world).trace.calls.toList := by
  cases kind : node.kind with
  | input modality | output modality =>
      have nobody : node.CallsFor state.message [] :=
        Node.callsFor_nil (by rw [Node.service?, kind]) _
      cases modality <;> exact nobody
  | conditional => exact Node.callsFor_nil (by rw [Node.service?, kind]) _
  | aiCall => exact ModelCall.process_callsFor collaborators settings.ai kind state world
  | retrieval =>
      exact ContextLookup.retrieve_callsFor collaborators settings.retrieval kind state world
  | spreadsheet =>
      have called := (ContextLookup.readSheet_cases collaborators settings.spreadsheet node state
        world).1
      rw [processorOf, called]
      exact Node.callsFor_singleton (by rw [Node.service?, kind]; rfl) trivial

/-! ## The calls of a walk -/

section

open Walk

variable {collaborators} {search? : PatternSearch} {settings : Settings} {plan : Plan}

theorem Walk.Ends.callsFor {budget : Nat} {start : Point World} {visits : List (Visit World)}
    {outcome : Except WalkError State}
    (ends : Ends plan (.completeWith search? collaborators settings) budget start visits outcome) :
    ∀ visit ∈ visits,
      visit.node.CallsFor start.state.message visit.processed.trace.calls.toList := by
  intro visit member
  obtain ⟨before, after, rfl⟩ := List.append_of_mem member
  obtain ⟨point, passes, here, _⟩ := ends.at_visit
  have asked := Registry.process_callsFor collaborators search? settings visit.node
    (point.state.record visit.tag) point.world
  rw [← here.processed] at asked
  have message : (point.state.record visit.tag).message = start.state.message := passes.inputs.1
  exact message ▸ asked

theorem Walk.callsOf_service {message : String} {visits : List (Visit World)}
    (each : ∀ visit ∈ visits,
      visit.node.CallsFor message visit.processed.trace.calls.toList) :
    (callsOf visits).map Call.service = visits.filterMap fun visit => visit.node.service? := by
  rw [callsOf, List.map_flatMap, List.filterMap_eq_flatMap_toList]
  exact List.flatMap_congr fun visit member => (each visit member).service

theorem Walk.callsOf_carries {message : String} {visits : List (Visit World)}
    (each : ∀ visit ∈ visits,
      visit.node.CallsFor message visit.processed.trace.calls.toList) :
    ∀ call ∈ callsOf visits, call.Carries message :=
  List.forall_mem_flatMap.mpr fun visit member => (each visit member).carries

end

/-! ## Services that write down their calls -/

/-- A service that adds a call to the calls so far when it has answered. -/
def Call.noting {Answer : Type} (call : Call) (serve : World → Answer × World)
    (world : World × List Call) : Answer × World × List Call :=
  ((serve world.1).1, (serve world.1).2, world.2 ++ [call])

/-- The same services, which keep the list of the calls that they get. -/
def Collaborators.recorded : Collaborators (World × List Call) where
  chatName := collaborators.chatName
  complete := fun request => (Call.chat request).noting (collaborators.complete request)
  retrieverName := collaborators.retrieverName
  retrieve := fun query => (Call.retrieve query).noting (collaborators.retrieve query)
  sheetsName := collaborators.sheetsName
  readSheet := fun query => (Call.sheet query).noting (collaborators.readSheet query)

/-- What was left behind, with its calls at the end of those made before. -/
def Processed.noted (processed : Processed World) (before : List Call) :
    Processed (World × List Call) :=
  ⟨processed.state, processed.failure, processed.trace,
    (processed.world, before ++ processed.trace.calls.toList)⟩

/-- The calls that a processor reports are those that the services get. -/
theorem Registry.process_recorded (search? : PatternSearch) (settings : Settings)
    (kind : NodeKind) (node : Node) (state : State) (world : World) (before : List Call) :
    (processorOf search? collaborators.recorded settings kind).process node state
        (world, before) =
      ((processorOf search? collaborators settings kind).process node state world).noted
        before := by
  cases kind with
  | input modality | output modality =>
      cases modality <;>
        simp [processorOf, passing, Processed.noted, Processed.done, Trace.empty]
  | conditional => simp [processorOf, Branching.process, Processed.noted, Processed.done]
  | aiCall =>
      simp only [processorOf, ModelCall.process]
      cases ModelCall.request settings.ai state node with
      | error error => simp [Processed.noted, Processed.failed, Trace.empty]
      | ok asked =>
          simp only [Collaborators.recorded, Call.noting]
          cases ModelCall.accept settings.ai collaborators.chatName
            (collaborators.complete asked world).1 <;> rfl
  | retrieval =>
      simp only [processorOf, ContextLookup.retrieve]
      cases ContextLookup.query settings.retrieval state node with
      | error error => simp [Processed.noted, Processed.failed, Trace.empty]
      | ok asked => rfl
  | spreadsheet =>
      simp only [processorOf, ContextLookup.readSheet, Collaborators.recorded, Call.noting]
      rcases collaborators.readSheet (ContextLookup.sheetQuery settings.spreadsheet node) world
        with ⟨_ | _, _⟩ <;> rfl

theorem Walk.go_recorded (search? : PatternSearch) (settings : Settings) (plan : Plan)
    (budget left : Nat) (previous : String) (route : Route) (state : State) (trace : Trace)
    (world : World) :
    let walked := go plan (.completeWith search? collaborators settings) budget left previous
      route state trace world
    go plan (.completeWith search? collaborators.recorded settings) budget left previous route
        state trace (world, trace.calls.toList) =
      ⟨walked.outcome, walked.trace, (walked.world, walked.trace.calls.toList)⟩ := by
  induction left generalizing previous route state trace world with
  | zero =>
      cases route with
      | finish => rfl
      | node id =>
          simp only [go]
          cases plan.node? id <;> rfl
  | succ left ih =>
      cases route with
      | finish => rfl
      | node id =>
          simp only [go]
          cases plan.node? id with
          | none => rfl
          | some node =>
              simp only [Registry.get?_completeWith, Registry.process_recorded,
                Processed.noted]
              generalize (Registry.processorOf search? collaborators settings node.kind).process
                node (state.record node.kind.tag) world = processed
              cases processed.failure with
              | some error => simp [complete, Trace.report, Trace.append]
              | none =>
                  -- the calls in the trace and those in the world have grown by the same ones
                  have onward := ih id (routeAfter plan id processed.state) processed.state
                    (reportRoute plan id processed.state
                      ((trace.report (.nodeVisited id node.kind.tag (budget - left))).append
                        processed.trace)) processed.world
                  rw [calls_reportRoute] at onward
                  simpa [Trace.append, Trace.report] using onward

theorem Executor.execute_recorded (search? : PatternSearch) (settings : Settings) (factor : Nat)
    (plan : Plan) (state : State) (world : World) :
    let walked := execute ⟨.completeWith search? collaborators settings, factor⟩ plan state world
    execute ⟨.completeWith search? collaborators.recorded settings, factor⟩ plan state (world, []) =
      ⟨walked.outcome, walked.trace, (walked.world, walked.trace.calls.toList)⟩ := by
  -- the two budgets are the same product
  simp only [execute, budget]
  exact Walk.go_recorded collaborators search? settings plan (saturatingProduct plan.size factor)
    (saturatingProduct plan.size factor) Walk.beforeEntry (.node plan.entry) state
    (Trace.empty.report
      (.executionStarted plan.entry plan.size (saturatingProduct plan.size factor))) world

open Walk in
/-- Whatever comes of a walk, the calls on it are those that its visits need, in the order of the
visits: one of the chat model for every ai-call node with an admissible temperature, one of the
retriever for every retrieval node with an admissible number of documents, one of the sheet reader
for every spreadsheet node, all others none.  The chat model and the retriever are asked about the
message of the request, after a visit that fails there is none, and the services that write down
what they are called for have written down these calls. -/
theorem visits_call_their_service_once (search? : PatternSearch)
    (collaborators : Collaborators World) (settings : Settings) (factor : Nat) (plan : Plan)
    (state : State) (world : World) :
    let executor : Executor World := ⟨.completeWith search? collaborators settings, factor⟩
    let recording : Executor (World × List Call) :=
      ⟨.completeWith search? collaborators.recorded settings, factor⟩
    let walked := executor.execute plan state world
    let visits := executor.visits plan state world
    let calls := walked.trace.calls.toList
    calls.map Call.service = visits.filterMap (fun visit => visit.node.service?) ∧
    (∀ call ∈ calls, call.Carries state.message) ∧
    (∀ before visit after, visits = before ++ visit :: after → visit.processed.failure ≠ none →
      after = [] ∧ calls = callsOf before ++ visit.processed.trace.calls.toList) ∧
    recording.execute plan state (world, []) =
      ⟨walked.outcome, walked.trace, (walked.world, calls)⟩ := by
  intro executor recording walked visits calls
  have ends := executor.ends_visits plan state world
  have made : calls = callsOf visits := (executor.execute_of_ends ends).2.1
  have each := ends.callsFor
  refine ⟨?_, ?_, fun before visit after split failed => ?_, ?_⟩
  · rw [made]
    exact callsOf_service each
  · rw [made]
    exact callsOf_carries each
  · have last : after = [] := by
      change executor.visits plan state world = before ++ visit :: after at split
      rw [split] at ends
      obtain ⟨_, _, _, ⟨_, _, ended, _⟩ | ⟨success, _⟩⟩ := ends.at_visit
      · exact ended
      · exact absurd success failed
    refine ⟨last, ?_⟩
    rw [made, split, last, callsOf, callsOf, List.flatMap_append, List.flatMap_singleton]
  · exact Executor.execute_recorded collaborators search? settings factor plan state world

/-- A way past a sheet and a search to two models, of which the second one is asked for a
temperature that is no number. -/
def coldThenHot : Plan where
  entry := "in"
  nodes := [("in", ⟨"in", .input .text, [], [], []⟩),
    ("sheet", ⟨"sheet", .spreadsheet, [], [], []⟩),
    ("search", ⟨"search", .retrieval, [("topK", .ofNat 2)], [], []⟩),
    ("cold", ⟨"cold", .aiCall, [], [], []⟩),
    ("hot", ⟨"hot", .aiCall, [("temperature", .string "hot")], [], []⟩)]
  edges := [("in", "sheet"), ("sheet", "search"), ("search", "cold"), ("cold", "hot")]
  routers := []
  exits := ["hot"]
  rewritten := []

theorem coldThenHot_calls :
    let executor := Demo.executor
    let calls := (executor.execute coldThenHot (State.start "hi" []) ()).trace.calls.toList
    calls.map Call.service = [.sheetReader, .retriever, .chatModel] ∧
      (∀ call ∈ calls, call.Carries "hi") ∧
      ∃ (before : List (Walk.Visit Unit)) (visit : Walk.Visit Unit),
        visit.id = "hot" ∧ visit.processed.failure ≠ none ∧
        calls = Walk.callsOf before ++ visit.processed.trace.calls.toList := by
  intro executor calls
  obtain ⟨services, carries, last, _⟩ := visits_call_their_service_once Pattern.search?
    (Demo.collaborators .empty (Files.empty [])) {} 1 coldThenHot (State.start "hi" []) ()
  obtain ⟨before, visit, made, id, failed⟩ : ∃ before visit,
      executor.visits coldThenHot (State.start "hi" []) () = before ++ visit :: [] ∧
      visit.id = "hot" ∧ visit.processed.failure ≠ none :=
    ⟨[_, _, _, _], _, rfl, rfl, by decide⟩
  exact ⟨services, carries, before, visit, id, failed, (last before visit [] made failed).2⟩

end ChatFlow
