import ChatFlow.Proofs.NodeWork

/-!
# The log of an execution

An execution reports that it has started, then its visits, numbered from one in the order in which
they are made, and last how it has ended.  A visit is reported when it begins and when its work is
done; what its processor reports stands between.  A node that is not visited is in the log only
where the last event names it.
-/

set_option autoImplicit false

namespace ChatFlow

/-- Whether the engine reports such events, of an execution or of its visits. -/
def Event.isEngine : Event → Bool
  | .executionStarted .. | .executionCompleted .. | .executionFailed .. | .nodeVisited ..
  | .branchRouted .. | .nodeFailureRecovered .. => true
  | _ => false

variable {World : Type}

namespace Walk

variable {plan : Plan}

theorem lastEvent_isEngine (outcome : Except WalkError State) (executed : List String)
    (elapsed : Elapsed) : (lastEvent outcome executed elapsed).isEngine = true := by
  cases outcome <;> rfl

theorem Visit.mem_closing {visit : Visit World} {event : Event}
    (member : event ∈ visit.closing plan) :
    (∃ error, visit.processed.failure = some error ∧
        event = .nodeFailureRecovered visit.id visit.tag error.message) ∨
      (visit.processed.failure = none ∧
        event = .branchRouted visit.id (resultOf visit.processed.state visit.id)
          (visit.after plan).route.text) := by
  rw [Visit.closing] at member
  cases failure : visit.processed.failure with
  | some error =>
      simp only [failure, List.mem_singleton] at member
      exact .inl ⟨error, rfl, member⟩
  | none =>
      cases router : plan.router? visit.id with
      | none => simp [failure, router] at member
      | some router =>
          simp only [failure, router, List.mem_singleton] at member
          exact .inr ⟨rfl, member⟩

/-- Without the processors' own events the log has those of the engine. -/
theorem filter_eventsOf {visits : List (Visit World)}
    (own : ∀ visit ∈ visits, ∀ event ∈ visit.ownEvents, event.isEngine = false) (first : Nat) :
    (eventsOf plan Visit.ownEvents first visits).filter Event.isEngine =
      eventsOf plan (fun _ => []) first visits := by
  induction visits generalizing first with
  | nil => rfl
  | cons visit rest ih =>
      have silent : visit.ownEvents.filter Event.isEngine = [] := by
        rw [List.filter_eq_nil_iff]
        intro event member
        simp [own visit List.mem_cons_self event member]
      have closing : (visit.closing plan).filter Event.isEngine = visit.closing plan := by
        rw [List.filter_eq_self]
        intro event member
        rcases Visit.mem_closing member with ⟨_, _, rfl⟩ | ⟨_, rfl⟩ <;> rfl
      have later := ih (fun other inside => own other (List.mem_cons_of_mem visit inside))
        (first + 1)
      have opening : (visit.opening first).isEngine = true := rfl
      rw [eventsOf_cons, eventsOf_cons, List.filter_append, List.filter_append,
        List.filter_cons_of_pos opening, silent, closing, later]

end Walk

namespace Executor

open Walk

/-- What an execution reports itself, if it makes these visits and ends in this way. -/
def engineEvents (executor : Executor World) (plan : Plan) (visits : List (Visit World))
    (last : Event) : List Event :=
  .executionStarted plan.entry plan.size (executor.budget plan.size) ::
    eventsOf plan (fun _ => []) 1 visits ++ [last]

theorem events_execute (executor : Executor World) (plan : Plan) (state : State) (world : World) :
    let walked := executor.execute plan state world
    let visits := executor.visits plan state world
    walked.trace.events.toList =
      .executionStarted plan.entry plan.size (executor.budget plan.size) ::
        eventsOf plan Visit.ownEvents 1 visits ++
        [lastEvent walked.outcome (state.executed.toList ++ visits.map Visit.tag)
          walked.trace.elapsed] := by
  obtain ⟨_, _, _, log⟩ := go_of_ends (executor.ends_visits plan state world)
    (Trace.empty.report (.executionStarted plan.entry plan.size (executor.budget plan.size)))
  exact log

theorem filter_log (executor : Executor World) {plan : Plan} {visits : List (Visit World)}
    {last : Event} (ending : last.isEngine = true)
    (own : ∀ visit ∈ visits, ∀ event ∈ visit.ownEvents, event.isEngine = false) :
    (Event.executionStarted plan.entry plan.size (executor.budget plan.size) ::
      eventsOf plan Visit.ownEvents 1 visits ++ [last]).filter Event.isEngine =
      executor.engineEvents plan visits last := by
  rw [List.cons_append, List.filter_cons_of_pos rfl, List.filter_append, filter_eventsOf own,
    List.filter_cons_of_pos ending, List.filter_nil]
  rfl

end Executor

/-! ## Processors that report only what is theirs -/

theorem KeywordRetriever.search_not_engine (retriever : KeywordRetriever) (files : Files)
    (query : RetrievalQuery) :
    ∀ event ∈ (retriever.search files query).events, event.isEngine = false := by
  have skipped : ∀ (directory : String) (place : List String) (documents : List Document)
      (events : List Event), load files directory place = .ok (documents, events) →
      ∀ event ∈ events, event.isEngine = false := by
    intro directory place documents events loaded event member
    rw [load] at loaded
    split at loaded
    · cases loaded
    cases loaded
    obtain ⟨⟨path, content⟩, _, reported⟩ := List.mem_filterMap.mp member
    cases content with
    | ok content => cases reported
    | error e =>
        cases reported
        rfl
  intro event member
  rw [search] at member
  split at member
  · split at member
    · simp at member
    · rename_i place _
      split at member
      · simp at member
      all_goals
        rename_i loaded
        exact skipped query.directory place _ _ loaded event member
  · simp at member

theorem ModelCall.conclude_not_engine (node : Node) (state : State) (request : CompletionRequest)
    (elapsed : Elapsed) (accepted : Except NodeError Completion) (world : World) :
    ∀ event ∈ (conclude node state request elapsed accepted world).trace.events.toList,
      event.isEngine = false := by
  intro event member
  cases accepted with
  | error error => cases member
  | ok completion =>
      cases List.mem_singleton.mp member
      rfl

theorem ModelCall.process_not_engine (collaborators : Collaborators World) (ai : Settings.Ai)
    (node : Node) (state : State) (world : World) :
    ∀ event ∈ (process collaborators ai node state world).trace.events.toList,
      event.isEngine = false := by
  intro event member
  rw [process] at member
  split at member
  · cases member
  · exact conclude_not_engine node state _ _ _ _ event member

theorem ContextLookup.slotEvent_not_engine (node : Node) (name collaborator : String)
    (slot : ContextSlot) : (slotEvent node name collaborator slot).isEngine = false := by
  cases slot <;> rfl

theorem ContextLookup.retrieve_not_engine (collaborators : Collaborators World)
    (own : ∀ query world, ∀ event ∈ (collaborators.retrieve query world).1.events,
      event.isEngine = false)
    (retrieval : Settings.Retrieval) (node : Node) (state : State) (world : World) :
    ∀ event ∈ (retrieve collaborators retrieval node state world).trace.events.toList,
      event.isEngine = false := by
  intro event member
  rw [retrieve] at member
  split at member
  · cases member
  · rename_i asked _
    rcases Array.mem_push.mp (Array.mem_toList_iff.mp member) with handed | rfl
    · exact own asked world event (by simpa using handed)
    · exact slotEvent_not_engine _ _ _ _

theorem ContextLookup.readSheet_not_engine (collaborators : Collaborators World)
    (spreadsheet : Settings.Spreadsheet) (node : Node) (state : State) (world : World) :
    ∀ event ∈ (readSheet collaborators spreadsheet node state world).trace.events.toList,
      event.isEngine = false := by
  intro event member
  rw [readSheet] at member
  split at member
  · cases member
  · cases List.mem_singleton.mp member
    exact slotEvent_not_engine _ _ _ _

theorem Branching.events_not_engine (node : Node) (condition : Condition)
    (evaluated : Option Bool) :
    ∀ event ∈ (events node condition evaluated).toList, event.isEngine = false := by
  intro event member
  rcases Array.mem_push.mp (Array.mem_toList_iff.mp member) with malformed | rfl
  · cases evaluated with
    | none =>
        cases List.mem_singleton.mp (Array.mem_toList_iff.mpr malformed)
        rfl
    | some result => simp at malformed
  · rfl

/-- A processor of a responder reports its own work, and what a retriever hands to it. -/
theorem Registry.process_not_engine (search? : PatternSearch) (collaborators : Collaborators World)
    (settings : Settings)
    (own : ∀ query world, ∀ event ∈ (collaborators.retrieve query world).1.events,
      event.isEngine = false)
    (kind : NodeKind) (node : Node) (state : State) (world : World) :
    ∀ event ∈ ((processorOf search? collaborators settings kind).process node state
      world).trace.events.toList, event.isEngine = false := by
  cases kind with
  | input modality => cases modality <;> exact fun _ member => nomatch member
  | output modality => cases modality <;> exact fun _ member => nomatch member
  | aiCall => exact ModelCall.process_not_engine collaborators settings.ai node state world
  | retrieval =>
      exact ContextLookup.retrieve_not_engine collaborators own settings.retrieval node state world
  | spreadsheet =>
      exact ContextLookup.readSheet_not_engine collaborators settings.spreadsheet node state world
  | conditional => exact Branching.events_not_engine node _ _

theorem Walk.Ends.own_not_engine {search? : PatternSearch} {collaborators : Collaborators World}
    {settings : Settings} {plan : Plan} {budget : Nat} {start : Walk.Point World}
    {visits : List (Walk.Visit World)} {outcome : Except WalkError State}
    (ends : Walk.Ends plan (.completeWith search? collaborators settings) budget start visits
      outcome)
    (own : ∀ query world, ∀ event ∈ (collaborators.retrieve query world).1.events,
      event.isEngine = false) :
    ∀ visit ∈ visits, ∀ event ∈ visit.ownEvents, event.isEngine = false := by
  intro visit member
  obtain ⟨before, after, rfl⟩ := List.append_of_mem member
  obtain ⟨point, _, here, _⟩ := ends.at_visit
  rw [Walk.Visit.ownEvents, here.processed]
  exact Registry.process_not_engine search? collaborators settings own _ _ _ _

/-- In the log of a responder that searches by keywords every engine event is the engine's own. -/
theorem Executor.engine_events_of_demo (search? : PatternSearch) (settings : Settings)
    (factor : Nat) (retriever : KeywordRetriever) (files : Files) (plan : Plan) (state : State)
    (world : World) :
    let executor : Executor World :=
      ⟨.completeWith search? (Demo.collaborators retriever files) settings, factor⟩
    let walked := executor.execute plan state world
    let visits := executor.visits plan state world
    walked.trace.events.toList.filter Event.isEngine =
      executor.engineEvents plan visits
        (Walk.lastEvent walked.outcome (state.executed.toList ++ visits.map Walk.Visit.tag)
          walked.trace.elapsed) := by
  intro executor walked visits
  have own : ∀ visit ∈ visits, ∀ event ∈ visit.ownEvents, event.isEngine = false :=
    (executor.ends_visits plan state world).own_not_engine
      (fun query _ => retriever.search_not_engine files query)
  rw [executor.events_execute plan state world]
  exact executor.filter_log (Walk.lastEvent_isEngine _ _ _) own

end ChatFlow
