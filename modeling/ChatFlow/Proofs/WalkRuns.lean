import ChatFlow.Walk.Basic
import Mathlib.Data.List.Basic

/-!
# The walk of an executor

The walk through a plan, apart from the loop that makes it: a visit takes the processor of the
node it is sent to, and what it leaves decides where the next visit goes.  The loop makes the
visits of the walk one by one until the walk ends, a node fails, nobody can make the next visit, or
the budget is spent, and its outcome says which of these it was.
-/

set_option autoImplicit false

namespace ChatFlow.Walk

variable {World : Type}

/-- One visit: the node, the id under which the plan has it, and what its processor left. -/
structure Visit (World : Type) where
  id : String
  node : Node
  processed : Processed World

/-- Where a walk stands: the route it is on, and the state and the world that it brings. -/
structure Point (World : Type) where
  route : Route
  state : State
  world : World

def Visit.tag (visit : Visit World) : String := visit.node.kind.tag

/-- Where a walk stands after a visit that succeeded. -/
def Visit.after (plan : Plan) (visit : Visit World) : Point World where
  route := routeAfter plan visit.id visit.processed.state
  state := visit.processed.state
  world := visit.processed.world

/-- The visit is the next one: the route leads to its node in the plan, and the processor of the
node has done its work on the state with the node's tag in the log. -/
structure Visit.At (plan : Plan) (registry : Registry World) (visit : Visit World)
    (point : Point World) : Prop where
  route : point.route = .node visit.id
  node : plan.node? visit.id = some visit.node
  work : ∃ processor, registry.get? visit.node.kind = some processor ∧
    visit.processed = processor.process visit.node (point.state.record visit.tag) point.world

/-- A stretch of a walk: visits that all succeed, each where the one before it led. -/
inductive Passes (plan : Plan) (registry : Registry World) :
    Point World → List (Visit World) → Point World → Prop
  | done (point : Point World) : Passes plan registry point [] point
  | step {point last : Point World} {visit : Visit World} {rest : List (Visit World)}
      (here : visit.At plan registry point) (success : visit.processed.failure = none)
      (later : Passes plan registry (visit.after plan) rest last) :
      Passes plan registry point (visit :: rest) last

/-- The visits of a walk that comes to an answer: all succeed and the last one leads to the end,
or the last one fails and its error becomes the response. -/
inductive Completes (plan : Plan) (registry : Registry World) (start : Point World) :
    List (Visit World) → State → Prop
  | finished {visits : List (Visit World)} {last : Point World}
      (passes : Passes plan registry start visits last) (ended : last.route = .finish) :
      Completes plan registry start visits last.state
  | recovered {visits : List (Visit World)} {last : Point World} {visit : Visit World}
      {error : NodeError} (passes : Passes plan registry start visits last)
      (here : visit.At plan registry last) (failed : visit.processed.failure = some error) :
      Completes plan registry start (visits ++ [visit])
        { visit.processed.state with response := failureText visit.id visit.node error }

/-- The node visited last, or the one given if there is no visit. -/
def lastId (previous : String) (visits : List (Visit World)) : String :=
  (visits.getLast?.map Visit.id).getD previous

def worldAfter (world : World) (visits : List (Visit World)) : World :=
  (visits.getLast?.map fun visit => visit.processed.world).getD world

/-- The collaborators called on some visits, in order. -/
def callsOf (visits : List (Visit World)) : List Call :=
  visits.flatMap fun visit => visit.processed.trace.calls.toList

/-- What the engine reports when it makes a visit, `ordinal` being its place among the visits. -/
def Visit.opening (visit : Visit World) (ordinal : Nat) : Event :=
  .nodeVisited visit.id visit.tag ordinal

/-- What the engine reports when the work of a visit is done: that it has failed, or for a node
with a router the result that is used and where the walk goes. -/
def Visit.closing (plan : Plan) (visit : Visit World) : List Event :=
  match visit.processed.failure with
  | some error => [.nodeFailureRecovered visit.id visit.tag error.message]
  | none =>
    match plan.router? visit.id with
    | some _ => [.branchRouted visit.id (resultOf visit.processed.state visit.id)
        (visit.after plan).route.text]
    | none => []

/-- What the processor of a visit has reported itself. -/
def Visit.ownEvents (visit : Visit World) : List Event := visit.processed.trace.events.toList

/-- What is reported of some visits, numbered from `first` on, where `own` gives what is reported
between the opening and the closing of a visit. -/
def eventsOf (plan : Plan) (own : Visit World → List Event) (first : Nat)
    (visits : List (Visit World)) : List Event :=
  (visits.zipIdx first).flatMap fun (visit, ordinal) =>
    visit.opening ordinal :: own visit ++ visit.closing plan

/-- The last event of a walk, `executed` being the tags of the visits made. -/
def lastEvent (outcome : Except WalkError State) (executed : List String) (elapsed : Elapsed) :
    Event :=
  match outcome with
  | .ok _ => .executionCompleted executed elapsed
  | .error error => .executionFailed error.node error.message

/-- How a walk with a budget ends: which visits it makes, and with which outcome. -/
inductive Ends (plan : Plan) (registry : Registry World) (budget : Nat) (start : Point World) :
    List (Visit World) → Except WalkError State → Prop
  | answered {visits : List (Visit World)} {state : State}
      (completes : Completes plan registry start visits state) (within : visits.length ≤ budget) :
      Ends plan registry budget start visits (.ok state)
  | exhausted {visits : List (Visit World)} {last : Point World} {id : String}
      (passes : Passes plan registry start visits last) (spent : visits.length = budget)
      (route : last.route = .node id) (known : plan.contains id = true) :
      Ends plan registry budget start visits (.error (.cyclicGraph id budget))
  | astray {visits : List (Visit World)} {last : Point World} {id : String}
      (passes : Passes plan registry start visits last) (within : visits.length ≤ budget)
      (route : last.route = .node id) (unknown : plan.node? id = none) :
      Ends plan registry budget start visits (.error (.routing (lastId beforeEntry visits) id))
  | unmanned {visits : List (Visit World)} {last : Point World} {id : String} {node : Node}
      (passes : Passes plan registry start visits last) (within : visits.length < budget)
      (route : last.route = .node id) (known : plan.node? id = some node)
      (missing : registry.get? node.kind = none) :
      Ends plan registry budget start visits
        (.error (.processorNotRegistered id node.kind.tag))

/-- The trace with a visit at its end, `ordinal` being its place among the visits. -/
def Visit.traced (visit : Visit World) (ordinal : Nat) (trace : Trace) : Trace :=
  (trace.report (.nodeVisited visit.id visit.tag ordinal)).append visit.processed.trace

/-- The trace with visits that succeed at its end, the first being the `ordinal`-th of the walk. -/
def traceAfter (plan : Plan) : (ordinal : Nat) → Trace → List (Visit World) → Trace
  | _, trace, [] => trace
  | ordinal, trace, visit :: rest =>
    traceAfter plan (ordinal + 1)
      (reportRoute plan visit.id visit.processed.state (visit.traced ordinal trace)) rest

/-! ## What visits leave behind -/

theorem lastId_cons (previous : String) (visit : Visit World) (rest : List (Visit World)) :
    lastId previous (visit :: rest) = lastId visit.id rest := by
  rw [lastId, lastId, List.getLast?_cons, Option.map_some, Option.getD_some, Option.getD_map]

theorem worldAfter_cons (world : World) (visit : Visit World) (rest : List (Visit World)) :
    worldAfter world (visit :: rest) = worldAfter visit.processed.world rest := by
  rw [worldAfter, worldAfter, List.getLast?_cons, Option.map_some, Option.getD_some,
    ← Option.getD_map (fun visit : Visit World => visit.processed.world)]

theorem worldAfter_append (world : World) (visits : List (Visit World)) (visit : Visit World) :
    worldAfter world (visits ++ [visit]) = visit.processed.world := by
  rw [worldAfter, List.getLast?_concat, Option.map_some, Option.getD_some]

section

variable {plan : Plan} {registry : Registry World} {start last : Point World}
  {visits : List (Visit World)}

/-- The work of a node leaves the message, the earlier turns and the log alone. -/
theorem Visit.At.keeps {visit : Visit World} {point : Point World}
    (here : visit.At plan registry point) :
    (point.state.record visit.tag).KeptIn visit.processed.state := by
  obtain ⟨processor, _, same⟩ := here.work
  rw [same]
  exact processor.keeps _ _ _

theorem Visit.At.executed {visit : Visit World} {point : Point World}
    (here : visit.At plan registry point) :
    visit.processed.state.executed = point.state.executed.push visit.tag :=
  here.keeps.executed

theorem Passes.executed (passes : Passes plan registry start visits last) :
    last.state.executed.toList = start.state.executed.toList ++ visits.map Visit.tag := by
  induction passes with
  | done point => simp
  | step here _ _ ih => simp [ih, Visit.after, here.executed]

theorem Passes.world (passes : Passes plan registry start visits last) :
    last.world = worldAfter start.world visits := by
  induction passes with
  | done point => rfl
  | step _ _ _ ih => rw [ih, worldAfter_cons, Visit.after]

theorem Passes.contains (passes : Passes plan registry start visits last) :
    ∀ visit ∈ visits, plan.contains visit.id = true := by
  induction passes with
  | done point => simp
  | step here _ _ ih =>
      intro visit member
      rcases List.mem_cons.mp member with rfl | later
      · rw [Plan.contains, here.node, Option.isSome_some]
      · exact ih visit later

theorem Passes.split (before after : List (Visit World))
    (passes : Passes plan registry start (before ++ after) last) :
    ∃ middle, Passes plan registry start before middle ∧
      Passes plan registry middle after last := by
  induction before generalizing start with
  | nil => exact ⟨start, .done start, passes⟩
  | cons visit rest ih =>
      cases passes with
      | step here success later =>
          obtain ⟨middle, first, final⟩ := ih later
          exact ⟨middle, .step here success first, final⟩

/-- An answer to which no failure belongs comes from a walk to the end. -/
theorem Completes.passes_of_successes {answer : State}
    (completes : Completes plan registry start visits answer)
    (successes : ∀ visit ∈ visits, visit.processed.failure = none) :
    ∃ last, Passes plan registry start visits last ∧ last.route = .finish := by
  cases completes with
  | finished passes ended => exact ⟨_, passes, ended⟩
  | @recovered visits last visit error _ _ failed =>
      have success := successes visit (List.mem_append_right visits (List.mem_singleton_self visit))
      rw [failed] at success
      cases success

theorem Completes.executed {state : State}
    (completes : Completes plan registry start visits state) :
    state.executed.toList = start.state.executed.toList ++ visits.map Visit.tag := by
  cases completes with
  | finished passes _ => exact passes.executed
  | recovered passes here _ => simp [here.executed, passes.executed]

end

theorem calls_reportRoute (plan : Plan) (id : String) (state : State) (trace : Trace) :
    (reportRoute plan id state trace).calls = trace.calls := by
  rw [reportRoute]
  split <;> rfl

theorem calls_traceAfter (plan : Plan) (ordinal : Nat) (trace : Trace)
    (visits : List (Visit World)) :
    (traceAfter plan ordinal trace visits).calls.toList = trace.calls.toList ++ callsOf visits := by
  induction visits generalizing ordinal trace with
  | nil => simp [traceAfter, callsOf]
  | cons visit rest ih =>
      have here : (visit.traced ordinal trace).calls =
          trace.calls ++ visit.processed.trace.calls := rfl
      rw [traceAfter, ih, calls_reportRoute, here, Array.toList_append, callsOf, callsOf,
        List.flatMap_cons, List.append_assoc]

theorem eventsOf_cons (plan : Plan) (own : Visit World → List Event) (first : Nat)
    (visit : Visit World) (rest : List (Visit World)) :
    eventsOf plan own first (visit :: rest) =
      visit.opening first :: own visit ++ visit.closing plan ++
        eventsOf plan own (first + 1) rest := by
  rw [eventsOf, List.zipIdx_cons, List.flatMap_cons]
  rfl

theorem eventsOf_append (plan : Plan) (own : Visit World → List Event) (first : Nat)
    (visits others : List (Visit World)) :
    eventsOf plan own first (visits ++ others) =
      eventsOf plan own first visits ++ eventsOf plan own (first + visits.length) others := by
  rw [eventsOf, List.zipIdx_append, List.flatMap_append]
  rfl

theorem eventsOf_failing (plan : Plan) (own : Visit World → List Event) (first : Nat)
    {visit : Visit World} {error : NodeError} (failed : visit.processed.failure = some error) :
    eventsOf plan own first [visit] = visit.opening first :: own visit ++
      [.nodeFailureRecovered visit.id visit.tag error.message] := by
  rw [eventsOf_cons, Visit.closing, failed]
  simp [eventsOf]

theorem events_report (trace : Trace) (event : Event) :
    (trace.report event).events.toList = trace.events.toList ++ [event] :=
  Array.toList_push

theorem events_traced (visit : Visit World) (ordinal : Nat) (trace : Trace) :
    (visit.traced ordinal trace).events.toList =
      trace.events.toList ++ visit.opening ordinal :: visit.ownEvents := by
  have parts : (visit.traced ordinal trace).events =
      (trace.report (visit.opening ordinal)).events ++ visit.processed.trace.events := rfl
  rw [parts, Array.toList_append, events_report, List.append_assoc, List.singleton_append]
  rfl

theorem events_reportRoute {plan : Plan} {visit : Visit World}
    (success : visit.processed.failure = none) (trace : Trace) :
    (reportRoute plan visit.id visit.processed.state trace).events.toList =
      trace.events.toList ++ visit.closing plan := by
  rw [reportRoute, Visit.closing, success]
  cases plan.router? visit.id with
  | none => simp
  | some router => exact events_report trace _

theorem events_traceAfter {plan : Plan} {registry : Registry World} {start last : Point World}
    {visits : List (Visit World)} (passes : Passes plan registry start visits last)
    (ordinal : Nat) (trace : Trace) :
    (traceAfter plan ordinal trace visits).events.toList =
      trace.events.toList ++ eventsOf plan Visit.ownEvents ordinal visits := by
  induction passes generalizing ordinal trace with
  | done point => simp [traceAfter, eventsOf]
  | step _ success _ ih =>
      rw [traceAfter, ih, events_reportRoute success, events_traced, eventsOf_cons]
      simp only [List.append_assoc]

/-! ## The loop -/

section

variable {plan : Plan} {registry : Registry World}

/-- The loop makes a visit that succeeds, and goes on from where it leads. -/
theorem go_visit {point : Point World} {visit : Visit World} (budget left : Nat)
    (previous : String) (trace : Trace) (here : visit.At plan registry point)
    (success : visit.processed.failure = none) :
    go plan registry budget (left + 1) previous point.route point.state trace point.world =
      go plan registry budget left visit.id (visit.after plan).route (visit.after plan).state
        (reportRoute plan visit.id visit.processed.state (visit.traced (budget - left) trace))
        (visit.after plan).world := by
  obtain ⟨processor, registered, same⟩ := here.work
  rw [Visit.tag] at same
  rw [here.route, go]
  simp only [here.node, registered, ← same, success]
  rfl

/-- The loop makes a visit that fails, and is done. -/
theorem go_failing_visit {point : Point World} {visit : Visit World} {error : NodeError}
    (budget left : Nat) (previous : String) (trace : Trace)
    (here : visit.At plan registry point) (failed : visit.processed.failure = some error) :
    go plan registry budget (left + 1) previous point.route point.state trace point.world =
      complete { visit.processed.state with response := failureText visit.id visit.node error }
        ((visit.traced (budget - left) trace).report
          (.nodeFailureRecovered visit.id visit.tag error.message))
        visit.processed.world := by
  obtain ⟨processor, registered, same⟩ := here.work
  rw [Visit.tag] at same
  rw [here.route, go]
  simp only [here.node, registered, ← same, failed]
  rfl

/-- The loop makes the visits of a stretch of the walk, each costing one of the budget. -/
theorem go_passes {start last : Point World} {visits : List (Visit World)}
    (passes : Passes plan registry start visits last) (made left : Nat) (previous : String)
    (trace : Trace) :
    go plan registry (made + visits.length + left) (visits.length + left) previous start.route
        start.state trace start.world =
      go plan registry (made + visits.length + left) left (lastId previous visits) last.route
        last.state (traceAfter plan (made + 1) trace visits) last.world := by
  induction passes generalizing made previous trace with
  | done point => simp [lastId, traceAfter]
  | @step point last visit rest here success _ ih =>
      -- the visit costs one of what is left and is the `made + 1`-th of the walk
      have total : made + (visit :: rest).length + left = made + 1 + rest.length + left := by
        rw [List.length_cons]
        omega
      have more : (visit :: rest).length + left = rest.length + left + 1 := by
        rw [List.length_cons]
        omega
      have ordinal : made + 1 + rest.length + left - (rest.length + left) = made + 1 := by omega
      rw [total, more, go_visit _ _ _ _ here success, ih, lastId_cons, traceAfter, ordinal]

/-- There is a longest stretch of the walk that the budget pays for. -/
theorem exists_longest_passes (plan : Plan) (registry : Registry World) (budget : Nat)
    (start : Point World) :
    ∃ visits last, Passes plan registry start visits last ∧ visits.length ≤ budget ∧
      (visits.length < budget → ∀ visit : Visit World, visit.At plan registry last →
        visit.processed.failure ≠ none) := by
  induction budget generalizing start with
  | zero => exact ⟨[], start, .done start, Nat.le_refl 0, fun more => absurd more (by simp)⟩
  | succ budget ih =>
      by_cases onward : ∃ visit : Visit World, visit.At plan registry start ∧
          visit.processed.failure = none
      · obtain ⟨visit, here, success⟩ := onward
        obtain ⟨visits, last, passes, within, stuck⟩ := ih (visit.after plan)
        refine ⟨visit :: visits, last, .step here success passes, ?_, fun more => ?_⟩
        · exact Nat.succ_le_succ within
        · exact stuck (Nat.lt_of_succ_lt_succ more)
      · refine ⟨[], start, .done start, Nat.zero_le _, fun _ visit here success => ?_⟩
        exact onward ⟨visit, here, success⟩

theorem exists_ends (plan : Plan) (registry : Registry World) (budget : Nat)
    (start : Point World) :
    ∃ visits outcome, Ends plan registry budget start visits outcome := by
  -- the cases are those of the loop, in its order: where the longest stretch leads decides
  obtain ⟨visits, last, passes, within, stuck⟩ := exists_longest_passes plan registry budget start
  cases route : last.route with
  | finish => exact ⟨visits, _, .answered (.finished passes route) within⟩
  | node id =>
      cases found : plan.node? id with
      | none => exact ⟨visits, _, .astray passes within route found⟩
      | some node =>
          rcases Nat.eq_or_lt_of_le within with spent | more
          · have known : plan.contains id = true := by rw [Plan.contains, found, Option.isSome_some]
            exact ⟨visits, _, .exhausted passes spent route known⟩
          · cases registered : registry.get? node.kind with
            | none => exact ⟨visits, _, .unmanned passes more route found registered⟩
            | some processor =>
                let visit : Visit World := ⟨id, node,
                  processor.process node (last.state.record node.kind.tag) last.world⟩
                have here : visit.At plan registry last :=
                  ⟨route, found, processor, registered, rfl⟩
                cases failed : visit.processed.failure with
                | none => exact absurd failed (stuck more visit here)
                | some error =>
                    refine ⟨visits ++ [visit], _,
                      .answered (.recovered passes here failed) ?_⟩
                    simpa using Nat.succ_le_of_lt more

/-- What the loop comes to after visits that succeed. -/
theorem go_from_start {budget left : Nat} {start last : Point World}
    {visits : List (Visit World)} (passes : Passes plan registry start visits last)
    (total : visits.length + left = budget) (trace : Trace) :
    go plan registry budget budget beforeEntry start.route start.state trace start.world =
      go plan registry budget left (lastId beforeEntry visits) last.route last.state
        (traceAfter plan 1 trace visits) last.world := by
  subst total
  simpa using go_passes passes 0 left beforeEntry trace

/-- The loop ends in the way in which the walk does, having called whom its visits call and
reported what there is to report of them. -/
theorem go_of_ends {budget : Nat} {start : Point World} {visits : List (Visit World)}
    {outcome : Except WalkError State} (ends : Ends plan registry budget start visits outcome)
    (trace : Trace) :
    let walked := go plan registry budget budget beforeEntry start.route start.state trace
      start.world
    walked.outcome = outcome ∧ walked.trace.calls.toList = trace.calls.toList ++ callsOf visits ∧
      walked.world = worldAfter start.world visits ∧
      walked.trace.events.toList = trace.events.toList ++
        eventsOf plan Visit.ownEvents 1 visits ++
        [lastEvent outcome (start.state.executed.toList ++ visits.map Visit.tag)
          walked.trace.elapsed] := by
  -- the trace of visits that succeed, with one more event at its end
  have reported : ∀ {last : Point World} (_ : Passes plan registry start visits last)
      (event : Event), ((traceAfter plan 1 trace visits).report event).events.toList =
        trace.events.toList ++ eventsOf plan Visit.ownEvents 1 visits ++ [event] := by
    intro last passes event
    rw [events_report, events_traceAfter passes]
  cases ends with
  | answered completes within =>
      have executed := completes.executed
      cases completes with
      | finished passes ended =>
          rw [go_from_start passes (Nat.add_sub_cancel' within) trace, ended, go.eq_def]
          refine ⟨rfl, calls_traceAfter plan 1 trace visits, passes.world, ?_⟩
          rw [← executed]
          exact reported passes _
      | @recovered visits last visit error passes here failed =>
          have paid : visits.length + ((budget - visits.length - 1) + 1) = budget := by
            rw [List.length_append, List.length_singleton] at within
            omega
          have ordinal : budget - (budget - visits.length - 1) = 1 + visits.length := by omega
          rw [go_from_start passes paid trace, go_failing_visit _ _ _ _ here failed, ordinal]
          refine ⟨rfl, ?_, (worldAfter_append start.world visits visit).symm, ?_⟩
          · have calls := calls_traceAfter plan 1 trace visits
            simp [complete, Visit.traced, Trace.report, Trace.append, calls, callsOf]
          · rw [complete, events_report, events_report, events_traced, events_traceAfter passes,
              eventsOf_append, eventsOf_failing plan Visit.ownEvents _ failed, executed]
            simp only [List.append_assoc, List.cons_append, lastEvent]
            rfl
  | exhausted passes spent route known =>
      obtain ⟨node, found⟩ := Option.isSome_iff_exists.mp known
      have paid : visits.length + 0 = budget := spent
      rw [go_from_start passes paid trace, route, go.eq_def]
      simp only [found]
      exact ⟨rfl, calls_traceAfter plan 1 trace visits, passes.world, reported passes _⟩
  | astray passes within route unknown =>
      rw [go_from_start passes (Nat.add_sub_cancel' within) trace, route, go.eq_def]
      simp only [unknown]
      exact ⟨rfl, calls_traceAfter plan 1 trace visits, passes.world, reported passes _⟩
  | unmanned passes within route known missing =>
      have paid : visits.length + ((budget - visits.length - 1) + 1) = budget := by omega
      rw [go_from_start passes paid trace, route, go.eq_def]
      simp only [known, missing]
      exact ⟨rfl, calls_traceAfter plan 1 trace visits, passes.world, reported passes _⟩

end

end ChatFlow.Walk

namespace ChatFlow.Executor

open Walk

variable {World : Type}

/-- Where the walk of an execution starts. -/
def start (plan : Plan) (state : State) (world : World) : Point World :=
  ⟨.node plan.entry, state, world⟩

/-- An execution ends in the way in which its walk does, having called whom the visits call. -/
theorem execute_of_ends (executor : Executor World) {plan : Plan} {state : State} {world : World}
    {visits : List (Visit World)} {outcome : Except WalkError State}
    (ends : Ends plan executor.registry (executor.budget plan.size) (start plan state world) visits
      outcome) :
    (executor.execute plan state world).outcome = outcome ∧
      (executor.execute plan state world).trace.calls.toList = callsOf visits ∧
      (executor.execute plan state world).world = worldAfter world visits := by
  obtain ⟨outcome, calls, world, _⟩ := go_of_ends ends
    (Trace.empty.report (.executionStarted plan.entry plan.size (executor.budget plan.size)))
  exact ⟨outcome, calls, world⟩

theorem execute_iff_ends (executor : Executor World) (plan : Plan) (state : State) (world : World)
    (outcome : Except WalkError State) :
    (executor.execute plan state world).outcome = outcome ↔
      ∃ visits, Ends plan executor.registry (executor.budget plan.size) (start plan state world)
        visits outcome := by
  constructor
  · rintro rfl
    obtain ⟨visits, outcome, ends⟩ := exists_ends plan executor.registry
      (executor.budget plan.size) (start plan state world)
    exact ⟨visits, (executor.execute_of_ends ends).1 ▸ ends⟩
  · rintro ⟨visits, ends⟩
    exact (executor.execute_of_ends ends).1

end ChatFlow.Executor
