import ChatFlow.Collaborator.Demo
import ChatFlow.Proofs.Executions
import ChatFlow.Proofs.PlanRoutes
import ChatFlow.Responder.Basic

/-!
# Runs that stay in their plan

A compiled plan is closed: its entry, its plain edges, redirected or not, and the targets of its
routers are nodes of the plan.  So a walk that starts at the entry is never sent out of it, and if
there is a processor for every kind, every visit can be made.  What is left is that a walk comes to
an answer or spends its budget.
-/

set_option autoImplicit false

namespace ChatFlow

/-- The entry is a node of the plan, and the plan leads from its nodes to its nodes only. -/
structure Plan.Closed (plan : Plan) : Prop where
  entry : plan.contains plan.entry = true
  leads : ∀ a b, plan.contains a = true → plan.Leads a b → plan.contains b = true

theorem Plan.closed_compiled {graph : Graph} {plan : Plan} (compiled : compile graph = .ok plan) :
    plan.Closed where
  entry := (contains_compiled compiled plan.entry).mpr (entry_compiled compiled)
  leads := fun _ b _ leads => (contains_compiled compiled b).mpr (mem_ids_of_leads compiled leads)

namespace Walk

variable {World : Type} {plan : Plan} {registry : Registry World} {start last : Point World}
  {visits : List (Visit World)}

/-- The route, if it goes on, leads to a node of the plan. -/
def Point.Inside (plan : Plan) (point : Point World) : Prop :=
  ∀ id, point.route = .node id → plan.contains id = true

section Closed

variable (closed : plan.Closed)
include closed

theorem start_inside (state : State) (world : World) :
    (Executor.start plan state world).Inside plan := by
  intro id route
  cases route
  exact closed.entry

theorem Visit.At.after_inside {visit : Visit World} {point : Point World}
    (here : visit.At plan registry point) : (visit.after plan).Inside plan := by
  intro id route
  have follow : plan.MayFollow visit.id id := ⟨_, route⟩
  have known : plan.contains visit.id = true := by
    rw [Plan.contains, here.node, Option.isSome_some]
  exact closed.leads visit.id id known (Plan.leads_of_mayFollow follow)

/-- A walk that is inside the plan stays there. -/
theorem Passes.inside (passes : Passes plan registry start visits last)
    (inside : start.Inside plan) : last.Inside plan := by
  induction passes with
  | done point => exact inside
  | step here _ _ ih => exact ih (here.after_inside closed)

/-- With a processor for every node, a walk through a closed plan has two ways to end. -/
theorem Ends.ok_or_cyclicGraph_of_closed
    (served : ∀ id node, plan.node? id = some node → registry.get? node.kind ≠ none)
    {budget : Nat} {state : State} {world : World} {outcome : Except WalkError State}
    (ends : Ends plan registry budget (Executor.start plan state world) visits outcome) :
    (∃ answer, outcome = .ok answer) ∨
      ∃ id, plan.contains id = true ∧ outcome = .error (.cyclicGraph id budget) := by
  have inside := start_inside closed state world
  cases ends with
  | answered completes _ => exact .inl ⟨_, rfl⟩
  | exhausted passes _ _ known => exact .inr ⟨_, known, rfl⟩
  | astray passes _ route unknown =>
      have known := passes.inside closed inside _ route
      rw [Plan.contains, unknown] at known
      cases known
  | unmanned passes _ _ known missing => exact absurd missing (served _ _ known)

end Closed

theorem Ends.ok_or_cyclicGraph {graph : Graph} (compiled : Plan.compile graph = .ok plan)
    (every : ∀ kind, registry.get? kind ≠ none) {budget : Nat} {state : State} {world : World}
    {outcome : Except WalkError State}
    (ends : Ends plan registry budget (Executor.start plan state world) visits outcome) :
    (∃ answer, outcome = .ok answer) ∨
      ∃ id ∈ graph.ids, outcome = .error (.cyclicGraph id budget) := by
  rcases ends.ok_or_cyclicGraph_of_closed (Plan.closed_compiled compiled)
      fun _ node _ => every node.kind with answered | ⟨id, known, exhausted⟩
  · exact .inl answered
  · exact .inr ⟨id, (Plan.contains_compiled compiled id).mp known, exhausted⟩

end Walk

namespace Responder

variable {World : Type} (search? : PatternSearch) (settings : Settings)
  (collaborators : Collaborators World)

theorem run_of_refused {workflow : Description} {error : GraphError}
    (refused : Graph.ofDescription workflow = .error error) (message : String)
    (history : List Turn) (world : World) :
    ((ofSettingsWith search? settings collaborators).run workflow message history world).outcome =
      .error (.build error) := by
  simp only [run, walk, refused]
  rfl

/-- A run of a compiled workflow ends as the walk through the plan does. -/
theorem run_of_compiled (responder : Responder World) {workflow : Description} {graph : Graph}
    {plan : Plan} (accepted : Graph.ofDescription workflow = .ok graph)
    (compiled : Plan.compile graph = .ok plan) (message : String) (history : List Turn)
    (world : World) :
    (responder.run workflow message history world).outcome =
      match (responder.executor.execute plan (.start message history) world).outcome with
      | .ok state => .ok state.answer
      | .error e => .error (.execution e) := by
  simp only [run, walk, accepted, compiled]
  cases (responder.executor.execute plan (.start message history) world).outcome <;> rfl

theorem execute_compiled {graph : Graph} {plan : Plan} (compiled : Plan.compile graph = .ok plan)
    (state : State) (world : World) :
    let walked := (ofSettingsWith search? settings collaborators).executor.execute plan state world
    (∃ answer, walked.outcome = .ok answer) ∨
      ∃ id ∈ graph.ids,
        walked.outcome = .error (.cyclicGraph id (settings.visitBudget graph.size)) := by
  have ends := (ofSettingsWith search? settings collaborators).executor.ends_visits plan state world
  rw [Plan.size_compiled compiled] at ends
  refine ends.ok_or_cyclicGraph compiled fun kind => ?_
  have registered := Registry.get?_completeWith search? collaborators settings kind
  exact Option.ne_none_iff_exists'.mpr ⟨_, registered⟩

theorem run_of_accepted {workflow : Description} {graph : Graph}
    (accepted : Graph.ofDescription workflow = .ok graph) (message : String)
    (history : List Turn) (world : World) :
    let responder := ofSettingsWith search? settings collaborators
    let outcome := (responder.run workflow message history world).outcome
    ∃ plan, Plan.compile graph = .ok plan ∧
      ((∃ state : State, outcome = .ok state.answer ∧
          (responder.executor.execute plan (.start message history) world).outcome = .ok state) ∨
        ∃ id ∈ graph.ids, outcome =
          .error (.execution (.cyclicGraph id (settings.visitBudget graph.size)))) := by
  intro responder outcome
  obtain ⟨plan, compiled⟩ := Plan.exists_compile graph
  have ran : outcome = _ := responder.run_of_compiled accepted compiled message history world
  refine ⟨plan, compiled, ?_⟩
  rcases execute_compiled search? settings collaborators compiled (.start message history) world
    with ⟨state, answered⟩ | ⟨id, member, exhausted⟩
  · rw [answered] at ran
    exact .inl ⟨state, ran, answered⟩
  · rw [exhausted] at ran
    exact .inr ⟨id, member, ran⟩

/-- Whatever the pattern search, a responder refuses a workflow exactly if its description is no
graph, and for that reason.  Any other workflow is compiled, and the walk comes to an answer or
spends the budget that the settings give it.  A request is answered with what comes of the walk, or
with the text of the error and nothing else. -/
theorem run_refuses_only_descriptions (workflow : Description) (message : String)
    (history : List Turn) (world : World) :
    let responder := ofSettingsWith search? settings collaborators
    let outcome := (responder.run workflow message history world).outcome
    (∀ error, outcome = .error (.build error) ↔ Graph.ofDescription workflow = .error error) ∧
    (∀ graph, Graph.ofDescription workflow = .ok graph →
      ∃ plan, Plan.compile graph = .ok plan ∧
        ((∃ state : State, outcome = .ok state.answer ∧
            (responder.executor.execute plan (.start message history) world).outcome =
              .ok state) ∨
          ∃ id ∈ graph.ids, outcome =
            .error (.execution (.cyclicGraph id (settings.visitBudget graph.size))))) ∧
    ∀ session,
      let response := (responder.respond ⟨message, workflow, history, session⟩ world).1
      match outcome with
      | .ok answer =>
        response.response = answer.response ∧ response.modelUsed = answer.modelUsed ∧
          response.executed = answer.executed
      | .error (.build error) =>
        response.response = "Error building workflow: " ++ error.message ∧
          response.modelUsed = none ∧ response.executed = []
      | .error (.execution error) =>
        response.response = "Error executing workflow: " ++ error.message ∧
          response.modelUsed = none ∧ response.executed = [] := by
  intro responder outcome
  refine ⟨fun error => ⟨fun refused => ?_, fun refused => ?_⟩, fun graph accepted => ?_,
    fun session => ?_⟩
  · cases read : Graph.ofDescription workflow with
    | error reason =>
        have reported : outcome = .error (.build reason) :=
          run_of_refused search? settings collaborators read message history world
        rw [reported] at refused
        cases refused
        rfl
    | ok graph =>
        -- neither of the two ways in which a walk ends is a refusal
        obtain ⟨_, _, ⟨state, answered, _⟩ | ⟨id, _, exhausted⟩⟩ :=
          run_of_accepted search? settings collaborators read message history world
        · cases answered.symm.trans refused
        · cases exhausted.symm.trans refused
  · exact run_of_refused search? settings collaborators refused message history world
  · exact run_of_accepted search? settings collaborators accepted message history world
  · have same : (responder.respond ⟨message, workflow, history, session⟩ world).1 =
        Responder.response outcome
          (millisecondsOf (responder.run workflow message history world).trace.elapsed) := rfl
    rw [same]
    rcases outcome with (error | error) | answer <;> exact ⟨rfl, rfl, rfl⟩

/-- A message goes to a model, and what the model says is the answer. -/
def askModel : Description where
  nodes := [⟨"in", "text-input", [], [], []⟩, ⟨"llm", "ai-model", [], [], []⟩,
    ⟨"out", "text-output", [], [], []⟩]
  connections := [⟨none, "in", "", "llm", ""⟩, ⟨none, "llm", "", "out", ""⟩]

theorem run_refuses_nothing_and_answers_askModel :
    let responder : Responder Unit :=
      ofSettingsWith Pattern.search? {} (Demo.collaborators .empty (Files.empty []))
    ((responder.run ⟨[], []⟩ "hi" [] ()).outcome = .error (.build .emptyGraph) ∧
      (responder.respond ⟨"hi", ⟨[], []⟩, [], none⟩ ()).1.response =
        "Error building workflow: Workflow contains no nodes") ∧
    ∃ graph plan, Graph.ofDescription askModel = .ok graph ∧ Plan.compile graph = .ok plan ∧
      ∃ state : State,
        (responder.executor.execute plan (.start "hi" []) ()).outcome = .ok state ∧
        (responder.run askModel "hi" [] ()).outcome = .ok state.answer ∧
        (responder.respond ⟨"hi", askModel, [], none⟩ ()).1.response =
          "[Demo Mode - No API Key] Received: hi" ∧
        (responder.respond ⟨"hi", askModel, [], none⟩ ()).1.executed =
          ["text-input", "ai-model", "text-output"] := by
  intro responder
  have settled := fun workflow => run_refuses_only_descriptions Pattern.search? {}
    (Demo.collaborators .empty (Files.empty [])) workflow "hi" [] ()
  constructor
  · obtain ⟨refused, _, answered⟩ := settled ⟨[], []⟩
    have reported := (refused .emptyGraph).mpr rfl
    have text := answered none
    rw [reported] at text
    exact ⟨reported, text.1⟩
  · obtain ⟨graph, accepted, plan, state, compiled, walked, answer⟩ :
        ∃ graph, Graph.ofDescription askModel = .ok graph ∧ ∃ plan, ∃ state : State,
          Plan.compile graph = .ok plan ∧
          (responder.executor.execute plan (.start "hi" []) ()).outcome = .ok state ∧
          state.answer = ⟨"[Demo Mode - No API Key] Received: hi",
            ["text-input", "ai-model", "text-output"], some "mock"⟩ := by
      refine ⟨_, rfl, ?_⟩
      rw [Plan.compile_eq]
      exact ⟨_, _, rfl, rfl, rfl⟩
    obtain ⟨_, goesOn, text⟩ := settled askModel
    obtain ⟨plan', compiled', ways⟩ := goesOn graph accepted
    cases compiled.symm.trans compiled'
    obtain ⟨state', answered, walked'⟩ | ⟨id, _, exhausted⟩ := ways
    · cases walked.symm.trans walked'
      have told := text none
      rw [answered, answer] at told
      exact ⟨graph, plan, accepted, compiled, state, walked, answered, told.1, told.2.2⟩
    · have ran := responder.run_of_compiled accepted compiled "hi" [] ()
      rw [walked] at ran
      cases exhausted.symm.trans ran

end Responder

end ChatFlow
