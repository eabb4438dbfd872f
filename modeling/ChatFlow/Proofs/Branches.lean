import ChatFlow.Collaborator.Demo
import ChatFlow.Proofs.NodeWork
import ChatFlow.Proofs.RunsInPlan

/-!
# Branches

A visit of a conditional node records whether its condition holds in the state just before it, and
the walk goes on along the first connection that the node has for this result, or else along the
first one for the other result.  Nothing else plays a part: neither what was recorded before, nor
connections that leave the node through other ports.
-/

set_option autoImplicit false

namespace ChatFlow

/-! ## What a condition says -/

/-- What a field stands for in a state. -/
inductive Field.StandsFor (state : State) : Field → String → Prop
  | message : StandsFor state .message state.message
  | response : StandsFor state .response state.response
  | written {name value : String} (found : state.outputVariables.get? name = some value) :
      StandsFor state (.outputVariable name) value
  | unwritten {name : String} (missing : state.outputVariables.get? name = none) :
      StandsFor state (.outputVariable name) state.response

theorem Field.standsFor_iff (field : Field) (state : State) (text : String) :
    field.StandsFor state text ↔ field.resolve state = text := by
  constructor
  · intro standsFor
    cases standsFor with
    | message | response => rfl
    | written found => rw [resolve, found, Option.getD_some]
    | unwritten missing => rw [resolve, missing, Option.getD_none]
  · rintro rfl
    cases field with
    | message => exact .message
    | response => exact .response
    | outputVariable name =>
        rw [resolve]
        cases found : state.outputVariables.get? name with
        | none => exact .unwritten found
        | some value => exact .written found

namespace Condition

/-- What a condition says of a text.  A malformed pattern is found nowhere. -/
def SaysOf (search? : PatternSearch) (condition : Condition) (subject : String) : Prop :=
  match condition.comparison with
  | .contains => condition.value ≠ "" ∧
      Text.lowercased condition.value.toList <:+: Text.lowercased subject.toList
  | .equals => comparable subject = comparable condition.value
  | .startsWith => condition.value ≠ "" ∧ comparable condition.value <+: comparable subject
  | .endsWith => condition.value ≠ "" ∧ comparable condition.value <:+ comparable subject
  | .regex => condition.value ≠ "" ∧ search? condition.value subject = some true
  | .isYes => ∃ answer ∈ affirmative, answer.toList = comparable subject
  | .isNo => ∃ answer ∈ negative, answer.toList = comparable subject
  | .unknown _ => False

/-- The condition holds of the text for which its field stands. -/
def HoldsIn (search? : PatternSearch) (condition : Condition) (state : State) : Prop :=
  ∃ subject, condition.field.StandsFor state subject ∧ condition.SaysOf search? subject

theorem evaluateWith_iff (search? : PatternSearch) (condition : Condition) (subject : String) :
    (condition.evaluateWith search? subject).getD false = true ↔
      condition.SaysOf search? subject := by
  cases kind : condition.comparison with
  | contains => simp [evaluateWith, SaysOf, kind, Text.occurs_iff]
  | equals => simp [evaluateWith, SaysOf, kind]
  | startsWith => simp [evaluateWith, SaysOf, kind]
  | endsWith => simp [evaluateWith, SaysOf, kind]
  | isYes => simp [evaluateWith, SaysOf, kind, isOneOf]
  | isNo => simp [evaluateWith, SaysOf, kind, isOneOf]
  | unknown name => simp [evaluateWith, SaysOf, kind]
  | regex =>
      by_cases given : condition.value = ""
      · simp [evaluateWith, SaysOf, kind, given]
      · cases found : search? condition.value subject with
        | none => simp [evaluateWith, SaysOf, kind, given, found]
        | some result => simp [evaluateWith, SaysOf, kind, given, found]

theorem holdsIn_iff (search? : PatternSearch) (condition : Condition) (state : State) :
    condition.HoldsIn search? state ↔ condition.SaysOf search? (condition.field.resolve state) := by
  constructor
  · rintro ⟨subject, standsFor, holds⟩
    rw [(condition.field.standsFor_iff state subject).mp standsFor]
    exact holds
  · intro holds
    exact ⟨_, (condition.field.standsFor_iff state _).mpr rfl, holds⟩

/-- No condition looks at anything but the message, the response and the output variables. -/
theorem holdsIn_congr (search? : PatternSearch) (condition : Condition) {state other : State}
    (message : other.message = state.message) (response : other.response = state.response)
    (outputVariables : other.outputVariables = state.outputVariables) :
    condition.HoldsIn search? other ↔ condition.HoldsIn search? state := by
  have resolved : condition.field.resolve other = condition.field.resolve state := by
    cases condition.field with
    | message => exact message
    | response => exact response
    | outputVariable name => rw [Field.resolve, Field.resolve, outputVariables, response]
  rw [holdsIn_iff, holdsIn_iff, resolved]

end Condition

/-! ## Where a conditional node leads -/

def PortRole.ofResult (result : Bool) : PortRole := if result then .onTrue else .onFalse

namespace Graph

/-- The target of the first declared connection that a node has for a result. -/
def branchTarget? (graph : Graph) (id : String) (result : Bool) : Option String :=
  ((graph.outgoing id).find? (fun c => c.sourceRole = .ofResult result)).map Connection.target

/-- The connections that a node has for either result. -/
def branches (graph : Graph) (id : String) : List Connection :=
  (graph.outgoing id).filter (fun c => c.sourceRole = .onTrue || c.sourceRole = .onFalse)

theorem branchTarget?_eq_of_branches {graph other : Graph} {id : String}
    (same : other.branches id = graph.branches id) (result : Bool) :
    other.branchTarget? id result = graph.branchTarget? id result := by
  have among : ∀ graph : Graph, graph.branchTarget? id result =
      ((graph.branches id).find? (fun c => c.sourceRole = .ofResult result)).map
        Connection.target := by
    intro graph
    rw [branchTarget?, branches, List.find?_filter]
    refine congrArg (fun choice => ((graph.outgoing id).find? choice).map Connection.target)
      (funext fun c => ?_)
    cases result <;> simp +contextual [PortRole.ofResult]
  rw [among, among, same]

end Graph

theorem Router.head?_branch (graph : Graph) (id : String) (result : Bool) :
    ((Router.ofConnections id (graph.outgoing id)).branch result).head? =
      graph.branchTarget? id result := by
  cases result <;>
    simp [branch, ofConnections, Graph.branchTarget?, PortRole.ofResult, List.head?_filter]

namespace Plan

variable {graph : Graph} {plan : Plan} (compiled : compile graph = .ok plan)
include compiled

theorem kind?_of_node? {id : String} {node : Node} (found : plan.node? id = some node) :
    graph.kind? id = some node.kind := by
  rw [node?_compiled compiled] at found
  rw [Graph.kind?, found, Option.map_some]

theorem routeFor_conditional {id : String} (conditional : graph.kind? id = some .conditional)
    (result : Bool) :
    plan.routeFor id result = Route.ofTarget?
      ((graph.branchTarget? id result).or (graph.branchTarget? id (!result))) := by
  rw [routeFor, router?_compiled compiled, if_pos conditional]
  simp only [Router.route, Router.head?_branch, Option.orElse_eq_orElse, Option.orElse_eq_or]

end Plan

namespace Walk

variable {World : Type} {search? : PatternSearch} {collaborators : Collaborators World}
  {settings : Settings} {graph : Graph} {plan : Plan}

/-- A conditional node never fails, and writes down whether its condition holds. -/
theorem Visit.At.decides (compiled : Plan.compile graph = .ok plan) {visit : Visit World}
    {point : Point World}
    (here : visit.At plan (.completeWith search? collaborators settings) point)
    (conditional : visit.node.kind = .conditional) :
    visit.processed.failure = none ∧
      ∃ result, (result = true ↔ (Condition.ofNode visit.node).HoldsIn search? point.state) ∧
        visit.processed.state.conditionResults.get? visit.id = some result := by
  have processed := here.processed
  rw [← Plan.id_of_node? compiled here.node]
  rw [conditional] at processed
  rw [processed]
  refine ⟨rfl, _, ?_, Keyed.get?_put_self _ _ _⟩
  rw [Condition.holdsIn_iff]
  exact Condition.evaluateWith_iff search? _ _

/-- The route after a conditional node is that of the result it has just recorded. -/
theorem Visit.after_decided (compiled : Plan.compile graph = .ok plan) {visit : Visit World}
    (known : plan.node? visit.id = some visit.node)
    (conditional : visit.node.kind = .conditional) {result : Bool}
    (recorded : visit.processed.state.conditionResults.get? visit.id = some result) :
    (visit.after plan).route = Route.ofTarget?
      ((graph.branchTarget? visit.id result).or (graph.branchTarget? visit.id (!result))) := by
  have kind := Plan.kind?_of_node? compiled known
  rw [conditional] at kind
  have used : resultOf visit.processed.state visit.id = result := by
    rw [resultOf, recorded, Option.getD_some]
  rw [Visit.after, Plan.routeAfter_eq, used]
  exact Plan.routeFor_conditional compiled kind result

/-- A walk goes on to a node: it visits the node next, or it is given up there because its budget
is spent. -/
def GoesOnTo (budget : Nat) (outcome : Except WalkError State) (after : List (Visit World))
    (target : String) : Prop :=
  (∃ next rest, after = next :: rest ∧ next.id = target) ∨
    (after = [] ∧ outcome = .error (.cyclicGraph target budget))

section

variable {registry : Registry World} {visit : Visit World} {after : List (Visit World)}
  {outcome : Except WalkError State} (follows : Follows plan registry visit outcome after)
include follows

theorem Follows.goesOnTo {budget : Nat} {target : String}
    (ways : (∃ answer, outcome = .ok answer) ∨
      ∃ id ∈ graph.ids, outcome = .error (.cyclicGraph id budget))
    (route : (visit.after plan).route = .node target) : GoesOnTo budget outcome after target := by
  cases after with
  | cons next rest =>
      have onward : (visit.after plan).route = .node next.id := follows.route
      rw [route] at onward
      cases onward
      exact .inl ⟨next, rest, rfl, rfl⟩
  | nil =>
      simp only [Follows, route] at follows
      obtain ⟨error, givenUp, named⟩ := follows
      rcases ways with ⟨answer, answered⟩ | ⟨id, _, exhausted⟩
      · cases answered.symm.trans givenUp
      · cases exhausted.symm.trans givenUp
        cases named
        exact .inr ⟨rfl, exhausted⟩

theorem Follows.over (route : (visit.after plan).route = .finish) :
    after = [] ∧ outcome = .ok visit.processed.state := by
  cases after with
  | cons next rest =>
      have onward : (visit.after plan).route = .node next.id := follows.route
      rw [route] at onward
      cases onward
  | nil =>
      simp only [Follows, route] at follows
      exact ⟨rfl, follows⟩

end

end Walk

open Walk

/-- Every visit of a conditional node records whether the condition of the node holds in the state
just before it, and the run goes on to the first target that the node has for this result, or else
to the first one that it has for the other result; without any it is over.  Two visits of the same
condition, in whatever runs, agree in result and route if the message, the response and the output
variables are the same before them and so are the connections for either result. -/
theorem branch_taken_iff_condition_holds {World : Type} {graph : Graph} {plan : Plan}
    (compiled : Plan.compile graph = .ok plan) (search? : PatternSearch)
    (collaborators : Collaborators World) (settings : Settings) (executor : Executor World)
    (own : executor.registry = .completeWith search? collaborators settings) (state : State)
    (world : World) {before after : List (Visit World)} {visit : Visit World}
    (made : executor.visits plan state world = before ++ visit :: after)
    (conditional : visit.node.kind = .conditional) :
    let outcome := (executor.execute plan state world).outcome
    let condition := Condition.ofNode visit.node
    ∃ point result,
      Passes plan executor.registry (Executor.start plan state world) before point ∧
      visit.At plan executor.registry point ∧
      (result = true ↔ condition.HoldsIn search? point.state) ∧
      visit.processed.state.conditionResults.get? visit.id = some result ∧
      (match graph.branchTarget? visit.id result, graph.branchTarget? visit.id (!result) with
        | some target, _ => GoesOnTo (executor.budget plan.size) outcome after target
        | none, some target => GoesOnTo (executor.budget plan.size) outcome after target
        | none, none => after = [] ∧ outcome = .ok visit.processed.state) ∧
      ∀ (other : Graph) (plan' : Plan) (collaborators' : Collaborators World)
        (settings' : Settings) (visit' : Visit World) (point' : Point World),
        Plan.compile other = .ok plan' →
        visit'.At plan' (.completeWith search? collaborators' settings') point' →
        visit'.node.kind = .conditional → visit'.id = visit.id →
        Condition.ofNode visit'.node = condition →
        point'.state.message = point.state.message →
        point'.state.response = point.state.response →
        point'.state.outputVariables = point.state.outputVariables →
        other.branches visit.id = graph.branches visit.id →
        visit'.processed.state.conditionResults.get? visit.id = some result ∧
          (visit'.after plan').route = (visit.after plan).route := by
  intro outcome condition
  have ends := executor.ends_visits plan state world
  rw [made] at ends
  have ways := ends.ok_or_cyclicGraph compiled fun kind => by
    rw [own, Registry.get?_completeWith]
    exact Option.some_ne_none _
  obtain ⟨point, passes, here, next⟩ := ends.at_visit
  have decides := here
  rw [own] at decides
  obtain ⟨success, result, holds, recorded⟩ := decides.decides compiled conditional
  have follows : Follows plan executor.registry visit outcome after := by
    rcases next with ⟨error, failed, _⟩ | ⟨_, follows⟩
    · rw [success] at failed
      cases failed
    · exact follows
  have route := visit.after_decided compiled here.node conditional recorded
  refine ⟨point, result, passes, here, holds, recorded, ?_, ?_⟩
  · cases onResult : graph.branchTarget? visit.id result with
    | some target =>
        rw [onResult] at route
        exact follows.goesOnTo ways route
    | none =>
        cases onOther : graph.branchTarget? visit.id (!result) with
        | some target =>
            rw [onResult, onOther] at route
            exact follows.goesOnTo ways route
        | none =>
            rw [onResult, onOther] at route
            exact follows.over route
  · intro other plan' collaborators' settings' visit' point' compiled' there conditional' sameId
      sameCondition message response outputVariables sameBranches
    obtain ⟨_, result', holds', recorded'⟩ := there.decides compiled' conditional'
    have agree : result' = result := by
      rw [Bool.eq_iff_iff, holds', holds, sameCondition]
      exact Condition.holdsIn_congr search? condition message response outputVariables
    rw [sameId, agree] at recorded'
    refine ⟨recorded', ?_⟩
    have route' := visit'.after_decided compiled' there.node conditional' (sameId ▸ recorded')
    rw [route', route, sameId, Graph.branchTarget?_eq_of_branches sameBranches,
      Graph.branchTarget?_eq_of_branches sameBranches]

/-- Two outputs, between which a condition on the message decides. -/
def yesOrNo : Graph where
  nodes := [⟨"in", .input .text, [], [], []⟩,
    ⟨"check", .conditional, [("field", .string "message"), ("conditionType", .string "isYes")],
      [], []⟩,
    ⟨"yes", .output .text, [], [], []⟩, ⟨"no", .output .text, [], [], []⟩]
  connections := [⟨"c1", "in", "out", .data, "check", "in", .data⟩,
    ⟨"c2", "check", "false", .onFalse, "no", "in", .data⟩,
    ⟨"c3", "check", "true", .onTrue, "yes", "in", .data⟩]
  nonempty := by decide
  distinct := by decide
  joined := by decide

theorem yesOrNo_goes_on_to_yes :
    ∃ plan, Plan.compile yesOrNo = .ok plan ∧ ∃ before visit after,
      Demo.executor.visits plan (State.start "Yes" []) () = before ++ visit :: after ∧
      visit.node.kind = .conditional ∧
      visit.processed.state.conditionResults.get? "check" = some true ∧
      GoesOnTo 4 (Demo.executor.execute plan (State.start "Yes" []) ()).outcome after "yes" := by
  obtain ⟨plan, before, visit, after, compiled, made, conditional, id, asks, budget⟩ :
      ∃ plan before visit after, Plan.compile yesOrNo = .ok plan ∧
      Demo.executor.visits plan (State.start "Yes" []) () = before ++ visit :: after ∧
      visit.node.kind = .conditional ∧ visit.id = "check" ∧
      Condition.ofNode visit.node = ⟨.isYes, .message, ""⟩ ∧
      Demo.executor.budget plan.size = 4 := by
    rw [Plan.compile_eq]
    exact ⟨_, [_], _, [_], rfl, rfl, rfl, rfl, rfl, rfl⟩
  obtain ⟨point, result, passes, _, holds, recorded, onward, _⟩ :=
    branch_taken_iff_condition_holds compiled Pattern.search?
      (Demo.collaborators .empty (Files.empty [])) {} Demo.executor rfl (State.start "Yes" []) ()
      made conditional
  have message : point.state.message = "Yes" := passes.inputs.1
  have isYes : result = true := by
    rw [holds, asks, Condition.holdsIn_iff, Field.resolve, message]
    exact ⟨"yes", by decide, by decide⟩
  subst isYes
  rw [id] at recorded onward
  rw [budget] at onward
  exact ⟨plan, compiled, before, visit, after, made, conditional, recorded, onward⟩

end ChatFlow
