import ChatFlow.Proofs.LoopingWalks
import ChatFlow.Proofs.RunsInPlan

/-!
# Visit budgets

A budget only decides how long a walk may go on, never where it goes: an answer that was reached
within one budget is reached within every larger one.  The visits of a walk are a path of the plan,
so a plan without loops is never given up as cyclic and visits no node twice.  Without routers and
failures there is one path, and it is given up exactly if it never ends.
-/

set_option autoImplicit false

namespace ChatFlow

open Relation (TransGen ReflTransGen)

/-- Every node that the plain edges lead to from the entry has a plain edge itself. -/
def Plan.Endless (plan : Plan) : Prop :=
  ∀ a, ReflTransGen (fun a b => plan.edges.get? a = some b) plan.entry a →
    ∃ b, plan.edges.get? a = some b

theorem Plan.endless_of_loop {plan : Plan} {a : String}
    (reach : ReflTransGen (fun a b => plan.edges.get? a = some b) plan.entry a)
    (loop : TransGen (fun a b => plan.edges.get? a = some b) a a) : plan.Endless := by
  intro b path
  refine exists_step_of_loop (fun first second => ?_) loop reach path
  exact Option.some.inj (first.symm.trans second)

theorem Plan.routeFor_plain {plan : Plan} (plain : plan.routers = []) (id : String)
    (result : Bool) : plan.routeFor id result = plan.next id := by
  have unrouted : plan.router? id = none := by rw [router?, plain, Keyed.get?_nil]
  simp only [routeFor, unrouted]

theorem Plan.mayFollow_plain {plan : Plan} (plain : plan.routers = []) :
    plan.MayFollow = fun a b => plan.edges.get? a = some b := by
  funext a b
  simp only [MayFollow, routeFor_plain plain, next, Route.ofTarget?_eq_node, exists_const]

namespace Walk

variable {World : Type} {plan : Plan} {registry : Registry World} {start last : Point World}
  {visits : List (Visit World)} {outcome : Except WalkError State}

/-- The nodes that a walk visits, failing ones too, are a path from where it starts. -/
theorem Ends.path {budget : Nat} (ends : Ends plan registry budget start visits outcome)
    {first : String} (route : start.route = .node first) :
    (visits.map Visit.id).IsChain plan.MayFollow ∧
      ∀ visit ∈ visits, ReflTransGen plan.MayFollow first visit.id := by
  rcases List.eq_nil_or_concat' visits with rfl | ⟨made, visit, rfl⟩
  · exact ⟨.nil, fun visit member => absurd member List.not_mem_nil⟩
  · obtain ⟨point, passes, here, _⟩ := ends.at_visit
    obtain ⟨chain, entry, starts, head⟩ := passes.path here.route
    have names : (made ++ [visit]).map Visit.id = made.map Visit.id ++ [visit.id] := by simp
    rw [route] at starts
    cases starts
    obtain ⟨rest, path⟩ := List.head?_eq_some_iff.mp head
    refine ⟨names ▸ chain, fun other member => ?_⟩
    have place : other.id ∈ first :: rest := by
      rw [← path, ← names]
      exact List.mem_map_of_mem member
    rw [path] at chain
    exact reach_of_mem_path first rest chain other.id place

/-- A stretch that leads to the end has a last visit, after which the walk is over. -/
theorem Passes.exists_last (passes : Passes plan registry start visits last) {first : String}
    (route : start.route = .node first) (ended : last.route = .finish) :
    ∃ visit ∈ visits, (visit.after plan).route = .finish := by
  rcases List.eq_nil_or_concat' visits with rfl | ⟨made, visit, rfl⟩
  · cases passes
    rw [route] at ended
    cases ended
  · obtain ⟨point, _, _, _, later⟩ := passes.at_visit
    cases later
    exact ⟨visit, by simp, ended⟩

/-- An answer that is reached within a budget is reached within every larger one. -/
theorem Ends.of_larger_budget {budget more : Nat} {answer : State}
    (ends : Ends plan registry budget start visits (.ok answer)) (larger : budget ≤ more) :
    Ends plan registry more start visits (.ok answer) := by
  cases ends with
  | answered completes within => exact .answered completes (Nat.le_trans within larger)

end Walk

/-- No work that is registered ever fails. -/
def Registry.NeverFails {World : Type} (registry : Registry World) : Prop :=
  ∀ kind processor, registry.get? kind = some processor →
    ∀ node state world, (processor.process node state world).failure = none

theorem Walk.Visit.At.succeeds {World : Type} {plan : Plan} {registry : Registry World}
    {visit : Visit World} {point : Point World} (never : registry.NeverFails)
    (here : visit.At plan registry point) : visit.processed.failure = none := by
  obtain ⟨processor, registered, same⟩ := here.work
  rw [same]
  exact never _ processor registered _ _ _

namespace Executor

open Walk

variable {World : Type} (registry : Registry World)

theorem budget_le_budget {factor more : Nat} (larger : max factor 1 ≤ max more 1) (nodes : Nat) :
    ((⟨registry, 1⟩ : Executor World).withFactor factor).budget nodes ≤
      ((⟨registry, 1⟩ : Executor World).withFactor more).budget nodes :=
  saturatingProduct_mono (Nat.le_refl nodes) larger

variable {registry} {plan : Plan}

/-- The nodes that an execution visits are a path of the plan from its entry. -/
theorem visits_path (executor : Executor World) (plan : Plan) (state : State) (world : World) :
    ((executor.visits plan state world).map Visit.id).IsChain plan.MayFollow ∧
      ∀ visit ∈ executor.visits plan state world,
        ReflTransGen plan.MayFollow plan.entry visit.id :=
  (executor.ends_visits plan state world).path rfl

/-- Whoever visits a node twice has come to a loop. -/
theorem mayLoop_of_repetition (executor : Executor World) (plan : Plan) (state : State)
    (world : World)
    (repeated : ¬ ((executor.visits plan state world).map Visit.id).Nodup) : plan.MayLoop := by
  obtain ⟨chain, reached⟩ := executor.visits_path plan state world
  obtain ⟨a, member, loop⟩ := exists_loop_of_repetition _ chain repeated
  obtain ⟨visit, made, rfl⟩ := List.mem_map.mp member
  exact ⟨visit.id, reached visit made, loop⟩

theorem endless_of_mayLoop (plain : plan.routers = []) (loops : plan.MayLoop) : plan.Endless := by
  obtain ⟨a, reach, loop⟩ := loops
  rw [Plan.mayFollow_plain plain] at reach loop
  exact Plan.endless_of_loop reach loop

/-- Without routers and failures, an answer means that the chain of plain edges has come to its
end. -/
theorem not_endless_of_answer (executor : Executor World) (plain : plan.routers = [])
    (never : executor.registry.NeverFails) {state answer : State} {world : World}
    (answered : (executor.execute plan state world).outcome = .ok answer) : ¬ plan.Endless := by
  intro endless
  have reached := (executor.visits_path plan state world).2
  have ends := executor.ends_visits plan state world
  rw [answered] at ends
  generalize executor.visits plan state world = visits at reached ends
  cases ends with
  | answered completes _ =>
      cases completes with
      | recovered _ here failed =>
          rw [here.succeeds never] at failed
          cases failed
      | finished passes ended =>
          obtain ⟨visit, made, stops⟩ := passes.exists_last rfl ended
          have reach := reached visit made
          rw [Plan.mayFollow_plain plain] at reach
          obtain ⟨next, edge⟩ := endless visit.id reach
          -- the last visit would lead on along this edge
          rw [Visit.after, Plan.routeAfter_eq, Plan.routeFor_plain plain, Plan.next, edge] at stops
          cases stops

/-- A budget is large enough for every walk that ends.  An answer does not depend on the budget
within which it was reached.  A plan without loops is never given up as cyclic, and no node of it is
visited twice.  In a closed plan without routers, in which no work fails, the factor makes no
difference: an execution is given up as cyclic exactly if the chain of plain edges never ends, and
otherwise it comes to an answer and visits no node twice. -/
theorem visit_budget_suffices (registry : Registry World) (plan : Plan) (state : State)
    (world : World) :
    let executor (factor : Nat) := (⟨registry, 1⟩ : Executor World).withFactor factor
    let outcome (factor : Nat) := ((executor factor).execute plan state world).outcome
    let visited (factor : Nat) := ((executor factor).visits plan state world).map Visit.id
    (∀ factor more answer, max factor 1 ≤ max more 1 → outcome factor = .ok answer →
      outcome more = .ok answer ∧ visited more = visited factor) ∧
    (Acyclic plan.Leads → ∀ factor, (visited factor).Nodup ∧
      (plan.size ≤ largestCount → ∀ id budget, outcome factor ≠ .error (.cyclicGraph id budget))) ∧
    (plan.Closed →
      (∀ id node, plan.node? id = some node → registry.get? node.kind ≠ none) →
      plan.routers = [] → registry.NeverFails →
      ∀ factor, plan.size * max factor 1 < largestCount →
        ((∃ id budget, outcome factor = .error (.cyclicGraph id budget)) ↔ plan.Endless) ∧
        (¬ plan.Endless → (visited factor).Nodup ∧ ∃ answer, outcome factor = .ok answer)) := by
  intro executor outcome visited
  refine ⟨fun factor more answer larger answered => ?_, fun acyclic factor => ?_,
    fun closed served plain never factor countable => ?_⟩
  · have ends := (executor factor).ends_visits plan state world
    change (((executor factor).execute plan state world).outcome = .ok answer) at answered
    rw [answered] at ends
    have within := ends.of_larger_budget (budget_le_budget registry larger plan.size)
    exact ⟨((executor more).execute_of_ends within).1,
      congrArg (List.map Visit.id) (visitsFrom_of_ends within)⟩
  · have loopFree : ¬ plan.MayLoop := by
      rintro ⟨a, _, loop⟩
      exact acyclic a (TransGen.mono (fun _ _ => Plan.leads_of_mayFollow) a a loop)
    refine ⟨of_not_not fun repeated => ?_, fun countable id budget exhausted => ?_⟩
    · exact loopFree ((executor factor).mayLoop_of_repetition plan state world repeated)
    · have enough := Plan.le_budget registry factor countable
      exact loopFree ((executor factor).mayLoop_of_cyclicGraph enough exhausted)
  · have small : plan.size ≤ largestCount :=
      (Nat.le_mul_of_pos_right plan.size (Nat.le_max_right factor 1)).trans countable.le
    have enough := Plan.le_budget registry factor small
    have ways := ((executor factor).ends_visits plan state world).ok_or_cyclicGraph_of_closed
      closed served
    have endless_of_cyclic : (∃ id budget, outcome factor = .error (.cyclicGraph id budget)) →
        plan.Endless := by
      rintro ⟨id, budget, exhausted⟩
      exact endless_of_mayLoop plain ((executor factor).mayLoop_of_cyclicGraph enough exhausted)
    refine ⟨⟨endless_of_cyclic, fun endless => ?_⟩, fun ending => ⟨?_, ?_⟩⟩
    · rcases ways with ⟨answer, answered⟩ | ⟨id, _, exhausted⟩
      · exact absurd endless ((executor factor).not_endless_of_answer plain never answered)
      · exact ⟨id, _, exhausted⟩
    · refine of_not_not fun repeated => ending ?_
      exact endless_of_mayLoop plain
        ((executor factor).mayLoop_of_repetition plan state world repeated)
    · rcases ways with answered | ⟨id, _, exhausted⟩
      · exact answered
      · exact absurd (endless_of_cyclic ⟨id, _, exhausted⟩) ending

/-- Two nodes, the first of which leads to the second one. -/
def straight : Plan where
  entry := "in"
  nodes := [("in", ⟨"in", .input .text, [], [], []⟩), ("out", ⟨"out", .output .text, [], [], []⟩)]
  edges := [("in", "out")]
  routers := []
  exits := ["out"]
  rewritten := []

/-- Two nodes that lead to each other. -/
def roundabout : Plan :=
  { straight with edges := [("in", "out"), ("out", "in")], exits := [] }

def idle : Registry Unit := .forEvery fun _ => Registry.passing "idle"

theorem idle_neverFails : idle.NeverFails := by
  intro kind processor registered node state world
  rw [idle, Registry.get?_forEvery] at registered
  cases registered
  rfl

theorem closed_of_leads_within {plan : Plan} (nodes : plan.nodes = straight.nodes)
    (entry : plan.entry = "in") (leads : ∀ a b, plan.Leads a b → b = "in" ∨ b = "out") :
    plan.Closed where
  entry := by
    rw [Plan.contains, Plan.node?, nodes, entry]
    rfl
  leads := by
    intro a b _ step
    rw [Plan.contains, Plan.node?, nodes]
    rcases leads a b step with rfl | rfl <;> rfl

theorem idle_serves (plan : Plan) (id : String) (node : Node) (_ : plan.node? id = some node) :
    idle.get? node.kind ≠ none := by
  rw [idle, Registry.get?_forEvery]
  exact Option.some_ne_none _

theorem straight_leads {a b : String} (leads : straight.Leads a b) : a = "in" ∧ b = "out" := by
  rcases leads with edge | ⟨router, found, _⟩
  · have member := Keyed.mem_of_get? straight.edges edge
    simpa [straight] using member
  · cases found

theorem roundabout_leads {a b : String} (leads : roundabout.Leads a b) :
    (a = "in" ∧ b = "out") ∨ (a = "out" ∧ b = "in") := by
  rcases leads with edge | ⟨router, found, _⟩
  · have member := Keyed.mem_of_get? roundabout.edges edge
    simpa [roundabout, straight] using member
  · cases found

/-- The straight way has the same answer within every budget; on the roundabout none is enough. -/
theorem straight_answered_roundabout_cyclic :
    let executor (factor : Nat) := (⟨idle, 1⟩ : Executor Unit).withFactor factor
    let state := State.start "hi" []
    (∃ answer, ((executor 0).execute straight state ()).outcome = .ok answer ∧
      ((executor 7).execute straight state ()).outcome = .ok answer) ∧
    ((((executor 7).visits straight state ()).map Visit.id).Nodup ∧
      ∀ id budget, ((executor 7).execute straight state ()).outcome ≠
        .error (.cyclicGraph id budget)) ∧
    ∃ id budget, ((executor 3).execute roundabout state ()).outcome =
      .error (.cyclicGraph id budget) := by
  intro executor state
  have straightClosed : straight.Closed :=
    closed_of_leads_within rfl rfl fun _ _ leads => .inr (straight_leads leads).2
  have roundClosed : roundabout.Closed :=
    closed_of_leads_within rfl rfl fun _ _ leads =>
      (roundabout_leads leads).symm.imp And.right And.right
  have acyclic : Acyclic straight.Leads := by
    -- its only step leads from a shorter name to a longer one
    refine acyclic_of_strict (s := fun a b => a.length < b.length) Nat.lt_trans
      (fun a => Nat.lt_irrefl a.length) fun a b leads => ?_
    obtain ⟨rfl, rfl⟩ := straight_leads leads
    decide
  have ends : ¬ straight.Endless := by
    intro endless
    obtain ⟨b, edge⟩ := endless "out" (.single rfl)
    cases edge
  have goesOn : roundabout.Endless :=
    Plan.endless_of_loop (.refl) (.tail (.single (rfl : _ = some "out")) rfl)
  obtain ⟨same, distinct, decided⟩ := visit_budget_suffices idle straight state ()
  obtain ⟨_, _, decidedRound⟩ := visit_budget_suffices idle roundabout state ()
  obtain ⟨_, answer, answered⟩ := (decided straightClosed (idle_serves straight) rfl idle_neverFails
    0 (by decide)).2 ends
  exact ⟨⟨answer, answered, (same 0 7 answer (by decide) answered).1⟩,
    ⟨(distinct acyclic 7).1, (distinct acyclic 7).2 (by decide)⟩,
    (decidedRound roundClosed (idle_serves roundabout) rfl idle_neverFails 3 (by decide)).1.mpr
      goesOn⟩

end Executor

end ChatFlow
