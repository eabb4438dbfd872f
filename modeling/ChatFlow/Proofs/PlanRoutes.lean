import ChatFlow.Proofs.PlanEdges
import ChatFlow.Walk.Basic

/-!
# Where a plan leads

A plan leads along plain edges and to the targets of routers.  Each such step is a connection of
the graph or comes from a redirection, and it ends at a node of the plan.  So if no path of
connections is a loop, a loop of the plan has to use an edge that was redirected.
-/

set_option autoImplicit false

namespace ChatFlow

open Relation (TransGen ReflTransGen)

namespace Plan

/-- The plan leads from one node to the other by a plain edge or to some target of a router. -/
def Leads (plan : Plan) (a b : String) : Prop :=
  plan.edges.get? a = some b ∨ ∃ router, plan.router? a = some router ∧ b ∈ router.targets

/-- Where a walk goes after a node that succeeded, for the result recorded for it. -/
def routeFor (plan : Plan) (id : String) (result : Bool) : Route :=
  match plan.router? id with
  | some router => router.route result
  | none => plan.next id

/-- A walk may go from one node to the other. -/
def MayFollow (plan : Plan) (a b : String) : Prop := ∃ result, plan.routeFor a result = .node b

theorem routeAfter_eq (plan : Plan) (id : String) (state : State) :
    Walk.routeAfter plan id state = plan.routeFor id (Walk.resultOf state id) := rfl

end Plan

theorem Route.ofTarget?_eq_node {target? : Option String} {id : String} :
    Route.ofTarget? target? = .node id ↔ target? = some id := by
  cases target? <;> simp [Route.ofTarget?]

theorem Router.mem_targets_of_route {router : Router} {result : Bool} {id : String}
    (chosen : router.route result = .node id) : id ∈ router.targets := by
  have first := Route.ofTarget?_eq_node.mp chosen
  have either : id ∈ router.branch result ∨ id ∈ router.branch (!result) := by
    rw [Option.orElse_eq_orElse, Option.orElse_eq_or, Option.or_eq_some_iff] at first
    rcases first with found | ⟨_, found⟩
    · exact .inl (List.mem_of_head? found)
    · exact .inr (List.mem_of_head? found)
  cases result <;> simp only [branch, targets, List.mem_append] at either ⊢ <;> tauto

theorem Router.mem_targets_ofConnections {node id : String} {outgoing : List Connection}
    (member : id ∈ (Router.ofConnections node outgoing).targets) :
    ∃ c ∈ outgoing, c.target = id := by
  rcases List.mem_append.mp member with onTrue | onFalse
  · obtain ⟨c, kept, same⟩ := List.mem_map.mp onTrue
    exact ⟨c, (List.mem_filter.mp kept).1, same⟩
  · obtain ⟨c, kept, same⟩ := List.mem_map.mp onFalse
    exact ⟨c, (List.mem_filter.mp kept).1, same⟩

namespace Plan

theorem leads_of_mayFollow {plan : Plan} {a b : String} (follow : plan.MayFollow a b) :
    plan.Leads a b := by
  obtain ⟨result, route⟩ := follow
  rw [routeFor] at route
  cases found : plan.router? a with
  | some router =>
      rw [found] at route
      exact .inr ⟨router, found, Router.mem_targets_of_route route⟩
  | none =>
      rw [found] at route
      exact .inl (Route.ofTarget?_eq_node.mp route)

section Compiled

variable {graph : Graph} {plan : Plan} (compiled : compile graph = .ok plan)
include compiled

theorem mem_rewritten (pair : String × String) :
    pair ∈ plan.rewritten ↔ pair ∈ (Resolution.redirected graph).rewritten := by
  rw [rewritten_compiled compiled, Resolution.ofGraph, List.mem_eraseDups]

/-- A plain edge is a connection as written, or a redirected one. -/
theorem edge_cases {a b : String} (edge : plan.edges.get? a = some b) :
    graph.Leads a b ∨ (∃ consumer, (a, consumer) ∈ plan.rewritten) ∧
      ∃ consumer, b ∈ Resolution.producers graph (Resolution.written graph) consumer := by
  rw [edges_compiled compiled] at edge
  obtain ⟨_, c, first, after, moved, rfl⟩ := Resolution.first_of_edge graph edge
  obtain ⟨source, leads⟩ := graph.leads_of_first? first
  rcases moved with rfl | ⟨_, recorded, next, detour, rfl⟩
  · exact .inl leads
  · have pair : (a, c.target) ∈ plan.rewritten := by
      rw [mem_rewritten compiled, ← source]
      exact recorded
    exact .inr ⟨⟨_, pair⟩, _, Resolution.mem_of_detour? detour⟩

theorem leads_of_target {a b : String} {router : Router} (found : plan.router? a = some router)
    (member : b ∈ router.targets) : graph.Leads a b := by
  rw [router?_compiled compiled] at found
  split at found
  · cases found
    obtain ⟨c, left, same⟩ := Router.mem_targets_ofConnections member
    obtain ⟨present, source⟩ := List.mem_filter.mp left
    exact ⟨c, present, of_decide_eq_true source, same⟩
  · cases found

theorem mem_ids_of_leads {a b : String} (leads : plan.Leads a b) : b ∈ graph.ids := by
  have written : graph.Leads a b → b ∈ graph.ids := by
    rintro ⟨c, present, _, rfl⟩
    exact (graph.joined c present).2
  rcases leads with edge | ⟨router, found, member⟩
  · rcases edge_cases compiled edge with leads | ⟨_, _, member⟩
    · exact written leads
    · obtain ⟨node, present, rfl, _⟩ := (Resolution.mem_producers graph _ _ b).mp member
      exact List.mem_map_of_mem present
  · exact written (leads_of_target compiled found member)

/-- Without loops of connections, a plan has none exactly if no redirected edge leads to a node
from which the plan leads back to its source.  The guard of a redirection looks for the way back
over plain edges only; this is the same condition with the routers. -/
theorem acyclic_iff_no_way_back (acyclic : Acyclic graph.Leads) :
    Acyclic plan.Leads ↔ ∀ source consumer target, (source, consumer) ∈ plan.rewritten →
      plan.edges.get? source = some target → ¬ ReflTransGen plan.Leads target source := by
  constructor
  · intro noLoop source consumer target _ edge back
    exact noLoop source (TransGen.head' (.inl edge) back)
  · intro noWay
    -- every step is a connection or a redirected edge, and the latter lie on no loop
    refine acyclic_of_steps_off_loops acyclic fun a b step => ?_
    rcases step with edge | ⟨router, found, member⟩
    · rcases edge_cases compiled edge with leads | ⟨⟨consumer, recorded⟩, _⟩
      · exact .inl leads
      · exact .inr (noWay a consumer b recorded edge)
    · exact .inl (leads_of_target compiled found member)

end Compiled

end Plan

end ChatFlow
