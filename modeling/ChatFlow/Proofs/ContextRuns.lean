import ChatFlow.Proofs.DedicatedProducers

/-!
# Runs along context producers

What a graph with dedicated producers resolves to: the producers of an ai-call node are chained in
front of it, and its input nodes lead to the first of them.  A walk that comes to an input node
follows the chain to its end, as no node of it decides where to go.
-/

set_option autoImplicit false

namespace ChatFlow

open Relation (TransGen ReflTransGen)

namespace Resolution

section Dedicated

variable {graph : Graph} (acyclic : Acyclic graph.PlainlyLeads) (dedicated : graph.Dedicated)
include acyclic dedicated

theorem redirected_detoured :
    (redirected graph).edges = (written graph).map (detoured graph (consumers graph)) ∧
      ∀ source name, (source, name) ∈ (redirected graph).rewritten ↔
        graph.kind? name = some .aiCall ∧ graph.PlainlyLeads source name ∧
          (detour? graph (graph.contextProducers name) source).isSome = true := by
  have heading : Heading graph (written graph) := fun a b linked =>
    .inl ((linked_written graph a b).mp linked)
  obtain ⟨edges, recorded⟩ := redirectAll_detoured (Graph.heads_acyclic dedicated acyclic)
    (consumers graph) (written graph) (consumers_nodup graph)
    (fun _ => kind_of_mem_consumers graph) heading fun name _ => producers_written graph name
  refine ⟨edges, fun source name => ?_⟩
  rw [redirected, recorded, linked_written]
  exact and_congr_left' ⟨kind_of_mem_consumers graph, mem_consumers graph⟩

/-- The plain edge of a node is its first connection, with the detour taken if there is one. -/
theorem edge_detoured {id : String} {c : Connection}
    (plain : graph.kind? id ≠ some .conditional) (first : graph.first? id = some c) :
    (ofGraph graph).edges.get? id =
      some (detoured graph (consumers graph) (edgeOf c)).target := by
  have sources : (fun e : Edge => decide (e.source = id)) ∘ detoured graph (consumers graph) =
      fun e => decide (e.source = id) := by
    funext e
    simp only [Function.comp_apply, detoured_source]
  rw [ofGraph, get?_firstTargets_links, (redirected_detoured acyclic dedicated).1, List.find?_map,
    sources, find?_written, if_neg plain, first]
  rfl

variable {consumer : String} (kind : graph.kind? consumer = some .aiCall)
include kind

theorem edge_of_detour {id : String} {c : Connection} (plain : graph.kind? id ≠ some .conditional)
    (first : graph.first? id = some c) (target : c.target = consumer) :
    (ofGraph graph).edges.get? id =
      some ((detour? graph (graph.contextProducers consumer) id).getD consumer) := by
  obtain ⟨source, _⟩ := graph.leads_of_first? first
  have member : c.target ∈ consumers graph := by
    rw [target]
    exact mem_consumers graph kind
  have same : detourOf? graph (edgeOf c) =
      detour? graph (graph.contextProducers consumer) id := by
    rw [detourOf?, ← target, ← source]
    rfl
  rw [edge_detoured acyclic dedicated plain first, ← same]
  cases found : detourOf? graph (edgeOf c) with
  | none =>
      rw [detoured_of_none fun _ => found]
      exact congrArg some target
  | some next => rw [detoured_of_detour member found, Option.getD_some]

theorem producers_chained :
    (graph.contextProducers consumer ++ [consumer]).IsChain
      (fun a b => (ofGraph graph).edges.get? a = some b) := by
  refine isChain_of_next _ _ fun before name after order => ?_
  have distinct := order ▸ graph.contextProducers_nodup consumer
  have serves : graph.Serves name consumer := ⟨kind, by simp [order]⟩
  obtain ⟨c, first, target⟩ := serves.first? dedicated
  rw [edge_of_detour acyclic dedicated kind serves.leads.2 first target, order,
    detour?_producer graph distinct]

/-- An input node leads to the first producer, or to the ai-call node if there is none. -/
theorem edge_of_input {input : String} {c : Connection} (isInput : graph.IsInput input)
    (first : graph.first? input = some c) (target : c.target = consumer) :
    (ofGraph graph).edges.get? input =
      some ((graph.contextProducers consumer).head?.getD consumer) := by
  rw [edge_of_detour acyclic dedicated kind isInput.not_conditional first target,
    detour?_input graph isInput]

end Dedicated

theorem isSome_detour? (graph : Graph) (consumer source : String) :
    (detour? graph (graph.contextProducers consumer) source).isSome = true ↔
      (graph.IsInput source ∧ graph.contextProducers consumer ≠ []) ∨
        source ∈ (graph.contextProducers consumer).dropLast := by
  rw [Option.isSome_iff_exists]
  simp only [detour?_eq_some]
  constructor
  · rintro ⟨next, ⟨isInput, order⟩ | ⟨order⟩⟩
    · exact .inl ⟨isInput, by simp [order]⟩
    · exact .inr (by simp [order])
  · rintro (⟨isInput, nonempty⟩ | kept)
    · obtain ⟨head, rest, order⟩ := List.exists_cons_of_ne_nil nonempty
      exact ⟨head, .first isInput order⟩
    · -- all but the last one have one after them
      obtain ⟨before, after, order⟩ := List.append_of_mem kept
      have nonempty := List.ne_nil_of_mem (List.dropLast_subset _ kept)
      obtain ⟨next, rest, others⟩ :=
        List.exists_cons_of_ne_nil (List.concat_ne_nil (List.getLast _ nonempty) after)
      have split : graph.contextProducers consumer = before ++ source :: next :: rest := by
        rw [← others, ← List.cons_append, ← List.append_assoc, ← order,
          List.dropLast_concat_getLast]
      exact ⟨next, .following split⟩

end Resolution

/-! ## Walks along a chain -/

namespace Walk

variable {World : Type} {plan : Plan} {registry : Registry World}

/-- A walk that comes to an end has followed every chain of plain edges on which it came. -/
theorem Passes.follows {start last : Point World} {visits : List (Visit World)}
    (passes : Passes plan registry start visits last) (ended : last.route = .finish)
    (first : String) (path : List String) (route : start.route = .node first)
    (chain : (first :: path).IsChain (fun a b => plan.edges.get? a = some b))
    (routerless : ∀ id ∈ (first :: path).dropLast, plan.router? id = none) :
    first :: path <+: visits.map Visit.id := by
  induction path generalizing start visits first with
  | nil =>
      cases passes with
      | done =>
          rw [route] at ended
          cases ended
      | @step _ _ visit rest here _ _ =>
          cases here.route.symm.trans route
          exact ⟨rest.map Visit.id, rfl⟩
  | cons next path ih =>
      cases passes with
      | done =>
          rw [route] at ended
          cases ended
      | @step _ _ visit rest here _ later =>
          cases here.route.symm.trans route
          obtain ⟨edge, chainRest⟩ := List.isChain_cons_cons.mp chain
          have here_plain : plan.router? visit.id = none := routerless visit.id (by simp)
          have onward : (visit.after plan).route = .node next := by
            rw [Visit.after, Plan.routeAfter_eq, Plan.routeFor, here_plain, Plan.next, edge]
            rfl
          have plainRest : ∀ id ∈ (next :: path).dropLast, plan.router? id = none :=
            fun id member => routerless id (by simp [member])
          rw [List.map_cons, List.cons_prefix_cons]
          exact ⟨rfl, ih later next onward chainRest plainRest⟩

end Walk

section Dedicated

variable {graph : Graph} (acyclic : Acyclic graph.PlainlyLeads) (dedicated : graph.Dedicated)
  {plan : Plan} (compiled : Plan.compile graph = .ok plan)
include acyclic dedicated compiled

theorem chain_through_producers {input consumer : String} {c : Connection}
    (isInput : graph.IsInput input) (first : graph.first? input = some c)
    (target : c.target = consumer) (kind : graph.kind? consumer = some .aiCall) :
    (input :: (graph.contextProducers consumer ++ [consumer])).IsChain
      (fun a b => plan.edges.get? a = some b) := by
  rw [Plan.edges_compiled compiled, List.isChain_cons]
  refine ⟨fun next member => ?_, Resolution.producers_chained acyclic dedicated kind⟩
  have head : (graph.contextProducers consumer ++ [consumer]).head? =
      some ((graph.contextProducers consumer).head?.getD consumer) := by
    cases graph.contextProducers consumer <;> rfl
  rw [head, Option.mem_some_iff] at member
  rw [Resolution.edge_of_input acyclic dedicated kind isInput first target, member]

/-- After a visit of an input node that leads to an ai-call node come the visits of all producers
of that node and of the node itself. -/
theorem visits_through_producers {World : Type} {registry : Registry World}
    {start last : Walk.Point World} {before after : List (Walk.Visit World)}
    {visit : Walk.Visit World}
    (passes : Walk.Passes plan registry start (before ++ visit :: after) last)
    (ended : last.route = .finish) {consumer : String} {c : Connection}
    (isInput : graph.IsInput visit.id) (first : graph.first? visit.id = some c)
    (target : c.target = consumer) (kind : graph.kind? consumer = some .aiCall) :
    graph.contextProducers consumer ++ [consumer] <+: after.map Walk.Visit.id := by
  obtain ⟨middle, _, onward⟩ := passes.split
  have chain := chain_through_producers acyclic dedicated compiled isInput first target kind
  have route : middle.route = .node visit.id := by
    cases onward with
    | step here _ _ => exact here.route
  have followed := onward.follows ended visit.id _ route chain ?_
  · rw [List.map_cons, List.cons_prefix_cons] at followed
    exact followed.2
  · -- no node on the way has a router
    intro id member
    have places : id = visit.id ∨ id ∈ graph.contextProducers consumer := by
      simpa [List.dropLast_cons_of_ne_nil] using member
    rcases places with rfl | producer
    · exact Plan.router?_eq_none compiled isInput.not_conditional
    · exact Plan.router?_eq_none compiled (graph.exists_first?_of_producer producer).1

end Dedicated

/-- In a graph with dedicated producers the producers of every ai-call node are chained in front
of it, input nodes lead to the first of them, and nothing else is rewritten.  So a walk that ends
without a failure visits all producers and then the ai-call node whenever it comes to an input
node of which the first connection goes to the ai-call node. -/
theorem dedicated_producers_run_in_order {graph : Graph} (acyclic : Acyclic graph.PlainlyLeads)
    (dedicated : graph.Dedicated) :
    let resolution := Resolution.ofGraph graph
    (∀ consumer, graph.kind? consumer = some .aiCall → graph.contextProducers consumer ≠ [] →
      (graph.contextProducers consumer ++ [consumer]).IsChain
          (fun a b => resolution.edges.get? a = some b) ∧
        ∀ input c, graph.IsInput input → graph.first? input = some c → c.target = consumer →
          resolution.edges.get? input = (graph.contextProducers consumer).head?) ∧
    (∀ source consumer, (source, consumer) ∈ resolution.rewritten ↔
      graph.kind? consumer = some .aiCall ∧
        ((graph.IsInput source ∧ graph.Leads source consumer ∧
            graph.contextProducers consumer ≠ []) ∨
          source ∈ (graph.contextProducers consumer).dropLast)) ∧
    (∀ plan, Plan.compile graph = .ok plan → ∀ (World : Type) (executor : Executor World)
      (state : State) (world : World) (answer : State) (visits : List (Walk.Visit World)),
      Walk.Ends plan executor.registry (executor.budget plan.size)
        (Executor.start plan state world) visits (.ok answer) →
      (∀ visit ∈ visits, visit.processed.failure = none) →
      ∀ (before after : List (Walk.Visit World)) (visit : Walk.Visit World) (consumer : String)
        (c : Connection), visits = before ++ visit :: after →
      graph.IsInput visit.id → graph.first? visit.id = some c → c.target = consumer →
      graph.kind? consumer = some .aiCall →
      graph.contextProducers consumer ++ [consumer] <+: after.map Walk.Visit.id) := by
  intro resolution
  refine ⟨fun consumer kind nonempty => ⟨?_, fun input c isInput first target => ?_⟩,
    fun source consumer => ?_, ?_⟩
  · exact Resolution.producers_chained acyclic dedicated kind
  · obtain ⟨head, rest, order⟩ := List.exists_cons_of_ne_nil nonempty
    rw [Resolution.edge_of_input acyclic dedicated kind isInput first target, order]
    rfl
  · change (source, consumer) ∈ (Resolution.redirected graph).rewritten.eraseDups ↔ _
    rw [List.mem_eraseDups,
      (Resolution.redirected_detoured acyclic dedicated).2, Resolution.isSome_detour?]
    refine and_congr_right fun kind => ?_
    constructor
    · rintro ⟨leads, ⟨isInput, nonempty⟩ | producer⟩
      · exact .inl ⟨isInput, leads.1, nonempty⟩
      · exact .inr producer
    · rintro (⟨isInput, leads, nonempty⟩ | producer)
      · exact ⟨⟨leads, isInput.not_conditional⟩, .inl ⟨isInput, nonempty⟩⟩
      · have serves : graph.Serves source consumer := ⟨kind, List.dropLast_subset _ producer⟩
        exact ⟨serves.leads, .inr producer⟩
  · rintro plan compiled World executor state world answer visits ends successes before after visit
      consumer c rfl isInput first target kind
    cases ends with
    | answered completes _ =>
        obtain ⟨last, passes, ended⟩ := completes.passes_of_successes successes
        exact visits_through_producers acyclic dedicated compiled passes ended isInput first target
          kind

theorem twoProducers_chained :
    Acyclic Plan.twoProducers.PlainlyLeads ∧ Plan.twoProducers.Dedicated ∧
      ["rag", "sheet", "llm"].IsChain
        (fun a b => (Resolution.ofGraph Plan.twoProducers).edges.get? a = some b) := by
  have silent : Plan.twoProducers.cycle? = none := rfl
  have acyclic : Acyclic Plan.twoProducers.PlainlyLeads :=
    ((Plan.twoProducers.cycle?_eq_none).mp silent).mono fun _ _ step => step.1
  have dedicated : Plan.twoProducers.Dedicated := by
    rintro id consumer ⟨_, member⟩
    obtain ⟨kind, c, present, rfl, _, role⟩ :=
      (Plan.twoProducers.mem_contextProducers consumer id).mp member
    have every : ∀ c ∈ Plan.twoProducers.connections,
        (Plan.twoProducers.outgoing c.source).length = 1 := by decide
    exact every c present
  have order := dedicated_producers_run_in_order acyclic dedicated
  exact ⟨acyclic, dedicated, (order.1 "llm" rfl (by decide)).1⟩

end ChatFlow
