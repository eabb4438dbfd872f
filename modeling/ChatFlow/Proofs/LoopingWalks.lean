import ChatFlow.Proofs.CycleSearch
import ChatFlow.Proofs.PlanRoutes
import ChatFlow.Proofs.WalkRuns

/-!
# Walks that never end

A walk spends its whole budget exactly if it can be led around a loop of routes that starts in
reach of the entry.  The budget is at least the number of nodes, so whoever spends it meets a node
twice; and whoever decides at every conditional node for the branch that stays in reach of a loop
never comes to an end.
-/

set_option autoImplicit false

namespace ChatFlow

open Relation (TransGen ReflTransGen)

namespace Walk

variable {World : Type} {plan : Plan} {registry : Registry World} {start last : Point World}
  {visits : List (Visit World)}

/-- The nodes of a stretch of a walk and the one it leads to are a path of routes. -/
theorem Passes.path (passes : Passes plan registry start visits last) {id : String}
    (route : last.route = .node id) :
    (visits.map Visit.id ++ [id]).IsChain plan.MayFollow ∧
      ∃ first, start.route = .node first ∧ (visits.map Visit.id ++ [id]).head? = some first := by
  induction passes with
  | done point => exact ⟨List.isChain_singleton id, id, route, rfl⟩
  | @step point last visit rest here _ _ ih =>
      obtain ⟨chain, next, onward, head⟩ := ih route
      refine ⟨?_, visit.id, here.route, rfl⟩
      rw [List.map_cons, List.cons_append, List.isChain_cons]
      refine ⟨fun following member => ?_, chain⟩
      rw [head, Option.mem_some_iff] at member
      exact member ▸ ⟨resultOf visit.processed.state visit.id, onward⟩

end Walk

/-! ## A spent budget means a loop -/

/-- The plan has a loop of routes that a walk may come to. -/
def Plan.MayLoop (plan : Plan) : Prop :=
  ∃ a, ReflTransGen plan.MayFollow plan.entry a ∧ TransGen plan.MayFollow a a

theorem Plan.mem_names_of_contains {plan : Plan} {id : String} (known : plan.contains id = true) :
    id ∈ plan.nodes.names := by
  obtain ⟨node, found⟩ := Option.isSome_iff_exists.mp known
  exact List.mem_map.mpr ⟨(id, node), Keyed.mem_of_get? plan.nodes found, rfl⟩

/-- A budget of at least one visit for each node is spent only on a loop. -/
theorem Executor.mayLoop_of_cyclicGraph {World : Type} (executor : Executor World) {plan : Plan}
    {state : State} {world : World} {id : String} {spent : Nat}
    (enough : plan.size ≤ executor.budget plan.size)
    (outcome : (executor.execute plan state world).outcome = .error (.cyclicGraph id spent)) :
    plan.MayLoop := by
  obtain ⟨visits, ends⟩ := (executor.execute_iff_ends plan state world _).mp outcome
  cases ends with
  | exhausted passes all route known =>
      obtain ⟨chain, first, entry, head⟩ := passes.path route
      have inside : ∀ a ∈ visits.map Walk.Visit.id ++ [id], a ∈ plan.nodes.names := by
        intro a member
        rcases List.mem_append.mp member with visited | last
        · obtain ⟨visit, present, rfl⟩ := List.mem_map.mp visited
          exact Plan.mem_names_of_contains (passes.contains visit present)
        · rw [List.mem_singleton.mp last]
          exact Plan.mem_names_of_contains known
      -- the path has one place more than the budget has visits, hence more than there are nodes
      have long : plan.nodes.names.length < (visits.map Walk.Visit.id ++ [id]).length := by
        simp only [Keyed.names, List.length_map, List.length_append, List.length_singleton, all]
        exact Nat.lt_succ_of_le enough
      obtain ⟨a, member, loop⟩ := exists_loop_of_long_path _ _ chain inside long
      obtain ⟨rest, path⟩ := List.head?_eq_some_iff.mp head
      rw [path] at chain member
      cases entry
      exact ⟨a, reach_of_mem_path _ rest chain a member, loop⟩

/-! ## A loop spends every budget -/

/-- A processor that does nothing but decide, for each node in a fixed way. -/
def Processor.deciding (choice : String → Bool) : Processor Unit :=
  ⟨"deciding", fun node state world =>
    .done { state with
      conditionResults := state.conditionResults.put node.id (choice node.id) } .empty world,
    fun _ _ _ => ⟨rfl, rfl, rfl⟩⟩

def Registry.deciding (choice : String → Bool) : Registry Unit :=
  .forEvery fun _ => Processor.deciding choice

namespace Plan

/-- From every node in reach of a loop there is a decision after which it stays in reach. -/
theorem exists_staying {plan : Plan} (a : String) (loop : TransGen plan.MayFollow a a) :
    ∃ choice : String → Bool, ∀ id, ReflTransGen plan.MayFollow id a →
      ∃ next, plan.routeFor id (choice id) = .node next ∧ ReflTransGen plan.MayFollow next a := by
  have decision : ∀ id, ∃ result, ReflTransGen plan.MayFollow id a →
      ∃ next, plan.routeFor id result = .node next ∧ ReflTransGen plan.MayFollow next a := by
    intro id
    by_cases near : ReflTransGen plan.MayFollow id a
    · obtain ⟨next, ⟨result, route⟩, back⟩ := exists_step_toward_loop loop near
      exact ⟨result, fun _ => ⟨next, route, back⟩⟩
    · exact ⟨false, fun path => absurd path near⟩
  exact ⟨fun id => (decision id).choose, fun id => (decision id).choose_spec⟩

section Compiled

variable {graph : Graph} {plan : Plan} (compiled : compile graph = .ok plan)
include compiled

theorem exists_deciding_visit (choice : String → Bool) {point : Walk.Point Unit} {id : String}
    (route : point.route = .node id) (known : plan.contains id = true) :
    ∃ visit : Walk.Visit Unit, visit.At plan (.deciding choice) point ∧
      visit.processed.failure = none ∧
      (visit.after plan).route = plan.routeFor id (choice id) := by
  obtain ⟨node, found⟩ := Option.isSome_iff_exists.mp known
  have same := id_of_node? compiled found
  have registered := Registry.get?_forEvery (fun _ => Processor.deciding choice) node.kind
  let processed := (Processor.deciding choice).process node (point.state.record node.kind.tag)
    point.world
  have result : Walk.resultOf processed.state id = choice id := by
    have recorded := Keyed.get?_put_self point.state.conditionResults id (choice id)
    change ((point.state.conditionResults.put node.id (choice node.id)).get? id).getD false = _
    rw [same, recorded, Option.getD_some]
  refine ⟨⟨id, node, processed⟩, ⟨route, found, _, registered, rfl⟩, rfl, ?_⟩
  rw [Walk.Visit.after, routeAfter_eq, result]

/-- A walk that is kept in reach of a loop makes as many visits as anybody pays for. -/
theorem exists_long_passes {choice : String → Bool} {a : String}
    (staying : ∀ id, ReflTransGen plan.MayFollow id a →
      ∃ next, plan.routeFor id (choice id) = .node next ∧ ReflTransGen plan.MayFollow next a)
    (visits : Nat) (point : Walk.Point Unit) {id : String} (route : point.route = .node id)
    (known : plan.contains id = true) (near : ReflTransGen plan.MayFollow id a) :
    ∃ made last next, Walk.Passes plan (.deciding choice) point made last ∧
      made.length = visits ∧ last.route = .node next ∧ plan.contains next = true := by
  -- the walk stays in reach of the loop: that is the invariant
  induction visits generalizing point id with
  | zero => exact ⟨[], point, id, .done point, rfl, route, known⟩
  | succ visits ih =>
      obtain ⟨visit, here, success, after⟩ := exists_deciding_visit compiled choice route known
      obtain ⟨next, chosen, still⟩ := staying id near
      have inside : plan.contains next = true := by
        rw [contains_compiled compiled]
        exact mem_ids_of_leads compiled (leads_of_mayFollow ⟨choice id, chosen⟩)
      obtain ⟨made, last, final, passes, count, onward, final_known⟩ :=
        ih (visit.after plan) (after.trans chosen) inside still
      exact ⟨visit :: made, last, final, .step here success passes, congrArg Nat.succ count,
        onward, final_known⟩

/-- If the plan may loop, some processors keep every execution in the loop. -/
theorem exists_looping_registry (loops : plan.MayLoop) :
    ∃ registry : Registry Unit, ∀ factor state, ∃ id budget,
      (((⟨registry, 1⟩ : Executor Unit).withFactor factor).execute plan state ()).outcome =
        .error (.cyclicGraph id budget) := by
  obtain ⟨a, reach, loop⟩ := loops
  obtain ⟨choice, staying⟩ := exists_staying a loop
  refine ⟨.deciding choice, fun factor state => ?_⟩
  let executor : Executor Unit := (⟨.deciding choice, 1⟩ : Executor Unit).withFactor factor
  have known : plan.contains plan.entry = true :=
    (contains_compiled compiled plan.entry).mpr (entry_compiled compiled)
  obtain ⟨made, last, next, passes, count, onward, inside⟩ :=
    exists_long_passes compiled staying (executor.budget plan.size)
      (Executor.start plan state ()) rfl known reach
  exact ⟨next, _, (executor.execute_of_ends (.exhausted passes count onward inside)).1⟩

end Compiled

/-! ## Plans that never loop -/

/-- No execution of the plan is given up as cyclic. -/
def NeverCyclic (plan : Plan) : Prop :=
  ∀ (World : Type) (registry : Registry World) (factor : Nat) (state : State) (world : World)
    (id : String) (budget : Nat),
    (((⟨registry, 1⟩ : Executor World).withFactor factor).execute plan state world).outcome ≠
      .error (.cyclicGraph id budget)

theorem le_budget {World : Type} (registry : Registry World) (factor : Nat) {nodes : Nat}
    (countable : nodes ≤ largestCount) :
    nodes ≤ ((⟨registry, 1⟩ : Executor World).withFactor factor).budget nodes :=
  le_saturatingProduct countable (Nat.le_max_right factor 1)

/-- A graph of which nothing is said about a cycle may still be compiled into a loop, by a
redirected edge from which routers lead back.  Exactly then: the plain edges alone form no loop;
if no redirected edge leads to where the plan comes back to its source, the plan has no loop and
no execution is given up as cyclic, and if one does, the plan has a loop.  Executions are given up
exactly if the choices of routers can lead from the entry into a loop. -/
theorem loop_free_iff_no_way_back {graph : Graph} {plan : Plan}
    (compiled : compile graph = .ok plan) (silent : Validation.cycleEvents graph = [])
    (countable : graph.size ≤ largestCount) :
    Acyclic (fun a b => plan.edges.get? a = some b) ∧
    ((Acyclic plan.Leads ∧ plan.NeverCyclic) ↔
      ∀ source consumer target, (source, consumer) ∈ plan.rewritten →
        plan.edges.get? source = some target → ¬ ReflTransGen plan.Leads target source) ∧
    (plan.NeverCyclic ↔ ¬ plan.MayLoop) := by
  have acyclic := (Validation.cycleEvents_eq_nil graph).mp silent
  have plain : Acyclic graph.PlainlyLeads := acyclic.mono fun a b step => step.1
  have never : plan.NeverCyclic ↔ ¬ plan.MayLoop := by
    constructor
    · intro never loops
      obtain ⟨registry, looping⟩ := exists_looping_registry compiled loops
      obtain ⟨id, budget, outcome⟩ := looping 1 (State.start "" [])
      exact never Unit registry 1 _ () id budget outcome
    · intro apart World registry factor state world id budget outcome
      have enough := le_budget registry factor ((size_compiled compiled).trans_le countable)
      exact apart (Executor.mayLoop_of_cyclicGraph _ enough outcome)
  refine ⟨?_, ?_, never⟩
  · rw [edges_compiled compiled]
    exact Resolution.acyclic_edges graph plain
  · rw [← acyclic_iff_no_way_back compiled acyclic, never]
    refine and_iff_left_of_imp fun noLoop loops => ?_
    obtain ⟨a, _, loop⟩ := loops
    exact noLoop a (TransGen.mono (fun _ _ => leads_of_mayFollow) a a loop)

/-- An input and a retrieval node that both lead to a model, the latter with context. -/
def throughRetrieval : Graph where
  nodes := [⟨"in", .input .text, [], [], []⟩, ⟨"rag", .retrieval, [], [], []⟩,
    ⟨"llm", .aiCall, [], [], []⟩]
  connections := [⟨"c1", "in", "out", .data, "llm", "in", .data⟩,
    ⟨"c2", "rag", "out", .data, "llm", "context", .context⟩]
  nonempty := by decide
  distinct := by decide
  joined := by decide

theorem throughRetrieval_neverCyclic :
    ∃ plan, compile throughRetrieval = .ok plan ∧ plan.rewritten = [("in", "llm")] ∧
      plan.NeverCyclic := by
  obtain ⟨plan, compiled⟩ := exists_compile throughRetrieval
  have rewritten : plan.rewritten = [("in", "llm")] := rewritten_compiled compiled
  have edges : plan.edges = [("in", "rag"), ("rag", "llm")] := edges_compiled compiled
  have routers : plan.routers = [] := routers_compiled compiled
  have loopFree := (loop_free_iff_no_way_back compiled rfl (by decide)).2.1
  refine ⟨plan, compiled, rewritten, (loopFree.mpr ?_).2⟩
  intro source consumer target member edge back
  rw [rewritten] at member
  cases List.mem_singleton.mp member
  -- nothing leads to the input node, and its own edge leads elsewhere
  rcases back.cases_tail with rfl | ⟨a, _, step⟩
  · rw [edges] at edge
    exact absurd edge (by decide)
  · rcases step with last | ⟨router, found, _⟩
    · have member := Keyed.mem_of_get? plan.edges last
      rw [edges] at member
      exact absurd member (by simp)
    · rw [router?, routers] at found
      cases found

/-- A model with a retrieval node as context, behind which a condition leads to the input of the
model. -/
def routedBack : Graph where
  nodes := [⟨"rag", .retrieval, [], [], []⟩, ⟨"check", .conditional, [], [], []⟩,
    ⟨"in", .input .text, [], [], []⟩, ⟨"llm", .aiCall, [], [], []⟩]
  connections := [⟨"c1", "rag", "out", .data, "check", "in", .data⟩,
    ⟨"c2", "check", "true", .onTrue, "in", "in", .data⟩,
    ⟨"c3", "in", "out", .data, "llm", "in", .data⟩,
    ⟨"c4", "rag", "out", .data, "llm", "context", .context⟩]
  nonempty := by decide
  distinct := by decide
  joined := by decide

/-- No path of connections is a loop, yet the input is redirected to the retrieval node and the
walk goes around until the budget is spent. -/
theorem routedBack_loops :
    Validation.cycleEvents routedBack = [] ∧
    ∃ plan, compile routedBack = .ok plan ∧ ¬ Acyclic plan.Leads ∧
      (((⟨.forEvery fun _ => Registry.passing "idle", 1⟩ : Executor Unit).withFactor 1).execute
        plan (State.start "hi" []) ()).outcome = .error (.cyclicGraph "check" 4) := by
  refine ⟨rfl, ?_⟩
  rw [compile_eq]
  refine ⟨_, rfl, fun acyclic => acyclic "in" ?_, rfl⟩
  refine .tail (.tail (.single (.inl rfl : Leads _ "in" "rag")) (.inl rfl : Leads _ _ "check")) ?_
  exact .inr ⟨_, rfl, by decide⟩

end Plan

end ChatFlow
