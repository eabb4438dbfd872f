import ChatFlow.Proofs.FoundCycles
import ChatFlow.Proofs.PlanRoutes

/-!
# What a validation report tells

A report speaks about the graph, and the plan decides what happens.  Here the two are compared: a
warning about branches is given exactly if the router of the node lacks targets for a result, and
what it says about the way on is what the plan does; the warning about a cycle is given exactly if
the connections form one.
-/

set_option autoImplicit false

namespace ChatFlow

/-- Some connection starts or ends at the node. -/
def Graph.Touches (graph : Graph) (id : String) : Prop :=
  ∃ c ∈ graph.connections, c.source = id ∨ c.target = id

/-- The conditional nodes, in declaration order. -/
def Graph.conditionals (graph : Graph) : List String :=
  (graph.nodes.filter (fun node => node.kind = .conditional)).map Node.id

namespace Validation

/-- What a warning says that a conditional node lacks. -/
inductive BranchGap
  | noFalse
  | noTrue
  | neither
  deriving DecidableEq

namespace BranchGap

/-- What is said after the id of the node. -/
def remark : BranchGap → String
  | .noFalse => "' has no false branch; a false result follows the true branch"
  | .noTrue => "' has no true branch; a true result follows the false branch"
  | .neither => "' has no true or false branch wired; the turn ends after it"

def text (gap : BranchGap) (id : String) : String := "Condition node '" ++ id ++ gap.remark

/-- The plan does what the warning says: for want of a branch both results lead to one node, or
both lead to the end. -/
def HoldsIn (plan : Plan) (router : Router) : BranchGap → Prop
  | .noFalse => router.onFalse = [] ∧
    ∃ target, ∀ result, plan.routeFor router.node result = .node target
  | .noTrue => router.onTrue = [] ∧
    ∃ target, ∀ result, plan.routeFor router.node result = .node target
  | .neither => ∀ result, plan.routeFor router.node result = .finish

theorem remark_injective : Function.Injective remark := by
  intro gap other same
  cases gap <;> cases other <;> revert same <;> decide

theorem text_inj {gap other : BranchGap} {id : String} (same : gap.text id = other.text id) :
    gap = other :=
  remark_injective ((String.append_right_inj _).mp same)

end BranchGap

/-- The warnings about the branches of a router say what the plan does. -/
structure Describes (plan : Plan) (router : Router) (warnings : List String) : Prop where
  atMostOne : warnings.length ≤ 1
  given : warnings ≠ [] ↔ router.onTrue = [] ∨ router.onFalse = []
  said : ∀ gap : BranchGap, gap.text router.node ∈ warnings ↔ gap.HoldsIn plan router

theorem describes_singleton {plan : Plan} {router : Router} (gap : BranchGap)
    (lacking : router.onTrue = [] ∨ router.onFalse = [])
    (holds : ∀ other : BranchGap, other.HoldsIn plan router ↔ other = gap) :
    Describes plan router [gap.text router.node] where
  atMostOne := Nat.le_refl 1
  given := iff_of_true (List.cons_ne_nil _ _) lacking
  said := by
    intro other
    rw [holds, List.mem_singleton]
    exact ⟨BranchGap.text_inj, fun same => same ▸ rfl⟩

theorem route_of_onTrue_nil {router : Router} (unwired : router.onTrue = []) (result : Bool) :
    router.route result = Route.ofTarget? router.onFalse.head? := by
  cases result <;> simp [Router.route, Router.branch, unwired]

theorem route_of_onFalse_nil {router : Router} (unwired : router.onFalse = []) (result : Bool) :
    router.route result = Route.ofTarget? router.onTrue.head? := by
  cases result <;> simp [Router.route, Router.branch, unwired]

/-- The roles of the connections that leave a node tell which branches of its router have
targets. -/
theorem contains_role (outgoing : List Connection) (role : PortRole) :
    (outgoing.map Connection.sourceRole).contains role =
      !((outgoing.filter fun c => c.sourceRole = role).map Connection.target).isEmpty := by
  rw [Bool.eq_iff_iff, List.contains_iff_mem]
  simp

theorem describes_branchWarning {plan : Plan} {router : Router} {roles : List PortRole}
    (found : plan.router? router.node = some router)
    (hasTrue : roles.contains .onTrue = !router.onTrue.isEmpty)
    (hasFalse : roles.contains .onFalse = !router.onFalse.isEmpty) :
    Describes plan router (branchWarning router.node roles).toList := by
  have routes : ∀ result, plan.routeFor router.node result = router.route result := by
    intro result
    rw [Plan.routeFor, found]
  rw [branchWarning, hasTrue, hasFalse]
  cases onTrue : router.onTrue with
  | nil =>
      have onward : ∀ result, plan.routeFor router.node result =
          Route.ofTarget? router.onFalse.head? := by
        intro result
        rw [routes, route_of_onTrue_nil onTrue]
      cases onFalse : router.onFalse with
      | nil =>
          refine describes_singleton .neither (.inl onTrue) fun other => ?_
          cases other <;> simp [BranchGap.HoldsIn, onward, onFalse, Route.ofTarget?]
      | cons first rest =>
          refine describes_singleton .noTrue (.inl onTrue) fun other => ?_
          cases other <;> simp [BranchGap.HoldsIn, onward, onTrue, onFalse, Route.ofTarget?]
  | cons first rest =>
      cases onFalse : router.onFalse with
      | nil =>
          have onward : ∀ result, plan.routeFor router.node result =
              Route.ofTarget? router.onTrue.head? := by
            intro result
            rw [routes, route_of_onFalse_nil onFalse]
          refine describes_singleton .noFalse (.inr onFalse) fun other => ?_
          cases other <;> simp [BranchGap.HoldsIn, onward, onTrue, onFalse, Route.ofTarget?]
      | cons second more =>
          have goesOn : plan.routeFor router.node true = .node first := by
            simp [routes, Router.route, Router.branch, onTrue, Route.ofTarget?]
          refine ⟨Nat.zero_le 1, by simp [onTrue, onFalse], fun gap => ?_⟩
          cases gap <;> simp [BranchGap.HoldsIn, onTrue, onFalse, goesOn]

theorem forall₂_branchWarnings {graph : Graph} {plan : Plan}
    (compiled : Plan.compile graph = .ok plan) :
    ∃ parts, branchWarnings graph = List.flatten parts ∧
      List.Forall₂ (fun id warnings => ∃ router, plan.router? id = some router ∧
        router.node = id ∧ Describes plan router warnings) graph.conditionals parts := by
  refine ⟨(graph.nodes.filter (fun node => node.kind = .conditional)).map fun node =>
    (branchWarning node.id ((graph.outgoing node.id).map Connection.sourceRole)).toList,
    by rw [branchWarnings, List.filterMap_eq_flatMap_toList, List.flatMap_def], ?_⟩
  rw [Graph.conditionals, List.forall₂_map_left_iff, List.forall₂_map_right_iff,
    List.forall₂_same]
  intro node kept
  obtain ⟨present, conditional⟩ := List.mem_filter.mp kept
  have found : plan.router? node.id =
      some (Router.ofConnections node.id (graph.outgoing node.id)) := by
    rw [Plan.router?_compiled compiled, graph.kind?_of_mem present, of_decide_eq_true conditional,
      if_pos rfl]
  exact ⟨_, found, rfl,
    describes_branchWarning found (contains_role _ .onTrue) (contains_role _ .onFalse)⟩

/-! ## Issues -/

theorem missingKinds_eq_nil (graph : Graph) :
    missingKinds graph = [] ↔
      (∃ node ∈ graph.nodes, node.kind.isInput = true) ∧
      (∃ node ∈ graph.nodes, node.kind.isOutput = true) ∧
      ∃ node ∈ graph.nodes, node.kind = .aiCall := by
  simp [missingKinds, Graph.hasKind]

theorem missingKinds_sublist (graph : Graph) :
    (missingKinds graph).Sublist
      ["Workflow needs an input node (text-input or voice-input)",
        "Workflow needs an output node (text-output or voice-output)",
        "Workflow needs an AI model node"] := by
  have optional : ∀ (given : Bool) (issue : String),
      (if given then [] else [issue]).Sublist [issue] := by
    intro given issue
    cases given with
    | true => exact List.nil_sublist [issue]
    | false => exact List.Sublist.refl [issue]
  exact ((optional _ _).append (optional _ _)).append (optional _ _)

theorem isTouched_iff (graph : Graph) (id : String) :
    isTouched graph id = true ↔ graph.Touches id := by
  simp [isTouched, Graph.Touches]

theorem mem_orphans (graph : Graph) (id : String) :
    id ∈ orphans graph ↔ id ∈ graph.ids ∧ ¬ graph.Touches id := by
  rw [orphans, List.mem_filter, ← isTouched_iff]
  simp

theorem size_le_one (graph : Graph) : graph.size ≤ 1 ↔ graph.size = 1 := by
  have some : 0 < graph.size := List.length_pos_of_ne_nil graph.nonempty
  omega

theorem orphanIssue_eq (graph : Graph) :
    orphanIssue graph =
      if graph.size = 1 ∨ orphans graph = [] then []
      else ["Orphan nodes (not connected): [" ++
        Text.joined ", " ((orphans graph).map fun id => "'" ++ id ++ "'") ++ "]"] := by
  rw [orphanIssue]
  simp only [size_le_one]
  by_cases single : graph.size = 1
  · rw [if_pos single, if_pos (.inl single)]
  · rw [if_neg single]
    cases listed : orphans graph with
    | nil => rw [if_pos (.inr rfl)]
    | cons id rest => rw [if_neg (by simp [single])]

theorem orphanIssue_eq_nil (graph : Graph) :
    orphanIssue graph = [] ↔ graph.size = 1 ∨ ∀ id ∈ graph.ids, graph.Touches id := by
  have none : orphans graph = [] ↔ ∀ id ∈ graph.ids, graph.Touches id := by
    rw [List.eq_nil_iff_forall_not_mem]
    simp [mem_orphans]
  rw [orphanIssue_eq, ← none]
  split
  · rename_i settled
    exact iff_of_true rfl settled
  · rename_i unsettled
    exact iff_of_false (List.cons_ne_nil _ _) unsettled

/-! ## The report -/

theorem cycle_of_not_acyclic (graph : Graph) (cyclic : ¬ Acyclic graph.Leads) :
    ∃ cycle, IsCycle graph.Leads cycle ∧ (cycleEvents graph).map Event.text =
      ["Cyclic connection detected: " ++ Text.joined " -> " cycle] := by
  cases found : graph.cycle? with
  | none => exact absurd (graph.cycle?_eq_none.mp found) cyclic
  | some cycle =>
      refine ⟨cycle, graph.isCycle_of_cycle? found, ?_⟩
      rw [cycleEvents, found]
      rfl

/-- A report agrees with the plan.  It is valid exactly if no kind of node is missing and every
node is an end of some connection, or is the only node; otherwise it lists the nodes that are not.
Of every conditional node there is one warning at most, given for want of a branch, that says where
the plan leads instead.  After these comes a warning about a cycle exactly if connections form
one, and it shows one. -/
theorem report_agrees_with_plan (graph : Graph) :
    let report := report graph
    ∃ plan, Plan.compile graph = .ok plan ∧
      (report.valid = true ↔
        (∃ node ∈ graph.nodes, node.kind.isInput = true) ∧
        (∃ node ∈ graph.nodes, node.kind.isOutput = true) ∧
        (∃ node ∈ graph.nodes, node.kind = .aiCall) ∧
        (graph.size = 1 ∨ ∀ id ∈ graph.ids, graph.Touches id)) ∧
      (∃ missing untouched : List String,
        missing.Sublist ["Workflow needs an input node (text-input or voice-input)",
          "Workflow needs an output node (text-output or voice-output)",
          "Workflow needs an AI model node"] ∧
        untouched.Sublist graph.ids ∧
        (∀ id, id ∈ untouched ↔ id ∈ graph.ids ∧ ¬ graph.Touches id) ∧
        report.issues = missing ++
          if graph.size = 1 ∨ untouched = [] then []
          else ["Orphan nodes (not connected): [" ++
            Text.joined ", " (untouched.map fun id => "'" ++ id ++ "'") ++ "]"]) ∧
      ∃ (branches : List (List String)) (cycles : List String),
        report.warnings = branches.flatten ++ cycles ∧
        List.Forall₂ (fun id warnings => ∃ router, plan.router? id = some router ∧
          router.node = id ∧ Describes plan router warnings) graph.conditionals branches ∧
        (Acyclic graph.Leads → cycles = []) ∧
        (¬ Acyclic graph.Leads → ∃ cycle, IsCycle graph.Leads cycle ∧
          cycles = ["Cyclic connection detected: " ++ Text.joined " -> " cycle]) := by
  intro report
  obtain ⟨plan, compiled⟩ := Plan.exists_compile graph
  obtain ⟨branches, together, described⟩ := forall₂_branchWarnings compiled
  refine ⟨plan, compiled, ?_, ?_, branches, (cycleEvents graph).map Event.text, ?_, described,
    ?_, cycle_of_not_acyclic graph⟩
  · have valid : report.valid = true ↔ missingKinds graph = [] ∧ orphanIssue graph = [] := by
      rw [ValidationReport.valid, List.isEmpty_iff]
      exact List.append_eq_nil_iff
    rw [valid, missingKinds_eq_nil, orphanIssue_eq_nil]
    simp only [and_assoc]
  · refine ⟨missingKinds graph, orphans graph, missingKinds_sublist graph, List.filter_sublist,
      mem_orphans graph, ?_⟩
    rw [← orphanIssue_eq]
    rfl
  · rw [← together]
    rfl
  · intro acyclic
    rw [(cycleEvents_eq_nil graph).mpr acyclic, List.map_nil]

end Validation

end ChatFlow
