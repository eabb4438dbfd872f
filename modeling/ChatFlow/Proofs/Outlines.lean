import ChatFlow.Proofs.PlanEdges

/-!
# Outlines of graphs

The outline of a graph: the ids and kinds of its nodes, and of each connection which nodes it
joins and the roles of the ports at its ends.  Options, port lists, labels and the ids of ports
and connections are not part of it.  The compiler reads the outline only.  Each of its parts is
shown to be the same for two graphs with the same outline; redirection needs no more than the
outlines of the nodes, so it does not see what leaves a conditional node.
-/

set_option autoImplicit false

namespace ChatFlow

def Node.outline (node : Node) : String × NodeKind := (node.id, node.kind)

/-- The ends of a connection, each with the role of its port. -/
def Connection.outline (c : Connection) : (String × PortRole) × (String × PortRole) :=
  ((c.source, c.sourceRole), (c.target, c.targetRole))

structure Graph.SameOutline (graph other : Graph) : Prop where
  nodes : graph.nodes.map Node.outline = other.nodes.map Node.outline
  connections :
    graph.connections.map Connection.outline = other.connections.map Connection.outline

/-- The graph without the connections that leave conditional nodes. -/
def Graph.withoutBranches (graph : Graph) : Graph :=
  { graph with
    connections := graph.connections.filter (fun c => graph.kind? c.source ≠ some .conditional)
    joined := fun c member => graph.joined c (List.mem_filter.mp member).1 }

/-- What is selected and taken from items by their outlines depends on the outlines alone. -/
theorem map_filter_of_outlines {α β γ : Type} {outline : α → β} {items others : List α}
    (same : items.map outline = others.map outline) (choice : β → Bool) (part : β → γ) :
    (items.filter (fun item => choice (outline item))).map (fun item => part (outline item)) =
      (others.filter (fun item => choice (outline item))).map
        (fun item => part (outline item)) := by
  have onOutlines : ∀ items : List α,
      (items.filter (fun item => choice (outline item))).map (fun item => part (outline item)) =
        ((items.map outline).filter choice).map part := by
    intro items
    rw [List.filter_map, List.map_map]
    rfl
  rw [onOutlines, onOutlines, same]

/-! ## What depends on the nodes -/

section Nodes

variable {graph other : Graph} (nodes : graph.nodes.map Node.outline = other.nodes.map Node.outline)
include nodes

theorem Graph.kind?_of_outlines : graph.kind? = other.kind? := by
  funext id
  have onOutlines : ∀ graph : Graph, graph.kind? id =
      ((graph.nodes.map Node.outline).find? (fun outline => outline.1 = id)).map (·.2) := by
    intro graph
    rw [List.find?_map, Option.map_map]
    rfl
  rw [onOutlines, onOutlines, nodes]

theorem Graph.size_of_outlines : graph.size = other.size := by
  have lengths := congrArg List.length nodes
  rw [List.length_map, List.length_map] at lengths
  exact lengths

namespace Resolution

theorem consumers_of_outlines : consumers graph = consumers other :=
  map_filter_of_outlines nodes (fun outline => outline.2 = .aiCall) (·.1)

theorem producers_of_outlines : producers graph = producers other := by
  funext edges consumer
  have ofKind : ∀ kind : NodeKind,
      (graph.nodes.filter (fun node =>
          node.kind = kind && feedsContext edges consumer node)).map Node.id =
        (other.nodes.filter (fun node =>
          node.kind = kind && feedsContext edges consumer node)).map Node.id := by
    intro kind
    exact map_filter_of_outlines nodes
      (fun outline => outline.2 = kind &&
        edges.any (fun e => e.source = outline.1 && e.target = consumer && e.isContext)) (·.1)
  exact congrArg₂ _ (ofKind .retrieval) (ofKind .spreadsheet)

theorem redirection?_of_outlines : redirection? graph = redirection? other := by
  funext consumer producers edges edge
  have detours : detour? graph producers edge.source = detour? other producers edge.source := by
    rw [detour?, detour?, Graph.kind?_of_outlines nodes]
  rw [redirection?, redirection?, detours]

theorem redirectEdges_of_outlines (consumer : String) (producers : List String)
    (done todo : List Edge) :
    redirectEdges graph consumer producers done todo =
      redirectEdges other consumer producers done todo := by
  induction todo generalizing done with
  | nil => rfl
  | cons edge rest ih =>
      rw [redirectEdges, redirectEdges, redirection?_of_outlines nodes]
      cases redirection? other consumer producers (done ++ edge :: rest) edge with
      | none => exact ih (done ++ [edge])
      | some producer => simp only [ih]

theorem redirectAll_of_outlines (names : List String) (edges : List Edge) :
    redirectAll graph names edges = redirectAll other names edges := by
  induction names generalizing edges with
  | nil => rfl
  | cons consumer rest ih =>
      have first : redirectFor graph edges consumer = redirectFor other edges consumer := by
        rw [redirectFor, redirectFor, producers_of_outlines nodes]
        exact redirectEdges_of_outlines nodes consumer _ [] edges
      rw [redirectAll, redirectAll, first]
      simp only [ih]

/-- Redirection sees the nodes and the edges that are given to it. -/
theorem redirected_of_outlines (edges : written graph = written other) :
    redirected graph = redirected other := by
  rw [redirected, redirected, consumers_of_outlines nodes, edges]
  exact redirectAll_of_outlines nodes (consumers other) (written other)

end Resolution

theorem Plan.exitsOf_of_outlines (edges : Keyed String) :
    exitsOf graph edges = exitsOf other edges :=
  map_filter_of_outlines nodes
    (fun outline => outline.2 ≠ .conditional && !edges.has outline.1) (·.1)

end Nodes

/-! ## What depends on the connections too -/

section Connections

variable {graph other : Graph} (same : graph.SameOutline other)
include same

theorem Resolution.written_of_outline : written graph = written other := by
  rw [written, written, Graph.kind?_of_outlines same.nodes]
  exact map_filter_of_outlines same.connections
    (fun outline => other.kind? outline.1.1 ≠ some .conditional)
    (fun outline => (⟨outline.1.1, outline.2.1, outline.2.2 = .context⟩ : Edge))

theorem Resolution.redirected_of_outline : redirected graph = redirected other :=
  redirected_of_outlines same.nodes (written_of_outline same)

theorem Plan.routersOf_of_outline : routersOf graph = routersOf other := by
  have branch : ∀ (id : String) (role : PortRole),
      ((graph.outgoing id).filter (fun c => c.sourceRole = role)).map Connection.target =
        ((other.outgoing id).filter (fun c => c.sourceRole = role)).map Connection.target := by
    intro id role
    rw [Graph.outgoing, Graph.outgoing, List.filter_filter, List.filter_filter]
    exact map_filter_of_outlines same.connections
      (fun outline => outline.1.2 = role && outline.1.1 = id) (fun outline => outline.2.1)
  have router : ∀ id, Router.ofConnections id (graph.outgoing id) =
      Router.ofConnections id (other.outgoing id) := by
    intro id
    rw [Router.ofConnections, Router.ofConnections, branch, branch]
  rw [routersOf, routersOf]
  simp only [router]
  exact map_filter_of_outlines same.nodes (fun outline => outline.2 = .conditional)
    (fun outline => (outline.1, Router.ofConnections outline.1 (other.outgoing outline.1)))

namespace EntryPoints

theorem isEmpty_incoming_of_outline (id : String) :
    (graph.incoming id).isEmpty = (other.incoming id).isEmpty := by
  have targets : (graph.incoming id).map Connection.target =
      (other.incoming id).map Connection.target :=
    map_filter_of_outlines same.connections (fun outline => outline.2.1 = id)
      (fun outline => outline.2.1)
  rw [← List.isEmpty_map, targets, List.isEmpty_map]

theorem sources_of_outline :
    (sources graph).map Node.outline = (sources other).map Node.outline := by
  rw [sources, sources]
  simp only [isEmpty_incoming_of_outline same]
  exact map_filter_of_outlines same.nodes
    (fun outline => (other.incoming outline.1).isEmpty) id

omit same in
theorem byPreference_of_outlines {nodes others : List Node}
    (same : nodes.map Node.outline = others.map Node.outline) :
    (byPreference nodes).map Node.id = (byPreference others).map Node.id := by
  have group : ∀ sort : NodeKind → Bool,
      (nodes.filter (fun node => sort node.kind)).map Node.id =
        (others.filter (fun node => sort node.kind)).map Node.id :=
    fun sort => map_filter_of_outlines same (fun outline => sort outline.2) (·.1)
  have inputs := group NodeKind.isInput
  have retrievals := group fun kind => kind = .retrieval
  have remaining := group fun kind => !kind.isInput && kind ≠ .retrieval
  simp only [byPreference, List.map_append, inputs, retrievals, remaining]

theorem ofGraph_of_outline : ofGraph graph = ofGraph other := by
  have candidates : (sources graph).isEmpty = (sources other).isEmpty := by
    rw [← List.isEmpty_map (f := Node.outline), sources_of_outline same, List.isEmpty_map]
  rw [ofGraph_eq, ofGraph_eq, candidates]
  cases (sources other).isEmpty with
  | true => exact congrArg mk (byPreference_of_outlines same.nodes)
  | false => exact congrArg mk (byPreference_of_outlines (sources_of_outline same))

end EntryPoints

end Connections

namespace Resolution

/-- What leaves a conditional node is not among the edges to be resolved. -/
theorem redirected_withoutBranches (graph : Graph) :
    redirected graph.withoutBranches = redirected graph := by
  have nodes : graph.withoutBranches.nodes.map Node.outline = graph.nodes.map Node.outline := rfl
  have again : graph.withoutBranches.connections.filter
      (fun c => graph.kind? c.source ≠ some .conditional) = graph.withoutBranches.connections := by
    rw [Graph.withoutBranches, List.filter_filter]
    simp only [Bool.and_self]
  exact redirected_of_outlines nodes (congrArg (List.map edgeOf) again)

end Resolution

namespace Plan

/-- The plans of two graphs with the same outline differ at most in the contents of their nodes,
and there is the same to report about them.  Edges and rewritten connections do not even depend on
the connections that leave conditional nodes. -/
theorem compile_sees_outline_only (graph other : Graph) (same : graph.SameOutline other) :
    (∃ plan plan', compile graph = .ok plan ∧ compile other = .ok plan' ∧
      plan.entry = plan'.entry ∧ plan.edges = plan'.edges ∧ plan.routers = plan'.routers ∧
      plan.exits = plan'.exits ∧ plan.rewritten = plan'.rewritten) ∧
    events graph = events other ∧
    Resolution.ofGraph graph.withoutBranches = Resolution.ofGraph graph := by
  have redirected := Resolution.redirected_of_outline same
  have resolution : Resolution.ofGraph graph = Resolution.ofGraph other := by
    rw [Resolution.ofGraph, Resolution.ofGraph, redirected]
  have reported : Resolution.events graph = Resolution.events other := by
    rw [Resolution.events, Resolution.events, redirected]
  obtain ⟨plan, compiled⟩ := exists_compile graph
  obtain ⟨plan', compiled'⟩ := exists_compile other
  have entry : plan.entry = plan'.entry := by
    have first := primary?_compiled compiled
    rw [EntryPoints.ofGraph_of_outline same, primary?_compiled compiled'] at first
    exact (Option.some.inj first).symm
  have edges : plan.edges = plan'.edges := by
    rw [edges_compiled compiled, edges_compiled compiled', resolution]
  have routers : plan.routers = plan'.routers := by
    rw [routers_compiled compiled, routers_compiled compiled', routersOf_of_outline same]
  have exits : plan.exits = plan'.exits := by
    rw [exits_compiled compiled, exits_compiled compiled', resolution,
      exitsOf_of_outlines same.nodes]
  have rewritten : plan.rewritten = plan'.rewritten := by
    rw [rewritten_compiled compiled, rewritten_compiled compiled', resolution]
  have size : plan.size = plan'.size := by
    rw [size_compiled compiled, size_compiled compiled', Graph.size_of_outlines same.nodes]
  refine ⟨⟨plan, plan', compiled, compiled', entry, edges, routers, exits, rewritten⟩, ?_, ?_⟩
  · rw [events, events, compiled, compiled']
    simp only [reported, entry, size, edges, routers, rewritten]
  · rw [Resolution.ofGraph, Resolution.ofGraph, Resolution.redirected_withoutBranches]

/-- A model with a retrieval node as context and a condition on its answer. -/
def bareAnswer : Graph where
  nodes := [⟨"ask", .input .text, [], [], []⟩, ⟨"rag", .retrieval, [], [], []⟩,
    ⟨"llm", .aiCall, [], [], []⟩, ⟨"check", .conditional, [], [], []⟩,
    ⟨"tell", .output .text, [], [], []⟩]
  connections := [⟨"", "ask", "", .data, "llm", "", .data⟩,
    ⟨"", "rag", "", .data, "llm", "", .context⟩, ⟨"", "llm", "", .data, "check", "", .data⟩,
    ⟨"", "check", "", .onTrue, "tell", "", .data⟩]
  nonempty := by decide
  distinct := by decide
  joined := by decide

/-- The same outline with all that an editor writes into it. -/
def dressedAnswer : Graph where
  nodes := [⟨"ask", .input .text, [("label", .string "Question")], [], [⟨"out", none, .data⟩]⟩,
    ⟨"rag", .retrieval, [("topK", .string "many"), ("userId", .string "u1")], [],
      [⟨"docs", some "Documents", .context⟩]⟩,
    ⟨"llm", .aiCall, [("model", .string "check")], [⟨"ctx", some "Context", .context⟩], []⟩,
    ⟨"check", .conditional, [("conditionType", .string "isYes"), ("target", .string "llm")], [],
      [⟨"yes", some "false", .onTrue⟩]⟩,
    ⟨"tell", .output .text, [], [⟨"in", none, .data⟩], []⟩]
  connections := [⟨"c1", "ask", "out", .data, "llm", "in", .data⟩,
    ⟨"c2", "rag", "docs", .data, "llm", "ctx", .context⟩,
    ⟨"c3", "llm", "false", .data, "check", "context", .data⟩,
    ⟨"c4", "check", "yes", .onTrue, "tell", "in", .data⟩]
  nonempty := by decide
  distinct := by decide
  joined := by decide

theorem dressedAnswer_has_plan_of_outline :
    bareAnswer.SameOutline dressedAnswer ∧
      ∃ plan, compile dressedAnswer = .ok plan ∧ plan.entry = "ask" ∧
        plan.edges = [("ask", "rag"), ("rag", "llm"), ("llm", "check")] ∧
        plan.routers = [("check", ⟨"check", ["tell"], []⟩)] ∧ plan.exits = ["tell"] ∧
        plan.rewritten = [("ask", "llm")] := by
  have same : bareAnswer.SameOutline dressedAnswer := ⟨by decide, by decide⟩
  obtain ⟨⟨plan, plan', compiled, compiled', entry, edges, routers, exits, rewritten⟩, _⟩ :=
    compile_sees_outline_only bareAnswer dressedAnswer same
  obtain ⟨bare, known, parts⟩ : ∃ bare, compile bareAnswer = .ok bare ∧ bare.entry = "ask" ∧
      bare.edges = [("ask", "rag"), ("rag", "llm"), ("llm", "check")] ∧
      bare.routers = [("check", ⟨"check", ["tell"], []⟩)] ∧ bare.exits = ["tell"] ∧
      bare.rewritten = [("ask", "llm")] := by
    rw [compile_eq]
    exact ⟨_, rfl, rfl, rfl, rfl, rfl, rfl⟩
  cases compiled.symm.trans known
  rw [entry, edges, routers, exits, rewritten] at parts
  exact ⟨same, plan', compiled', parts⟩

end Plan

end ChatFlow
