import ChatFlow.Proofs.RewriteHistory

/-!
# Where plain edges come from

A node that is not conditional has a plain edge if some connection leaves it, and the edge leads
where the first of these leads, or around an ai-call node: from an input node to the first of its
context producers, from a producer to the next one.  Only such connections are ever rewritten, so
the position of an edge and the producers of a consumer are those of the graph as declared.
-/

set_option autoImplicit false

namespace ChatFlow.Resolution

theorem mem_rewritten_ofGraph (graph : Graph) (pair : String × String) :
    pair ∈ (ofGraph graph).rewritten ↔ pair ∈ (redirected graph).rewritten := List.mem_eraseDups

theorem exists_edge (graph : Graph) (source : String) :
    (∃ target, (ofGraph graph).edges.get? source = some target) ↔
      graph.kind? source ≠ some .conditional ∧ ∃ c, graph.first? source = some c := by
  constructor
  · rintro ⟨target, edge⟩
    obtain ⟨plain, c, first, _⟩ := first_of_edge graph edge
    exact ⟨plain, c, first⟩
  · rintro ⟨plain, c, first⟩
    obtain ⟨after, _, edge⟩ := edge_of_first graph plain first
    exact ⟨after.target, edge⟩

/-- The edge for a first connection leads on as declared, or the connection was rewritten. -/
theorem edge_origin (graph : Graph) {source target : String} {c : Connection}
    (first : graph.first? source = some c)
    (edge : (ofGraph graph).edges.get? source = some target) :
    target = c.target ∨ (source, c.target) ∈ (ofGraph graph).rewritten ∧
      graph.kind? c.target = some .aiCall ∧ graph.ComesNext c.target source target := by
  obtain ⟨_, d, firstToo, after, moved, rfl⟩ := first_of_edge graph edge
  cases firstToo.symm.trans first
  obtain ⟨from_source, _⟩ := graph.leads_of_first? first
  rcases moved with rfl | ⟨member, recorded, next, detour, rfl⟩
  · exact .inl rfl
  · rw [producers_written, detour?_eq_some] at detour
    refine .inr ⟨?_, kind_of_mem_consumers graph member, from_source ▸ detour⟩
    exact (mem_rewritten_ofGraph graph _).mpr (from_source ▸ recorded)

theorem rewritten_origin (graph : Graph) {source consumer : String}
    (member : (source, consumer) ∈ (ofGraph graph).rewritten) :
    graph.kind? consumer = some .aiCall ∧ graph.Leads source consumer ∧
      ∃ next, graph.ComesNext consumer source next := by
  obtain ⟨rewrites, recorded⟩ := rewrites_redirected graph
  rw [mem_rewritten_ofGraph, ← recorded] at member
  obtain ⟨stage, present, pair⟩ := List.mem_map.mp member
  obtain ⟨kind, linked, next, detour⟩ :=
    rewrites.recorded (fun _ written _ => written) stage present
  rw [pair] at kind linked detour
  exact ⟨kind, ((linked_written graph source consumer).mp linked).1, next,
    (detour?_eq_some graph consumer source next).mp detour⟩

/-- What becomes of the connections as declared: which nodes have a plain edge, where it leads in
terms of the first connection that leaves the node, what may be rewritten, and that without a
rewriting the edge is this connection. -/
theorem plain_edges_follow_first_connections (graph : Graph) :
    (∀ source, (∃ target, (ofGraph graph).edges.get? source = some target) ↔
      graph.kind? source ≠ some .conditional ∧ ∃ c ∈ graph.connections, c.source = source) ∧
    (∀ source c target, graph.first? source = some c →
      (ofGraph graph).edges.get? source = some target →
      target = c.target ∨
        graph.kind? c.target = some .aiCall ∧ (source, c.target) ∈ (ofGraph graph).rewritten ∧
          (graph.kind? target = some .retrieval ∨ graph.kind? target = some .spreadsheet) ∧
          (∃ d ∈ graph.connections, d.source = target ∧ d.target = c.target ∧
            d.targetRole = .context) ∧
          graph.ComesNext c.target source target) ∧
    (∀ source consumer, (source, consumer) ∈ (ofGraph graph).rewritten →
      graph.kind? consumer = some .aiCall ∧ graph.Leads source consumer ∧
        (graph.IsInput source ∨ source ∈ graph.contextProducers consumer)) ∧
    (∀ source c, graph.kind? source ≠ some .conditional → graph.first? source = some c →
      (source, c.target) ∉ (ofGraph graph).rewritten →
      (ofGraph graph).edges.get? source = some c.target) := by
  refine ⟨fun source => ?_, fun source c target first edge => ?_,
    fun source consumer member => ?_, fun source c plain first kept => ?_⟩
  · rw [exists_edge, graph.exists_first?]
  · refine (edge_origin graph first edge).imp_right fun ⟨recorded, kind, comesNext⟩ => ?_
    obtain ⟨kinds, wired⟩ := (graph.mem_contextProducers c.target target).mp comesNext.producer
    exact ⟨kind, recorded, kinds, wired, comesNext⟩
  · obtain ⟨kind, leads, _, comesNext⟩ := rewritten_origin graph member
    exact ⟨kind, leads, comesNext.input_or_producer⟩
  · obtain ⟨target, edge⟩ := (exists_edge graph source).mpr ⟨plain, c, first⟩
    rcases edge_origin graph first edge with rfl | ⟨recorded, _⟩
    · exact edge
    · exact absurd recorded kept

/-- The rewritten edge of a node need not be its plain edge: here the first connection of `rag`
goes to `out`, so its way around the model by `sheet` is dropped by fan-out collapse. -/
example : ofGraph
    { nodes := [⟨"ask", .input .text, [], [], []⟩, ⟨"sheet", .spreadsheet, [], [], []⟩,
        ⟨"rag", .retrieval, [], [], []⟩, ⟨"llm", .aiCall, [], [], []⟩,
        ⟨"out", .output .text, [], [], []⟩]
      connections := [⟨"c1", "rag", "out", .data, "out", "in", .data⟩,
        ⟨"c2", "sheet", "out", .data, "llm", "context", .context⟩,
        ⟨"c3", "ask", "out", .data, "llm", "in", .data⟩,
        ⟨"c4", "rag", "out", .data, "llm", "context", .context⟩]
      nonempty := by decide
      distinct := by decide
      joined := by decide } =
    ⟨[("rag", "out"), ("sheet", "llm"), ("ask", "rag")], [("ask", "llm"), ("rag", "llm")]⟩ := by
  decide

end ChatFlow.Resolution
