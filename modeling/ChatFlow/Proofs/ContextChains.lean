import ChatFlow.Proofs.CycleSearch
import ChatFlow.Proofs.PlanRoutes

/-!
# Chains of context producers

The context producers of an ai-call node in the order in which they run, and where the plain edges
lead from an input node whose first connection goes to the ai-call node: along the producers, as
far as their own first connections go there too.
-/

set_option autoImplicit false

namespace ChatFlow

open Relation (ReflTransGen)

def Graph.IsInput (graph : Graph) (id : String) : Prop :=
  ∃ modality, graph.kind? id = some (.input modality)

/-- A connection leads from the node into a context port of the consumer. -/
def Graph.feeds (graph : Graph) (consumer id : String) : Bool :=
  graph.connections.any fun c =>
    c.source = id && c.target = consumer && c.targetRole = .context

/-- The retrieval and spreadsheet nodes wired into a context port of the consumer: retrievals
before spreadsheets, declaration order within a kind. -/
def Graph.contextProducers (graph : Graph) (consumer : String) : List String :=
  let ofKind (kind : NodeKind) : List String :=
    (graph.nodes.filter (fun node => node.kind = kind && graph.feeds consumer node.id)).map Node.id
  ofKind .retrieval ++ ofKind .spreadsheet

/-- The context producer of the consumer that comes next: for an input node it is the first one,
for a producer the one right after it. -/
inductive Graph.ComesNext (graph : Graph) (consumer : String) : String → String → Prop
  | first {input head : String} {rest : List String} (isInput : graph.IsInput input)
      (order : graph.contextProducers consumer = head :: rest) :
      ComesNext graph consumer input head
  | following {producer next : String} {before rest : List String}
      (order : graph.contextProducers consumer = before ++ producer :: next :: rest) :
      ComesNext graph consumer producer next

namespace Graph

variable (graph : Graph)

theorem any_isInput (id : String) :
    (graph.kind? id).any NodeKind.isInput = true ↔ graph.IsInput id := by
  rw [IsInput]
  cases graph.kind? id with
  | none => simp
  | some kind => cases kind <;> simp [NodeKind.isInput]

theorem IsInput.not_conditional {graph : Graph} {id : String} (isInput : graph.IsInput id) :
    graph.kind? id ≠ some .conditional := by
  obtain ⟨modality, kind⟩ := isInput
  rw [kind]
  intro same
  cases same

theorem mem_contextProducers (consumer id : String) :
    id ∈ graph.contextProducers consumer ↔
      (graph.kind? id = some .retrieval ∨ graph.kind? id = some .spreadsheet) ∧
        ∃ c ∈ graph.connections, c.source = id ∧ c.target = consumer ∧
          c.targetRole = .context := by
  have fed : graph.feeds consumer id = true ↔ ∃ c ∈ graph.connections, c.source = id ∧
      c.target = consumer ∧ c.targetRole = .context := by
    simp [feeds, and_assoc]
  rw [← fed]
  simp only [contextProducers, List.mem_append, List.mem_map, List.mem_filter, Bool.and_eq_true,
    decide_eq_true_eq]
  constructor
  · rintro (⟨node, ⟨member, kind, feeds⟩, rfl⟩ | ⟨node, ⟨member, kind, feeds⟩, rfl⟩)
    · exact ⟨.inl (kind ▸ graph.kind?_of_mem member), feeds⟩
    · exact ⟨.inr (kind ▸ graph.kind?_of_mem member), feeds⟩
  · rintro ⟨found | found, feeds⟩
    · obtain ⟨node, member, rfl, kind⟩ := graph.mem_of_kind? found
      exact .inl ⟨node, ⟨member, kind, feeds⟩, rfl⟩
    · obtain ⟨node, member, rfl, kind⟩ := graph.mem_of_kind? found
      exact .inr ⟨node, ⟨member, kind, feeds⟩, rfl⟩

theorem IsInput.not_producer {graph : Graph} {id : String} (isInput : graph.IsInput id)
    (consumer : String) : id ∉ graph.contextProducers consumer := by
  intro member
  obtain ⟨modality, kind⟩ := isInput
  rcases ((graph.mem_contextProducers consumer id).mp member).1 with found | found <;>
    rw [kind] at found <;> cases found

theorem not_aiCall_of_producer {consumer id : String}
    (member : id ∈ graph.contextProducers consumer) : graph.kind? id ≠ some .aiCall := by
  intro kind
  rcases ((graph.mem_contextProducers consumer id).mp member).1 with found | found <;>
    rw [kind] at found <;> cases found

theorem contextProducers_nodup (consumer : String) : (graph.contextProducers consumer).Nodup := by
  refine (graph.ids_filter_nodup _).append (graph.ids_filter_nodup _) ?_
  intro id retrieval spreadsheet
  obtain ⟨node, kept, rfl⟩ := List.mem_map.mp retrieval
  obtain ⟨other, keptOther, same⟩ := List.mem_map.mp spreadsheet
  simp only [List.mem_filter, Bool.and_eq_true, decide_eq_true_eq] at kept keptOther
  have kind := graph.kind?_of_mem kept.1
  have kindOther := graph.kind?_of_mem keptOther.1
  rw [same, kind, kept.2.1, keptOther.2.1] at kindOther
  cases kindOther

theorem exists_first?_of_producer {consumer id : String}
    (member : id ∈ graph.contextProducers consumer) :
    graph.kind? id ≠ some .conditional ∧ ∃ c, graph.first? id = some c := by
  obtain ⟨kind, c, present, source, _⟩ := (graph.mem_contextProducers consumer id).mp member
  constructor
  · intro conditional
    rcases kind with kind | kind <;> rw [conditional] at kind <;> cases kind
  · exact (graph.exists_first? id).mpr ⟨c, present, source⟩

section

variable {graph : Graph} {consumer source next : String}

theorem ComesNext.producer (comesNext : graph.ComesNext consumer source next) :
    next ∈ graph.contextProducers consumer := by
  cases comesNext with
  | first _ order =>
      rw [order]
      exact List.mem_cons_self
  | following order =>
      rw [order]
      exact List.mem_append_right _ (List.mem_cons_of_mem _ List.mem_cons_self)

theorem ComesNext.input_or_producer (comesNext : graph.ComesNext consumer source next) :
    graph.IsInput source ∨ source ∈ graph.contextProducers consumer := by
  cases comesNext with
  | first isInput _ => exact .inl isInput
  | following order =>
      rw [order]
      exact .inr (List.mem_append_right _ List.mem_cons_self)

end

end Graph

namespace Resolution

theorem feedsContext_written (graph : Graph) (consumer : String) {node : Node}
    (plain : graph.kind? node.id ≠ some .conditional) :
    feedsContext (written graph) consumer node = graph.feeds consumer node.id := by
  rw [Bool.eq_iff_iff, feedsContext, Graph.feeds, List.any_eq_true, List.any_eq_true]
  constructor
  · rintro ⟨e, member, ends⟩
    obtain ⟨c, present, _, rfl⟩ := (mem_written graph e).mp member
    exact ⟨c, present, ends⟩
  · rintro ⟨c, present, ends⟩
    have source : c.source = node.id := by
      simp only [Bool.and_eq_true, decide_eq_true_eq] at ends
      exact ends.1.1
    exact ⟨edgeOf c, (mem_written graph _).mpr ⟨c, present, source ▸ plain, rfl⟩, ends⟩

theorem producers_written (graph : Graph) (consumer : String) :
    producers graph (written graph) consumer = graph.contextProducers consumer := by
  have same : ∀ kind, kind ≠ NodeKind.conditional → graph.nodes.filter (fun node =>
      node.kind = kind && feedsContext (written graph) consumer node) =
        graph.nodes.filter (fun node => node.kind = kind && graph.feeds consumer node.id) := by
    intro kind plain
    refine List.filter_congr fun node member => ?_
    by_cases here : node.kind = kind
    · have found : graph.kind? node.id ≠ some .conditional := by
        rw [graph.kind?_of_mem member, here]
        exact fun same => plain (Option.some.inj same)
      rw [feedsContext_written graph consumer found]
    · simp [here]
  rw [producers, Graph.contextProducers]
  simp only [same .retrieval (by decide), same .spreadsheet (by decide)]

theorem following?_append {name : String} {before after : List String} (fresh : name ∉ before) :
    following? name (before ++ name :: after) = after.head? := by
  induction before with
  | nil => rw [List.nil_append, following?, if_pos rfl]
  | cons head rest ih =>
      have other : head ≠ name := fun same => fresh (same ▸ List.mem_cons_self)
      rw [List.cons_append, following?, if_neg other]
      exact ih fun later => fresh (List.mem_cons_of_mem head later)

theorem detour?_producer (graph : Graph) {name : String} {before after : List String}
    (distinct : (before ++ name :: after).Nodup) :
    detour? graph (before ++ name :: after) name = after.head? := by
  have member : name ∈ before ++ name :: after :=
    List.mem_append_right before List.mem_cons_self
  have fresh : name ∉ before := fun earlier =>
    (List.nodup_append.mp distinct).2.2 name earlier name List.mem_cons_self rfl
  rw [detour?, if_pos member, following?_append fresh]

theorem detour?_input (graph : Graph) {consumer input : String}
    (isInput : graph.IsInput input) :
    detour? graph (graph.contextProducers consumer) input =
      (graph.contextProducers consumer).head? := by
  rw [detour?, if_neg (isInput.not_producer consumer),
    if_pos ((graph.any_isInput input).mpr isInput)]

/-- A detour leads to the producer that comes next. -/
theorem detour?_eq_some (graph : Graph) (consumer source next : String) :
    detour? graph (graph.contextProducers consumer) source = some next ↔
      graph.ComesNext consumer source next := by
  constructor
  · intro detour
    by_cases member : source ∈ graph.contextProducers consumer
    · obtain ⟨before, after, order⟩ := List.append_of_mem member
      have distinct := order ▸ graph.contextProducers_nodup consumer
      rw [order, detour?_producer graph distinct] at detour
      obtain ⟨rest, rfl⟩ := List.head?_eq_some_iff.mp detour
      exact .following order
    · rw [detour?, if_neg member] at detour
      split at detour
      · rename_i input
        obtain ⟨rest, order⟩ := List.head?_eq_some_iff.mp detour
        exact .first ((graph.any_isInput source).mp input) order
      · cases detour
  · rintro (⟨isInput, order⟩ | ⟨order⟩)
    · rw [detour?_input graph isInput, order]
      rfl
    · have distinct := order ▸ graph.contextProducers_nodup consumer
      rw [order, detour?_producer graph distinct]
      rfl

/-- The edge that stands for a first connection leads where this does, or takes the detour. -/
theorem edge_toward (graph : Graph) {id : String} {c : Connection}
    (plain : graph.kind? id ≠ some .conditional) (first : graph.first? id = some c) :
    (ofGraph graph).edges.get? id = some c.target ∨
      ∃ next, detour? graph (graph.contextProducers c.target) id = some next ∧
        (ofGraph graph).edges.get? id = some next := by
  obtain ⟨source, _⟩ := graph.leads_of_first? first
  obtain ⟨after, moved, edge⟩ := edge_of_first graph plain first
  rcases moved with rfl | ⟨_, _, next, detour, rfl⟩
  · exact .inl edge
  · rw [producers_written] at detour
    exact .inr ⟨next, source ▸ detour, edge⟩

end Resolution

/-! ## Along the producers -/

namespace Plan

/-- The first connection of the last node of a path does not go to the consumer. -/
def TurnsAway (graph : Graph) (consumer : String) (path : List String) : Prop :=
  ∃ last c, path.getLast? = some last ∧ graph.first? last = some c ∧ c.target ≠ consumer

section Compiled

variable {graph : Graph} {plan : Plan} (compiled : compile graph = .ok plan)
include compiled

/-- A producer turns away from the consumer, or its plain edge leads there or to the next one. -/
theorem producer_step {consumer : String} (before : List String) (name : String)
    (after : List String) (order : graph.contextProducers consumer = before ++ name :: after) :
    TurnsAway graph consumer [name] ∨ plan.edges.get? name = some consumer ∨
      ∃ next rest, after = next :: rest ∧ plan.edges.get? name = some next := by
  have distinct := order ▸ graph.contextProducers_nodup consumer
  have member : name ∈ graph.contextProducers consumer := by
    rw [order]
    exact List.mem_append_right before List.mem_cons_self
  obtain ⟨plain, c, first⟩ := graph.exists_first?_of_producer member
  rw [edges_compiled compiled]
  by_cases target : c.target = consumer
  · rcases Resolution.edge_toward graph plain first with edge | ⟨next, detour, edge⟩
    · exact .inr (.inl (target ▸ edge))
    · rw [target, order, Resolution.detour?_producer graph distinct] at detour
      obtain ⟨rest, same⟩ := List.head?_eq_some_iff.mp detour
      exact .inr (.inr ⟨next, rest, same, edge⟩)
  · exact .inl ⟨name, c, rfl, first, target⟩

/-- From a producer the plain edges lead along the next producers, up to the consumer or to one
that turns away. -/
theorem chain_from_producer {consumer : String} (before : List String) (name : String)
    (after : List String) (order : graph.contextProducers consumer = before ++ name :: after) :
    ∃ passed, passed <+: after ∧
      ((name :: passed ++ [consumer]).IsChain (fun a b => plan.edges.get? a = some b) ∨
        (name :: passed).IsChain (fun a b => plan.edges.get? a = some b) ∧
          TurnsAway graph consumer (name :: passed)) := by
  -- on the producers that are left; those before are needed to find the next one
  induction after generalizing before name with
  | nil =>
      refine ⟨[], List.prefix_rfl, ?_⟩
      rcases producer_step compiled before name [] order with away | edge | ⟨_, _, same, _⟩
      · exact .inr ⟨List.isChain_singleton name, away⟩
      · exact .inl (List.isChain_pair.mpr edge)
      · cases same
  | cons next rest ih =>
      rcases producer_step compiled before name (next :: rest) order with
        away | edge | ⟨_, _, same, edge⟩
      · exact ⟨[], List.nil_prefix, .inr ⟨List.isChain_singleton name, away⟩⟩
      · exact ⟨[], List.nil_prefix, .inl (List.isChain_pair.mpr edge)⟩
      · cases same
        have orderRest : graph.contextProducers consumer = (before ++ [name]) ++ next :: rest := by
          simpa using order
        obtain ⟨passed, within, path⟩ := ih (before ++ [name]) next orderRest
        refine ⟨next :: passed, (List.cons_prefix_cons).mpr ⟨rfl, within⟩, ?_⟩
        rcases path with reached | ⟨chain, last, c, final, away⟩
        · exact .inl (List.isChain_cons_cons.mpr ⟨edge, reached⟩)
        · refine .inr ⟨List.isChain_cons_cons.mpr ⟨edge, chain⟩, last, c, ?_, away⟩
          rw [List.getLast?_cons_cons, final]

/-- From an input node whose first connection goes to the consumer, the plain edges lead to the
consumer or to the first of its producers, and on from there. -/
theorem chain_from_input {input consumer : String} {c : Connection}
    (isInput : graph.IsInput input)
    (first : graph.first? input = some c) (target : c.target = consumer) :
    ∃ passed, passed <+: graph.contextProducers consumer ∧
      ((input :: passed ++ [consumer]).IsChain (fun a b => plan.edges.get? a = some b) ∨
        (input :: passed).IsChain (fun a b => plan.edges.get? a = some b) ∧
          TurnsAway graph consumer passed) := by
  have toward := Resolution.edge_toward graph isInput.not_conditional first
  rw [← edges_compiled compiled] at toward
  rcases toward with edge | ⟨next, detour, edge⟩
  · rw [target] at edge
    exact ⟨[], List.nil_prefix, .inl (List.isChain_pair.mpr edge)⟩
  · rw [target, Resolution.detour?_input graph isInput] at detour
    obtain ⟨rest, order⟩ := List.head?_eq_some_iff.mp detour
    obtain ⟨passed, within, path⟩ := chain_from_producer compiled [] next rest order
    refine ⟨next :: passed, order ▸ (List.cons_prefix_cons).mpr ⟨rfl, within⟩, ?_⟩
    rcases path with reached | ⟨chain, away⟩
    · exact .inl (List.isChain_cons_cons.mpr ⟨edge, reached⟩)
    · exact .inr ⟨List.isChain_cons_cons.mpr ⟨edge, chain⟩, away⟩

end Compiled

/-- From an input node whose first connection goes to an ai-call node, the plain edges lead along
the first context producers of that node, if any, and from the last of these to the node itself,
unless the first connection of this producer goes elsewhere: then fan-out collapse has dropped its
edge to the node.  So the node is reached if it comes first for each of its producers. -/
theorem input_reaches_consumer {graph : Graph} {plan : Plan} (compiled : compile graph = .ok plan)
    {input consumer : String} {c : Connection}
    (isInput : graph.IsInput input)
    (first : graph.first? input = some c) (target : c.target = consumer) :
    (∃ passed, passed <+: graph.contextProducers consumer ∧
      ((input :: passed ++ [consumer]).IsChain (fun a b => plan.edges.get? a = some b) ∨
        (input :: passed).IsChain (fun a b => plan.edges.get? a = some b) ∧
          TurnsAway graph consumer passed)) ∧
    ((∀ producer ∈ graph.contextProducers consumer, ∀ d, graph.first? producer = some d →
        d.target = consumer) →
      ReflTransGen (fun a b => plan.edges.get? a = some b) input consumer) := by
  obtain ⟨passed, within, path⟩ := chain_from_input compiled isInput first target
  refine ⟨⟨passed, within, path⟩, fun faithful => ?_⟩
  rcases path with reached | ⟨_, last, d, final, firstOfLast, away⟩
  · exact reach_of_mem_path input (passed ++ [consumer]) reached consumer (by simp)
  · have member := within.subset (List.mem_of_getLast? final)
    exact absurd (faithful last member d firstOfLast) away

/-- An input node and two context producers, the spreadsheet declared before the retrieval. -/
def twoProducers : Graph where
  nodes := [⟨"in", .input .text, [], [], []⟩, ⟨"sheet", .spreadsheet, [], [], []⟩,
    ⟨"rag", .retrieval, [], [], []⟩, ⟨"llm", .aiCall, [], [], []⟩]
  connections := [⟨"c1", "sheet", "out", .data, "llm", "context", .context⟩,
    ⟨"c2", "in", "out", .data, "llm", "in", .data⟩,
    ⟨"c3", "rag", "out", .data, "llm", "context", .context⟩]
  nonempty := by decide
  distinct := by decide
  joined := by decide

theorem twoProducers_reaches :
    ∃ plan, compile twoProducers = .ok plan ∧
      ReflTransGen (fun a b => plan.edges.get? a = some b) "in" "llm" := by
  obtain ⟨plan, compiled⟩ := exists_compile twoProducers
  have isInput : twoProducers.IsInput "in" := ⟨_, rfl⟩
  refine ⟨plan, compiled, (input_reaches_consumer compiled isInput rfl rfl).2 ?_⟩
  have producers : twoProducers.contextProducers "llm" = ["rag", "sheet"] := by decide
  rw [producers]
  simp [Graph.first?, Graph.outgoing, twoProducers]

/-- A retrieval node that is wired to an output before it is wired to the context of a model. -/
def turningAway : Graph where
  nodes := [⟨"rag", .retrieval, [], [], []⟩, ⟨"in", .input .text, [], [], []⟩,
    ⟨"llm", .aiCall, [], [], []⟩, ⟨"out", .output .text, [], [], []⟩]
  connections := [⟨"c1", "rag", "out", .data, "out", "in", .data⟩,
    ⟨"c2", "in", "out", .data, "llm", "in", .data⟩,
    ⟨"c3", "rag", "out", .data, "llm", "context", .context⟩]
  nonempty := by decide
  distinct := by decide
  joined := by decide

theorem turningAway_misses :
    Acyclic turningAway.Leads ∧ (turningAway.first? "in").map Connection.target = some "llm" ∧
      ∃ plan, compile turningAway = .ok plan ∧
        ¬ ReflTransGen (fun a b => plan.edges.get? a = some b) "in" "llm" := by
  obtain ⟨plan, compiled⟩ := exists_compile turningAway
  have edges : plan.edges = [("rag", "out"), ("in", "rag")] := edges_compiled compiled
  refine ⟨(turningAway.cycle?_eq_none).mp rfl, rfl, plan, compiled, fun path => ?_⟩
  rcases path.cases_tail with same | ⟨a, _, edge⟩
  · exact absurd same (by decide)
  · have member := Keyed.mem_of_get? plan.edges edge
    rw [edges] at member
    exact absurd member (by simp)

end Plan

end ChatFlow
