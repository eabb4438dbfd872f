import ChatFlow.Proofs.ContextChains
import ChatFlow.Proofs.Outlines

/-!
# The history of a redirection

Redirection is a sequence of single rewrites.  Each leads one edge, in its place, from an ai-call
node to the context producer that its source comes to first, and its guard looks at the edges that
the rewrites before it have left.  `stages` are the edges after every single rewrite; what one
rewrite keeps holds at every stage.  Connections that leave conditional nodes are not among these
edges, so loops through conditional nodes play no part.
-/

set_option autoImplicit false

namespace ChatFlow

open Relation (TransGen ReflTransGen)

theorem Graph.leads_withoutBranches (graph : Graph) (a b : String) :
    graph.withoutBranches.Leads a b ↔ graph.PlainlyLeads a b := by
  constructor
  · rintro ⟨c, kept, rfl, rfl⟩
    obtain ⟨present, plain⟩ := List.mem_filter.mp kept
    exact ⟨⟨c, present, rfl, rfl⟩, of_decide_eq_true plain⟩
  · rintro ⟨⟨c, present, rfl, rfl⟩, plain⟩
    exact ⟨c, List.mem_filter.mpr ⟨present, decide_eq_true plain⟩, rfl, rfl⟩

namespace Resolution

/-! ## Single rewrites -/

/-- One edge into an ai-call node is led, in its place, to where the detour of its source around
this node goes.  No path of the edges leads from there to the source. -/
inductive Rewrite (graph : Graph) : List Edge → String × String → List Edge → Prop
  | turn {before after : List Edge} {edge : Edge} {next : String}
      (kind : graph.kind? edge.target = some .aiCall)
      (detour : detour? graph (graph.contextProducers edge.target) edge.source = some next)
      (apart : ¬ ReflTransGen (Linked (before ++ edge :: after)) next edge.source) :
      Rewrite graph (before ++ edge :: after) (edge.source, edge.target)
        (before ++ ⟨edge.source, next, false⟩ :: after)

/-- A rewritten connection and the edges after its rewriting. -/
structure Stage where
  rewritten : String × String
  edges : List Edge

/-- Each stage comes from the one before it by a single rewrite; the last one has the edges
`last`. -/
inductive Rewrites (graph : Graph) : List Edge → List Stage → List Edge → Prop
  | none {edges : List Edge} : Rewrites graph edges [] edges
  | one {edges last : List Edge} {stage : Stage} {later : List Stage}
      (rewrite : Rewrite graph edges stage.rewritten stage.edges)
      (others : Rewrites graph stage.edges later last) : Rewrites graph edges (stage :: later) last

theorem Rewrites.append {graph : Graph} {edges middle last : List Edge}
    {first later : List Stage} (rewrites : Rewrites graph edges first middle)
    (others : Rewrites graph middle later last) : Rewrites graph edges (first ++ later) last := by
  induction rewrites with
  | none => exact others
  | one rewrite _ ih => exact .one rewrite (ih others)

/-- What every single rewrite keeps holds at every stage. -/
theorem Rewrites.keeps {graph : Graph} {property : List Edge → Prop}
    (step : ∀ edges pair turned, property edges → Rewrite graph edges pair turned →
      property turned) {edges last : List Edge} {stages : List Stage}
    (rewrites : Rewrites graph edges stages last) (holds : property edges) :
    ∀ stage ∈ stages, property stage.edges := by
  induction rewrites with
  | none => simp
  | one rewrite _ ih =>
      have turned := step _ _ _ holds rewrite
      exact List.forall_mem_cons.mpr ⟨turned, ih turned⟩

/-- The guard keeps a rewrite from closing a loop. -/
theorem Rewrite.acyclic {graph : Graph} {edges turned : List Edge} {pair : String × String}
    (rewrite : Rewrite graph edges pair turned) (acyclic : Acyclic (Linked edges)) :
    Acyclic (Linked turned) := by
  cases rewrite with
  | turn _ _ apart => exact acyclic_rewrite acyclic apart

/-- All edges into ai-call nodes are as written. -/
def Faithful (graph : Graph) (edges : List Edge) : Prop :=
  ∀ e ∈ edges, graph.kind? e.target = some .aiCall → e ∈ written graph

theorem Rewrite.faithful {graph : Graph} {edges turned : List Edge} {pair : String × String}
    (rewrite : Rewrite graph edges pair turned) (faithful : Faithful graph edges) :
    Faithful graph turned := by
  cases rewrite with
  | @turn before after edge next _ detour _ =>
      intro e member kind
      rcases List.mem_append.mp member with earlier | member
      · exact faithful e (List.mem_append_left _ earlier) kind
      · rcases List.mem_cons.mp member with rfl | later
        · exact absurd kind (graph.not_aiCall_of_producer (mem_of_detour? detour))
        · exact faithful e (List.mem_append_right _ (List.mem_cons_of_mem _ later)) kind

/-- What is rewritten are connections to ai-call nodes for which there is a detour. -/
theorem Rewrites.recorded {graph : Graph} {edges last : List Edge} {stages : List Stage}
    (rewrites : Rewrites graph edges stages last) (faithful : Faithful graph edges) :
    ∀ stage ∈ stages, graph.kind? stage.rewritten.2 = some .aiCall ∧
      Linked (written graph) stage.rewritten.1 stage.rewritten.2 ∧
      ∃ next, detour? graph (graph.contextProducers stage.rewritten.2) stage.rewritten.1 =
        some next := by
  induction rewrites with
  | none => simp
  | @one edges last stage later rewrite _ ih =>
      refine List.forall_mem_cons.mpr ⟨?_, ih (rewrite.faithful faithful)⟩
      obtain ⟨pair, turned⟩ := stage
      cases rewrite with
      | @turn before after edge next kind detour _ =>
          have member : edge ∈ before ++ edge :: after :=
            List.mem_append_right _ List.mem_cons_self
          exact ⟨kind, ⟨edge, faithful edge member kind, rfl, rfl⟩, next, detour⟩

/-! ## The stages of redirection -/

/-- The stages of a pass, which has gone through the `done` edges. -/
def stagesOfPass (graph : Graph) (consumer : String) (producers : List String) :
    (done todo : List Edge) → List Stage
  | _, [] => []
  | done, edge :: rest =>
    match redirection? graph consumer producers (done ++ edge :: rest) edge with
    | none => stagesOfPass graph consumer producers (done ++ [edge]) rest
    | some producer =>
      let turned : Edge := ⟨edge.source, producer, false⟩
      ⟨(edge.source, consumer), done ++ turned :: rest⟩ ::
        stagesOfPass graph consumer producers (done ++ [turned]) rest

def stagesOfPasses (graph : Graph) : (consumers : List String) → List Edge → List Stage
  | [], _ => []
  | consumer :: rest, edges =>
    stagesOfPass graph consumer (producers graph edges consumer) [] edges ++
      stagesOfPasses graph rest (redirectFor graph edges consumer).edges

/-- The edges of a graph after every single rewrite. -/
def stages (graph : Graph) : List Stage :=
  stagesOfPasses graph (consumers graph) (written graph)

theorem rewrites_pass {graph : Graph} {consumer : String} {names : List String}
    (kind : graph.kind? consumer = some .aiCall) (own : names = graph.contextProducers consumer)
    (todo done : List Edge) :
    Rewrites graph (done ++ todo) (stagesOfPass graph consumer names done todo)
        (redirectEdges graph consumer names done todo).edges ∧
      (stagesOfPass graph consumer names done todo).map Stage.rewritten =
        (redirectEdges graph consumer names done todo).rewritten := by
  induction todo generalizing done with
  | nil => exact ⟨by simpa [redirectEdges, stagesOfPass] using .none, rfl⟩
  | cons edge rest ih =>
      rw [redirectEdges, stagesOfPass]
      cases call : redirection? graph consumer names (done ++ edge :: rest) edge with
      | none => simpa using ih (done ++ [edge])
      | some next =>
          obtain ⟨rfl, detour, apart⟩ := (redirection?_eq_some graph _ names _ edge next).mp call
          obtain ⟨rewrites, recorded⟩ := ih (done ++ [⟨edge.source, next, false⟩])
          refine ⟨.one (.turn kind (own ▸ detour) apart) (by simpa using rewrites), ?_⟩
          exact congrArg ((edge.source, edge.target) :: ·) recorded

theorem rewrites_passes {graph : Graph} (names : List String) (edges : List Edge)
    (distinct : names.Nodup) (kinds : ∀ name ∈ names, graph.kind? name = some .aiCall)
    (agree : ∀ name ∈ names, producers graph edges name = graph.contextProducers name) :
    Rewrites graph edges (stagesOfPasses graph names edges) (redirectAll graph names edges).edges ∧
      (stagesOfPasses graph names edges).map Stage.rewritten =
        (redirectAll graph names edges).rewritten := by
  induction names generalizing edges with
  | nil => exact ⟨.none, rfl⟩
  | cons consumer rest ih =>
      obtain ⟨fresh, distinctRest⟩ := List.nodup_cons.mp distinct
      obtain ⟨kind, kindsRest⟩ := List.forall_mem_cons.mp kinds
      obtain ⟨own, agreeOthers⟩ := List.forall_mem_cons.mp agree
      have agreeRest : ∀ name ∈ rest,
          producers graph (redirectFor graph edges consumer).edges name =
            graph.contextProducers name := by
        intro name member
        have different : name ≠ consumer := fun equal => fresh (equal ▸ member)
        rw [producers_redirectFor graph edges different (kindsRest name member)]
        exact agreeOthers name member
      obtain ⟨first, recorded⟩ := rewrites_pass kind own edges []
      obtain ⟨later, recordedLater⟩ := ih _ distinctRest kindsRest agreeRest
      refine ⟨first.append later, ?_⟩
      rw [stagesOfPasses, List.map_append, recorded, recordedLater]
      rfl

/-- The stages are the history of redirection, from the edges as written to its result. -/
theorem rewrites_redirected (graph : Graph) :
    Rewrites graph (written graph) (stages graph) (redirected graph).edges ∧
      (stages graph).map Stage.rewritten = (redirected graph).rewritten :=
  rewrites_passes (consumers graph) (written graph) (consumers_nodup graph)
    (fun _ => kind_of_mem_consumers graph) fun name _ => producers_written graph name

/-- If the connections that leave other than conditional nodes form no loop, there is none at any
stage of redirection, whichever consumers share producers and in whatever order all is declared.
So the plain edges, which are edges of the last stage, form none either. -/
theorem no_stage_closes_loop {graph : Graph} (acyclic : Acyclic graph.PlainlyLeads) :
    Rewrites graph (written graph) (stages graph) (redirected graph).edges ∧
    (stages graph).map Stage.rewritten = (redirected graph).rewritten ∧
    Acyclic (Linked (written graph)) ∧
    (∀ stage ∈ stages graph, Acyclic (Linked stage.edges)) ∧
    Acyclic (fun a b => (ofGraph graph).edges.get? a = some b) := by
  obtain ⟨rewrites, recorded⟩ := rewrites_redirected graph
  have asWritten : Acyclic (Linked (written graph)) :=
    acyclic.mono fun a b => (linked_written graph a b).mp
  refine ⟨rewrites, recorded, asWritten, ?_, acyclic_edges graph acyclic⟩
  exact rewrites.keeps (fun _ _ _ holds rewrite => rewrite.acyclic holds) asWritten

/-- Two models with a retrieval node in common; a condition leads from the second model back to
the input. -/
def revisedAnswer : Graph where
  nodes := [⟨"ask", .input .text, [], [], []⟩, ⟨"rag", .retrieval, [], [], []⟩,
    ⟨"sheet", .spreadsheet, [], [], []⟩, ⟨"draft", .aiCall, [], [], []⟩,
    ⟨"revise", .aiCall, [], [], []⟩, ⟨"check", .conditional, [], [], []⟩]
  connections := [⟨"c1", "ask", "out", .data, "draft", "in", .data⟩,
    ⟨"c2", "rag", "out", .data, "draft", "context", .context⟩,
    ⟨"c3", "sheet", "out", .data, "draft", "context", .context⟩,
    ⟨"c4", "draft", "out", .data, "revise", "in", .data⟩,
    ⟨"c5", "rag", "out", .data, "revise", "context", .context⟩,
    ⟨"c6", "revise", "out", .data, "check", "in", .data⟩,
    ⟨"c7", "check", "true", .onTrue, "ask", "in", .data⟩]
  nonempty := by decide
  distinct := by decide
  joined := by decide

theorem revisedAnswer_stages :
    ¬ Acyclic revisedAnswer.Leads ∧ Acyclic revisedAnswer.PlainlyLeads ∧
      (stages revisedAnswer).map Stage.rewritten = [("ask", "draft"), ("rag", "draft")] ∧
      ∀ stage ∈ stages revisedAnswer, Acyclic (Linked stage.edges) := by
  have loops : ¬ Acyclic revisedAnswer.Leads := by
    rw [← Graph.cycle?_eq_none]
    decide
  have acyclic : Acyclic revisedAnswer.PlainlyLeads :=
    ((revisedAnswer.withoutBranches.cycle?_eq_none).mp (by decide)).mono
      fun a b => (revisedAnswer.leads_withoutBranches a b).mpr
  obtain ⟨_, _, _, stages, _⟩ := no_stage_closes_loop acyclic
  exact ⟨loops, acyclic, by decide, stages⟩

end Resolution

end ChatFlow
