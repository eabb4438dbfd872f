import ChatFlow.Proofs.ByteOrder
import ChatFlow.Proofs.PlanShapes

/-!
# What a compilation reports

Edges are rewritten in three passes, and what was done is known to none of them as a whole: a pass
for one consumer after the other redirects, the ends of edges are listed once each, and the first
target of a node is kept.  The report is nevertheless exact.  No edge is redirected twice, so the
events of redirection are those of the places where edges differ from the connections as written;
and what is dropped of a node is what its connections lead to after redirection, apart from what is
kept.
-/

set_option autoImplicit false

namespace ChatFlow

namespace Graph

/-- The connections that do not leave a conditional node, in declaration order. -/
def plainConnections (graph : Graph) : List Connection :=
  graph.connections.filter (fun c => graph.kind? c.source ≠ some .conditional)

/-- These connections, each with the node to which it leads after redirection. -/
def redirections (graph : Graph) : List (Connection × String) :=
  graph.plainConnections.zip ((Resolution.redirected graph).edges.map Edge.target)

/-- The connections that are rewritten, with where they lead instead. -/
def rewrittenConnections (graph : Graph) : List (Connection × String) :=
  graph.redirections.filter fun rewrite => rewrite.2 ≠ rewrite.1.target

/-- Where the connections of a node lead after redirection, in declaration order and with
repetitions. -/
def targetsAfter (graph : Graph) (id : String) : List String :=
  (graph.redirections.filter fun rewrite => rewrite.1.source = id).map (·.2)

end Graph

namespace Keyed

variable {α : Type}

theorem perm_inByteOrder (entries : Keyed α) : (inByteOrder entries).Perm entries :=
  List.mergeSort_perm entries _

theorem pairwise_inByteOrder {entries : Keyed α} (distinct : (names entries).Nodup) :
    (inByteOrder entries).Pairwise fun a b => a.1 < b.1 := by
  have sorted := Text.pairwise_mergeSort Prod.fst entries
  have once : (names (inByteOrder entries)).Nodup :=
    ((perm_inByteOrder entries).map Prod.fst).nodup_iff.mpr distinct
  have apart : (inByteOrder entries).Pairwise fun a b => a.1 ≠ b.1 := List.pairwise_map.mp once
  refine (sorted.and apart).imp ?_
  rintro a b ⟨ordered, different⟩
  exact String.not_le.mp fun back => different (String.le_antisymm ordered back)

end Keyed

namespace Resolution

/-! ## Redirections -/

/-- What there is to report about edges before and after in the same places. -/
def moves (edges after : List Edge) : List Event :=
  ((edges.zip after).filter fun pair => pair.2.target ≠ pair.1.target).map fun pair =>
    .contextEdgeRedirected pair.1.source pair.1.target pair.2.target

theorem moves_cons_same {edge after : Edge} (same : after.target = edge.target)
    (edges others : List Edge) : moves (edge :: edges) (after :: others) = moves edges others := by
  simp [moves, same]

theorem moves_cons_other {edge after : Edge} (other : after.target ≠ edge.target)
    (edges others : List Edge) :
    moves (edge :: edges) (after :: others) =
      .contextEdgeRedirected edge.source edge.target after.target :: moves edges others := by
  simp [moves, other]

/-- A pass reports the edges that it moves, in order. -/
theorem events_pass (graph : Graph) {consumer : String} {names : List String}
    (apart : consumer ∉ names) (todo done : List Edge) :
    ∃ turned, (redirectEdges graph consumer names done todo).edges = done ++ turned ∧
      (redirectEdges graph consumer names done todo).events = moves todo turned := by
  induction todo generalizing done with
  | nil => exact ⟨[], by simp [redirectEdges], rfl⟩
  | cons edge rest ih =>
      rw [redirectEdges]
      cases call : redirection? graph consumer names (done ++ edge :: rest) edge with
      | none =>
          obtain ⟨turned, same, told⟩ := ih (done ++ [edge])
          exact ⟨edge :: turned, by simpa using same, told.trans (moves_cons_same rfl _ _).symm⟩
      | some next =>
          obtain ⟨rfl, detour, _⟩ := (redirection?_eq_some graph _ names _ edge next).mp call
          obtain ⟨turned, same, told⟩ := ih (done ++ [⟨edge.source, next, false⟩])
          have other : next ≠ edge.target := fun equal => apart (equal ▸ mem_of_detour? detour)
          refine ⟨⟨edge.source, next, false⟩ :: turned, by simpa using same, ?_⟩
          rw [moves_cons_other other, ← told]

/-- If no edge is moved twice, what is reported of the moves from one list to the next is what is
to be reported from the first list to the last. -/
theorem moves_append_perm {first later : Edge → Edge → Prop}
    (once : ∀ a b c, first a b → later b c → b = a ∨ c = b) {edges middle last : List Edge}
    (before : List.Forall₂ first edges middle) (after : List.Forall₂ later middle last) :
    (moves edges middle ++ moves middle last).Perm (moves edges last) := by
  induction before generalizing last with
  | nil =>
      cases after
      exact .nil
  | @cons a b edges middle head _ ih =>
      cases after with
      | @cons _ c _ last next rest =>
          have smaller := ih rest
          rcases once a b c head next with rfl | rfl
          · rw [moves_cons_same rfl]
            by_cases same : c.target = b.target
            · rw [moves_cons_same same, moves_cons_same same]
              exact smaller
            · rw [moves_cons_other same, moves_cons_other same]
              exact List.perm_middle.trans (smaller.cons _)
          · rw [moves_cons_same rfl]
            by_cases same : c.target = a.target
            · rw [moves_cons_same same, moves_cons_same same]
              exact smaller
            · rw [moves_cons_other same, moves_cons_other same]
              exact smaller.cons _

/-- An edge that a pass has turned is left alone by the later ones: it leads to a producer, and they
are for other nodes. -/
theorem Turned.once {graph : Graph} {edges origin : List Edge} {consumer : String}
    {names : List String} {recorded more : List (String × String)} {a b c : Edge}
    (kinds : ∀ name ∈ names, graph.kind? name = some .aiCall)
    (turn : Turned graph consumer (producers graph edges consumer) recorded a b)
    (reroute : Rerouted graph origin names more b c) : b = a ∨ c = b := by
  rcases turn with rfl | ⟨_, _, next, detour, rfl⟩
  · exact .inl rfl
  · rcases reroute with rfl | ⟨again, _⟩
    · exact .inr rfl
    · exact absurd rfl (producer_ne_consumer graph edges (mem_of_detour? detour) (kinds next again))

theorem moves_self (edges : List Edge) : moves edges edges = [] := by
  induction edges with
  | nil => rfl
  | cons edge rest ih => rw [moves_cons_same rfl, ih]

theorem events_redirectAll (graph : Graph) (names : List String) (edges : List Edge)
    (distinct : names.Nodup) (kinds : ∀ name ∈ names, graph.kind? name = some .aiCall) :
    (redirectAll graph names edges).events.Perm
      (moves edges (redirectAll graph names edges).edges) := by
  induction names generalizing edges with
  | nil => rw [redirectAll, moves_self]
  | cons consumer rest ih =>
      obtain ⟨kind, kindsRest⟩ := List.forall_mem_cons.mp kinds
      obtain ⟨_, distinctRest⟩ := List.nodup_cons.mp distinct
      have apart : consumer ∉ producers graph edges consumer := fun member =>
        producer_ne_consumer graph edges member kind rfl
      obtain ⟨turned, same, told⟩ := events_pass graph apart edges []
      obtain ⟨turned', same', first⟩ :=
        redirectEdges_turned graph consumer (producers graph edges consumer) edges []
      obtain rfl : turned = turned' := List.append_cancel_left (same.symm.trans same')
      rw [List.nil_append] at same
      have all := moves_append_perm (fun _ _ _ => Turned.once kindsRest) first
        (redirectAll_rerouted graph rest turned distinctRest kindsRest)
      simp only [redirectAll, redirectFor, same, told]
      exact ((ih turned distinctRest kindsRest).append_left _).trans all

/-- A connection is recorded as rewritten exactly if some event says so. -/
theorem mem_rewritten_pass (graph : Graph) {consumer : String} {names : List String}
    (todo done : List Edge) (source target : String) :
    (source, target) ∈ (redirectEdges graph consumer names done todo).rewritten ↔
      ∃ next, Event.contextEdgeRedirected source target next ∈
        (redirectEdges graph consumer names done todo).events := by
  induction todo generalizing done with
  | nil => simp [redirectEdges]
  | cons edge rest ih =>
      rw [redirectEdges]
      cases redirection? graph consumer names (done ++ edge :: rest) edge with
      | none => exact ih (done ++ [edge])
      | some next => simp [ih, exists_or]

theorem mem_rewritten_passes (graph : Graph) (names : List String) (edges : List Edge)
    (source target : String) :
    (source, target) ∈ (redirectAll graph names edges).rewritten ↔
      ∃ next, Event.contextEdgeRedirected source target next ∈
        (redirectAll graph names edges).events := by
  induction names generalizing edges with
  | nil => simp [redirectAll]
  | cons consumer rest ih =>
      simp only [redirectAll, redirectFor, List.mem_append, ih, mem_rewritten_pass, exists_or]

/-! ## Redirections of a graph -/

theorem written_eq (graph : Graph) : written graph = graph.plainConnections.map edgeOf := rfl

/-- Redirection keeps the places and the sources of edges. -/
theorem ends_redirected (graph : Graph) :
    (redirected graph).edges.map (fun e => (e.source, e.target)) =
      graph.redirections.map fun rewrite => (rewrite.1.source, rewrite.2) := by
  have places : ∀ (connections : List Connection) (edges : List Edge),
      List.Forall₂ (Moved graph) (connections.map edgeOf) edges →
      edges.map (fun e => (e.source, e.target)) =
        (connections.zip (edges.map Edge.target)).map fun rewrite =>
          (rewrite.1.source, rewrite.2) := by
    intro connections edges
    induction connections generalizing edges with
    | nil =>
        intro pairs
        cases pairs
        rfl
    | cons c rest ih =>
        intro pairs
        cases pairs with
        | cons moved later =>
            have source := moved.source
            simp [source, edgeOf, ih _ later]
  exact places _ _ (redirected_moved graph)

theorem moves_redirected (graph : Graph) :
    moves (written graph) (redirected graph).edges =
      graph.rewrittenConnections.map fun rewrite =>
        .contextEdgeRedirected rewrite.1.source rewrite.1.target rewrite.2 := by
  rw [moves, written_eq, Graph.rewrittenConnections, Graph.redirections, List.zip_map_left,
    List.zip_map_right, List.filter_map, List.filter_map, List.map_map, List.map_map]
  rfl

/-- No connection is lost or added on the way. -/
theorem map_fst_redirections (graph : Graph) :
    graph.redirections.map Prod.fst = graph.plainConnections := by
  have count := (redirected_moved graph).length_eq
  rw [written_eq, List.length_map] at count
  rw [Graph.redirections, List.map_fst_zip]
  simp [count]

/-! ## Dropped targets -/

theorem targetsOf_cons (source target id : String) (rest : List (String × String)) :
    targetsOf ((source, target) :: rest) id =
      if source = id then target :: targetsOf rest id else targetsOf rest id := by
  by_cases same : source = id <;> simp [targetsOf, same]

theorem targetsOf_without (pairs : List (String × String)) (source target id : String) :
    targetsOf (pairs.filter fun other => !other == (source, target)) id =
      if source = id then (targetsOf pairs id).filter (fun other => !other == target)
      else targetsOf pairs id := by
  simp only [targetsOf, List.filter_filter]
  split
  · rename_i same
    rw [List.filter_map, List.filter_filter]
    refine congrArg (List.map _) (List.filter_congr fun pair _ => ?_)
    by_cases here : pair.1 = id <;> simp [here, same, Prod.ext_iff]
  · rename_i other
    refine congrArg (List.map _) (List.filter_congr fun pair _ => ?_)
    by_cases here : pair.1 = id
    · simp [here, Prod.ext_iff, Ne.symm other]
    · simp [here]

/-- Of equal ends of edges, those of a node are equal as targets. -/
theorem targetsOf_eraseDups (pairs : List (String × String)) (id : String) :
    targetsOf pairs.eraseDups id = (targetsOf pairs id).eraseDups := by
  induction pairs using eraseDups_induction with
  | nil => rfl
  | cons pair rest ih =>
      obtain ⟨source, target⟩ := pair
      rw [List.eraseDups_cons, targetsOf_cons, targetsOf_cons, ih, targetsOf_without]
      split
      · rw [List.eraseDups_cons]
      · rfl

/-- What the ends of edges say about a node is what its connections say. -/
theorem targetsOf_links (graph : Graph) (id : String) :
    targetsOf (links (redirected graph).edges) id = (graph.targetsAfter id).eraseDups := by
  rw [links, targetsOf_eraseDups, ends_redirected, targetsOf, List.filter_map, List.map_map]
  rfl

/-- A node keeps the first of its targets. -/
theorem targetsOf_of_kept {pairs : List (String × String)} {id kept : String}
    (member : (id, kept) ∈ firstTargets pairs) :
    targetsOf pairs id = kept :: (targetsOf pairs id).tail := by
  have found := Keyed.get?_of_mem _ (names_firstTargets_nodup pairs) member
  rw [get?_firstTargets, ← List.head?_filter, ← List.head?_map] at found
  exact (List.eq_cons_of_mem_head? (Option.mem_def.mpr found))

/-- What there is to report about a node and its first target. -/
def collapse (pairs : List (String × String)) (entry : String × String) : Event :=
  .fanOutCollapsed entry.1 entry.2 (targetsOf pairs entry.1).tail

/-- The nodes with more than one target, with their first targets, in byte order. -/
def forks (pairs : List (String × String)) : Keyed String :=
  (firstTargets pairs).inByteOrder.filter fun entry => (targetsOf pairs entry.1).tail ≠ []

theorem collapseEvents_eq (pairs : List (String × String)) :
    collapseEvents pairs = (forks pairs).map (collapse pairs) := by
  rw [collapseEvents, forks]
  induction (firstTargets pairs).inByteOrder with
  | nil => rfl
  | cons entry rest ih =>
      obtain ⟨source, kept⟩ := entry
      cases dropped : (targetsOf pairs source).tail with
      | nil => simp [dropped, ih]
      | cons first more => simp [dropped, ih, collapse]

theorem mem_forks (pairs : List (String × String)) (id : String) :
    id ∈ (forks pairs).names ↔ (targetsOf pairs id).tail ≠ [] := by
  rw [forks, Keyed.names, List.mem_map]
  constructor
  · rintro ⟨entry, member, rfl⟩
    exact of_decide_eq_true (List.mem_filter.mp member).2
  · intro more
    obtain ⟨kept, first⟩ : ∃ kept, (targetsOf pairs id).head? = some kept :=
      Option.isSome_iff_exists.mp (List.isSome_head?.mpr fun none => more (by rw [none]; rfl))
    have found : (firstTargets pairs).get? id = some kept := by
      rw [get?_firstTargets, ← List.head?_filter, ← List.head?_map]
      exact first
    have present := (Keyed.perm_inByteOrder _).mem_iff.mpr (Keyed.mem_of_get? _ found)
    exact ⟨(id, kept), List.mem_filter.mpr ⟨present, decide_eq_true more⟩, rfl⟩

end Resolution

namespace Plan

/-- The events tell of these nodes in turn, and of each what it keeps and what is dropped. -/
structure TellsCollapses (graph : Graph) (plan : Plan) (forks : List String)
    (events : List Event) : Prop where
  ordered : forks.Pairwise fun a b => Text.bytes a < Text.bytes b
  forked : ∀ id, id ∈ forks ↔ graph.kind? id ≠ some .conditional ∧
    ∃ a ∈ graph.targetsAfter id, ∃ b ∈ graph.targetsAfter id, a ≠ b
  told : List.Forall₂ (fun id event => ∃ kept, plan.edges.get? id = some kept ∧
    event = .fanOutCollapsed id kept ((graph.targetsAfter id).filter (· ≠ kept)).eraseDups)
    forks events

theorem TellsCollapses.of_event {graph : Graph} {plan : Plan} {forks : List String}
    {events : List Event} (tells : TellsCollapses graph plan forks events) {id kept : String}
    {dropped : List String} (member : .fanOutCollapsed id kept dropped ∈ events) :
    id ∈ forks ∧ dropped = ((graph.targetsAfter id).filter (· ≠ kept)).eraseDups := by
  have told := tells.told
  clear tells
  induction told with
  | nil => cases member
  | cons head _ ih =>
      rcases List.mem_cons.mp member with rfl | later
      · obtain ⟨kept, _, same⟩ := head
        cases same
        exact ⟨List.mem_cons_self, rfl⟩
      · obtain ⟨known, rest⟩ := ih later
        exact ⟨List.mem_cons_of_mem _ known, rest⟩

theorem not_conditional_of_targetsAfter (graph : Graph) {id target : String}
    (member : target ∈ graph.targetsAfter id) : graph.kind? id ≠ some .conditional := by
  obtain ⟨rewrite, kept, _⟩ := List.mem_map.mp member
  obtain ⟨present, source⟩ := List.mem_filter.mp kept
  have plain : rewrite.1 ∈ graph.plainConnections := (List.of_mem_zip present).1
  exact of_decide_eq_true source ▸ of_decide_eq_true (List.mem_filter.mp plain).2

theorem tells_collapses {graph : Graph} {plan : Plan} (compiled : compile graph = .ok plan) :
    let pairs := Resolution.links (Resolution.redirected graph).edges
    TellsCollapses graph plan (Resolution.forks pairs).names (Resolution.collapseEvents pairs) := by
  intro pairs
  have distinct := Resolution.names_firstTargets_nodup pairs
  refine ⟨?_, ?_, ?_⟩
  · have sorted := (Keyed.pairwise_inByteOrder distinct).filter
      fun entry => (Resolution.targetsOf pairs entry.1).tail ≠ []
    exact List.pairwise_map.mpr (sorted.imp fun less => (Text.bytes_lt_iff _ _).mpr less)
  · intro id
    rw [Resolution.mem_forks, Resolution.targetsOf_links, tail_eraseDups_ne_nil]
    constructor
    · rintro ⟨a, member, b, other, apart⟩
      exact ⟨not_conditional_of_targetsAfter graph member, a, member, b, other, apart⟩
    · rintro ⟨_, two⟩
      exact two
  · rw [Resolution.collapseEvents_eq, Keyed.names, List.forall₂_map_left_iff,
      List.forall₂_map_right_iff, List.forall₂_same]
    intro entry member
    have present := (Keyed.perm_inByteOrder _).mem_iff.mp (List.mem_filter.mp member).1
    have first := Resolution.targetsOf_of_kept present
    refine ⟨entry.2, ?_, ?_⟩
    · rw [edges_compiled compiled]
      exact Keyed.get?_of_mem _ distinct present
    · rw [Resolution.targetsOf_links] at first
      rw [Resolution.collapse, Resolution.targetsOf_links, ← rest_of_eraseDups first]

/-- Compilation tells of its rewrites exactly.  Of the connections that do not leave a conditional
node, each that leads elsewhere after redirection has one event, and the ends of these are what the
plan records as rewritten.  Then there is one event for each node, in byte order, that is not
conditional and whose connections lead to different nodes after redirection: it names the node's
plain edge and the other targets, each once and in declaration order.  Nothing else is told but what
the plan is like, and nothing of nodes whose connections all end at one node. -/
theorem compilation_reports_rewrites (graph : Graph) :
    ∃ plan redirections forks collapses, compile graph = .ok plan ∧
      events graph = redirections ++ collapses ++
        [.planCompiled plan.entry plan.size plan.edges.length plan.routers.length
          plan.rewritten.length] ∧
      graph.redirections.map Prod.fst = graph.plainConnections ∧
      redirections.Perm (graph.rewrittenConnections.map fun rewrite =>
        .contextEdgeRedirected rewrite.1.source rewrite.1.target rewrite.2) ∧
      (∀ source consumer, (source, consumer) ∈ plan.rewritten ↔
        ∃ producer, Event.contextEdgeRedirected source consumer producer ∈ redirections) ∧
      TellsCollapses graph plan forks collapses ∧
      ∀ id kept dropped, Event.fanOutCollapsed id kept dropped ∈ events graph →
        kept ∉ dropped ∧ dropped.Nodup ∧
          ∃ a ∈ graph.targetsAfter id, ∃ b ∈ graph.targetsAfter id, a ≠ b := by
  obtain ⟨plan, compiled⟩ := exists_compile graph
  let redirections := (Resolution.redirected graph).events
  have told := Resolution.events_redirectAll graph (Resolution.consumers graph)
    (Resolution.written graph) (Resolution.consumers_nodup graph)
    fun _ => Resolution.kind_of_mem_consumers graph
  have rewrites : redirections.Perm (graph.rewrittenConnections.map fun rewrite =>
      .contextEdgeRedirected rewrite.1.source rewrite.1.target rewrite.2) :=
    told.trans (.of_eq (Resolution.moves_redirected graph))
  have collapses := tells_collapses compiled
  have all : events graph = redirections ++
      Resolution.collapseEvents (Resolution.links (Resolution.redirected graph).edges) ++
      [.planCompiled plan.entry plan.size plan.edges.length plan.routers.length
        plan.rewritten.length] := by
    rw [events, compiled]
    rfl
  refine ⟨plan, redirections, _, _, compiled, all, Resolution.map_fst_redirections graph, rewrites,
    ?_, collapses, ?_⟩
  · intro source consumer
    rw [mem_rewritten compiled]
    exact Resolution.mem_rewritten_passes graph _ _ source consumer
  · intro id kept dropped member
    rw [all, List.mem_append, List.mem_append, List.mem_singleton] at member
    have inCollapses := (member.resolve_right (by simp)).resolve_left fun redirected => by
      simpa using rewrites.mem_iff.mp redirected
    obtain ⟨known, rfl⟩ := collapses.of_event inCollapses
    exact ⟨by simp, nodup_eraseDups _, ((collapses.forked id).mp known).2⟩

end Plan

end ChatFlow
