import ChatFlow.Proofs.Paths
import ChatFlow.Proofs.Reachability
import Mathlib.Data.List.Forall2

/-!
# Redirection edge by edge

A redirection replaces the target of one edge in its place and leaves all others alone.  So the
edges after redirection stand in the places of the edges as written: each is the written edge, or
it leads from the same source to a context producer of the written target.  Since producers are
never consumers, what one consumer changes is invisible to the others.
-/

set_option autoImplicit false

namespace ChatFlow.Resolution

open Relation (ReflTransGen)

theorem forall₂_trans {α β γ : Type} {r : α → β → Prop} {s : β → γ → Prop} {t : α → γ → Prop}
    {as : List α} {bs : List β} {cs : List γ} (first : List.Forall₂ r as bs)
    (later : List.Forall₂ s bs cs) (compose : ∀ a b c, r a b → s b c → t a c) :
    List.Forall₂ t as cs := by
  induction first generalizing cs with
  | nil =>
      cases later
      exact .nil
  | cons head _ ih =>
      cases later with
      | cons next rest => exact .cons (compose _ _ _ head next) (ih rest)

/-! ## Producers and detours -/

theorem mem_producers (graph : Graph) (edges : List Edge) (consumer id : String) :
    id ∈ producers graph edges consumer ↔
      ∃ node ∈ graph.nodes, node.id = id ∧ (node.kind = .retrieval ∨ node.kind = .spreadsheet) ∧
        feedsContext edges consumer node = true := by
  simp only [producers, List.mem_append, List.mem_map, List.mem_filter, Bool.and_eq_true,
    decide_eq_true_eq]
  constructor
  · rintro (⟨node, ⟨member, kind, feeds⟩, same⟩ | ⟨node, ⟨member, kind, feeds⟩, same⟩)
    · exact ⟨node, member, same, .inl kind, feeds⟩
    · exact ⟨node, member, same, .inr kind, feeds⟩
  · rintro ⟨node, member, same, kind | kind, feeds⟩
    · exact .inl ⟨node, ⟨member, kind, feeds⟩, same⟩
    · exact .inr ⟨node, ⟨member, kind, feeds⟩, same⟩

theorem kind_of_mem_producers (graph : Graph) (edges : List Edge) {consumer id : String}
    (member : id ∈ producers graph edges consumer) :
    graph.kind? id = some .retrieval ∨ graph.kind? id = some .spreadsheet := by
  obtain ⟨node, present, rfl, kind, _⟩ := (mem_producers graph edges consumer id).mp member
  rw [graph.kind?_of_mem present]
  exact kind.imp (congrArg some) (congrArg some)

theorem producer_ne_consumer (graph : Graph) (edges : List Edge) {consumer id other : String}
    (member : id ∈ producers graph edges consumer) (kind : graph.kind? other = some .aiCall) :
    id ≠ other := by
  rintro rfl
  rcases kind_of_mem_producers graph edges member with found | found <;>
    rw [kind] at found <;> cases found

theorem mem_of_following? {name next : String} {names : List String}
    (found : following? name names = some next) : next ∈ names := by
  induction names with
  | nil => cases found
  | cons head rest ih =>
      rw [following?] at found
      split at found
      · exact List.mem_cons_of_mem head (List.mem_of_head? found)
      · exact List.mem_cons_of_mem head (ih found)

theorem mem_of_detour? {graph : Graph} {names : List String} {source next : String}
    (found : detour? graph names source = some next) : next ∈ names := by
  rw [detour?] at found
  split at found
  · exact mem_of_following? found
  · split at found
    · exact List.mem_of_head? found
    · cases found

/-! ## One pass -/

/-- What a pass for one consumer may make of an edge. -/
def Turned (graph : Graph) (consumer : String) (names : List String)
    (recorded : List (String × String)) (before after : Edge) : Prop :=
  after = before ∨
    (before.target = consumer ∧ (before.source, consumer) ∈ recorded ∧
      ∃ next, detour? graph names before.source = some next ∧
        after = ⟨before.source, next, false⟩)

theorem Turned.mono {graph : Graph} {consumer : String} {names : List String}
    {recorded more : List (String × String)} (included : ∀ pair ∈ recorded, pair ∈ more)
    {before after : Edge} (turned : Turned graph consumer names recorded before after) :
    Turned graph consumer names more before after :=
  turned.imp_right fun ⟨target, member, detour⟩ => ⟨target, included _ member, detour⟩

theorem redirection?_eq_some (graph : Graph) (consumer : String) (names : List String)
    (edges : List Edge) (edge : Edge) (next : String) :
    redirection? graph consumer names edges edge = some next ↔
      edge.target = consumer ∧ detour? graph names edge.source = some next ∧
        ¬ ReflTransGen (Linked edges) next edge.source := by
  rw [redirection?]
  split
  · rename_i other
    simp [other]
  · rename_i same
    rw [← reaches_eq_true]
    cases detour? graph names edge.source with
    | none => simp
    | some producer =>
        have target : edge.target = consumer := of_not_not same
        by_cases back : reaches edges producer edge.source = true
        · simp only [back, if_true, Option.some.injEq, reduceCtorEq, false_iff]
          rintro ⟨_, rfl, apart⟩
          exact apart back
        · simp only [if_neg back, Option.some.injEq, target, true_and]
          constructor
          · rintro rfl
            exact ⟨rfl, back⟩
          · exact fun found => found.1

theorem redirectEdges_turned (graph : Graph) (consumer : String) (names : List String)
    (todo done : List Edge) :
    ∃ turned, (redirectEdges graph consumer names done todo).edges = done ++ turned ∧
      List.Forall₂
        (Turned graph consumer names (redirectEdges graph consumer names done todo).rewritten)
        todo turned := by
  induction todo generalizing done with
  | nil => exact ⟨[], by simp [redirectEdges], .nil⟩
  | cons edge rest ih =>
      rw [redirectEdges]
      cases call : redirection? graph consumer names (done ++ edge :: rest) edge with
      | none =>
          obtain ⟨turned, same, pairs⟩ := ih (done ++ [edge])
          exact ⟨edge :: turned, by simpa using same, .cons (.inl rfl) pairs⟩
      | some next =>
          obtain ⟨target, detour, _⟩ :=
            (redirection?_eq_some graph consumer names _ edge next).mp call
          obtain ⟨turned, same, pairs⟩ := ih (done ++ [⟨edge.source, next, false⟩])
          refine ⟨⟨edge.source, next, false⟩ :: turned, by simpa using same, .cons ?_ ?_⟩
          · exact .inr ⟨target, List.mem_cons_self, next, detour, rfl⟩
          · exact pairs.imp fun _ _ => Turned.mono fun _ => List.mem_cons_of_mem _

/-- What every single rewrite keeps, the pass keeps. -/
theorem redirectEdges_keeps (graph : Graph) (consumer : String) (names : List String)
    (property : List Edge → Prop)
    (step : ∀ before edge after next, property (before ++ edge :: after) →
      redirection? graph consumer names (before ++ edge :: after) edge = some next →
      property (before ++ ⟨edge.source, next, false⟩ :: after))
    (todo done : List Edge) (holds : property (done ++ todo)) :
    property (redirectEdges graph consumer names done todo).edges := by
  induction todo generalizing done with
  | nil => simpa [redirectEdges] using holds
  | cons edge rest ih =>
      rw [redirectEdges]
      cases call : redirection? graph consumer names (done ++ edge :: rest) edge with
      | none => exact ih (done ++ [edge]) (by simpa using holds)
      | some next =>
          have rewritten := step done edge rest next holds call
          exact ih (done ++ [⟨edge.source, next, false⟩]) (by simpa using rewritten)

/-- What a pass records are edges into the consumer. -/
theorem edge_of_rewritten {graph : Graph} {consumer : String} {names : List String}
    {todo done : List Edge} {pair : String × String}
    (member : pair ∈ (redirectEdges graph consumer names done todo).rewritten) :
    ∃ e ∈ todo, e.target = consumer ∧ pair = (e.source, consumer) := by
  induction todo generalizing done with
  | nil => cases member
  | cons edge rest ih =>
      rw [redirectEdges] at member
      cases call : redirection? graph consumer names (done ++ edge :: rest) edge with
      | none =>
          simp only [call] at member
          obtain ⟨e, later, found⟩ := ih member
          exact ⟨e, List.mem_cons_of_mem edge later, found⟩
      | some next =>
          simp only [call] at member
          rcases List.mem_cons.mp member with rfl | recorded
          · have target := ((redirection?_eq_some graph consumer names _ edge next).mp call).1
            exact ⟨edge, List.mem_cons_self, target, rfl⟩
          · obtain ⟨e, later, found⟩ := ih recorded
            exact ⟨e, List.mem_cons_of_mem edge later, found⟩

/-! ## No pass closes a loop -/

theorem linked_replace (before after : List Edge) (edge : Edge) (next a b : String)
    (linked : Linked (before ++ ⟨edge.source, next, false⟩ :: after) a b) :
    Linked (before ++ edge :: after) a b ∨ (a = edge.source ∧ b = next) := by
  obtain ⟨e, member, rfl, rfl⟩ := linked
  rcases List.mem_append.mp member with earlier | member
  · exact .inl ⟨e, List.mem_append_left _ earlier, rfl, rfl⟩
  · rcases List.mem_cons.mp member with rfl | later
    · exact .inr ⟨rfl, rfl⟩
    · exact .inl ⟨e, List.mem_append_right _ (List.mem_cons_of_mem _ later), rfl, rfl⟩

/-- A single rewrite closes no loop: that is what the guard is for. -/
theorem acyclic_rewrite {before after : List Edge} {edge : Edge} {next : String}
    (acyclic : Acyclic (Linked (before ++ edge :: after)))
    (apart : ¬ ReflTransGen (Linked (before ++ edge :: after)) next edge.source) :
    Acyclic (Linked (before ++ ⟨edge.source, next, false⟩ :: after)) :=
  (acyclic.withStep apart).mono (linked_replace before after edge next)

theorem redirectAll_acyclic (graph : Graph) (names : List String) (edges : List Edge)
    (acyclic : Acyclic (Linked edges)) :
    Acyclic (Linked (redirectAll graph names edges).edges) := by
  induction names generalizing edges with
  | nil => exact acyclic
  | cons consumer rest ih =>
      apply ih
      refine redirectEdges_keeps graph consumer _ (fun edges => Acyclic (Linked edges)) ?_ edges []
        acyclic
      intro before edge after next holds call
      have guarded := (redirection?_eq_some graph consumer _ _ edge next).mp call
      exact acyclic_rewrite holds guarded.2.2

/-! ## All passes -/

/-- What the passes for some consumers may make of an edge; `origin` are the edges before them. -/
def Rerouted (graph : Graph) (origin : List Edge) (names : List String)
    (recorded : List (String × String)) (before after : Edge) : Prop :=
  after = before ∨
    (before.target ∈ names ∧ (before.source, before.target) ∈ recorded ∧
      ∃ next, detour? graph (producers graph origin before.target) before.source = some next ∧
        after = ⟨before.source, next, false⟩)

theorem Rerouted.source {graph : Graph} {origin : List Edge} {names : List String}
    {recorded : List (String × String)} {before after : Edge}
    (rerouted : Rerouted graph origin names recorded before after) :
    after.source = before.source := by
  rcases rerouted with rfl | ⟨_, _, _, _, rfl⟩ <;> rfl

/-- A pass for one consumer leaves the edges into another one as they are. -/
theorem feedsContext_turned (graph : Graph) (origin : List Edge) {consumer other : String}
    {recorded : List (String × String)} (different : other ≠ consumer)
    (kind : graph.kind? other = some .aiCall) {edges turned : List Edge}
    (pairs : List.Forall₂ (Turned graph consumer (producers graph origin consumer) recorded)
      edges turned) (node : Node) :
    feedsContext turned other node = feedsContext edges other node := by
  induction pairs with
  | nil => rfl
  | @cons before after edges turned step _ ih =>
      simp only [feedsContext, List.any_cons] at ih ⊢
      rw [ih]
      rcases step with rfl | ⟨target, _, next, detour, rfl⟩
      · rfl
      · have apart := producer_ne_consumer graph origin (mem_of_detour? detour) kind
        have before_apart : before.target ≠ other := by
          rw [target]
          exact different.symm
        simp [apart, before_apart]

theorem producers_turned (graph : Graph) (origin : List Edge) {consumer other : String}
    {recorded : List (String × String)} (different : other ≠ consumer)
    (kind : graph.kind? other = some .aiCall) {edges turned : List Edge}
    (pairs : List.Forall₂ (Turned graph consumer (producers graph origin consumer) recorded)
      edges turned) :
    producers graph turned other = producers graph edges other := by
  simp only [producers, feedsContext_turned graph origin different kind pairs]

/-- The pass for a consumer neither adds nor removes producers of another one. -/
theorem producers_redirectFor (graph : Graph) (edges : List Edge) {consumer other : String}
    (different : other ≠ consumer) (kind : graph.kind? other = some .aiCall) :
    producers graph (redirectFor graph edges consumer).edges other =
      producers graph edges other := by
  obtain ⟨turned, same, pairs⟩ :=
    redirectEdges_turned graph consumer (producers graph edges consumer) edges []
  rw [redirectFor, same, List.nil_append]
  exact producers_turned graph edges different kind pairs

/-- What a pass turns and the later passes reroute. -/
theorem Turned.rerouted {graph : Graph} {edges turned : List Edge} {consumer : String}
    {rest : List String} {first later : List (String × String)}
    (agree : ∀ name ∈ rest, producers graph turned name = producers graph edges name)
    (kinds : ∀ name ∈ rest, graph.kind? name = some .aiCall) {before middle after : Edge}
    (turn : Turned graph consumer (producers graph edges consumer) first before middle)
    (reroute : Rerouted graph turned rest later middle after) :
    Rerouted graph edges (consumer :: rest) (first ++ later) before after := by
  rcases turn with rfl | ⟨target, member, next, detour, rfl⟩
  · rcases reroute with rfl | ⟨target, member, next, detour, rfl⟩
    · exact .inl rfl
    · rw [agree _ target] at detour
      exact .inr ⟨List.mem_cons_of_mem _ target, List.mem_append_right _ member, next, detour, rfl⟩
  · rcases reroute with rfl | ⟨again, _⟩
    · refine .inr ⟨target ▸ List.mem_cons_self, ?_, next, ?_, rfl⟩
      · exact List.mem_append_left _ (target ▸ member)
      · exact target ▸ detour
    · -- the detour ends at a producer, which is no consumer
      exact absurd rfl (producer_ne_consumer graph edges (mem_of_detour? detour) (kinds next again))

theorem redirectAll_rerouted (graph : Graph) (names : List String) (edges : List Edge)
    (distinct : names.Nodup) (kinds : ∀ name ∈ names, graph.kind? name = some .aiCall) :
    List.Forall₂ (Rerouted graph edges names (redirectAll graph names edges).rewritten) edges
      (redirectAll graph names edges).edges := by
  induction names generalizing edges with
  | nil => exact List.forall₂_same.mpr fun _ _ => .inl rfl
  | cons consumer rest ih =>
      obtain ⟨fresh, distinctRest⟩ := List.nodup_cons.mp distinct
      have kindsRest : ∀ name ∈ rest, graph.kind? name = some .aiCall :=
        fun name member => kinds name (List.mem_cons_of_mem consumer member)
      obtain ⟨turned, same, first⟩ :=
        redirectEdges_turned graph consumer (producers graph edges consumer) edges []
      rw [List.nil_append] at same
      -- producers are no consumers, so the pass adds and removes none for the others
      have agree : ∀ name ∈ rest, producers graph turned name = producers graph edges name := by
        intro name member
        have different : name ≠ consumer := fun equal => fresh (equal ▸ member)
        exact producers_turned graph edges different (kindsRest name member) first
      have later := ih turned distinctRest kindsRest
      simp only [redirectAll, redirectFor, same]
      exact forall₂_trans first later fun _ _ _ => Turned.rerouted agree kindsRest

/-- Edges between nodes of the graph. -/
def Inside (graph : Graph) (edges : List Edge) : Prop :=
  ∀ e ∈ edges, e.source ∈ graph.ids ∧ e.target ∈ graph.ids

theorem redirectFor_inside (graph : Graph) {edges : List Edge} (inside : Inside graph edges)
    (consumer : String) : Inside graph (redirectFor graph edges consumer).edges := by
  refine redirectEdges_keeps graph consumer _ (Inside graph) ?_ edges [] inside
  intro before edge after next here call e member
  obtain ⟨_, detour, _⟩ := (redirection?_eq_some graph consumer _ _ edge next).mp call
  rcases List.mem_append.mp member with earlier | member
  · exact here e (List.mem_append_left _ earlier)
  · rcases List.mem_cons.mp member with rfl | later
    · obtain ⟨node, present, rfl, _⟩ :=
        (mem_producers graph edges consumer next).mp (mem_of_detour? detour)
      have source := (here edge (List.mem_append_right _ List.mem_cons_self)).1
      exact ⟨source, List.mem_map_of_mem present⟩
    · exact here e (List.mem_append_right _ (List.mem_cons_of_mem _ later))

theorem redirectAll_inside (graph : Graph) (names : List String) (edges : List Edge)
    (known : ∀ name ∈ names, name ∈ graph.ids) (inside : Inside graph edges) :
    Inside graph (redirectAll graph names edges).edges ∧
      ∀ pair ∈ (redirectAll graph names edges).rewritten,
        pair.1 ∈ graph.ids ∧ pair.2 ∈ graph.ids := by
  induction names generalizing edges with
  | nil => exact ⟨inside, fun pair member => absurd member List.not_mem_nil⟩
  | cons consumer rest ih =>
      obtain ⟨edgesLater, pairsLater⟩ := ih (redirectFor graph edges consumer).edges
        (fun name member => known name (List.mem_cons_of_mem consumer member))
        (redirectFor_inside graph inside consumer)
      refine ⟨edgesLater, fun pair member => ?_⟩
      rcases List.mem_append.mp member with here | later
      · obtain ⟨e, present, _, rfl⟩ := edge_of_rewritten here
        exact ⟨(inside e present).1, known consumer List.mem_cons_self⟩
      · exact pairsLater pair later

end ChatFlow.Resolution
