import ChatFlow.Proofs.ContextChains
import ChatFlow.Proofs.WalkRuns

/-!
# Producers that serve one model only

If every context producer of an ai-call node has no other connection, and the connections of nodes
that are not conditional form no loop, no redirection is ever left out: connections and detours
together form no loop, and whatever edges a pass sees are among them.  So the edges after
redirection are the written ones with every detour taken.
-/

set_option autoImplicit false

namespace ChatFlow

open Relation (TransGen ReflTransGen)

namespace Graph

variable (graph : Graph)

/-- The node is a context producer of an ai-call node. -/
def Serves (id consumer : String) : Prop :=
  graph.kind? consumer = some .aiCall ∧ id ∈ graph.contextProducers consumer

/-- A context producer of an ai-call node has a single connection. -/
def Dedicated : Prop :=
  ∀ id consumer, graph.Serves id consumer → (graph.outgoing id).length = 1

/-- Some connection leads to an ai-call node for which a detour leads to the other node. -/
def Detours (a b : String) : Prop :=
  ∃ consumer, graph.kind? consumer = some .aiCall ∧ graph.PlainlyLeads a consumer ∧
    Resolution.detour? graph (graph.contextProducers consumer) a = some b

variable {graph}

theorem Serves.not_aiCall {id consumer : String} (serves : graph.Serves id consumer) :
    graph.kind? id ≠ some .aiCall := graph.not_aiCall_of_producer serves.2

theorem Serves.outgoing (dedicated : graph.Dedicated) {id consumer : String}
    (serves : graph.Serves id consumer) :
    ∃ c, graph.outgoing id = [c] ∧ c.target = consumer := by
  obtain ⟨c, only⟩ := List.length_eq_one_iff.mp (dedicated id consumer serves)
  obtain ⟨_, d, present, source, target, _⟩ :=
    (graph.mem_contextProducers consumer id).mp serves.2
  have left : d ∈ graph.outgoing id := List.mem_filter.mpr ⟨present, decide_eq_true source⟩
  rw [only, List.mem_singleton] at left
  exact ⟨c, only, left ▸ target⟩

theorem Serves.first? (dedicated : graph.Dedicated) {id consumer : String}
    (serves : graph.Serves id consumer) :
    ∃ c, graph.first? id = some c ∧ c.target = consumer := by
  obtain ⟨c, only, target⟩ := serves.outgoing dedicated
  exact ⟨c, by rw [Graph.first?, only, List.head?_cons], target⟩

theorem Serves.target (dedicated : graph.Dedicated) {id consumer other : String}
    (serves : graph.Serves id consumer) (leads : graph.Leads id other) : other = consumer := by
  obtain ⟨c, only, target⟩ := serves.outgoing dedicated
  obtain ⟨d, present, source, rfl⟩ := leads
  have left : d ∈ graph.outgoing id := List.mem_filter.mpr ⟨present, decide_eq_true source⟩
  rw [only, List.mem_singleton] at left
  exact left ▸ target

theorem Serves.leads {id consumer : String} (serves : graph.Serves id consumer) :
    graph.PlainlyLeads id consumer := by
  obtain ⟨_, c, present, source, target, _⟩ :=
    (graph.mem_contextProducers consumer id).mp serves.2
  exact ⟨⟨c, present, source, target⟩, (graph.exists_first?_of_producer serves.2).1⟩

/-! ## Connections and detours form no loop -/

/-- The ai-call node that a dedicated producer serves; any other node stands for itself. -/
def served (graph : Graph) (id : String) : String :=
  match graph.first? id with
  | none => id
  | some c =>
    if graph.kind? c.target = some .aiCall ∧ id ∈ graph.contextProducers c.target then c.target
    else id

theorem served_of_serves (dedicated : graph.Dedicated) {id consumer : String}
    (serves : graph.Serves id consumer) : graph.served id = consumer := by
  obtain ⟨c, first, rfl⟩ := serves.first? dedicated
  simp only [served, first]
  exact if_pos serves

theorem served_of_not_serves {id : String} (apart : ∀ consumer, ¬ graph.Serves id consumer) :
    graph.served id = id := by
  rw [served]
  cases graph.first? id with
  | none => rfl
  | some c => exact if_neg (apart c.target)

theorem path_to_served (id : String) : ReflTransGen graph.PlainlyLeads id (graph.served id) := by
  rw [served]
  cases graph.first? id with
  | none => exact .refl
  | some c =>
      dsimp only
      split
      · rename_i serves
        exact .single (Serves.leads serves)
      · exact .refl

/-- The place of a node among the producers of the node that it serves; that node itself comes
after all of them. -/
def place (graph : Graph) (id : String) : Nat :=
  (graph.contextProducers (graph.served id)).idxOf id

/-- A node comes before another if the node that it serves leads to the one that the other serves,
or if both serve the same node and this is their order. -/
def Precedes (graph : Graph) (a b : String) : Prop :=
  TransGen graph.PlainlyLeads (graph.served a) (graph.served b) ∨
    graph.served a = graph.served b ∧ graph.place a < graph.place b

theorem Precedes.trans {a b c : String} (first : graph.Precedes a b)
    (later : graph.Precedes b c) : graph.Precedes a c := by
  rcases first with path | ⟨same, less⟩ <;> rcases later with onward | ⟨equal, smaller⟩
  · exact .inl (path.trans onward)
  · exact .inl (equal ▸ path)
  · exact .inl (same ▸ onward)
  · exact .inr ⟨same.trans equal, less.trans smaller⟩

theorem not_precedes_self (acyclic : Acyclic graph.PlainlyLeads) (a : String) :
    ¬ graph.Precedes a a := by
  rintro (loop | ⟨_, less⟩)
  · exact acyclic _ loop
  · exact Nat.lt_irrefl _ less

theorem precedes_of_leads (dedicated : graph.Dedicated) {a b : String}
    (leads : graph.PlainlyLeads a b) : graph.Precedes a b := by
  by_cases serves : ∃ consumer, graph.Serves a consumer
  · -- the producer comes before the node that it serves
    obtain ⟨consumer, serves⟩ := serves
    have target := serves.target dedicated leads.1
    subst target
    have itself : graph.served b = b :=
      served_of_not_serves fun other again => again.not_aiCall serves.1
    have absent : b ∉ graph.contextProducers b := fun member =>
      Serves.not_aiCall ⟨serves.1, member⟩ serves.1
    refine .inr ⟨(served_of_serves dedicated serves).trans itself.symm, ?_⟩
    rw [place, place, served_of_serves dedicated serves, itself, List.idxOf_eq_length absent]
    exact List.idxOf_lt_length_of_mem serves.2
  · have itself : graph.served a = a :=
      served_of_not_serves fun consumer found => serves ⟨consumer, found⟩
    refine .inl ?_
    rw [itself]
    exact TransGen.head' leads (path_to_served b)

theorem idxOf_following? {name next : String} {names : List String} (distinct : names.Nodup)
    (found : Resolution.following? name names = some next) :
    names.idxOf name < names.idxOf next := by
  induction names with
  | nil => cases found
  | cons head rest ih =>
      obtain ⟨fresh, distinctRest⟩ := List.nodup_cons.mp distinct
      rw [Resolution.following?] at found
      split at found
      · rename_i same
        have later : next ∈ rest := List.mem_of_head? found
        have other : head ≠ next := fun equal => fresh (equal ▸ later)
        rw [← same, List.idxOf_cons_self, List.idxOf_cons_ne rest other]
        exact Nat.succ_pos _
      · rename_i different
        have later := Resolution.mem_of_following? found
        have other : head ≠ next := fun equal => fresh (equal ▸ later)
        rw [List.idxOf_cons_ne rest different, List.idxOf_cons_ne rest other]
        exact Nat.succ_lt_succ (ih distinctRest found)

theorem precedes_of_detours (dedicated : graph.Dedicated) {a b : String}
    (detours : graph.Detours a b) : graph.Precedes a b := by
  obtain ⟨consumer, kind, leads, detour⟩ := detours
  have servesB : graph.Serves b consumer := ⟨kind, Resolution.mem_of_detour? detour⟩
  have servedB := served_of_serves dedicated servesB
  rw [Resolution.detour?] at detour
  split at detour
  · rename_i member
    have servedA := served_of_serves dedicated ⟨kind, member⟩
    refine .inr ⟨servedA.trans servedB.symm, ?_⟩
    rw [place, place, servedA, servedB]
    exact idxOf_following? (graph.contextProducers_nodup consumer) detour
  · split at detour
    · rename_i isInput
      have itself : graph.served a = a := by
        have input := (graph.any_isInput a).mp isInput
        exact served_of_not_serves fun other serves => input.not_producer other serves.2
      exact .inl (by rw [itself, servedB]; exact .single leads)
    · cases detour

/-- What redirection may make of the connections, taken together. -/
def Heads (graph : Graph) (a b : String) : Prop := graph.PlainlyLeads a b ∨ graph.Detours a b

theorem heads_acyclic (dedicated : graph.Dedicated) (acyclic : Acyclic graph.PlainlyLeads) :
    Acyclic graph.Heads := by
  refine acyclic_of_strict (s := graph.Precedes) Precedes.trans (not_precedes_self acyclic)
    fun a b heads => ?_
  rcases heads with leads | detours
  · exact precedes_of_leads dedicated leads
  · exact precedes_of_detours dedicated detours

end Graph

namespace Resolution

/-! ## Every detour is taken -/

/-- Where the detour of an edge to a consumer leads. -/
def detourOf? (graph : Graph) (e : Edge) : Option String :=
  detour? graph (graph.contextProducers e.target) e.source

/-- An edge after the passes for some consumers, if its detour is taken. -/
def detoured (graph : Graph) (names : List String) (e : Edge) : Edge :=
  if e.target ∈ names then
    match detourOf? graph e with
    | some next => ⟨e.source, next, false⟩
    | none => e
  else e

theorem detoured_of_detour {graph : Graph} {names : List String} {e : Edge} {next : String}
    (member : e.target ∈ names) (found : detourOf? graph e = some next) :
    detoured graph names e = ⟨e.source, next, false⟩ := by
  rw [detoured, if_pos member]
  simp only [found]

theorem detoured_of_none {graph : Graph} {names : List String} {e : Edge}
    (stays : e.target ∈ names → detourOf? graph e = none) : detoured graph names e = e := by
  rw [detoured]
  split
  · rename_i member
    simp only [stays member]
  · rfl

theorem detoured_cases (graph : Graph) (names : List String) (e : Edge) :
    detoured graph names e = e ∨ ∃ next, e.target ∈ names ∧ detourOf? graph e = some next ∧
      detoured graph names e = ⟨e.source, next, false⟩ := by
  by_cases member : e.target ∈ names
  · cases found : detourOf? graph e with
    | none => exact .inl (detoured_of_none fun _ => found)
    | some next => exact .inr ⟨next, member, rfl, detoured_of_detour member found⟩
  · exact .inl (detoured_of_none fun absent => absurd absent member)

theorem detoured_source (graph : Graph) (names : List String) (e : Edge) :
    (detoured graph names e).source = e.source := by
  rcases detoured_cases graph names e with same | ⟨_, _, _, same⟩ <;> rw [same]

theorem detourOf?_not_aiCall {graph : Graph} {e : Edge} {next : String}
    (found : detourOf? graph e = some next) : graph.kind? next ≠ some .aiCall :=
  graph.not_aiCall_of_producer (mem_of_detour? found)

/-- All edges are connections or detours. -/
def Heading (graph : Graph) (edges : List Edge) : Prop :=
  ∀ a b, Linked edges a b → graph.Heads a b

section

variable {graph : Graph} {consumer : String} (kind : graph.kind? consumer = some .aiCall)
include kind

theorem detours_of_heading {edges : List Edge} (heading : Heading graph edges) {edge : Edge}
    (member : edge ∈ edges) (target : edge.target = consumer) {next : String}
    (detour : detour? graph (graph.contextProducers consumer) edge.source = some next) :
    graph.Detours edge.source next := by
  rcases heading edge.source edge.target ⟨edge, member, rfl, rfl⟩ with leads | ⟨_, other, _, taken⟩
  · exact ⟨consumer, kind, target ▸ leads, detour⟩
  · -- a detour ends at a producer, which is no consumer
    have serves : graph.Serves consumer _ := ⟨other, target ▸ mem_of_detour? taken⟩
    exact absurd kind serves.not_aiCall

/-- The guard holds no redirection back. -/
theorem redirection?_taken (acyclic : Acyclic graph.Heads) {edges : List Edge}
    (heading : Heading graph edges) {edge : Edge} (member : edge ∈ edges) (next : String) :
    redirection? graph consumer (graph.contextProducers consumer) edges edge = some next ↔
      edge.target = consumer ∧
        detour? graph (graph.contextProducers consumer) edge.source = some next := by
  rw [redirection?_eq_some]
  constructor
  · exact fun ⟨target, detour, _⟩ => ⟨target, detour⟩
  · rintro ⟨target, detour⟩
    -- the way back that the guard looks for would close a loop of connections and detours
    refine ⟨target, detour, fun back => acyclic edge.source ?_⟩
    have step := detours_of_heading kind heading member target detour
    exact TransGen.head' (.inr step) (ReflTransGen.mono heading _ _ back)

theorem heading_rewrite {before after : List Edge} {edge : Edge} {next : String}
    (heading : Heading graph (before ++ edge :: after))
    (call : redirection? graph consumer (graph.contextProducers consumer)
      (before ++ edge :: after) edge = some next) :
    Heading graph (before ++ ⟨edge.source, next, false⟩ :: after) := by
  obtain ⟨target, detour, _⟩ := (redirection?_eq_some graph consumer _ _ edge next).mp call
  intro a b linked
  rcases linked_replace before after edge next a b linked with old | ⟨rfl, rfl⟩
  · exact heading a b old
  · have member : edge ∈ before ++ edge :: after := List.mem_append_right _ List.mem_cons_self
    exact .inr (detours_of_heading kind heading member target detour)

/-- A pass takes every detour around its consumer and records it. -/
theorem redirectEdges_detoured (acyclic : Acyclic graph.Heads) (todo done : List Edge)
    (heading : Heading graph (done ++ todo)) :
    let result := redirectEdges graph consumer (graph.contextProducers consumer) done todo
    result.edges = done ++ todo.map (detoured graph [consumer]) ∧
      ∀ source name, (source, name) ∈ result.rewritten ↔
        name = consumer ∧ Linked todo source name ∧
          (detour? graph (graph.contextProducers name) source).isSome = true := by
  induction todo generalizing done with
  | nil => simp [redirectEdges, Linked]
  | cons edge rest ih =>
      have member : edge ∈ done ++ edge :: rest := List.mem_append_right _ List.mem_cons_self
      have taken := redirection?_taken kind acyclic heading member
      rw [redirectEdges]
      cases call : redirection? graph consumer (graph.contextProducers consumer)
          (done ++ edge :: rest) edge with
      | none =>
          have stays : ∀ next, edge.target = consumer →
              detour? graph (graph.contextProducers consumer) edge.source ≠ some next := by
            intro next target detour
            have found := (taken next).mpr ⟨target, detour⟩
            rw [call] at found
            cases found
          have same : detoured graph [consumer] edge = edge := by
            refine detoured_of_none fun member => Option.eq_none_iff_forall_ne_some.mpr ?_
            have target := List.mem_singleton.mp member
            rw [detourOf?, target]
            exact fun next => stays next target
          obtain ⟨edges, recorded⟩ := ih (done ++ [edge]) (by simpa using heading)
          refine ⟨by simp [edges, same], fun source name => ?_⟩
          rw [recorded, linked_cons]
          refine and_congr_right ?_
          rintro rfl
          refine and_congr_left fun found => ⟨.inr, fun linked => ?_⟩
          rcases linked with ⟨rfl, target⟩ | linked
          · obtain ⟨next, detour⟩ := Option.isSome_iff_exists.mp found
            exact absurd detour (stays next target)
          · exact linked
      | some next =>
          obtain ⟨target, detour⟩ := (taken next).mp call
          have turned : detoured graph [consumer] edge = ⟨edge.source, next, false⟩ :=
            detoured_of_detour (List.mem_singleton.mpr target) (by rw [detourOf?, target, detour])
          have onward := heading_rewrite kind heading call
          obtain ⟨edges, recorded⟩ :=
            ih (done ++ [⟨edge.source, next, false⟩]) (by simpa using onward)
          refine ⟨by simp [edges, turned], fun source name => ?_⟩
          rw [List.mem_cons, recorded, linked_cons, Prod.mk.injEq]
          constructor
          · rintro (⟨rfl, rfl⟩ | ⟨rfl, linked, found⟩)
            · exact ⟨rfl, .inl ⟨rfl, target⟩, detour ▸ rfl⟩
            · exact ⟨rfl, .inr linked, found⟩
          · rintro ⟨rfl, ⟨rfl, _⟩ | linked, found⟩
            · exact .inl ⟨rfl, rfl⟩
            · exact .inr ⟨rfl, linked, found⟩

end

/-- The passes for some consumers leave the edges into the others alone, and add none to them. -/
theorem linked_detoured {graph : Graph} {names : List String} {name : String}
    (other : name ∉ names) (kind : graph.kind? name = some .aiCall) (edges : List Edge)
    (source : String) :
    Linked (edges.map (detoured graph names)) source name ↔ Linked edges source name := by
  constructor
  · rintro ⟨_, mapped, rfl, rfl⟩
    obtain ⟨e, member, rfl⟩ := List.mem_map.mp mapped
    rcases detoured_cases graph names e with same | ⟨next, _, found, same⟩
    · exact ⟨e, member, by rw [same], by rw [same]⟩
    · rw [same] at kind
      exact absurd kind (detourOf?_not_aiCall found)
  · rintro ⟨e, member, rfl, rfl⟩
    have same : detoured graph names e = e := detoured_of_none fun inside => absurd inside other
    exact ⟨e, List.mem_map.mpr ⟨e, member, same⟩, rfl, rfl⟩

theorem detoured_cons {graph : Graph} {consumer : String} {rest : List String} (e : Edge)
    (kinds : ∀ name ∈ rest, graph.kind? name = some .aiCall) :
    detoured graph rest (detoured graph [consumer] e) = detoured graph (consumer :: rest) e := by
  cases found : detourOf? graph e with
  | none =>
      have stays : ∀ names, detoured graph names e = e :=
        fun names => detoured_of_none fun _ => found
      rw [stays, stays, stays]
  | some next =>
      by_cases here : e.target = consumer
      · -- the detour ends at a producer, and the later passes are for consumers
        have settled : detoured graph rest ⟨e.source, next, false⟩ = ⟨e.source, next, false⟩ :=
          detoured_of_none fun member => absurd (kinds next member) (detourOf?_not_aiCall found)
        rw [detoured_of_detour (List.mem_singleton.mpr here) found, settled,
          detoured_of_detour (here ▸ List.mem_cons_self) found]
      · have first : detoured graph [consumer] e = e :=
          detoured_of_none fun member => absurd (List.mem_singleton.mp member) here
        rw [first, detoured, detoured]
        simp only [List.mem_cons, here, false_or]

/-- All passes together take every detour and record it. -/
theorem redirectAll_detoured {graph : Graph} (acyclic : Acyclic graph.Heads)
    (names : List String) (edges : List Edge) (distinct : names.Nodup)
    (kinds : ∀ name ∈ names, graph.kind? name = some .aiCall) (heading : Heading graph edges)
    (agree : ∀ name ∈ names, producers graph edges name = graph.contextProducers name) :
    (redirectAll graph names edges).edges = edges.map (detoured graph names) ∧
      ∀ source name, (source, name) ∈ (redirectAll graph names edges).rewritten ↔
        name ∈ names ∧ Linked edges source name ∧
          (detour? graph (graph.contextProducers name) source).isSome = true := by
  induction names generalizing edges with
  | nil =>
      have stays : edges.map (detoured graph []) = edges :=
        (List.map_congr_left fun e _ => detoured_of_none fun none => by cases none).trans
          (List.map_id edges)
      simp [redirectAll, stays]
  | cons consumer rest ih =>
      obtain ⟨fresh, distinctRest⟩ := List.nodup_cons.mp distinct
      have kind := kinds consumer List.mem_cons_self
      have kindsRest : ∀ name ∈ rest, graph.kind? name = some .aiCall :=
        fun name member => kinds name (List.mem_cons_of_mem consumer member)
      have own := agree consumer List.mem_cons_self
      obtain ⟨first, recorded⟩ := redirectEdges_detoured kind acyclic edges [] heading
      have headingFirst := redirectEdges_keeps graph consumer (graph.contextProducers consumer)
        (Heading graph) (fun _ _ _ _ => heading_rewrite kind) edges [] heading
      -- the first pass changes nothing that the later ones look at
      have agreeRest : ∀ name ∈ rest, producers graph (edges.map (detoured graph [consumer])) name =
          graph.contextProducers name := by
        intro name member
        have different : name ≠ consumer := fun equal => fresh (equal ▸ member)
        have kept := producers_redirectFor graph edges different (kindsRest name member)
        rw [redirectFor, own, first, List.nil_append] at kept
        rw [kept, agree name (List.mem_cons_of_mem consumer member)]
      rw [first, List.nil_append] at headingFirst
      obtain ⟨later, recordedLater⟩ :=
        ih (edges.map (detoured graph [consumer])) distinctRest kindsRest headingFirst agreeRest
      simp only [redirectAll, redirectFor, own, first, List.nil_append]
      refine ⟨?_, fun source name => ?_⟩
      · rw [later, List.map_map]
        exact List.map_congr_left fun e _ => detoured_cons e kindsRest
      · rw [List.mem_append, recorded, recordedLater, List.mem_cons, or_and_right]
        refine or_congr_right (and_congr_right fun member => and_congr_left fun _ => ?_)
        have other : name ∉ [consumer] := fun same =>
          fresh (List.mem_singleton.mp same ▸ member)
        exact linked_detoured other (kindsRest name member) edges source

end Resolution

end ChatFlow
