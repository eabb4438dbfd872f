import ChatFlow.Graph.EntryPoints
import ChatFlow.Proofs.CycleSearch
import ChatFlow.Proofs.Repetitions
import Mathlib.Data.List.Nodup

/-!
# The order of entry points

Entry points are found by counting who precedes each node, and put in order by a sort of triples.
Both come to filters: the candidates are the nodes that no connection enters, and since every place
in the declaration is there once, the sort leaves the inputs, the retrieval nodes and the others one
group after the other, each as declared.
-/

set_option autoImplicit false

namespace ChatFlow

/-- Some connection enters the node. -/
def Graph.Entered (graph : Graph) (id : String) : Prop := ∃ c ∈ graph.connections, c.target = id

/-- The list of those who lead to a node is empty exactly if no connection enters it. -/
theorem Adjacency.degree_predecessors (graph : Graph) (id : String) :
    0 < (predecessors graph).degree id ↔ graph.Entered id := by
  rw [degree, List.length_pos_iff_exists_mem]
  constructor
  · rintro ⟨a, neighbour⟩
    obtain ⟨c, member, _, target⟩ := (next_predecessors graph id a).mp neighbour
    exact ⟨c, member, target⟩
  · rintro ⟨c, member, target⟩
    exact ⟨c.source, (next_predecessors graph id c.source).mpr ⟨c, member, rfl, target⟩⟩

theorem NodeKind.preference_lt (kind : NodeKind) : kind.preference < 3 := by
  cases kind <;> simp [preference]

namespace EntryPoints

/-- The nodes that no connection enters, in declaration order. -/
def sources (graph : Graph) : List Node :=
  graph.nodes.filter (fun node => (graph.incoming node.id).isEmpty)

/-- Nodes in the order in which they are preferred as a start. -/
def byPreference (nodes : List Node) : List Node :=
  nodes.filter (fun node => node.kind.isInput) ++
    nodes.filter (fun node => node.kind = .retrieval) ++
    nodes.filter (fun node => !node.kind.isInput && node.kind ≠ .retrieval)

section Groups

variable {α β : Type}

/-- The items of the groups 0, 1 and 2, one group after the other. -/
def inGroups (group : α → Nat) (items : List α) : List α :=
  items.filter (fun item => group item = 0) ++ items.filter (fun item => group item = 1) ++
    items.filter (fun item => group item = 2)

theorem inGroups_map (group : β → Nat) (f : α → β) (items : List α) :
    inGroups group (items.map f) = (inGroups (group ∘ f) items).map f := by
  simp only [inGroups, List.filter_map, List.map_append, Function.comp_def]

theorem perm_inGroups {group : α → Nat} {items : List α} (three : ∀ item ∈ items, group item < 3) :
    (inGroups group items).Perm items := by
  induction items with
  | nil => exact .nil
  | cons item rest ih =>
      obtain ⟨here, later⟩ := List.forall_mem_cons.mp three
      have known : group item = 0 ∨ group item = 1 ∨ group item = 2 := by omega
      refine List.Perm.trans ?_ ((ih later).cons item)
      rcases known with zero | one | two
      · simp [inGroups, zero]
      · simp [inGroups, one]
      · simp [inGroups, two, -List.append_assoc]

/-- Group by group, and as they were within a group. -/
theorem pairwise_inGroups (group : α → Nat) (items : List α) :
    (inGroups group items).Pairwise fun a b =>
      group a < group b ∨ group a = group b ∧ [a, b].Sublist items := by
  have member : ∀ {place : Nat} {item : α},
      item ∈ items.filter (fun item => group item = place) → group item = place := by
    intro place item kept
    simpa using (List.mem_filter.mp kept).2
  have within : ∀ place, (items.filter fun item => group item = place).Pairwise fun a b =>
      group a < group b ∨ group a = group b ∧ [a, b].Sublist items := by
    intro place
    rw [List.pairwise_iff_forall_sublist]
    intro a b pair
    have first := member (pair.subset (List.mem_cons_self : a ∈ [a, b]))
    have second := member (pair.subset (by simp : b ∈ [a, b]))
    exact .inr ⟨first.trans second.symm, pair.trans List.filter_sublist⟩
  rw [inGroups, List.pairwise_append, List.pairwise_append]
  refine ⟨⟨within 0, within 1, ?_⟩, within 2, ?_⟩
  · intro a first b second
    left
    rw [member first, member second]
    exact Nat.zero_lt_one
  · intro a first b second
    left
    rw [member second]
    rcases List.mem_append.mp first with first | first
    · rw [member first]
      exact Nat.zero_lt_two
    · rw [member first]
      exact Nat.one_lt_two

end Groups

theorem byPreference_eq (nodes : List Node) :
    byPreference nodes = inGroups (fun node => node.kind.preference) nodes := by
  have inputs : ∀ kind : NodeKind, decide (kind.preference = 0) = kind.isInput := by
    intro kind
    cases kind <;> rfl
  have retrievals : ∀ kind : NodeKind,
      decide (kind.preference = 1) = decide (kind = .retrieval) := by
    intro kind
    cases kind <;> simp [NodeKind.preference]
  have others : ∀ kind : NodeKind,
      decide (kind.preference = 2) = (!kind.isInput && kind ≠ .retrieval) := by
    intro kind
    cases kind <;> simp [NodeKind.preference, NodeKind.isInput]
  simp only [byPreference, inGroups, inputs, retrievals, others]

theorem mem_byPreference {nodes : List Node} {node : Node} :
    node ∈ byPreference nodes ↔ node ∈ nodes := by
  rw [byPreference_eq]
  exact (perm_inGroups fun node _ => NodeKind.preference_lt node.kind).mem_iff

/-! ## The sort -/

namespace Candidate

instance : Std.TransCmp order := inferInstanceAs (Std.TransCmp
  (compareLex (compareOn group) (compareLex (compareOn place) (compareOn id))))

theorem order_total (a b : Candidate) : ((order a b).isLE || (order b a).isLE) = true := by
  have swapped : order b a = (order a b).swap := Std.OrientedCmp.eq_swap
  rw [swapped]
  cases order a b <;> rfl

theorem eq_of_order {a b : Candidate} (same : order a b = .eq) : a = b := by
  obtain ⟨group, place, id⟩ := a
  obtain ⟨group', place', id'⟩ := b
  simpa [order, compareLex, compareOn, Ordering.then_eq_eq] using same

theorem order_of_lt {a b : Candidate}
    (before : a.group < b.group ∨ a.group = b.group ∧ a.place < b.place) : order a b = .lt := by
  rcases before with group | ⟨group, place⟩
  · simp [order, compareLex, compareOn, Nat.compare_eq_lt.mpr group]
  · simp [order, compareLex, compareOn, group, Nat.compare_eq_lt.mpr place]

/-- A list with one candidate for each place is sorted by putting its groups in order. -/
theorem mergeSort_eq {list : List Candidate} (three : ∀ candidate ∈ list, candidate.group < 3)
    (places : list.Pairwise fun a b => a.place < b.place) :
    list.mergeSort (fun a b => (order a b).isLE) = inGroups group list := by
  have sorted := List.pairwise_mergeSort (fun _ _ _ => Std.TransCmp.isLE_trans) order_total list
  have grouped : (inGroups group list).Pairwise fun a b => (order a b).isLE = true := by
    refine (pairwise_inGroups group list).imp ?_
    intro a b before
    have lower : order a b = .lt := by
      apply order_of_lt
      refine before.imp_right (And.imp_right ?_)
      intro pair
      exact List.pairwise_iff_forall_sublist.mp places pair
    rw [lower]
    rfl
  refine List.Perm.eq_of_pairwise ?_ sorted grouped
    ((List.mergeSort_perm list _).trans (perm_inGroups three).symm)
  intro a b _ _ first second
  exact eq_of_order (Std.OrientedCmp.isLE_antisymm first second)

end Candidate

theorem pairwise_candidates (graph : Graph) (mayStart : Node → Bool) :
    (candidates graph mayStart).Pairwise fun a b => a.place < b.place := by
  rw [candidates, List.pairwise_map]
  exact (pairwise_zipIdx graph.nodes).filter _

theorem group_lt_of_mem {graph : Graph} {mayStart : Node → Bool} {candidate : Candidate}
    (member : candidate ∈ candidates graph mayStart) : candidate.group < 3 := by
  obtain ⟨place, _, rfl⟩ := List.mem_map.mp member
  exact NodeKind.preference_lt place.1.kind

/-- What is sorted are the chosen nodes, each with its place. -/
theorem ordered_candidates (graph : Graph) (mayStart : Node → Bool) :
    ordered (candidates graph mayStart) =
      (byPreference (graph.nodes.filter mayStart)).map Node.id := by
  have chosen : (graph.nodes.zipIdx.filter fun place => mayStart place.1).map Prod.fst =
      graph.nodes.filter mayStart := by
    conv_rhs => rw [← List.zipIdx_map_fst 0 graph.nodes, List.filter_map]
    rfl
  rw [ordered,
    Candidate.mergeSort_eq (fun _ => group_lt_of_mem) (pairwise_candidates graph mayStart),
    byPreference_eq, ← chosen, inGroups_map, candidates, inGroups_map, List.map_map, List.map_map]
  rfl

theorem isEmpty_candidates (graph : Graph) (mayStart : Node → Bool) :
    (candidates graph mayStart).isEmpty = (graph.nodes.filter mayStart).isEmpty := by
  have sizes : (candidates graph mayStart).length = (graph.nodes.filter mayStart).length := by
    have same := congrArg List.length (ordered_candidates graph mayStart)
    rw [ordered, List.length_map, List.length_mergeSort, List.length_map] at same
    rw [same, byPreference_eq]
    exact (perm_inGroups fun node _ => NodeKind.preference_lt node.kind).length_eq
  rw [Bool.eq_iff_iff, List.isEmpty_iff_length_eq_zero, List.isEmpty_iff_length_eq_zero, sizes]

/-- The entry points are the nodes that no connection enters, or all of them if there are none, in
the order of preference. -/
theorem ofGraph_eq (graph : Graph) :
    ofGraph graph =
      ⟨(byPreference (if (sources graph).isEmpty then graph.nodes else sources graph)).map
        Node.id⟩ := by
  have unentered : (graph.nodes.filter fun node =>
      (Adjacency.predecessors graph).degree node.id = 0) = sources graph := by
    refine List.filter_congr ?_
    intro node _
    have nobody := not_congr (Adjacency.degree_predecessors graph node.id)
    rw [Nat.pos_iff_ne_zero, not_not] at nobody
    rw [Bool.eq_iff_iff, decide_eq_true_eq, nobody]
    simp [Graph.Entered, Graph.incoming]
  rw [ofGraph]
  simp only [isEmpty_candidates, unentered]
  split
  · rw [ordered_candidates, List.filter_true]
  · rw [ordered_candidates, unentered]

end EntryPoints

end ChatFlow
