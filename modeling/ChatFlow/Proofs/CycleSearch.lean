import ChatFlow.Proofs.Paths
import ChatFlow.Report.Validation

/-!
# The search for a cycle

The depth-first search finds nothing exactly if no path of connections leads back to its start.
A node that was seen is either on the path from the root or *ended*: every path from it ends.
Fuel is no restriction, since a path without repetition is no longer than the list of known ids.
-/

set_option autoImplicit false

namespace ChatFlow

open Relation (TransGen ReflTransGen)

/-- Some connection leads from one node to the other, as written. -/
def Graph.Leads (graph : Graph) (a b : String) : Prop :=
  ∃ c ∈ graph.connections, c.source = a ∧ c.target = b

namespace Adjacency

def Next (adjacency : Adjacency) (a b : String) : Prop := b ∈ adjacency.neighbours a

/-- Every path from a node ends. -/
def Ended (adjacency : Adjacency) (id : String) : Prop := Acc (fun b a => adjacency.Next a b) id

theorem mem_withName (names : List String) (name other : String) :
    other ∈ withName names name ↔ other ∈ names ∨ other = name := by
  by_cases known : name ∈ names
  · rw [withName, if_pos known]
    constructor
    · exact .inl
    · rintro (member | rfl)
      · exact member
      · exact known
  · rw [withName, if_neg known, List.mem_append, List.mem_singleton]

theorem neighbours_addNode (adjacency : Adjacency) (id other : String) :
    (adjacency.addNode id).neighbours other = adjacency.neighbours other := by
  rw [addNode]
  split
  · rfl
  · rename_i unknown
    by_cases same : other = id
    · subst same
      have absent : adjacency.lists.get? other = none := by
        simpa [Keyed.has] using unknown
      simp [neighbours, Keyed.get?_put_self, absent]
    · simp [neighbours, Keyed.get?_put_other _ _ same]

theorem neighbours_addEdge (adjacency : Adjacency) (source target id : String) :
    (adjacency.addEdge source target).neighbours id =
      if source = id then withName (adjacency.neighbours id) target
      else adjacency.neighbours id := by
  rw [addEdge, neighbours_addNode]
  by_cases same : source = id
  · subst same
    rw [if_pos rfl, neighbours, Keyed.get?_put_self, Option.getD_some]
  · rw [if_neg same, neighbours, Keyed.get?_put_other _ _ (Ne.symm same), neighbours]

theorem next_addEdge (adjacency : Adjacency) (source target a b : String) :
    (adjacency.addEdge source target).Next a b ↔
      adjacency.Next a b ∨ (source = a ∧ target = b) := by
  rw [Next, neighbours_addEdge]
  by_cases same : source = a
  · rw [if_pos same, mem_withName]
    exact or_congr Iff.rfl ⟨fun added => ⟨same, added.symm⟩, fun both => both.2.symm⟩
  · rw [if_neg same]
    simp only [Next, same, false_and, or_false]

theorem next_addEdges {ι : Type} (source target : ι → String) (items : List ι)
    (adjacency : Adjacency) (a b : String) :
    (items.foldl (fun known i => known.addEdge (source i) (target i)) adjacency).Next a b ↔
      adjacency.Next a b ∨ ∃ i ∈ items, source i = a ∧ target i = b := by
  induction items generalizing adjacency with
  | nil => simp
  | cons first rest ih =>
      rw [List.foldl_cons, ih, next_addEdge, or_assoc]
      simp

theorem not_next_ofNodes (graph : Graph) (a b : String) : ¬ (ofNodes graph).Next a b := by
  have empty : ∀ ids : List String, b ∉ ((Keyed.get? (ids.map fun id => (id, [])) a).getD []) := by
    intro ids
    induction ids with
    | nil => simp
    | cons id rest ih =>
        by_cases same : id = a
        · simp [Keyed.get?, same]
        · simpa [Keyed.get?, same] using ih
  exact empty graph.ids

theorem next_successors (graph : Graph) (a b : String) :
    (successors graph).Next a b ↔ graph.Leads a b := by
  rw [successors, next_addEdges Connection.source Connection.target]
  simp [not_next_ofNodes, Graph.Leads]

theorem next_predecessors (graph : Graph) (a b : String) :
    (predecessors graph).Next a b ↔ graph.Leads b a := by
  rw [predecessors, next_addEdges Connection.target Connection.source]
  simp [not_next_ofNodes, Graph.Leads, and_comm]

/-! ## One search -/

/-- What an outcome of a search says: there is a loop, or whatever was seen off the path has ended,
and so have the nodes that were to be searched. -/
def Conclusive (adjacency : Adjacency) (path searched : List String) : Search → Prop
  | .cycle _ => ∃ a, TransGen adjacency.Next a a
  | .seen nodes =>
    (∀ id ∈ nodes, id ∈ path ∨ adjacency.Ended id) ∧ ∀ id ∈ searched, adjacency.Ended id

/-- A neighbour of the last node of a path that is on the path lies on a loop. -/
theorem loop_of_neighbour_on_path (adjacency : Adjacency) (path : List String)
    (node next : String) (steps : (path ++ [node]).IsChain adjacency.Next)
    (neighbour : adjacency.Next node next) (member : next ∈ path ++ [node]) :
    TransGen adjacency.Next next next := by
  obtain ⟨before, after, split⟩ := List.append_of_mem member
  have later : (next :: after).IsChain adjacency.Next := by
    rw [split] at steps
    exact steps.right_of_append
  have last : (next :: after).getLast (List.cons_ne_nil next after) = node := by
    have whole : (path ++ [node]).getLast (by simp) = node := by simp
    simpa [split] using whole
  have path : ReflTransGen adjacency.Next next node := by
    rw [← last]
    exact List.relationReflTransGen_of_exists_isChain_cons after later rfl
  exact TransGen.tail' path neighbour

theorem searchNeighbours_conclusive (adjacency : Adjacency)
    (visit : (seen path : List String) → String → Search) (path : List String) (node : String)
    (steps : (path ++ [node]).IsChain adjacency.Next)
    (below : ∀ seen next, adjacency.Next node next → next ∉ path ++ [node] →
      (∀ id ∈ seen, id ∈ path ++ [node] ∨ adjacency.Ended id) →
      adjacency.Conclusive (path ++ [node]) [next] (visit seen (path ++ [node]) next))
    (neighbours seen : List String) (known : ∀ next ∈ neighbours, adjacency.Next node next)
    (sorted : ∀ id ∈ seen, id ∈ path ++ [node] ∨ adjacency.Ended id) :
    adjacency.Conclusive (path ++ [node]) neighbours
      (searchNeighbours visit (path ++ [node]) seen neighbours) := by
  induction neighbours generalizing seen with
  | nil => exact ⟨sorted, by simp⟩
  | cons next rest ih =>
      have neighbour := known next List.mem_cons_self
      have others : ∀ id ∈ rest, adjacency.Next node id :=
        fun id member => known id (List.mem_cons_of_mem next member)
      -- once `next` has ended, it joins what the rest of the search concludes
      have join : adjacency.Ended next → ∀ outcome,
          adjacency.Conclusive (path ++ [node]) rest outcome →
          adjacency.Conclusive (path ++ [node]) (next :: rest) outcome := by
        intro ended outcome conclusive
        cases outcome with
        | cycle found => exact conclusive
        | seen nodes => exact ⟨conclusive.1, List.forall_mem_cons.mpr ⟨ended, conclusive.2⟩⟩
      rw [searchNeighbours]
      split
      · rename_i member
        exact ⟨next, adjacency.loop_of_neighbour_on_path path node next steps neighbour member⟩
      · rename_i off
        split
        · rename_i member
          have ended := (sorted next member).resolve_left off
          exact join ended _ (ih seen others sorted)
        · have conclusive := below seen next neighbour off sorted
          cases visited : visit seen (path ++ [node]) next with
          | cycle found =>
              rw [visited] at conclusive
              exact conclusive
          | seen nodes =>
              rw [visited] at conclusive
              have ended := conclusive.2 next List.mem_cons_self
              exact join ended _ (ih nodes others conclusive.1)

theorem searchBelow_conclusive (adjacency : Adjacency) (ids : List String)
    (closed : ∀ a b, adjacency.Next a b → b ∈ ids) (fuel : Nat) (seen path : List String)
    (node : String) (steps : (path ++ [node]).IsChain adjacency.Next)
    (distinct : (path ++ [node]).Nodup) (inside : ∀ id ∈ path ++ [node], id ∈ ids)
    (enough : ids.length < fuel + path.length)
    (sorted : ∀ id ∈ seen, id ∈ path ∨ adjacency.Ended id) :
    adjacency.Conclusive path [node] (searchBelow adjacency fuel seen path node) := by
  induction fuel generalizing seen path node with
  | zero =>
      have short := (List.subperm_of_subset distinct inside).length_le
      simp only [List.length_append, List.length_singleton] at short
      omega
  | succ fuel ih =>
      have sortedHere : ∀ id ∈ node :: seen, id ∈ path ++ [node] ∨ adjacency.Ended id := by
        intro id member
        rcases List.mem_cons.mp member with rfl | member
        · exact .inl (by simp)
        · exact (sorted id member).imp_left (List.mem_append_left [node])
      have conclusive := adjacency.searchNeighbours_conclusive (searchBelow adjacency fuel) path
        node steps
        (fun seen next neighbour off sorted =>
          ih seen (path ++ [node]) next
            (List.IsChain.append steps (List.isChain_singleton next) (by simpa using neighbour))
            (distinct.append (List.nodup_singleton next) (by simpa using off))
            (by
              intro id member
              rcases List.mem_append.mp member with member | member
              · exact inside id member
              · exact List.mem_singleton.mp member ▸ closed node next neighbour)
            (by simp only [List.length_append, List.length_singleton]; omega)
            sorted)
        (adjacency.neighbours node) (node :: seen) (fun _ member => member) sortedHere
      rw [searchBelow]
      cases outcome : searchNeighbours (searchBelow adjacency fuel) (path ++ [node])
          (node :: seen) (adjacency.neighbours node) with
      | cycle found =>
          rw [outcome] at conclusive
          exact conclusive
      | seen nodes =>
          rw [outcome] at conclusive
          have ended : adjacency.Ended node := Acc.intro node conclusive.2
          refine ⟨?_, by simpa using ended⟩
          intro id member
          rcases conclusive.1 id member with onPath | elsewhere
          · rcases List.mem_append.mp onPath with before | here
            · exact .inl before
            · exact .inr (List.mem_singleton.mp here ▸ ended)
          · exact .inr elsewhere

/-! ## A search from several roots -/

/-- What the answer of a search says: there is a loop, or everything below the roots has ended. -/
def Verdict (adjacency : Adjacency) (roots : List String) : Option (List String) → Prop
  | some _ => ∃ a, TransGen adjacency.Next a a
  | none => ∀ root ∈ roots, adjacency.Ended root

theorem Verdict.withRoot {adjacency : Adjacency} {roots : List String} {root : String}
    {found : Option (List String)} (ended : adjacency.Ended root)
    (verdict : adjacency.Verdict roots found) : adjacency.Verdict (root :: roots) found := by
  cases found with
  | some path => exact verdict
  | none => exact List.forall_mem_cons.mpr ⟨ended, verdict⟩

theorem searchRoots_verdict (adjacency : Adjacency) (ids : List String)
    (closed : ∀ a b, adjacency.Next a b → b ∈ ids) (fuel : Nat) (enough : ids.length < fuel)
    (roots seen : List String) (inside : ∀ root ∈ roots, root ∈ ids)
    (sorted : ∀ id ∈ seen, adjacency.Ended id) :
    adjacency.Verdict roots (searchRoots adjacency fuel seen roots) := by
  induction roots generalizing seen with
  | nil => simp [searchRoots, Verdict]
  | cons root rest ih =>
      have others : ∀ id ∈ rest, id ∈ ids :=
        fun id member => inside id (List.mem_cons_of_mem root member)
      by_cases member : root ∈ seen
      · rw [searchRoots, if_pos member]
        exact (ih seen others sorted).withRoot (sorted root member)
      · rw [searchRoots, if_neg member]
        have conclusive := adjacency.searchBelow_conclusive ids closed fuel seen [] root
          (List.isChain_singleton root) (List.nodup_singleton root)
          (by simpa using inside root List.mem_cons_self) (by simpa using enough)
          (fun id member => .inr (sorted id member))
        cases outcome : searchBelow adjacency fuel seen [] root with
        | cycle path =>
            rw [outcome] at conclusive
            exact conclusive
        | seen nodes =>
            rw [outcome] at conclusive
            have settled : ∀ id ∈ nodes, adjacency.Ended id := by
              intro id member
              simpa using conclusive.1 id member
            exact (ih nodes others settled).withRoot (conclusive.2 root List.mem_cons_self)

theorem mem_reachableIds_of_next (adjacency : Adjacency) (roots : List String) {a b : String}
    (next : adjacency.Next a b) : b ∈ reachableIds adjacency roots := by
  rw [Next, neighbours] at next
  cases found : adjacency.lists.get? a with
  | none => simp [found] at next
  | some neighbours =>
      rw [found, Option.getD_some] at next
      have entry := Keyed.mem_of_get? adjacency.lists found
      refine List.mem_append_right roots (List.mem_flatMap.mpr ⟨(a, neighbours), entry, ?_⟩)
      exact List.mem_cons_of_mem a next

theorem findCycle_verdict (adjacency : Adjacency) (roots : List String) :
    adjacency.Verdict roots (adjacency.findCycle roots) :=
  adjacency.searchRoots_verdict (reachableIds adjacency roots)
    (fun _ _ next => adjacency.mem_reachableIds_of_next roots next) _ (Nat.lt_succ_self _) roots []
    (fun _ member => List.mem_append_left _ member) (by simp)

theorem Ended.not_loop {adjacency : Adjacency} {id : String} (ended : adjacency.Ended id) :
    ¬ TransGen adjacency.Next id id := by
  intro loop
  have strict := ended.transGen
  induction strict with
  | intro id _ ih => exact ih id (Relation.transGen_swap.mpr loop) ended loop

end Adjacency

/-- The search reports a cycle exactly if some path of connections leads back to its start. -/
theorem Graph.cycle?_eq_none (graph : Graph) : graph.cycle? = none ↔ Acyclic graph.Leads := by
  have same : (Adjacency.successors graph).Next = graph.Leads := by
    funext a b
    exact propext (Adjacency.next_successors graph a b)
  have verdict := (Adjacency.successors graph).findCycle_verdict graph.ids
  rw [← same, Graph.cycle?]
  constructor
  · intro nothing a loop
    rw [nothing] at verdict
    obtain ⟨b, step, _⟩ := TransGen.head'_iff.mp loop
    obtain ⟨c, member, rfl, _⟩ := (Adjacency.next_successors graph a b).mp step
    exact (verdict c.source (graph.joined c member).1).not_loop loop
  · intro acyclic
    cases found : (Adjacency.successors graph).findCycle graph.ids with
    | none => rfl
    | some path =>
        rw [found] at verdict
        obtain ⟨a, loop⟩ := verdict
        exact absurd loop (acyclic a)

theorem Validation.cycleEvents_eq_nil (graph : Graph) :
    Validation.cycleEvents graph = [] ↔ Acyclic graph.Leads := by
  rw [← graph.cycle?_eq_none, Validation.cycleEvents]
  cases graph.cycle? <;> simp

end ChatFlow
