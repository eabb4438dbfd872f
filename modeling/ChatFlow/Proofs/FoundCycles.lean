import ChatFlow.Proofs.CycleSearch

/-!
# The cycle that a search finds

The depth-first search as a relation without fuel: each rule is one turn of its loop, so a
derivation is a search that ends.  The search with fuel has such a derivation, since a path
without repetition is no longer than the list of known ids.  By induction on derivations, what is
found is a cycle below a root; and if nothing is found, every path from a root ends.
-/

set_option autoImplicit false

namespace ChatFlow

open Relation (TransGen ReflTransGen)

/-- A path of at least one step that ends where it begins and meets no other node twice. -/
structure IsCycle {α : Type} (r : α → α → Prop) (path : List α) : Prop where
  long : 2 ≤ path.length
  closed : path.head? = path.getLast?
  simple : path.dropLast.Nodup
  steps : path.IsChain r

theorem IsCycle.loop {α : Type} {r : α → α → Prop} {path : List α} (cycle : IsCycle r path)
    {first : α} (begins : first ∈ path.head?) : TransGen r first first := by
  have long := cycle.long
  have closed := cycle.closed
  have steps := cycle.steps
  match path with
  | [] => cases begins
  | [_] => simp at long
  | head :: second :: rest =>
      cases begins
      obtain ⟨step, later⟩ := List.isChain_cons_cons.mp steps
      have last : (second :: rest).getLast (List.cons_ne_nil second rest) = first := by
        rw [List.getLast?_cons_cons, List.getLast?_eq_some_getLast (List.cons_ne_nil second rest)]
          at closed
        exact (Option.some.inj closed).symm
      have back := List.relationReflTransGen_of_exists_isChain_cons rest later last
      exact TransGen.head' step back

namespace Adjacency

/-- The cycle that ended a search, if one did. -/
def Search.cycle? : Search → Option (List String)
  | .seen _ => none
  | .cycle path => some path

/-- Trying nodes one after the other below a path ends with an outcome. -/
inductive Explores (adjacency : Adjacency) :
    (seen path nodes : List String) → Search → Prop
  | nothing {seen path : List String} : Explores adjacency seen path [] (.seen seen)
  | closes {seen path rest : List String} {next : String} (onPath : next ∈ path) :
      Explores adjacency seen path (next :: rest) (.cycle (closedPath path next))
  | skips {seen path rest : List String} {next : String} {outcome : Search}
      (off : next ∉ path) (known : next ∈ seen)
      (later : Explores adjacency seen path rest outcome) :
      Explores adjacency seen path (next :: rest) outcome
  | finds {seen path rest found : List String} {next : String} (off : next ∉ path)
      (new : next ∉ seen)
      (below : Explores adjacency (next :: seen) (path ++ [next]) (adjacency.neighbours next)
        (.cycle found)) :
      Explores adjacency seen path (next :: rest) (.cycle found)
  | returns {seen path rest nodes : List String} {next : String} {outcome : Search}
      (off : next ∉ path) (new : next ∉ seen)
      (below : Explores adjacency (next :: seen) (path ++ [next]) (adjacency.neighbours next)
        (.seen nodes))
      (later : Explores adjacency nodes path rest outcome) :
      Explores adjacency seen path (next :: rest) outcome

/-- No two rules apply to the same turn of the loop. -/
theorem Explores.unique {adjacency : Adjacency} {seen path nodes : List String}
    {outcome other : Search} (first : adjacency.Explores seen path nodes outcome)
    (second : adjacency.Explores seen path nodes other) : outcome = other := by
  induction first generalizing other with
  | nothing =>
      cases second
      rfl
  | closes onPath =>
      cases second with
      | closes => rfl
      | skips off | finds off | returns off => exact absurd onPath off
  | skips off known later ih =>
      cases second with
      | closes onPath => exact absurd onPath off
      | skips _ _ later' => exact ih later'
      | finds _ new | returns _ new => exact absurd known new
  | finds off new below ih =>
      cases second with
      | closes onPath => exact absurd onPath off
      | skips _ known => exact absurd known new
      | finds _ _ below' => exact ih below'
      | returns _ _ below' => cases ih below'
  | returns off new below later ihBelow ihLater =>
      cases second with
      | closes onPath => exact absurd onPath off
      | skips _ known => exact absurd known new
      | finds _ _ below' => cases ihBelow below'
      | returns _ _ below' later' =>
          cases ihBelow below'
          exact ihLater later'

/-! ## Fuel is no restriction -/

theorem explores_searchNeighbours (adjacency : Adjacency)
    (visit : (seen path : List String) → String → Search) (path nodes seen : List String)
    (below : ∀ seen next, next ∈ nodes → next ∉ path →
      adjacency.Explores (next :: seen) (path ++ [next]) (adjacency.neighbours next)
        (visit seen path next)) :
    adjacency.Explores seen path nodes (searchNeighbours visit path seen nodes) := by
  induction nodes generalizing seen with
  | nil => exact .nothing
  | cons next rest ih =>
      have others := fun seen => ih seen fun seen other member =>
        below seen other (List.mem_cons_of_mem next member)
      rw [searchNeighbours]
      by_cases onPath : next ∈ path
      · rw [if_pos onPath]
        exact .closes onPath
      · rw [if_neg onPath]
        by_cases known : next ∈ seen
        · rw [if_pos known]
          exact .skips onPath known (others seen)
        · rw [if_neg known]
          have inner := below seen next List.mem_cons_self onPath
          cases visited : visit seen path next with
          | cycle found =>
              rw [visited] at inner
              exact .finds onPath known inner
          | seen nodes =>
              rw [visited] at inner
              exact .returns onPath known inner (others nodes)

/-- Each node that is entered makes the path longer, and there are only so many. -/
theorem explores_of_enough (adjacency : Adjacency) (ids : List String)
    (closed : ∀ a b, adjacency.Next a b → b ∈ ids) (fuel : Nat) (path nodes seen : List String)
    (distinct : path.Nodup) (pathInside : ∀ id ∈ path, id ∈ ids)
    (nodesInside : ∀ id ∈ nodes, id ∈ ids) (enough : ids.length ≤ fuel + path.length) :
    adjacency.Explores seen path nodes
      (searchNeighbours (searchBelow adjacency fuel) path seen nodes) := by
  induction fuel generalizing path nodes seen with
  | zero =>
      apply explores_searchNeighbours
      intro seen next member off
      have longer : (next :: path).Nodup := List.nodup_cons.mpr ⟨off, distinct⟩
      have inside : ∀ id ∈ next :: path, id ∈ ids :=
        List.forall_mem_cons.mpr ⟨nodesInside next member, pathInside⟩
      have short := (List.subperm_of_subset longer inside).length_le
      rw [List.length_cons] at short
      omega
  | succ fuel ih =>
      apply explores_searchNeighbours
      intro seen next member off
      have longer : (path ++ [next]).Nodup :=
        distinct.append (List.nodup_singleton next) (by simpa using off)
      have inside : ∀ id ∈ path ++ [next], id ∈ ids := by
        intro id present
        rcases List.mem_append.mp present with before | here
        · exact pathInside id before
        · exact List.mem_singleton.mp here ▸ nodesInside next member
      have paid : ids.length ≤ fuel + (path ++ [next]).length := by
        rw [List.length_append, List.length_singleton]
        omega
      exact ih (path ++ [next]) (adjacency.neighbours next) (next :: seen) longer inside
        (fun id neighbour => closed next id neighbour) paid

theorem searchRoots_eq (adjacency : Adjacency) (fuel : Nat) (roots seen : List String) :
    searchRoots adjacency fuel seen roots =
      (searchNeighbours (searchBelow adjacency fuel) [] seen roots).cycle? := by
  induction roots generalizing seen with
  | nil => rfl
  | cons root rest ih =>
      rw [searchRoots, searchNeighbours, if_neg List.not_mem_nil]
      by_cases known : root ∈ seen
      · rw [if_pos known, if_pos known, ih]
      · rw [if_neg known, if_neg known]
        cases searchBelow adjacency fuel seen [] root with
        | cycle path => rfl
        | seen nodes => exact ih nodes

/-- The search from some roots ends, and its outcome is the answer. -/
theorem exists_explores (adjacency : Adjacency) (roots : List String) :
    ∃ outcome, adjacency.Explores [] [] roots outcome ∧
      adjacency.findCycle roots = outcome.cycle? := by
  have explores := adjacency.explores_of_enough (reachableIds adjacency roots)
    (fun _ _ next => adjacency.mem_reachableIds_of_next roots next)
    ((reachableIds adjacency roots).length + 1) [] roots [] List.nodup_nil (by simp)
    (fun _ member => List.mem_append_left _ member) (by omega)
  exact ⟨_, explores, adjacency.searchRoots_eq _ roots []⟩

/-! ## What is found -/

theorem closedPath_eq {path : List String} {next : String} (member : next ∈ path) :
    ∃ before after, path = before ++ next :: after ∧
      closedPath path next = (next :: after) ++ [next] := by
  induction path with
  | nil => cases member
  | cons head rest ih =>
      by_cases same : head = next
      · subst same
        exact ⟨[], rest, rfl, by simp [closedPath]⟩
      · have later : next ∈ rest := (List.mem_cons.mp member).resolve_left (Ne.symm same)
        obtain ⟨before, after, split, closes⟩ := ih later
        refine ⟨head :: before, after, congrArg (head :: ·) split, ?_⟩
        rw [← closes]
        simp [closedPath, same]

/-- A path that a search may have gone: a chain without repetition, in reach of the roots. -/
structure Trail (adjacency : Adjacency) (reached : String → Prop) (path : List String) : Prop where
  steps : path.IsChain adjacency.Next
  distinct : path.Nodup
  reached : ∀ id ∈ path, reached id

section

variable {adjacency : Adjacency} {reached : String → Prop} {path : List String} {next : String}

theorem Trail.extend (trail : adjacency.Trail reached path)
    (leads : ∀ last ∈ path.getLast?, adjacency.Next last next) (off : next ∉ path)
    (near : reached next) : adjacency.Trail reached (path ++ [next]) where
  steps := List.IsChain.append trail.steps (List.isChain_singleton next) (by simpa using leads)
  distinct := trail.distinct.append (List.nodup_singleton next) (by simpa using off)
  reached := by
    intro id member
    rcases List.mem_append.mp member with before | here
    · exact trail.reached id before
    · exact List.mem_singleton.mp here ▸ near

theorem Trail.isCycle_closedPath (trail : adjacency.Trail reached path)
    (leads : ∀ last ∈ path.getLast?, adjacency.Next last next) (onPath : next ∈ path) :
    IsCycle adjacency.Next (closedPath path next) ∧ (closedPath path next).head? = some next := by
  obtain ⟨before, after, split, closes⟩ := closedPath_eq onPath
  have steps := trail.steps
  have distinct := trail.distinct
  rw [split] at steps distinct leads
  rw [closes]
  have last : (before ++ next :: after).getLast? = (next :: after).getLast? := by
    rw [List.getLast?_append_of_ne_nil]
    exact List.cons_ne_nil next after
  rw [last] at leads
  refine ⟨⟨?_, ?_, ?_, ?_⟩, rfl⟩
  · simp
  · rw [List.getLast?_concat]
    rfl
  · rw [List.dropLast_concat]
    exact distinct.of_append_right
  · refine List.IsChain.append steps.right_of_append (List.isChain_singleton next) ?_
    simpa using leads

end

/-- What ends a search is a cycle in reach of where the search began. -/
theorem Explores.isCycle {adjacency : Adjacency} {reached : String → Prop}
    (closed : ∀ a b, reached a → adjacency.Next a b → reached b)
    {seen path nodes : List String} {outcome : Search}
    (explores : adjacency.Explores seen path nodes outcome)
    (trail : adjacency.Trail reached path) (near : ∀ next ∈ nodes, reached next)
    (leads : ∀ next ∈ nodes, ∀ last ∈ path.getLast?, adjacency.Next last next) :
    ∀ found, outcome.cycle? = some found →
      IsCycle adjacency.Next found ∧ ∃ first ∈ found.head?, reached first := by
  induction explores with
  | nothing => simp [Search.cycle?]
  | @closes seen path rest next onPath =>
      intro found ends
      cases ends
      obtain ⟨cycle, head⟩ :=
        trail.isCycle_closedPath (leads next List.mem_cons_self) onPath
      exact ⟨cycle, next, head, trail.reached next onPath⟩
  | @skips seen path rest next outcome off known later ih =>
      exact ih trail (fun other member => near other (List.mem_cons_of_mem next member))
        (fun other member => leads other (List.mem_cons_of_mem next member))
  | @finds seen path rest found next off new below ih =>
      have here := near next List.mem_cons_self
      refine ih (trail.extend (leads next List.mem_cons_self) off here)
        (fun other neighbour => closed next other here neighbour) ?_
      simp [Next]
  | @returns seen path rest nodes next outcome off new below later _ ih =>
      exact ih trail (fun other member => near other (List.mem_cons_of_mem next member))
        (fun other member => leads other (List.mem_cons_of_mem next member))

theorem Ended.of_path {adjacency : Adjacency} {a b : String} (ended : adjacency.Ended a)
    (path : ReflTransGen adjacency.Next a b) : adjacency.Ended b := by
  induction path with
  | refl => exact ended
  | tail _ step ih => exact ih.inv step

theorem isCycle_of_findCycle (adjacency : Adjacency) (roots path : List String)
    (found : adjacency.findCycle roots = some path) :
    IsCycle adjacency.Next path ∧
      ∃ first ∈ path.head?, ∃ root ∈ roots, ReflTransGen adjacency.Next root first := by
  obtain ⟨outcome, explores, answer⟩ := adjacency.exists_explores roots
  rw [answer] at found
  have start : adjacency.Trail (fun id => ∃ root ∈ roots, ReflTransGen adjacency.Next root id) [] :=
    ⟨List.isChain_nil, List.nodup_nil, by simp⟩
  refine explores.isCycle ?_ start (fun root member => ⟨root, member, .refl⟩) (by simp) path found
  rintro a b ⟨root, member, reach⟩ next
  exact ⟨root, member, reach.tail next⟩

theorem findCycle_eq_none (adjacency : Adjacency) (roots : List String) :
    adjacency.findCycle roots = none ↔
      ¬ ∃ root ∈ roots, ∃ id, ReflTransGen adjacency.Next root id ∧
        TransGen adjacency.Next id id := by
  constructor
  · rintro nothing ⟨root, member, id, reach, loop⟩
    have verdict := adjacency.findCycle_verdict roots
    rw [nothing] at verdict
    have ended := (verdict root member).of_path reach
    exact ended.not_loop loop
  · intro noLoop
    cases found : adjacency.findCycle roots with
    | none => rfl
    | some path =>
        obtain ⟨cycle, first, head, root, member, reach⟩ :=
          adjacency.isCycle_of_findCycle roots path found
        exact absurd ⟨root, member, first, reach, cycle.loop head⟩ noLoop

/-- The search ends, with one outcome.  What it finds is a cycle that can be reached from a root,
and it finds nothing exactly if no loop can be reached from the roots. -/
theorem findCycle_sound_and_complete (adjacency : Adjacency) (roots : List String) :
    (∃ outcome, adjacency.findCycle roots = outcome.cycle? ∧
      ∀ other, adjacency.Explores [] [] roots other ↔ other = outcome) ∧
    (∀ path, adjacency.findCycle roots = some path →
      2 ≤ path.length ∧ path.head? = path.getLast? ∧ path.dropLast.Nodup ∧
        path.IsChain adjacency.Next ∧
        ∃ first ∈ path.head?, ∃ root ∈ roots, ReflTransGen adjacency.Next root first) ∧
    (adjacency.findCycle roots = none ↔
      ¬ ∃ root ∈ roots, ∃ id, ReflTransGen adjacency.Next root id ∧
        TransGen adjacency.Next id id) := by
  refine ⟨?_, fun path found => ?_, adjacency.findCycle_eq_none roots⟩
  · obtain ⟨outcome, explores, answer⟩ := adjacency.exists_explores roots
    refine ⟨outcome, answer, fun other => ⟨fun another => another.unique explores, ?_⟩⟩
    rintro rfl
    exact explores
  · obtain ⟨cycle, reached⟩ := adjacency.isCycle_of_findCycle roots path found
    exact ⟨cycle.long, cycle.closed, cycle.simple, cycle.steps, reached⟩

/-- A neighbour need not be a known node, and lists may repeat. -/
example : findCycle ⟨[("a", ["x", "b", "b"]), ("b", ["c"]), ("c", ["x", "b"])]⟩ ["x", "a"] =
    some ["b", "c", "b"] := by decide

end Adjacency

/-- What is reported as a cycle of a graph is one. -/
theorem Graph.isCycle_of_cycle? (graph : Graph) {path : List String}
    (found : graph.cycle? = some path) : IsCycle graph.Leads path := by
  have same : (Adjacency.successors graph).Next = graph.Leads := by
    funext a b
    exact propext (Adjacency.next_successors graph a b)
  rw [← same]
  exact ((Adjacency.successors graph).isCycle_of_findCycle graph.ids path found).1

end ChatFlow
