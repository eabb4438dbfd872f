import ChatFlow.Proofs.Reachability

/-!
# The search of a guard, step by step

The guard of a redirection searches with a worklist, which may hold a node many times.  Here the
search is a relation without fuel: a step takes the node on top, drops it if it was looked into
before, and otherwise puts the targets of its edges on top, whether or not these were looked into.
What decreases is the number of edges still to be used and of entries still to be taken: an edge is
used once and makes one entry.  What is kept is where the entries lead over the edges still to be
used.  The search with fuel, which takes the entries in another order, comes to the same answer.
-/

set_option autoImplicit false

namespace ChatFlow.Resolution

open Relation (ReflTransGen)

/-- A search under way: the nodes it has looked into, and those to look at, the next one first. -/
structure Worklist where
  visited : List String
  pending : List String

namespace Worklist

/-- Only the node where the search begins is to be looked at. -/
def start (id : String) : Worklist := ⟨[], [id]⟩

/-- One step past a node that is not the goal. -/
inductive Step (edges : List Edge) (goal : String) : Worklist → Worklist → Prop
  | drop {visited pending : List String} {id : String} (apart : id ≠ goal)
      (known : id ∈ visited) : Step edges goal ⟨visited, id :: pending⟩ ⟨visited, pending⟩
  | look {visited pending : List String} {id : String} (apart : id ≠ goal) (new : id ∉ visited) :
      Step edges goal ⟨visited, id :: pending⟩
        ⟨id :: visited, (targetsFrom edges id).reverse ++ pending⟩

/-- A search comes to an answer after some steps: true at the goal, whether or not it was looked
into, and false when there is nothing left to look at. -/
inductive Ends (edges : List Edge) (goal : String) : (steps : Nat) → Worklist → Bool → Prop
  | found {visited pending : List String} : Ends edges goal 0 ⟨visited, goal :: pending⟩ true
  | spent {visited : List String} : Ends edges goal 0 ⟨visited, []⟩ false
  | step {before after : Worklist} {steps : Nat} {answer : Bool}
      (first : Step edges goal before after) (later : Ends edges goal steps after answer) :
      Ends edges goal (steps + 1) before answer

/-- The edges that leave nodes the search has not looked into. -/
def unused (edges : List Edge) (visited : List String) : List Edge :=
  edges.filter (fun e => e.source ∉ visited)

/-- How much there is still to do. -/
def work (edges : List Edge) (list : Worklist) : Nat :=
  (unused edges list.visited).length + list.pending.length

theorem linked_unused (edges : List Edge) (visited : List String) (a b : String) :
    Linked (unused edges visited) a b ↔ Linked edges a b ∧ a ∉ visited := by
  constructor
  · rintro ⟨e, member, rfl, rfl⟩
    obtain ⟨present, new⟩ := List.mem_filter.mp member
    exact ⟨⟨e, present, rfl, rfl⟩, of_decide_eq_true new⟩
  · rintro ⟨⟨e, present, rfl, rfl⟩, new⟩
    exact ⟨e, List.mem_filter.mpr ⟨present, decide_eq_true new⟩, rfl, rfl⟩

theorem unused_nil (edges : List Edge) : unused edges [] = edges := by
  simp [unused]

theorem unused_cons (edges : List Edge) (id : String) (visited : List String) :
    unused edges (id :: visited) = withoutSource (unused edges visited) id := by
  simp only [unused, withoutSource, List.filter_filter, List.mem_cons, not_or, Bool.decide_and]

theorem targetsFrom_unused (edges : List Edge) {id : String} {visited : List String}
    (new : id ∉ visited) : targetsFrom (unused edges visited) id = targetsFrom edges id := by
  rw [targetsFrom, unused, List.filter_filter, targetsFrom]
  refine congrArg (List.map Edge.target) (List.filter_congr fun e _ => ?_)
  by_cases same : e.source = id
  · simp [same, new]
  · simp [same]

/-! ## Steps -/

/-- A step does one piece of work. -/
theorem Step.work {edges : List Edge} {goal : String} {before after : Worklist}
    (step : Step edges goal before after) : after.work edges + 1 = before.work edges := by
  cases step with
  | drop => simp only [Worklist.work, List.length_cons, Nat.add_assoc]
  | @look visited pending id _ new =>
      have split := length_split (unused edges visited) id
      rw [targetsFrom_unused edges new] at split
      simp only [Worklist.work, unused_cons, List.length_append, List.length_reverse,
        List.length_cons]
      omega

theorem step_wellFounded (edges : List Edge) (goal : String) :
    WellFounded (fun after before => Step edges goal before after) :=
  Subrelation.wf (fun step => by rw [InvImage, ← step.work]; exact Nat.lt_succ_self _)
    (InvImage.wf (work edges) Nat.lt_wfRel.wf)

/-- Some pending node leads to the goal over the edges still to be used. -/
def Leads (edges : List Edge) (goal : String) (list : Worklist) : Prop :=
  ∃ id ∈ list.pending, ReflTransGen (Linked (unused edges list.visited)) id goal

/-- A step loses no way to the goal and makes none up. -/
theorem Step.leads_iff {edges : List Edge} {goal : String} {before after : Worklist}
    (step : Step edges goal before after) : after.Leads edges goal ↔ before.Leads edges goal := by
  cases step with
  | @drop visited pending id apart known =>
      constructor
      · rintro ⟨other, waiting, path⟩
        exact ⟨other, List.mem_cons_of_mem id waiting, path⟩
      · rintro ⟨other, member, path⟩
        rcases List.mem_cons.mp member with rfl | waiting
        · -- all edges of a node that was looked into are used
          rcases path.cases_head with same | ⟨next, leaves, _⟩
          · exact absurd same apart
          · exact absurd known ((linked_unused edges visited other next).mp leaves).2
        · exact ⟨other, waiting, path⟩
  | @look visited pending id apart new =>
      have onward := path_from_next (unused edges visited) pending id goal apart
      rw [targetsFrom_unused edges new, ← unused_cons] at onward
      simpa only [Leads, List.mem_append, List.mem_reverse] using onward

/-! ## Searches -/

theorem Ends.answer_iff {edges : List Edge} {goal : String} {steps : Nat} {list : Worklist}
    {answer : Bool} (ends : Ends edges goal steps list answer) :
    answer = true ↔ list.Leads edges goal := by
  induction ends with
  | found => exact iff_of_true rfl ⟨goal, List.mem_cons_self, .refl⟩
  | spent => simp [Leads]
  | step first _ ih => exact ih.trans first.leads_iff

/-- There is a step to take as long as the search has not ended. -/
theorem exists_ends (edges : List Edge) (goal : String) (list : Worklist) :
    ∃ steps answer, steps ≤ list.work edges ∧ Ends edges goal steps list answer := by
  induction list using (step_wellFounded edges goal).induction with
  | _ list ih =>
  have goOn : ∀ after, Step edges goal list after →
      ∃ steps answer, steps ≤ list.work edges ∧ Ends edges goal steps list answer := by
    intro after step
    obtain ⟨steps, answer, within, later⟩ := ih after step
    have paid := step.work
    exact ⟨steps + 1, answer, by omega, .step step later⟩
  obtain ⟨visited, pending⟩ := list
  cases pending with
  | nil => exact ⟨0, false, Nat.zero_le _, .spent⟩
  | cons id pending =>
      by_cases same : id = goal
      · exact ⟨0, true, Nat.zero_le _, same ▸ .found⟩
      · by_cases known : id ∈ visited
        · exact goOn _ (.drop same known)
        · exact goOn _ (.look same known)

theorem leads_start (edges : List Edge) (start goal : String) :
    (Worklist.start start).Leads edges goal ↔ ReflTransGen (Linked edges) start goal := by
  simp [Leads, Worklist.start, unused_nil]

end Worklist

/-- The search of a guard ends whatever the edges are, cyclic, repeated or from a node to itself: no
search takes steps forever, and one from a single node takes at most one for each edge and one more.
However it is made, its answer is the one of `reaches`, and this is true exactly if a path of none,
one or more of the edges leads from one node to the other. -/
theorem search_decides_reachability (edges : List Edge) (start goal : String) :
    WellFounded (fun after before => Worklist.Step edges goal before after) ∧
    (∃ steps ≤ edges.length + 1,
      Worklist.Ends edges goal steps (Worklist.start start) (reaches edges start goal)) ∧
    (∀ steps answer, Worklist.Ends edges goal steps (Worklist.start start) answer →
      answer = reaches edges start goal) ∧
    (reaches edges start goal = true ↔ ReflTransGen (Linked edges) start goal) := by
  have agrees : ∀ {steps answer}, Worklist.Ends edges goal steps (Worklist.start start) answer →
      answer = reaches edges start goal := by
    intro steps answer ends
    rw [Bool.eq_iff_iff, ends.answer_iff, Worklist.leads_start, reaches_eq_true]
  obtain ⟨steps, answer, within, ends⟩ := Worklist.exists_ends edges goal (Worklist.start start)
  have enough : (Worklist.start start).work edges = edges.length + 1 := by
    rw [Worklist.work, Worklist.start, Worklist.unused_nil, List.length_singleton]
  refine ⟨Worklist.step_wellFounded edges goal, ⟨steps, ?_, ?_⟩, ?_,
    reaches_eq_true edges start goal⟩
  · rwa [enough] at within
  · rwa [agrees ends] at ends
  · intro steps answer ends
    exact agrees ends

end ChatFlow.Resolution
