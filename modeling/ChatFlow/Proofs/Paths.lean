import Mathlib.Data.List.Chain
import Mathlib.Data.List.Duplicate
import Mathlib.Data.List.Perm.Subperm
import Mathlib.Logic.Relation

/-!
# Paths and loops

Facts about the paths of a relation.  A loop is a path of at least one step that ends where it
begins.  Adding a step closes a loop only if its start could be reached from its end, and a path
that is longer than the list of the nodes it runs through meets one of them twice.
-/

set_option autoImplicit false

namespace ChatFlow

open Relation (TransGen ReflTransGen)

variable {α : Type} {r s : α → α → Prop}

/-- No path leads back to where it began. -/
def Acyclic (r : α → α → Prop) : Prop := ∀ a, ¬ TransGen r a a

theorem Acyclic.mono (acyclic : Acyclic s) (included : ∀ a b, r a b → s a b) : Acyclic r :=
  fun a loop => acyclic a (TransGen.mono included a a loop)

theorem acyclic_of_strict (transitive : ∀ {a b c}, s a b → s b c → s a c)
    (irreflexive : ∀ a, ¬ s a a) (included : ∀ a b, r a b → s a b) : Acyclic r := by
  have inside : ∀ a b, TransGen r a b → s a b := by
    intro a b path
    induction path with
    | single step => exact included _ _ step
    | tail _ step ih => exact transitive ih (included _ _ step)
  exact fun a loop => irreflexive a (inside a a loop)

/-- A path in a relation with one more step goes through that step or is a path without it. -/
theorem path_or_through {a b x y : α}
    (path : TransGen (fun x y => r x y ∨ (x = a ∧ y = b)) x y) :
    TransGen r x y ∨ (ReflTransGen r x a ∧ ReflTransGen r b y) := by
  induction path with
  | single step =>
      rcases step with step | ⟨rfl, rfl⟩
      · exact .inl (.single step)
      · exact .inr ⟨.refl, .refl⟩
  | tail _ step ih =>
      rcases step with step | ⟨rfl, rfl⟩
      · rcases ih with path | ⟨before, after⟩
        · exact .inl (path.tail step)
        · exact .inr ⟨before, after.tail step⟩
      · rcases ih with path | ⟨before, _⟩
        · exact .inr ⟨path.to_reflTransGen, .refl⟩
        · exact .inr ⟨before, .refl⟩

/-- A step from `a` to `b` closes no loop if `b` does not lead to `a` without it. -/
theorem Acyclic.withStep {a b : α} (acyclic : Acyclic r) (apart : ¬ ReflTransGen r b a) :
    Acyclic (fun x y => r x y ∨ (x = a ∧ y = b)) := by
  intro x loop
  rcases path_or_through loop with path | ⟨before, after⟩
  · exact acyclic x path
  · exact apart (after.trans before)

/-- Steps of which none lies on a loop may be left out of the search for loops. -/
theorem acyclic_of_steps_off_loops (acyclic : Acyclic s)
    (off : ∀ a b, r a b → s a b ∨ ¬ ReflTransGen r b a) : Acyclic r := by
  intro x loop
  have everywhere : ∀ y, TransGen r x y → ReflTransGen r y x → TransGen s x y := by
    intro y path
    induction path with
    | single step =>
        intro back
        rcases off _ _ step with kept | apart
        · exact .single kept
        · exact absurd back apart
    | tail before step ih =>
        intro back
        rcases off _ _ step with kept | apart
        · exact (ih (back.head step)).tail kept
        · exact absurd (back.trans before.to_reflTransGen) apart
  exact acyclic x (everywhere x loop .refl)

theorem reach_of_mem_path (first : α) (rest : List α) (steps : (first :: rest).IsChain r) :
    ∀ a ∈ first :: rest, ReflTransGen r first a := by
  induction rest generalizing first with
  | nil =>
      intro a member
      rw [List.mem_singleton.mp member]
  | cons second rest ih =>
      obtain ⟨step, later⟩ := List.isChain_cons_cons.mp steps
      intro a member
      rcases List.mem_cons.mp member with rfl | further
      · exact .refl
      · exact (ih second later a further).head step

/-- A list is a path to a last place if each of its places leads to the next one. -/
theorem isChain_of_next (places : List α) (last : α)
    (next : ∀ before place after, places = before ++ place :: after →
      r place (after.head?.getD last)) : (places ++ [last]).IsChain r := by
  induction places with
  | nil => exact List.isChain_singleton last
  | cons head rest ih =>
      have later := ih fun before place after same =>
        next (head :: before) place after (by simp [same])
      rw [List.cons_append, List.isChain_cons]
      refine ⟨fun following member => ?_, later⟩
      have step := next [] head rest rfl
      cases rest <;> simpa [← Option.mem_some_iff.mp member] using step

/-- A path that meets a node twice goes through a loop. -/
theorem exists_loop_of_repetition (path : List α) (steps : path.IsChain r)
    (repeated : ¬ path.Nodup) : ∃ a ∈ path, TransGen r a a := by
  obtain ⟨a, twice⟩ := List.exists_duplicate_iff_not_nodup.mpr repeated
  refine ⟨a, twice.mem, ?_⟩
  have paths : path.IsChain (TransGen r) := steps.imp (fun _ _ step => .single step)
  have pair := paths.sublist (List.duplicate_iff_sublist.mp twice)
  exact List.isChain_pair.mp pair

/-- A path through more places than there are nodes goes through a loop. -/
theorem exists_loop_of_long_path (path nodes : List α) (steps : path.IsChain r)
    (inside : ∀ a ∈ path, a ∈ nodes) (long : nodes.length < path.length) :
    ∃ a ∈ path, TransGen r a a := by
  refine exists_loop_of_repetition path steps fun distinct => ?_
  have short := (List.subperm_of_subset distinct inside).length_le
  omega

/-- Who is in reach of a loop has a step that stays in reach of it. -/
theorem exists_step_toward_loop {a b : α} (loop : TransGen r b b) (near : ReflTransGen r a b) :
    ∃ c, r a c ∧ ReflTransGen r c b := by
  rcases Relation.reflTransGen_iff_eq_or_transGen.mp near with rfl | path
  · exact TransGen.head'_iff.mp loop
  · exact TransGen.head'_iff.mp path

/-- If there is no choice of steps, a chain that comes to a loop never ends. -/
theorem exists_step_of_loop (unique : ∀ {x y z}, r x y → r x z → y = z) {a b : α}
    (loop : TransGen r b b) (near : ReflTransGen r a b) {c : α} (reach : ReflTransGen r a c) :
    ∃ d, r c d := by
  -- every place of the chain is in reach of the loop
  have still : ReflTransGen r c b := by
    induction reach with
    | refl => exact near
    | tail _ step ih =>
        obtain ⟨d, onward, later⟩ := exists_step_toward_loop loop ih
        exact unique onward step ▸ later
  obtain ⟨d, step, _⟩ := exists_step_toward_loop loop still
  exact ⟨d, step⟩

end ChatFlow
