import ChatFlow.Plan.Resolution
import Mathlib.Logic.Relation

/-!
# Reachability over edges

`reaches` answers exactly whether a path of edges leads from one node to another.  The search uses
up the edges of every node it looks into, so the invariant speaks about the edges that are left:
a path that needs a used edge can start again at the last place where it leaves that node.
-/

set_option autoImplicit false

namespace ChatFlow.Resolution

open Relation (ReflTransGen)

def Linked (edges : List Edge) (a b : String) : Prop :=
  ∃ e ∈ edges, e.source = a ∧ e.target = b

def withoutSource (edges : List Edge) (id : String) : List Edge :=
  edges.filter (fun e => e.source ≠ id)

def targetsFrom (edges : List Edge) (id : String) : List String :=
  (edges.filter (fun e => e.source = id)).map Edge.target

theorem mem_targetsFrom (edges : List Edge) (a b : String) :
    b ∈ targetsFrom edges a ↔ Linked edges a b := by
  simp only [targetsFrom, Linked, List.mem_map, List.mem_filter, decide_eq_true_eq, and_assoc]

theorem linked_withoutSource (edges : List Edge) (id a b : String) :
    Linked (withoutSource edges id) a b ↔ Linked edges a b ∧ a ≠ id := by
  constructor
  · rintro ⟨e, member, rfl, rfl⟩
    have kept := List.mem_filter.mp member
    exact ⟨⟨e, kept.1, rfl, rfl⟩, of_decide_eq_true kept.2⟩
  · rintro ⟨⟨e, member, rfl, rfl⟩, other⟩
    exact ⟨e, List.mem_filter.mpr ⟨member, decide_eq_true other⟩, rfl, rfl⟩

theorem linked_cons (edge : Edge) (rest : List Edge) (a b : String) :
    Linked (edge :: rest) a b ↔ (edge.source = a ∧ edge.target = b) ∨ Linked rest a b := by
  simp only [Linked, List.mem_cons, or_and_right, exists_or, exists_eq_left]

theorem length_split (edges : List Edge) (id : String) :
    (withoutSource edges id).length + (targetsFrom edges id).length = edges.length := by
  have parts := List.length_eq_countP_add_countP (l := edges)
    (fun e : Edge => decide (e.source = id))
  simp only [List.countP_eq_length_filter, decide_eq_true_eq] at parts
  simp only [withoutSource, targetsFrom, List.length_map, ne_eq]
  omega

theorem reachesWithin_cons (goal : String) (fuel : Nat) (edges : List Edge) (id : String)
    (pending : List String) :
    reachesWithin goal (fuel + 1) edges (id :: pending) =
      (decide (id = goal) ||
        reachesWithin goal fuel (withoutSource edges id) (targetsFrom edges id ++ pending)) := rfl

/-- A path can do without the edges that leave `id`, or it can start at the end of one of them. -/
theorem path_avoiding (edges : List Edge) (id : String) {a goal : String}
    (path : ReflTransGen (Linked edges) a goal) (apart : id ≠ goal) :
    ReflTransGen (Linked (withoutSource edges id)) a goal ∨
      ∃ b, Linked edges id b ∧ ReflTransGen (Linked (withoutSource edges id)) b goal := by
  induction path using ReflTransGen.head_induction_on with
  | refl => exact .inl .refl
  | @head a b step _ ih =>
      rcases ih with rest | restart
      · by_cases same : a = id
        · subst same
          exact .inr ⟨b, step, rest⟩
        · exact .inl (rest.head ((linked_withoutSource edges id a b).mpr ⟨step, same⟩))
      · exact .inr restart

/-- What the search still finds once it has looked into `id` without success. -/
theorem path_from_next (edges : List Edge) (pending : List String) (id goal : String)
    (apart : id ≠ goal) :
    (∃ a ∈ targetsFrom edges id ++ pending,
        ReflTransGen (Linked (withoutSource edges id)) a goal) ↔
      ∃ a ∈ id :: pending, ReflTransGen (Linked edges) a goal := by
  have weaken : ∀ {a}, ReflTransGen (Linked (withoutSource edges id)) a goal →
      ReflTransGen (Linked edges) a goal := fun {a} path =>
    ReflTransGen.mono (fun x y step => ((linked_withoutSource edges id x y).mp step).1) a goal path
  constructor
  · rintro ⟨a, member, path⟩
    rcases List.mem_append.mp member with next | waiting
    · have step := (mem_targetsFrom edges id a).mp next
      exact ⟨id, List.mem_cons_self, (weaken path).head step⟩
    · exact ⟨a, List.mem_cons_of_mem id waiting, weaken path⟩
  · rintro ⟨a, member, path⟩
    rcases path_avoiding edges id path apart with rest | ⟨b, step, rest⟩
    · rcases List.mem_cons.mp member with rfl | waiting
      · rcases path.cases_head with rfl | ⟨b, step, path⟩
        · exact absurd rfl apart
        · rcases path_avoiding edges a path apart with rest | ⟨c, step, rest⟩
          · exact ⟨b, List.mem_append_left _ ((mem_targetsFrom edges a b).mpr step), rest⟩
          · exact ⟨c, List.mem_append_left _ ((mem_targetsFrom edges a c).mpr step), rest⟩
      · exact ⟨a, List.mem_append_right _ waiting, rest⟩
    · exact ⟨b, List.mem_append_left _ ((mem_targetsFrom edges id b).mpr step), rest⟩

theorem reachesWithin_iff (goal : String) (fuel : Nat) (edges : List Edge)
    (pending : List String) (enough : edges.length + pending.length ≤ fuel) :
    reachesWithin goal fuel edges pending = true ↔
      ∃ a ∈ pending, ReflTransGen (Linked edges) a goal := by
  induction fuel generalizing edges pending with
  | zero =>
      cases pending with
      | nil => simp [reachesWithin]
      | cons id pending => simp at enough
  | succ fuel ih =>
      cases pending with
      | nil => simp [reachesWithin]
      | cons id pending =>
          have split := length_split edges id
          have smaller : (withoutSource edges id).length +
              (targetsFrom edges id ++ pending).length ≤ fuel := by
            simp only [List.length_cons, List.length_append] at enough ⊢
            omega
          have later := ih (withoutSource edges id) (targetsFrom edges id ++ pending) smaller
          rw [reachesWithin_cons, Bool.or_eq_true, decide_eq_true_eq, later]
          by_cases same : id = goal
          · subst same
            exact iff_of_true (.inl rfl) ⟨id, List.mem_cons_self, .refl⟩
          · rw [path_from_next edges pending id goal same]
            simp [same]

/-- The guard of a redirection is exact. -/
theorem reaches_eq_true (edges : List Edge) (start goal : String) :
    reaches edges start goal = true ↔ ReflTransGen (Linked edges) start goal := by
  have enough : edges.length + [start].length ≤ edges.length + 1 := Nat.le_refl _
  rw [reaches, reachesWithin_iff goal _ edges [start] enough]
  simp

end ChatFlow.Resolution
