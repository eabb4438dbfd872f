import Mathlib.Data.List.Nodup

/-!
# Lists without their repetitions

Of equal members the first is kept.  What is proved about such a list goes by the first member and
the others that differ from it.  With their places, members of a list differ in any case.
-/

set_option autoImplicit false

namespace ChatFlow

theorem pairwise_zipIdx {α : Type} (items : List α) :
    items.zipIdx.Pairwise fun a b => a.2 < b.2 := by
  rw [← List.pairwise_map (f := Prod.snd), List.zipIdx_map_snd]
  exact List.pairwise_lt_range'

variable {α : Type} [BEq α]

theorem eraseDups_induction {motive : List α → Prop} (nil : motive [])
    (cons : ∀ first rest, motive (rest.filter fun other => !other == first) →
      motive (first :: rest)) (items : List α) : motive items := by
  induction size : items.length using Nat.strongRecOn generalizing items with
  | ind n ih =>
    cases items with
    | nil => exact nil
    | cons first rest =>
        have smaller : (rest.filter fun other => !other == first).length < n := by
          rw [← size]
          exact Nat.lt_succ_of_le (List.length_filter_le _ _)
        exact cons first rest (ih _ smaller _ rfl)

variable [LawfulBEq α]

theorem nodup_eraseDups (items : List α) : items.eraseDups.Nodup := by
  induction items using eraseDups_induction with
  | nil => exact List.nodup_nil
  | cons first rest ih =>
      rw [List.eraseDups_cons, List.nodup_cons]
      exact ⟨by simp, ih⟩

/-- The first member of some sort is kept. -/
theorem find?_eraseDups (items : List α) (choice : α → Bool) :
    items.eraseDups.find? choice = items.find? choice := by
  induction items using eraseDups_induction with
  | nil => rfl
  | cons first rest ih =>
      rw [List.eraseDups_cons, List.find?_cons, List.find?_cons]
      cases chosen : choice first with
      | true => rfl
      | false =>
          rw [ih, List.find?_filter]
          refine congrArg (fun choice => rest.find? choice) (funext fun other => ?_)
          by_cases same : other = first
          · simp [same, chosen]
          · simp [same]

section

variable {β : Type} [DecidableEq β]

theorem rest_of_eraseDups {items rest : List β} {first : β}
    (kept : items.eraseDups = first :: rest) :
    rest = (items.filter (· ≠ first)).eraseDups := by
  cases items with
  | nil => cases kept
  | cons head items =>
      rw [List.eraseDups_cons] at kept
      obtain ⟨rfl, rfl⟩ := List.cons.inj kept
      rw [List.filter_cons_of_neg (by simp)]
      refine congrArg List.eraseDups (List.filter_congr fun other _ => ?_)
      simp [Bool.beq_eq_decide_eq]

/-- More than the first member is kept exactly if two members differ. -/
theorem tail_eraseDups_ne_nil (items : List β) :
    items.eraseDups.tail ≠ [] ↔ ∃ a ∈ items, ∃ b ∈ items, a ≠ b := by
  cases items with
  | nil => simp
  | cons first rest =>
      have later : ∀ b, b ∈ (first :: rest).eraseDups.tail ↔ b ∈ rest ∧ b ≠ first := by
        simp [List.eraseDups_cons]
      constructor
      · intro more
        obtain ⟨b, member⟩ := List.exists_mem_of_ne_nil _ more
        obtain ⟨inRest, apart⟩ := (later b).mp member
        exact ⟨first, List.mem_cons_self, b, List.mem_cons_of_mem first inRest, apart.symm⟩
      · rintro ⟨a, memberA, b, memberB, apart⟩
        -- of two that differ at most one is the first
        by_cases same : a = first
        · subst same
          have inRest := (List.mem_cons.mp memberB).resolve_left apart.symm
          exact List.ne_nil_of_mem ((later b).mpr ⟨inRest, apart.symm⟩)
        · have inRest := (List.mem_cons.mp memberA).resolve_left same
          exact List.ne_nil_of_mem ((later a).mpr ⟨inRest, same⟩)

end

end ChatFlow
