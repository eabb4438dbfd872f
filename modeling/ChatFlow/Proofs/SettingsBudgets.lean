import ChatFlow.Proofs.ExecutionLogs
import ChatFlow.Proofs.VisitBudgets
import Mathlib.Algebra.Group.Nat.Defs
import Mathlib.Order.MinMax

/-!
# Budgets from settings

Settings say how large the budget for some nodes is, and an executor made from them computes it
again: it raises the factor to one when it is made, and multiplies when it executes.  Both come to
the same, and this is the budget that an execution has: it is reported at the start, no execution
makes more visits, and one that is given up as cyclic has made exactly as many.  On words of 64 bits
the product never wraps around.
-/

set_option autoImplicit false

namespace ChatFlow

/-! ## Products of words -/

/-- The largest count as a word. -/
def largestWord : UInt64 := UInt64.ofNat largestCount

/-- The product of two words, or the largest word if the product does not fit.  Whether it fits is
found by a division, and only then is it taken. -/
def wordProduct (a b : UInt64) : UInt64 :=
  if b ≠ 0 ∧ largestWord / b < a then largestWord else a * b

theorem toNat_largestWord : largestWord.toNat = largestCount := by decide

theorem toNat_wordProduct (a b : UInt64) :
    (wordProduct a b).toNat = saturatingProduct a.toNat b.toNat := by
  have overflows : (b ≠ 0 ∧ largestWord / b < a) ↔ largestCount < a.toNat * b.toNat := by
    rw [UInt64.lt_iff_toNat_lt, UInt64.toNat_div, toNat_largestWord, ne_eq,
      ← UInt64.toNat_inj, UInt64.toNat_zero]
    constructor
    · rintro ⟨positive, less⟩
      exact (Nat.div_lt_iff_lt_mul (Nat.pos_of_ne_zero positive)).mp less
    · intro large
      have positive : 0 < b.toNat := Nat.pos_of_ne_zero fun zero => by simp [zero] at large
      exact ⟨positive.ne', (Nat.div_lt_iff_lt_mul positive).mpr large⟩
  rw [wordProduct, saturatingProduct]
  by_cases large : largestCount < a.toNat * b.toNat
  · rw [if_pos (overflows.mpr large), toNat_largestWord, Nat.min_eq_right large.le]
  · have fits : a.toNat * b.toNat < 2 ^ 64 := Nat.lt_succ_of_le (Nat.le_of_not_lt large)
    rw [if_neg (mt overflows.mp large), Nat.min_eq_left (Nat.le_of_not_lt large),
      UInt64.toNat_mul, Nat.mod_eq_of_lt fits]

theorem toNat_max (a b : UInt64) : (max a b).toNat = max a.toNat b.toNat := by
  change (if a ≤ b then b else a).toNat = _
  by_cases least : a ≤ b
  · rw [if_pos least, Nat.max_eq_right (UInt64.le_iff_toNat_le.mp least)]
  · rw [if_neg least, Nat.max_eq_left]
    exact Nat.le_of_not_le (mt UInt64.le_iff_toNat_le.mpr least)

namespace Walk

variable {World : Type} {plan : Plan} {registry : Registry World} {budget : Nat}
  {start : Point World} {visits : List (Visit World)}

theorem Ends.within {outcome : Except WalkError State}
    (ends : Ends plan registry budget start visits outcome) : visits.length ≤ budget := by
  cases ends with
  | answered _ within | astray _ within => exact within
  | exhausted _ spent => exact spent.le
  | unmanned _ within => exact within.le

theorem Ends.spent {id : String} {given : Nat}
    (ends : Ends plan registry budget start visits (.error (.cyclicGraph id given))) :
    given = budget ∧ visits.length = budget := by
  cases ends with
  | exhausted _ spent => exact ⟨rfl, spent⟩

end Walk

namespace Executor

variable {World : Type}

/-- Executions of the plan have this budget, whatever they start with. -/
structure HasBudget (executor : Executor World) (plan : Plan) (budget : Nat) : Prop where
  reported : ∀ state world, (executor.execute plan state world).trace.events.toList.head? =
    some (.executionStarted plan.entry plan.size budget)
  within : ∀ state world, (executor.visits plan state world).length ≤ budget
  spent : ∀ state world id given,
    (executor.execute plan state world).outcome = .error (.cyclicGraph id given) →
      given = budget ∧ (executor.visits plan state world).length = budget

theorem hasBudget (executor : Executor World) (plan : Plan) :
    executor.HasBudget plan (executor.budget plan.size) where
  reported := by
    intro state world
    rw [executor.events_execute plan state world]
    rfl
  within := by
    intro state world
    exact (executor.ends_visits plan state world).within
  spent := by
    intro state world id given exhausted
    have ends := executor.ends_visits plan state world
    rw [exhausted] at ends
    exact ends.spent

/-- The budget of an executor is the one of the settings that it was made from, and its executions
have it: as many visits for each node as the factor says, at least one, but never more in all than
the largest count.  It is never below the number of nodes, it grows with the nodes and with the
factor, and computed on words it is the same. -/
theorem budget_is_that_of_settings (registry : Registry World) (settings : Settings) :
    let executor := ofSettings registry settings
    let factor := settings.engine.visitBudgetFactor
    (∀ nodes, executor.budget nodes = settings.visitBudget nodes ∧
      settings.visitBudget nodes = min (nodes * max factor 1) (2 ^ 64 - 1)) ∧
    (∀ plan, executor.HasBudget plan (settings.visitBudget plan.size)) ∧
    (∀ nodes, nodes ≤ 2 ^ 64 - 1 → nodes ≤ settings.visitBudget nodes) ∧
    (∀ nodes more (other : Settings), nodes ≤ more → factor ≤ other.engine.visitBudgetFactor →
      settings.visitBudget nodes ≤ other.visitBudget more) ∧
    (∀ nodes factorWord : UInt64, factorWord.toNat = factor →
      (wordProduct nodes (max factorWord 1)).toNat = settings.visitBudget nodes.toNat) := by
  intro executor factor
  refine ⟨?_, ?_, ?_, ?_, ?_⟩
  · intro nodes
    exact ⟨rfl, rfl⟩
  · intro plan
    exact executor.hasBudget plan
  · intro nodes countable
    exact le_saturatingProduct countable (Nat.le_max_right factor 1)
  · intro nodes more other longer larger
    exact saturatingProduct_mono longer (max_le_max_right 1 larger)
  · intro nodes factorWord same
    rw [toNat_wordProduct, toNat_max, same]
    rfl

end Executor

end ChatFlow
