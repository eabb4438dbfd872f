import ChatFlow.Log.Elapsed

/-!
# Settings

What an operator may set; each value has a default.
-/

set_option autoImplicit false

namespace ChatFlow

namespace Settings

structure Engine where
  visitBudgetFactor : Nat := 1

structure Logging where
  filter : String := "info"

/-- What an ai-call node uses that says nothing else. -/
structure Ai where
  defaultModel : String := "gpt-4o-mini"
  defaultSystemPrompt : String := "You are a helpful assistant."
  defaultTemperature : Float := 0.7
  timeoutSeconds : Nat := 30

/-- What a retrieval node uses that says nothing else, and how much it quotes. -/
structure Retrieval where
  defaultCount : Nat := 3
  longestSnippet : Nat := 500
  directory : String := "./documents"

/-- What a spreadsheet node uses that says nothing else. -/
structure Spreadsheet where
  defaultSheet : String := "Sheet1"

/-- How long a chat model may take. -/
def Ai.timeout (ai : Ai) : Elapsed := Elapsed.ofSeconds ai.timeoutSeconds

end Settings

structure Settings where
  engine : Settings.Engine := {}
  logging : Settings.Logging := {}
  ai : Settings.Ai := {}
  retrieval : Settings.Retrieval := {}
  spreadsheet : Settings.Spreadsheet := {}

/-- The largest count there is: counts have 64 bits. -/
def largestCount : Nat := Nat.pow 2 64 - 1

/-- A product of counts; beyond the largest count it stays there. -/
def saturatingProduct (a b : Nat) : Nat := min (a * b) largestCount

theorem saturatingProduct_mono {a a' b b' : Nat} (first : a ≤ a') (second : b ≤ b') :
    saturatingProduct a b ≤ saturatingProduct a' b' := by
  have products : a * b ≤ a' * b' := Nat.mul_le_mul first second
  have paid := Nat.min_le_left (a * b) largestCount
  exact Nat.le_min.mpr ⟨Nat.le_trans paid products, Nat.min_le_right _ _⟩

theorem le_saturatingProduct {a b : Nat} (countable : a ≤ largestCount) (positive : 0 < b) :
    a ≤ saturatingProduct a b :=
  Nat.le_min.mpr ⟨Nat.le_mul_of_pos_right a positive, countable⟩

/-- How many visits a walk through a plan of some nodes may have.  A factor of zero counts as one,
so every node can be visited once. -/
def Settings.visitBudget (settings : Settings) (nodes : Nat) : Nat :=
  saturatingProduct nodes (max settings.engine.visitBudgetFactor 1)

end ChatFlow
