import ChatFlow.Condition.Basic
import ChatFlow.Processor.Basic

/-!
# Conditions in a walk

The work of conditional nodes: the predicate's result is recorded under the node's id.
-/

set_option autoImplicit false

namespace ChatFlow.Branching

/-- Why a pattern is malformed is not told any further. -/
def malformedPattern : String := "malformed pattern"

/-- What there is to report about the evaluation of a condition. -/
def events (node : Node) (condition : Condition) (evaluated : Option Bool) : Array Event :=
  (if evaluated.isNone then #[.invalidPattern node.id condition.value malformedPattern]
    else #[]).push
    (.conditionEvaluated node.id condition.comparison.name condition.field.name
      (evaluated.getD false))

def process {World : Type} (search? : PatternSearch) (node : Node) (state : State)
    (world : World) : Processed World :=
  let condition := Condition.ofNode node
  let evaluated := condition.evaluateWith search? (condition.field.resolve state)
  .done { state with
      conditionResults := state.conditionResults.put node.id (evaluated.getD false) }
    ⟨events node condition evaluated, #[], .zero⟩ world

theorem process_keeps {World : Type} (search? : PatternSearch) (node : Node) (state : State)
    (world : World) : state.KeptIn (process search? node state world).state :=
  ⟨rfl, rfl, rfl⟩

end ChatFlow.Branching
