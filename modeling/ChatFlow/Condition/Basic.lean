import ChatFlow.Conversation.State
import ChatFlow.Graph.Basic
import ChatFlow.Json.Printer
import ChatFlow.Pattern.Meaning
import ChatFlow.Text.Lowercase

/-!
# Conditions

The predicate of a conditional node: a comparison, the text it looks at, and the value it compares
with.  Case never counts.  `equals`, `startsWith` and `endsWith` do not see blanks at both ends;
`contains` matches anywhere.  With an empty value only `equals` can hold.
-/

set_option autoImplicit false

namespace ChatFlow

/-- How a condition compares.  A comparison with an unknown name never holds. -/
inductive Comparison
  | contains
  | equals
  | startsWith
  | endsWith
  | regex
  | isYes
  | isNo
  | unknown (name : String)
  deriving DecidableEq, Repr

namespace Comparison

def ofName : String → Comparison
  | "contains" => .contains
  | "equals" => .equals
  | "startsWith" => .startsWith
  | "endsWith" => .endsWith
  | "regex" => .regex
  | "isYes" => .isYes
  | "isNo" => .isNo
  | other => .unknown other

def name : Comparison → String
  | .contains => "contains"
  | .equals => "equals"
  | .startsWith => "startsWith"
  | .endsWith => "endsWith"
  | .regex => "regex"
  | .isYes => "isYes"
  | .isNo => "isNo"
  | .unknown name => name

theorem name_ofName (name : String) : (ofName name).name = name := by
  unfold ofName
  split <;> rfl

end Comparison

/-- The text that a condition looks at. -/
inductive Field
  | message
  | response
  | outputVariable (name : String)
  deriving DecidableEq, Repr

namespace Field

/-- The field with a name; all names but two are those of output variables. -/
def ofName : String → Field
  | "message" => .message
  | "response" => .response
  | other => .outputVariable other

def name : Field → String
  | .message => "message"
  | .response => "response"
  | .outputVariable name => name

theorem name_ofName (name : String) : (ofName name).name = name := by
  unfold ofName
  split <;> rfl

/-- The text of a field; a variable that nobody wrote stands for the response. -/
def resolve (field : Field) (state : State) : String :=
  match field with
  | .message => state.message
  | .response => state.response
  | .outputVariable name => (state.outputVariables.get? name).getD state.response

end Field

/-- A way to look for written patterns in texts; `none` if the pattern is malformed. -/
abbrev PatternSearch := (written text : String) → Option Bool

structure Condition where
  comparison : Comparison
  field : Field
  value : String

namespace Condition

/-- The value of an option as text: a text as it is, `null` as the empty text, and anything else
as JSON. -/
def valueText : Json → String
  | .string text => text
  | .null => ""
  | other => other.compact

/-- Reads the options of a node.  By default the response has to contain the value, which is
given as `conditionValue` or else as `value`. -/
def ofNode (node : Node) : Condition where
  comparison := (node.optionText? "conditionType").elim .contains Comparison.ofName
  field := (node.optionText? "field").elim .response Field.ofName
  value := ((node.option? "conditionValue") <|> (node.option? "value")).elim "" valueText

def affirmative : List String :=
  ["yes", "y", "true", "1", "correct", "affirmative", "yeah", "yep"]

def negative : List String :=
  ["no", "n", "false", "0", "incorrect", "negative", "nope", "nah"]

/-- A text without case and without the blanks at both ends. -/
def comparable (text : String) : List Char := Text.trimmed (Text.lowercased text.toList)

/-- Whether a text is one of some answers. -/
def isOneOf (answers : List String) (text : String) : Bool :=
  answers.any (fun answer => answer.toList = comparable text)

/-- Whether the condition holds of a text; `none` if its value is a malformed pattern. -/
def evaluateWith (search? : PatternSearch) (condition : Condition) (subject : String) :
    Option Bool :=
  let given := condition.value ≠ ""
  match condition.comparison with
  | .contains =>
    some (given &&
      Text.occurs (Text.lowercased condition.value.toList) (Text.lowercased subject.toList))
  | .equals => some (comparable subject = comparable condition.value)
  | .startsWith => some (given && (comparable condition.value).isPrefixOf (comparable subject))
  | .endsWith => some (given && (comparable condition.value).isSuffixOf (comparable subject))
  | .regex =>
    if given then search? condition.value subject else some false
  | .isYes => some (isOneOf affirmative subject)
  | .isNo => some (isOneOf negative subject)
  | .unknown _ => some false

/-- `evaluateWith` for the patterns of the pattern language. -/
def evaluate? (condition : Condition) (subject : String) : Option Bool :=
  condition.evaluateWith Pattern.search? subject

end Condition

end ChatFlow
