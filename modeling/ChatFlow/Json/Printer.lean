import ChatFlow.Json.Basic
import ChatFlow.Decimal.Shortest

/-!
# JSON as text

Two layouts of the same tokens: `Json.compact` without any blank, and `Json.pretty` with two
blanks per level.  A double is written with the fewest digits that read back; it always carries
a point or an exponent, so it cannot be taken for an integer.
-/

set_option autoImplicit false

namespace ChatFlow

/-- How doubles are written: the range of leading exponents that is written without an exponent
part, and the mark in front of an exponent that is not negative. -/
structure FloatLayout where
  lowest : Int
  highest : Int
  positiveMark : String

/-- Positional from `0.00001` up to below `10^16`; beyond that an exponent with its sign. -/
def Json.floatLayout : FloatLayout := ⟨-5, 15, "+"⟩

/-- The digits of a decimal laid out with a point, an exponent, or both. -/
def FloatLayout.render (layout : FloatLayout) (s : Decimal.Scientific) : String :=
  let digits := Nat.toDigits 10 s.digits
  let count : Int := digits.length
  let lead : Int := s.exponent + count - 1
  if layout.lowest ≤ lead ∧ lead ≤ layout.highest then
    if 0 ≤ s.exponent then
      String.ofList (digits ++ List.replicate s.exponent.toNat '0') ++ ".0"
    else if 0 ≤ lead then
      let whole := (lead + 1).toNat
      String.ofList (digits.take whole) ++ "." ++ String.ofList (digits.drop whole)
    else
      "0." ++ String.ofList (List.replicate (-lead - 1).toNat '0' ++ digits)
  else
    let mantissa := match digits with
      | [] => "0"
      | [d] => String.ofList [d]
      | d :: rest => String.ofList (d :: '.' :: rest)
    let sign := if lead < 0 then "-" else layout.positiveMark
    mantissa ++ "e" ++ sign ++ toString lead.natAbs

/-- The text of a double; what is not a finite number is written as `null`. -/
def floatText (x : Float) : String :=
  match Decimal.Float64.ofFloat x with
  | .finite value =>
    (if value.negative then "-" else "") ++ Json.floatLayout.render (Decimal.shortest value)
  | _ => "null"

def Number.text : Number → String
  | .int value => toString value
  | .float value => floatText value

namespace Json

/-- A character inside quotes: the quote, the backslash and control characters are escaped, by a
letter where there is one. -/
def escaped (c : Char) : List Char :=
  if c = '"' then ['\\', '"']
  else if c = '\\' then ['\\', '\\']
  else if c.toNat = 8 then ['\\', 'b']
  else if c.toNat = 9 then ['\\', 't']
  else if c.toNat = 10 then ['\\', 'n']
  else if c.toNat = 12 then ['\\', 'f']
  else if c.toNat = 13 then ['\\', 'r']
  else if c.toNat < 32 then
    ['\\', 'u', '0', '0'] ++ [Nat.digitChar (c.toNat / 16), Nat.digitChar (c.toNat % 16)]
  else [c]

def quoted (text : String) : String :=
  String.ofList ('"' :: text.toList.flatMap escaped ++ ['"'])

mutual

def compact : Json → String
  | .null => "null"
  | .bool true => "true"
  | .bool false => "false"
  | .number n => n.text
  | .string text => quoted text
  | .array items => "[" ++ String.intercalate "," (compactItems items) ++ "]"
  | .object fields => "\x7b" ++ String.intercalate "," (compactFields fields) ++ "\x7d"

/-- The items of an array, each without any blank. -/
def compactItems : List Json → List String
  | [] => []
  | item :: rest => compact item :: compactItems rest

/-- The fields of an object, each as its name, a colon and its value. -/
def compactFields : List (String × Json) → List String
  | [] => []
  | (name, value) :: rest => (quoted name ++ ":" ++ compact value) :: compactFields rest

end

/-- Lines between two brackets, one item a line, indented one level deeper than the brackets. -/
def block (opening closing : String) (depth : Nat) (lines : List String) : String :=
  if lines.isEmpty then opening ++ closing
  else
    let blanks (n : Nat) := String.ofList (List.replicate (2 * n) ' ')
    opening ++ "\n" ++
      String.intercalate ",\n" (lines.map (blanks (depth + 1) ++ ·)) ++
      "\n" ++ blanks depth ++ closing

mutual

/-- The value over several lines, nested at the given depth. -/
def prettyAt (depth : Nat) : Json → String
  | .null => "null"
  | .bool true => "true"
  | .bool false => "false"
  | .number n => n.text
  | .string text => quoted text
  | .array items => block "[" "]" depth (prettyItems (depth + 1) items)
  | .object fields => block "\x7b" "\x7d" depth (prettyFields (depth + 1) fields)

/-- The items of an array, each over several lines. -/
def prettyItems (depth : Nat) : List Json → List String
  | [] => []
  | item :: rest => prettyAt depth item :: prettyItems depth rest

/-- The fields of an object, each over several lines. -/
def prettyFields (depth : Nat) : List (String × Json) → List String
  | [] => []
  | (name, value) :: rest =>
    (quoted name ++ ": " ++ prettyAt depth value) :: prettyFields depth rest

end

/-- The value over several lines, two blanks a level. -/
def pretty (value : Json) : String := prettyAt 0 value

end Json

end ChatFlow
