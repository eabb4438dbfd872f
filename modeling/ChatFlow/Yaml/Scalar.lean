import ChatFlow.Decimal.Numeral
import ChatFlow.Json.Basic
import ChatFlow.Yaml.Token

/-!
# What scalars mean

A plain scalar can be null, a truth value or a number; everything else is text.  A tag can ask for
one of these kinds, also of a quoted scalar, and then the text must be of that kind.
-/

set_option autoImplicit false

namespace ChatFlow.Yaml.Scalar

def isNullWord (text : String) : Bool := ["null", "Null", "NULL", "~"].contains text

def truthValue? (text : String) : Option Bool :=
  if ["true", "True", "TRUE"].contains text then some true
  else if ["false", "False", "FALSE"].contains text then some false
  else none

/-- Whether a text is digits behind a zero, which is text and no number. -/
def isZeroPadded (text : List Char) : Bool :=
  let digits :=
    match text with
    | '+' :: rest => rest
    | '-' :: rest => rest
    | text => text
  match digits with
  | '0' :: rest => !rest.isEmpty && rest.all Char.isDigit
  | _ => false

/-- An integer without sign: hexadecimal, octal, binary or decimal. -/
def unsigned? (text : List Char) : Option Nat :=
  let inBase : Option Nat :=
    match text with
    | '0' :: 'x' :: rest => Text.natural? 16 rest
    | '0' :: 'o' :: rest => Text.natural? 8 rest
    | '0' :: 'b' :: rest => Text.natural? 2 rest
    | _ => none
  match inBase with
  | some n => some n
  | none => if isZeroPadded text then none else Text.natural? 10 text

def integer? : List Char → Option Int
  | '-' :: text => (unsigned? text).map (fun n => -(n : Int))
  | '+' :: text => (unsigned? text).map Int.ofNat
  | text => (unsigned? text).map Int.ofNat

/-- A finite double, an infinity or no number. -/
def float? (text : List Char) : Option Float :=
  let finite (text : List Char) : Option Float :=
    ((Decimal.Numeral.ofText? text).map Decimal.Numeral.toFloat).filter Float.isFinite
  let infinite (text : List Char) : Bool :=
    [".inf", ".Inf", ".INF"].contains (String.ofList text)
  if [".nan", ".NaN", ".NAN"].contains (String.ofList text) then some (0.0 / 0.0)
  else
    match text with
    | '-' :: rest =>
      if infinite rest then some (-1.0 / 0.0) else (finite rest).map (fun x => -x)
    | '+' :: rest => if infinite rest then some (1.0 / 0.0) else finite rest
    | text => if infinite text then some (1.0 / 0.0) else finite text

/-- A double as a value; values that are not finite are null. -/
def ofFloat (x : Float) : Json := if x.isFinite then .number (.float x) else .null

/-- Whether an integer fits into a count of bits, with or without a sign. -/
def fits (bits : Nat) (n : Int) : Bool :=
  -(Nat.pow 2 (bits - 1) : Int) ≤ n && n < (Nat.pow 2 bits : Int)

/-- The value of an integer as written, if it is one.  An integer beyond 64 bits is refused
(`some none`), and one beyond 128 bits is none. -/
def ofInteger? (text : List Char) : Option (Option Json) :=
  match integer? text with
  | none => none
  | some n =>
    if fits 64 n then some (some (.number (.int n)))
    else if fits 128 n then some none
    else none

/-- The value of a scalar that is plain and has no tag. -/
def ofPlain? (text : String) : Option Json :=
  let characters := text.toList
  if text.isEmpty || isNullWord text then some .null
  else
    match truthValue? text with
    | some b => some (.bool b)
    | none =>
      match ofInteger? characters with
      | some value => value
      | none =>
        match (if isZeroPadded characters then none else float? characters) with
        | some x => some (ofFloat x)
        | none => some (.string text)

def standardTag (name : String) : TagText := ("tag:yaml.org,2002:" ++ name).toUTF8.toList

/-- Whether a tag is a name of the document's own, which no value has. -/
def isOwnTag (tag : TagText) : Bool :=
  tag.head? = some 33 && (String.fromUTF8? ⟨(tag.drop 1).toArray⟩).isSome

def value? (tag : Option TagText) (plain : Bool) (text : String) : Option Json :=
  match tag with
  | none => if plain then ofPlain? text else some (.string text)
  | some tag =>
    if isOwnTag tag then none
    else if tag = standardTag "bool" then (truthValue? text).map .bool
    else if tag = standardTag "int" then (ofInteger? text.toList).join
    else if tag = standardTag "float" then (float? text.toList).map ofFloat
    else if tag = standardTag "null" then if isNullWord text then some .null else none
    else if tag.head? = some 33 && plain then ofPlain? text
    else some (.string text)

end ChatFlow.Yaml.Scalar
