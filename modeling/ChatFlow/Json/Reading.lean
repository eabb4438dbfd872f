import ChatFlow.Json.Basic
import ChatFlow.Json.Syntax
import ChatFlow.Decimal.Nearest

/-!
# Values from JSON text

The values that a tree of `ChatFlow.Json.Syntax` stands for.  Three things are refused here: a
string with half of a surrogate pair, a number too large for a double, and nesting of more than
`levelLimit` arrays and objects.
-/

set_option autoImplicit false

namespace ChatFlow.Json

/-- How many arrays and objects may be open at once. -/
def levelLimit : Nat := 127

/-- The text of a string.  Code units that form a surrogate pair are one character; any other
surrogate is refused. -/
def pieceText : List Piece → Option (List Char)
  | [] => some []
  | .char c :: rest => (pieceText rest).map (c :: ·)
  | .unit high :: rest =>
    if 0xD800 ≤ high ∧ high < 0xDC00 then
      match rest with
      | .unit low :: rest =>
        if 0xDC00 ≤ low ∧ low < 0xE000 then
          (pieceText rest).map
            (Char.ofNat (0x10000 + (high - 0xD800) * 0x400 + (low - 0xDC00)) :: ·)
        else none
      | _ => none
    else if 0xDC00 ≤ high ∧ high < 0xE000 then none
    else (pieceText rest).map (Char.ofNat high :: ·)

/-- A significand of at most 64 bits, and how many digits were taken or left out. -/
structure Significand where
  value : Nat
  taken : Nat
  leftOut : Nat

/-- Takes digits while the significand fits into 64 bits; from the first digit that does not fit
on, digits are left out. -/
def Significand.take (s : Significand) : List Nat → Significand
  | [] => s
  | d :: rest =>
    if s.value * 10 + d < Nat.pow 2 64 then
      Significand.take ⟨s.value * 10 + d, s.taken + 1, s.leftOut⟩ rest
    else ⟨s.value, s.taken, s.leftOut + (rest.length + 1)⟩

/-- Multiplies or divides once by a power of ten; an exponent below `-308` first takes steps of
`10^308`, and three of them reach zero.  `none` is a number beyond the largest double. -/
def scaledFloat : (steps : Nat) → (x : Float) → (exponent : Int) → Option Float
  | _, x, .ofNat up =>
    if x == 0.0 then some x
    else if up > 308 then none
    else
      let product := x * (Decimal.Scientific.toFloat ⟨1, up⟩)
      if product.isInf then none else some product
  | steps, x, .negSucc down =>
    if down + 1 ≤ 308 then some (x / Decimal.Scientific.toFloat ⟨1, (down + 1 : Nat)⟩)
    else if x == 0.0 then some x
    else match steps with
      | 0 => some 0.0
      | steps + 1 =>
        scaledFloat steps (x / Decimal.Scientific.toFloat ⟨1, 308⟩) (.negSucc (down - 308))

/-- The number that digits stand for.  Without point and exponent it is an integer if it fits
into 64 bits; minus zero and everything else is a double, computed from the significand by one
scaling. -/
def NumberText.number? (text : NumberText) : Option Number :=
  let whole := Significand.take ⟨0, 0, 0⟩ text.whole
  let signed (x : Float) : Number := .float (if text.negative then -x else x)
  let scaled (significand : Nat) (exponent : Int) : Option Number :=
    (scaledFloat 4 (Float.ofNat significand) exponent).map signed
  match text.fraction, text.exponent with
  | none, none =>
    if whole.leftOut > 0 then scaled whole.value whole.leftOut
    else if text.negative = false then some (.int whole.value)
    else if 0 < whole.value ∧ whole.value ≤ Nat.pow 2 63 then some (.int (-(whole.value : Int)))
    else some (signed (Float.ofNat whole.value))
  | fraction, exponent =>
    let all := Significand.take ⟨whole.value, 0, 0⟩ (fraction.getD [])
    let before : Int := (whole.leftOut : Int) - all.taken
    match exponent with
    | none => scaled all.value before
    | some (negative, digits) =>
      let written := Text.ofDigits 10 digits
      if written < Nat.pow 2 31 then
        scaled all.value (if negative then before - written else before + written)
      else if all.value ≠ 0 ∧ negative = false then none
      else some (signed 0.0)

mutual

/-- The value of a tree in which at most `levels` more arrays and objects may be open. -/
def ofSyntax (levels : Nat) : Syntax → Option Json
  | .null => some .null
  | .bool b => some (.bool b)
  | .number text => text.number?.map .number
  | .string pieces => (pieceText pieces).map (fun text => .string (String.ofList text))
  | .array items => if levels = 0 then none else (ofItems (levels - 1) items).map .array
  | .object fields => if levels = 0 then none else (ofFields (levels - 1) fields).map ofEntries

/-- The values of the items of an array. -/
def ofItems (levels : Nat) : List Syntax → Option (List Json)
  | [] => some []
  | item :: rest =>
    match ofSyntax levels item with
    | none => none
    | some value => (ofItems levels rest).map (value :: ·)

/-- The values of the fields of an object, in text order and with repetitions. -/
def ofFields (levels : Nat) : List (List Piece × Syntax) → Option (List (String × Json))
  | [] => some []
  | (name, value) :: rest =>
    match pieceText name, ofSyntax levels value with
    | some name, some value =>
      (ofFields levels rest).map ((String.ofList name, value) :: ·)
    | _, _ => none

end

def parse (text : String) : Option Json := (Syntax.parse text).bind (ofSyntax levelLimit)

end ChatFlow.Json
