import ChatFlow.Keyed

/-!
# JSON values

Numbers keep the difference between an integer (within 64 bits, with or without sign) and a
double, because the two are written differently and answer different questions.  The names of the
fields of an object are distinct.  An object that was read has its fields in byte order of their
names (`ofEntries`); one that is to be printed has them in the order in which they are printed.
-/

set_option autoImplicit false

namespace ChatFlow

/-- A JSON number: an integer from `-2^63` up to `2^64 - 1`, or a double. -/
inductive Number
  | int (value : Int)
  | float (value : Float)
  deriving Inhabited

inductive Json
  | null
  | bool (value : Bool)
  | number (value : Number)
  | string (text : String)
  | array (items : List Json)
  | object (fields : List (String × Json))
  deriving Inhabited

namespace Number

/-- The number as a double, rounded to nearest. -/
def toFloat : Number → Float
  | .int value => Float.ofInt value
  | .float value => value

/-- The number as a natural number, if it is a nonnegative integer. -/
def toNat? : Number → Option Nat
  | .int value => if 0 ≤ value then some value.toNat else none
  | .float _ => none

end Number

namespace Json

def text? : Json → Option String
  | .string text => some text
  | _ => none

def float? : Json → Option Float
  | .number n => some n.toFloat
  | _ => none

def nat? : Json → Option Nat
  | .number n => n.toNat?
  | _ => none

def fields? : Json → Option (Keyed Json)
  | .object fields => some fields
  | _ => none

/-- An object from entries in any order; the last entry of a repeated name wins. -/
def ofEntries (entries : List (String × Json)) : Json := .object (Keyed.collect entries)

def ofNat (n : Nat) : Json := .number (.int n)

def ofText? : Option String → Json
  | none => .null
  | some text => .string text

end Json

end ChatFlow
