import ChatFlow.Decimal.Nearest
import ChatFlow.Text.Digits

/-!
# Decimal numerals

Numbers written with an optional point and an optional exponent, and the doubles nearest to them.
The exponent may be as large as it likes: far outside the range of doubles the value is known
without computing it.
-/

set_option autoImplicit false

namespace ChatFlow.Decimal

/-- A numeral without a sign: digits before and after the point, and an exponent of ten. -/
structure Numeral where
  whole : List Nat
  fraction : List Nat := []
  exponent : Int := 0

namespace Numeral

def toFloat (numeral : Numeral) : Float :=
  let digits := numeral.whole ++ numeral.fraction
  let significand := Text.ofDigits 10 digits
  let exponent := numeral.exponent - numeral.fraction.length
  if significand = 0 ∨ exponent + digits.length < -400 then 0.0
  else if exponent > 400 then Float.ofBits 0x7FF0000000000000
  else Scientific.toFloat ⟨significand, exponent⟩

/-- The decimal digits at the start of a text, and the rest. -/
def digits (text : List Char) : List Nat × List Char :=
  ((text.takeWhile Char.isDigit).filterMap (Text.digit? 10), text.dropWhile Char.isDigit)

/-- An exponent behind its mark: digits with an optional sign, and nothing else. -/
def exponent? : List Char → Option Int
  | '-' :: text => (Text.natural? 10 text).map (fun n => -(n : Int))
  | '+' :: text => (Text.natural? 10 text).map Int.ofNat
  | text => (Text.natural? 10 text).map Int.ofNat

/-- The numeral that a text is.  Digits may be missing on one side of the point. -/
def ofText? (text : List Char) : Option Numeral :=
  let (whole, rest) := digits text
  let (fraction, rest) :=
    match rest with
    | '.' :: rest => digits rest
    | rest => ([], rest)
  if whole.isEmpty && fraction.isEmpty then none
  else
    match rest with
    | [] => some ⟨whole, fraction, 0⟩
    | mark :: rest =>
      if mark = 'e' ∨ mark = 'E' then (exponent? rest).map (⟨whole, fraction, ·⟩) else none

end Numeral

end ChatFlow.Decimal
