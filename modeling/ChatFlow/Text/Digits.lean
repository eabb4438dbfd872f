/-!
# Digits

Digits of bases up to sixteen and the numbers they write.
-/

set_option autoImplicit false

namespace ChatFlow.Text

def hexDigit? (c : Char) : Option Nat :=
  if '0' ≤ c ∧ c ≤ '9' then some (c.toNat - 48)
  else if 'a' ≤ c ∧ c ≤ 'f' then some (c.toNat - 87)
  else if 'A' ≤ c ∧ c ≤ 'F' then some (c.toNat - 55)
  else none

/-- The value of a digit in a base up to sixteen. -/
def digit? (base : Nat) (c : Char) : Option Nat := (hexDigit? c).filter (· < base)

def ofDigits (base : Nat) (digits : List Nat) : Nat := digits.foldl (fun n d => n * base + d) 0

/-- The number that a text of one or more digits writes. -/
def natural? (base : Nat) (text : List Char) : Option Nat :=
  if text.isEmpty then none else (text.mapM (digit? base)).map (ofDigits base)

end ChatFlow.Text
