/-!
# Exact values of double precision numbers

A finite `Float` is a signed integer multiple of a power of two.  Everything that is printed
from a float starts from this exact value and works on natural numbers, so no rounding happens
before the last step.
-/

set_option autoImplicit false

namespace ChatFlow.Decimal

/-- A finite double: `(-1)^negative * mantissa * 2^exponent`.  `isBoundary` says that the double
below is only half as far away as the double above, which happens at powers of two. -/
structure Binary64 where
  negative : Bool
  mantissa : Nat
  exponent : Int
  isBoundary : Bool

/-- What a `Float` holds: a finite value, an infinity with its sign, or no number. -/
inductive Float64
  | finite (value : Binary64)
  | infinite (negative : Bool)
  | nan

/-- Reads the sign, exponent and fraction fields of the double's 64 bits. -/
def Float64.ofFloat (x : Float) : Float64 :=
  let bits : Nat := x.toBits.toNat
  let negative := bits / Nat.pow 2 63 == 1
  let field : Nat := bits / Nat.pow 2 52 % Nat.pow 2 11
  let fraction : Nat := bits % Nat.pow 2 52
  if field = 2047 then
    if fraction = 0 then .infinite negative else .nan
  else if field = 0 then
    .finite ⟨negative, fraction, -1074, false⟩
  else
    .finite ⟨negative, Nat.pow 2 52 + fraction, (field : Int) - 1075, fraction = 0 && field > 1⟩

/-- A nonnegative fraction with a positive denominator. -/
structure Ratio where
  num : Nat
  den : Nat
  den_pos : 0 < den

def Ratio.scaled (mantissa : Nat) (exponent : Int) : Ratio :=
  match exponent with
  | .ofNat up => ⟨mantissa * Nat.pow 2 up, 1, Nat.one_pos⟩
  | .negSucc down => ⟨mantissa, Nat.pow 2 (down + 1), Nat.two_pow_pos _⟩

/-- The size of a finite double, without its sign. -/
def Binary64.magnitude (x : Binary64) : Ratio := Ratio.scaled x.mantissa x.exponent

/-- The quotient rounded to a natural number; a half goes to the even neighbour. -/
def Ratio.roundHalfEven (r : Ratio) : Nat :=
  let low := r.num / r.den
  let twice := 2 * (r.num % r.den)
  if twice < r.den then low
  else if r.den < twice then low + 1
  else if low % 2 = 0 then low else low + 1

/-- Rounding moves the value by at most one half. -/
theorem Ratio.roundHalfEven_near (r : Ratio) :
    2 * r.num ≤ 2 * r.den * r.roundHalfEven + r.den ∧
      2 * r.den * r.roundHalfEven ≤ 2 * r.num + r.den := by
  have split := Nat.div_add_mod r.num r.den
  have small := Nat.mod_lt r.num r.den_pos
  unfold Ratio.roundHalfEven
  generalize r.num / r.den = low at *
  generalize r.num % r.den = rest at *
  have one : 2 * r.den * low = 2 * (r.den * low) := Nat.mul_assoc ..
  have two : 2 * r.den * (low + 1) = 2 * (r.den * low) + 2 * r.den := by
    rw [Nat.mul_add, one, Nat.mul_one]
  dsimp only
  split <;> rename_i below
  · omega
  · split
    · omega
    · split <;> omega

end ChatFlow.Decimal
