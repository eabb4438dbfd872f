import ChatFlow.Decimal.Shortest

/-!
# The double nearest to a fraction

Rounding to nearest, ties to even, done once on the exact value: first the binary exponent of
the last place is chosen, then the mantissa is rounded to a natural number.
-/

set_option autoImplicit false

namespace ChatFlow.Decimal

/-- The exponent of the leading binary digit of a positive fraction. -/
def leadingBit (r : Ratio) : Int :=
  let guess : Int := (Nat.log2 r.num : Int) - Nat.log2 r.den
  if (Ratio.scaled 1 guess).compare r == .gt then guess - 1 else guess

/-- The fraction divided by a power of two. -/
def Ratio.shifted (r : Ratio) (exponent : Int) : Ratio :=
  match exponent with
  | .ofNat up => ⟨r.num, r.den * Nat.pow 2 up, Nat.mul_pos r.den_pos (Nat.two_pow_pos _)⟩
  | .negSucc down => ⟨r.num * Nat.pow 2 (down + 1), r.den, r.den_pos⟩

/-- The nearest double; values beyond the largest one by half a step are infinite.  A mantissa
that rounds up to `2^53` carries into the exponent field by itself. -/
def Ratio.toFloat (r : Ratio) : Float :=
  if r.num = 0 then 0.0
  else
    let place : Int := max (leadingBit r - 52) (-1074)
    let mantissa := (r.shifted place).roundHalfEven
    let bits := (place + 1074).toNat * Nat.pow 2 52 + mantissa
    Float.ofBits (min bits (2047 * Nat.pow 2 52)).toUInt64

def Scientific.toFloat (s : Scientific) : Float := s.ratio.toFloat

end ChatFlow.Decimal
