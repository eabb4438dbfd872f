import ChatFlow.Decimal.Binary64

/-!
# The shortest decimal that reads back

Of all decimals that round to a given double, `shortest` picks one with the fewest digits, and
of those the nearest.  It tries the grids of one to seventeen digits in turn and looks only at
the two neighbours of the exact value on each grid: if any point of a grid rounds to the double,
so does one of these two.
-/

set_option autoImplicit false

namespace ChatFlow.Decimal

structure Scientific where
  digits : Nat
  exponent : Int
  deriving Repr, DecidableEq

/-- Compares `a.num / a.den` with `b.num / b.den`. -/
def Ratio.compare (a b : Ratio) : Ordering := Ord.compare (a.num * b.den) (b.num * a.den)

def Scientific.ratio (s : Scientific) : Ratio :=
  match s.exponent with
  | .ofNat up => ⟨s.digits * Nat.pow 10 up, 1, Nat.one_pos⟩
  | .negSucc down => ⟨s.digits, Nat.pow 10 (down + 1), Nat.pow_pos (by decide)⟩

/-- The reals that round to a double lie between half a step down and half a step up.  Both ends
belong to it exactly when the mantissa is even. -/
def Binary64.accepts (x : Binary64) (s : Scientific) : Bool :=
  let low := Ratio.scaled (if x.isBoundary then 4 * x.mantissa - 1 else 4 * x.mantissa - 2)
    (x.exponent - 2)
  let high := Ratio.scaled (4 * x.mantissa + 2) (x.exponent - 2)
  let closed := x.mantissa % 2 == 0
  let inside (o : Ordering) : Bool := o == .lt || (closed && o == .eq)
  inside (low.compare s.ratio) && inside (s.ratio.compare high)

/-- The exponent of the leading decimal digit of a positive fraction, found from an estimate by
trying the two candidates above it. -/
def leadingExponent (r : Ratio) : Int :=
  let bits : Int := (Nat.log2 r.num : Int) - Nat.log2 r.den
  let guess : Int := (bits - 1) * 30103 / 100000 - 1
  let atLeast (e : Int) : Bool := (Scientific.ratio ⟨1, e⟩).compare r != .gt
  if atLeast (guess + 3) then guess + 3
  else if atLeast (guess + 2) then guess + 2
  else if atLeast (guess + 1) then guess + 1
  else guess

/-- The grid point at or below the value, on the grid of step `10^exponent`. -/
def Ratio.floorTo (r : Ratio) (exponent : Int) : Nat :=
  match exponent with
  | .ofNat up => r.num / (r.den * Nat.pow 10 up)
  | .negSucc down => r.num * Nat.pow 10 (down + 1) / r.den

/-- Which of two neighbouring grid points is nearer; a tie goes to the even one. -/
def Ratio.nearer (r : Ratio) (below : Nat) (exponent : Int) : Nat :=
  let middle : Ratio := (Scientific.ratio ⟨10 * below + 5, exponent - 1⟩)
  match r.compare middle with
  | .lt => below
  | .gt => below + 1
  | .eq => if below % 2 = 0 then below else below + 1

/-- Tries the grids with `count`, `count + 1`, … digits, at most `tries` of them. -/
def shortestFrom (x : Binary64) (size : Ratio) (lead : Int) :
    (tries : Nat) → (count : Nat) → Scientific
  | 0, count => ⟨size.floorTo (lead - count), lead - count⟩
  | tries + 1, count =>
    let exponent := lead + 1 - count
    let below := size.floorTo exponent
    let fitsBelow := 0 < below && x.accepts ⟨below, exponent⟩
    let fitsAbove := x.accepts ⟨below + 1, exponent⟩
    if fitsBelow && fitsAbove then ⟨size.nearer below exponent, exponent⟩
    else if fitsBelow then ⟨below, exponent⟩
    else if fitsAbove then ⟨below + 1, exponent⟩
    else shortestFrom x size lead tries (count + 1)

/-- Moves trailing zeros of the digits into the exponent, at most `fuel` of them. -/
def Scientific.trim : (fuel : Nat) → Scientific → Scientific
  | 0, s => s
  | fuel + 1, s =>
    if s.digits ≠ 0 && s.digits % 10 = 0 then trim fuel ⟨s.digits / 10, s.exponent + 1⟩ else s

/-- The shortest decimal that reads back as the double; zero is `0 * 10^0`. -/
def shortest (x : Binary64) : Scientific :=
  if x.mantissa = 0 then ⟨0, 0⟩
  else
    let size := x.magnitude
    (shortestFrom x size (leadingExponent size) 17 1).trim 20

end ChatFlow.Decimal
