/-!
# Stretches of time

Time is counted in whole nanoseconds.  A stretch is written in the largest unit that it fills,
with the decimals it needs and no trailing zeros.
-/

set_option autoImplicit false

namespace ChatFlow

structure Elapsed where
  nanoseconds : Nat
  deriving DecidableEq, Repr

namespace Elapsed

def zero : Elapsed := ⟨0⟩

def ofSeconds (n : Nat) : Elapsed := ⟨n * 1000000000⟩

def milliseconds (t : Elapsed) : Nat := t.nanoseconds / 1000000

def plus (a b : Elapsed) : Elapsed := ⟨a.nanoseconds + b.nanoseconds⟩

/-- A count of units with the given number of decimals, less its trailing zeros. -/
def inUnit (nanoseconds places : Nat) (unit : String) : String :=
  let whole := toString (nanoseconds / Nat.pow 10 places)
  let digits := Nat.toDigits 10 (nanoseconds % Nat.pow 10 places)
  let decimals := List.replicate (places - digits.length) '0' ++ digits
  let kept := (decimals.reverse.dropWhile (fun c => c = '0')).reverse
  if kept.isEmpty ∨ places = 0 then whole ++ unit
  else whole ++ "." ++ String.ofList kept ++ unit

/-- The text of a stretch, such as `1.5s`, `250ms`, `1µs` or `0ns`. -/
def text (t : Elapsed) : String :=
  let n := t.nanoseconds
  if 1000000000 ≤ n then inUnit n 9 "s"
  else if 1000000 ≤ n then inUnit n 6 "ms"
  else if 1000 ≤ n then inUnit n 3 "µs"
  else inUnit n 0 "ns"

end Elapsed

end ChatFlow
