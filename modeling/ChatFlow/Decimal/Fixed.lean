import ChatFlow.Decimal.Binary64

/-!
# A fixed number of decimals

`fixed places x` writes the exact value of `x` with the given number of decimals.  Ties of the
exact value go to the even neighbour; the sign of a negative number stays even when all digits
are zero.
-/

set_option autoImplicit false

namespace ChatFlow.Decimal

/-- Decimal digits padded with zeros on the left to at least `width` digits. -/
def padded (width : Nat) (n : Nat) : String :=
  let digits := Nat.toDigits 10 n
  String.ofList (List.replicate (width - digits.length) '0' ++ digits)

/-- The text of a float with exactly `places` decimals. -/
def fixed (places : Nat) (x : Float) : String :=
  match Float64.ofFloat x with
  | .nan => "NaN"
  | .infinite negative => if negative then "-inf" else "inf"
  | .finite value =>
    let size := value.magnitude
    let scaled : Ratio := ⟨size.num * Nat.pow 10 places, size.den, size.den_pos⟩
    let rounded := scaled.roundHalfEven
    let whole := toString (rounded / Nat.pow 10 places)
    let sign := if value.negative then "-" else ""
    if places = 0 then sign ++ whole
    else sign ++ whole ++ "." ++ padded places (rounded % Nat.pow 10 places)

end ChatFlow.Decimal
