import DialogGraph.Number.Binary64
import DialogGraph.Number.Digits

/-!
# A fixed number of decimal places

The exact value of a double is rounded to the wanted number of places, a tie going to the even
neighbour.
-/

namespace DialogGraph.Number

/-- A natural number of units `10 ^ -places` with its decimal point. -/
def placeText (places units : Nat) : String :=
  let text := padded (places + 1) units
  let whole := text.length - places
  String.ofList (text.toList.take whole) ++ "." ++ String.ofList (text.toList.drop whole)

def fixedText (places : Nat) (x : Float) : String :=
  match decode x with
  | .nan => "nan"
  | .infinite negative => if negative then "-inf" else "inf"
  | .finite d =>
    let units := roundDiv (d.mantissa * Nat.pow 2 d.exponent.toNat * Nat.pow 10 places)
      (Nat.pow 2 (-d.exponent).toNat)
    (if d.negative then "-" else "") ++ placeText places units

end DialogGraph.Number
