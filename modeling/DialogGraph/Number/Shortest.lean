import DialogGraph.Number.Binary64
import DialogGraph.Number.Digits

/-!
# The shortest text of a double

A double is written with the fewest digits that are nearer to it than to any other double, and
among those with the digits nearest to its exact value. The layout is a separate decision: which
magnitudes are written positionally, and what an exponent looks like.
-/

namespace DialogGraph.Number

/-- A positive decimal value `digits * 10 ^ exponent`. -/
structure Decimal where
  digits : Nat
  exponent : Int
  deriving Repr, DecidableEq

/-- `digits * 10 ^ exponent` against `mantissa * 2 ^ power`. -/
def compareScaled (digits : Nat) (exponent : Int) (mantissa : Nat) (power : Int) : Ordering :=
  compare (digits * Nat.pow 10 exponent.toNat * Nat.pow 2 (-power).toNat)
    (mantissa * Nat.pow 2 power.toNat * Nat.pow 10 (-exponent).toNat)

/-- Whether a decimal lies among the reals that round to the positive value
`mantissa * 2 ^ exponent`. The interval reaches halfway to either neighbour, its ends included
when the mantissa is even; below a power of two the lower neighbour is half as far away. -/
def readsBack (mantissa : Nat) (exponent : Int) (d : Decimal) : Bool :=
  let narrow := mantissa == Nat.pow 2 52 && exponent != -1074
  let low := if narrow then 4 * mantissa - 1 else 4 * mantissa - 2
  let high := 4 * mantissa + 2
  let closed := mantissa % 2 == 0
  let below := compareScaled d.digits d.exponent low (exponent - 2)
  let above := compareScaled d.digits d.exponent high (exponent - 2)
  (below == .gt || (closed && below == .eq)) && (above == .lt || (closed && above == .eq))

/-- The least `k` from the list with `mantissa * 2 ^ exponent < 10 ^ k`. -/
def leastScale (mantissa : Nat) (exponent : Int) : Int :=
  let guess := ((Nat.log2 mantissa : Int) + exponent) * 3 / 10 - 2
  ((List.range 40).map fun (i : Nat) => guess + (i : Int)).find? (fun k =>
    compareScaled 1 k mantissa exponent == .gt) |>.getD guess

/-- The better neighbour of the value on the grid of step `10 ^ grid`, if one of the two reads
back. -/
def onGrid (mantissa : Nat) (exponent grid : Int) : Option Decimal :=
  let num := mantissa * Nat.pow 2 exponent.toNat * Nat.pow 10 (-grid).toNat
  let den := Nat.pow 2 (-exponent).toNat * Nat.pow 10 grid.toNat
  let lower : Decimal := ⟨num / den, grid⟩
  let upper : Decimal := ⟨num / den + 1, grid⟩
  let lowerFits := lower.digits != 0 && readsBack mantissa exponent lower
  let upperFits := readsBack mantissa exponent upper
  if lowerFits && upperFits then
    some (if roundDiv num den = lower.digits then lower else upper)
  else if lowerFits then some lower
  else if upperFits then some upper
  else none

/-- Drops trailing zeros, at most `fuel` of them. -/
def Decimal.strip : Nat → Decimal → Decimal
  | 0, d => d
  | fuel + 1, d =>
    if d.digits % 10 = 0 && d.digits != 0 then Decimal.strip fuel ⟨d.digits / 10, d.exponent + 1⟩
    else d

/-- The shortest decimal that reads back to the positive value `mantissa * 2 ^ exponent`. Should
no grid of at most seventeen digits hold one, the exact value is taken. -/
def shortest (mantissa : Nat) (exponent : Int) : Decimal :=
  let scale := leastScale mantissa exponent
  let found := ((List.range 17).map fun (n : Nat) => scale - (n : Int) - 1).findSome? fun grid =>
    onGrid mantissa exponent grid
  let exact : Decimal :=
    ⟨mantissa * Nat.pow 2 exponent.toNat * Nat.pow 5 (-exponent).toNat, min exponent 0⟩
  Decimal.strip 30 (found.getD exact)

structure Layout where
  /-- Least exponent of the leading digit that is written positionally. -/
  positionalFrom : Int
  /-- Least exponent of the leading digit that is no longer written positionally. -/
  positionalBelow : Int
  /-- Fewest digits of an exponent. -/
  exponentWidth : Nat
  notANumber : String
  infinite : String

/-- A decimal under a layout: an integral value keeps one zero behind the point, an exponent has
its sign. -/
def Layout.decimal (layout : Layout) (d : Decimal) : String :=
  let text := natText d.digits
  let count := text.length
  let leading : Int := d.exponent + (count : Int) - 1
  if layout.positionalFrom ≤ leading && leading < layout.positionalBelow then
    if 0 ≤ d.exponent then text ++ zeros d.exponent.toNat ++ ".0"
    else if 0 ≤ leading then
      let whole := leading.toNat + 1
      String.ofList (text.toList.take whole) ++ "." ++ String.ofList (text.toList.drop whole)
    else "0." ++ zeros ((-leading).toNat - 1) ++ text
  else
    let first := String.ofList (text.toList.take 1)
    let rest := text.toList.drop 1
    let fraction := if rest.isEmpty then "" else "." ++ String.ofList rest
    let sign := if leading < 0 then "-" else "+"
    first ++ fraction ++ "e" ++ sign ++ padded layout.exponentWidth leading.natAbs

def Layout.text (layout : Layout) (x : Float) : String :=
  match decode x with
  | .nan => layout.notANumber
  | .infinite negative => (if negative then "-" else "") ++ layout.infinite
  | .finite d =>
    (if d.negative then "-" else "") ++
      if d.mantissa = 0 then "0.0" else layout.decimal (shortest d.mantissa d.exponent)

/-- Numbers are written positionally from `0.0001` up to sixteen places before the point, otherwise
with a signed exponent of at least two digits. -/
def plainLayout : Layout where
  positionalFrom := -4
  positionalBelow := 16
  exponentWidth := 2
  notANumber := "nan"
  infinite := "inf"

def realText (x : Float) : String := plainLayout.text x

end DialogGraph.Number
