/-!
# Binary floating point, exactly

A finite double is `± mantissa * 2 ^ exponent`. Conversions between doubles, integers and ratios
of integers are made on that form in exact arithmetic: the double nearest to a ratio with ties to
the even mantissa, the integer part, the nearest integer with ties to even, the remainder with the
sign of the divisor.
-/

namespace DialogGraph.Number

/-- A finite double: `mantissa * 2 ^ exponent`, negated when `negative`. -/
structure Dyadic where
  negative : Bool
  mantissa : Nat
  exponent : Int
  deriving Repr, DecidableEq

inductive Decoded where
  | nan
  | infinite (negative : Bool)
  | finite (value : Dyadic)
  deriving Repr, DecidableEq

/-- Reads the three fields of a double. -/
def decode (x : Float) : Decoded :=
  let bits : Nat := x.toBits.toNat
  let negative := bits / Nat.pow 2 63 == 1
  let biased : Nat := bits / Nat.pow 2 52 % 2048
  let fraction : Nat := bits % Nat.pow 2 52
  if biased == 2047 then
    if fraction == 0 then .infinite negative else .nan
  else if biased == 0 then .finite ⟨negative, fraction, -1074⟩
  else .finite ⟨negative, Nat.pow 2 52 + fraction, (biased : Int) - 1075⟩

def ofFields (negative : Bool) (rest : Nat) : Float :=
  Float.ofBits (UInt64.ofNat ((if negative then Nat.pow 2 63 else 0) + rest))

def infinity (negative : Bool) : Float :=
  ofFields negative (2047 * Nat.pow 2 52)

def notANumber : Float :=
  ofFields false (2047 * Nat.pow 2 52 + Nat.pow 2 51)

/-- `num / den` rounded to the nearest natural number, a tie going to the even neighbour. -/
def roundDiv (num den : Nat) : Nat :=
  let q := num / den
  let r := num % den
  if 2 * r < den then q
  else if 2 * r = den then q + q % 2
  else q + 1

/-- `mantissa * 2 ^ exponent` as a double, for a mantissa of at most `2 ^ 53` that fills 53 bits
or stands at the least exponent. -/
def ofMantissa (negative : Bool) (mantissa : Nat) (exponent : Int) : Float :=
  let (m, q) :=
    if mantissa = Nat.pow 2 53 then (Nat.pow 2 52, exponent + 1) else (mantissa, exponent)
  if m < Nat.pow 2 52 then ofFields negative m
  else
    let biased := (q + 1075).toNat
    if 2047 ≤ biased then infinity negative
    else ofFields negative (biased * Nat.pow 2 52 + (m - Nat.pow 2 52))

/-- The exponent `e` with `2 ^ e ≤ num / den < 2 ^ (e + 1)`, for positive `num` and `den`. -/
def ratioLog2 (num den : Nat) : Int :=
  let guess : Int := (Nat.log2 num : Int) - (Nat.log2 den : Int)
  if den * Nat.pow 2 guess.toNat ≤ num * Nat.pow 2 (-guess).toNat then guess else guess - 1

/-- The double nearest to `num / den`, a tie going to the even mantissa. -/
def ofRatio (negative : Bool) (num den : Nat) : Float :=
  if num = 0 then ofFields negative 0
  else
    let exponent := max (ratioLog2 num den - 52) (-1074)
    ofMantissa negative
      (roundDiv (num * Nat.pow 2 (-exponent).toNat) (den * Nat.pow 2 exponent.toNat)) exponent

/-- The double nearest to `digits * 10 ^ exponent`. Exponents beyond every double are answered
without forming the power. -/
def ofDecimal (negative : Bool) (digits : Nat) (exponent : Int) : Float :=
  let leading : Int := (Nat.log2 digits : Int) * 30103 / 100000 + exponent
  if digits = 0 || leading < -400 then ofFields negative 0
  else if 400 < leading then infinity negative
  else ofRatio negative (digits * Nat.pow 10 exponent.toNat) (Nat.pow 10 (-exponent).toNat)

/-- The double nearest to an integer, unless it is beyond the largest double. -/
def ofInt? (n : Int) : Option Float :=
  let x := ofRatio (n < 0) n.natAbs 1
  match decode x with
  | .finite _ => some x
  | _ => none

/-- Gives a natural number a sign. -/
def signed (negative : Bool) (n : Nat) : Int :=
  if negative then -(n : Int) else n

def Dyadic.truncate (d : Dyadic) : Int :=
  signed d.negative (d.mantissa * Nat.pow 2 d.exponent.toNat / Nat.pow 2 (-d.exponent).toNat)

/-- The nearest integer of a finite value, a tie going to the even one. -/
def Dyadic.round (d : Dyadic) : Int :=
  signed d.negative
    (roundDiv (d.mantissa * Nat.pow 2 d.exponent.toNat) (Nat.pow 2 (-d.exponent).toNat))

def Dyadic.isIntegral (d : Dyadic) : Bool :=
  d.mantissa * Nat.pow 2 d.exponent.toNat % Nat.pow 2 (-d.exponent).toNat == 0

/-- The integer part of a double, if it is finite. -/
def truncate? (x : Float) : Option Int :=
  match decode x with
  | .finite d => some d.truncate
  | _ => none

/-- The integer that a double is equal to, if it is one. -/
def exactInt? (x : Float) : Option Int :=
  match decode x with
  | .finite d => if d.isIntegral then some d.truncate else none
  | _ => none

/-- The remainder of two finite values, with the sign of the divisor; `none` for a zero divisor.
The remainder with the dividend's sign is exact, one addition rounds. -/
def Dyadic.remainder? (a b : Dyadic) (y : Float) : Option Float :=
  if b.mantissa = 0 then none
  else
    let scale := min a.exponent b.exponent
    let rest := (a.mantissa * Nat.pow 2 (a.exponent - scale).toNat) %
      (b.mantissa * Nat.pow 2 (b.exponent - scale).toNat)
    if rest = 0 then some (ofFields b.negative 0)
    else
      let exact := ofRatio a.negative (rest * Nat.pow 2 scale.toNat) (Nat.pow 2 (-scale).toNat)
      some (if a.negative == b.negative then exact else exact + y)

/-- The remainder with the sign of the divisor; `none` for a zero divisor. -/
def remainder? (x y : Float) : Option Float :=
  match decode x, decode y with
  | .finite a, .finite b => a.remainder? b y
  | _, .finite b => if b.mantissa = 0 then none else some notANumber
  | .finite a, .infinite negative =>
    if a.mantissa = 0 then some (ofFields negative 0)
    else if a.negative == negative then some x
    else some y
  | _, _ => some notANumber

def isZero (x : Float) : Bool :=
  match decode x with
  | .finite d => d.mantissa == 0
  | _ => false

end DialogGraph.Number
