import DialogGraph.Number.Reading
import DialogGraph.Value.Basic

/-!
# Quantities

How a value is taken as a number. What has no reading as a number gives way to a default; only an
integer beyond the range of doubles is a fault where a double is wanted.
-/

namespace DialogGraph

open DialogGraph.Number

/-- An integer beyond the range of doubles. -/
inductive RangeFault where
  | tooLarge
  deriving Repr, DecidableEq

def RangeFault.message : RangeFault → String
  | tooLarge => "int too large to convert to float"

namespace Value

/-- A value as a double; `none` if it has no reading as a number. -/
def asReal? : Value → Except RangeFault (Option Float)
  | .bool b => .ok (some (if b then 1 else 0))
  | .int n =>
    match ofInt? n with
    | some x => .ok (some x)
    | none => .error .tooLarge
  | .real x => .ok (some x.value)
  | .text s => .ok (readReal? s)
  | _ => .ok none

/-- A value as an integer, its fraction cut off; the default if it has no such reading. -/
def wholeOr (default : Int) (value : Value) : Int :=
  match value.asReal? with
  | .ok (some x) => (truncate? x).getD default
  | _ => default

/-- A value as a double; the default if it has no reading as a number. -/
def realOr (default : Float) (value : Value) : Except RangeFault Float :=
  value.asReal?.map fun found => found.getD default

end Value

/-- The nearest integer of a positive finite double, a tie going to the even one; 0 for any other
double. -/
def positiveRounded (x : Float) : Nat :=
  match decode x with
  | .finite d => if d.negative then 0 else d.round.natAbs
  | _ => 0

/-- An amount of money in hundredths of its unit: a non-negative integer, 0 unless the amount reads
as a positive number. -/
def minorUnits (amount : Value) : Except RangeFault Nat := do
  let value ← amount.realOr 0
  return positiveRounded (value * 100)

end DialogGraph
