/-!
# Doubles as they are kept

A double that is no number equals none, itself included. What is kept has to be recognised all the
same, so a kept double knows where it came from: two that are no numbers are the same when they have
the same origin. Of any other double the origin says nothing.
-/

namespace DialogGraph

inductive Origin where
  /-- Written as no number in a JSON text; all of these are one and the same. -/
  | literal
  /-- Newly made, and not told apart from other new ones yet. -/
  | fresh
  /-- Told apart by a mark. -/
  | marked (mark : Nat)
  deriving Repr, DecidableEq

/-- A double as it is kept. -/
structure Double where
  value : Float
  origin : Origin := .fresh
  deriving Inhabited

/-- A double that was computed or read is a new one. -/
instance : Coe Float Double := ⟨fun x => ⟨x, .fresh⟩⟩

namespace Double

/-- Whether two doubles are the same: equal as numbers, or no numbers of one origin. -/
def same (x y : Double) : Bool :=
  x.value == y.value || (x.value.isNaN && y.value.isNaN && x.origin == y.origin)

/-- Marks a double that is new. -/
def mark (mark : Nat) (x : Double) : Double :=
  match x.origin with
  | .fresh => { x with origin := .marked mark }
  | _ => x

end Double

end DialogGraph
