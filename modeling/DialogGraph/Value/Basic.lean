import DialogGraph.Value.Double

/-!
# Values

The values that variables, settings and saved flows are made of. A record keeps its fields in the
order in which they were first written; a field written again keeps its place.
-/

namespace DialogGraph

inductive Value where
  | null
  | bool (b : Bool)
  | int (n : Int)
  | real (x : Double)
  | text (s : String)
  | list (items : List Value)
  | record (fields : List (String × Value))
  deriving Inhabited

namespace Value

/-- Whether a value counts as present: not null, false, zero or empty. -/
def isTruthy : Value → Bool
  | null => false
  | bool b => b
  | int n => n != 0
  | real x => x.value != 0
  | text s => !s.isEmpty
  | list items => !items.isEmpty
  | record fields => !fields.isEmpty

def isText : Value → Bool
  | text _ => true
  | _ => false

mutual

/-- Marks the new doubles in a value. -/
def mark (n : Nat) : Value → Value
  | real x => real (x.mark n)
  | list items => list (markItems n items)
  | record fields => record (markFields n fields)
  | value => value

def markItems (n : Nat) : List Value → List Value
  | [] => []
  | item :: rest => mark n item :: markItems n rest

def markFields (n : Nat) : List (String × Value) → List (String × Value)
  | [] => []
  | (name, value) :: rest => (name, mark n value) :: markFields n rest

end

end Value

/-- Named values in the order in which the names were first bound. -/
abbrev Fields := List (String × Value)

end DialogGraph
