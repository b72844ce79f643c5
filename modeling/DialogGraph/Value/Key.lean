import DialogGraph.Value.Basic

/-!
# Values as keys

Something may be kept under any value that never changes. Lists and records are no such values.
-/

namespace DialogGraph

inductive KeyFault where
  | list
  | record
  deriving Repr, DecidableEq

def KeyFault.message : KeyFault → String
  | list => "unhashable type: 'list'"
  | record => "unhashable type: 'dict'"

/-- What is wrong with a value as a key, if anything. -/
def Value.keyFault? : Value → Option KeyFault
  | list _ => some .list
  | record _ => some .record
  | _ => none

end DialogGraph
