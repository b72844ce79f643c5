import DialogGraph.Block.Option
import DialogGraph.Text.Blank
import DialogGraph.Value.Text

/-!
# Conditions

Values are compared by their texts, null counting as the empty text.
-/

namespace DialogGraph

open DialogGraph.Text

/-- The text by which a value is compared. -/
def Value.comparand : Value → Except TextFault String
  | .null => .ok ""
  | value => value.display

/-- Whether `part` occurs somewhere in a row of characters. -/
def occursIn (part : List Char) : List Char → Bool
  | [] => part.isEmpty
  | c :: rest => part.isPrefixOf (c :: rest) || occursIn part rest

/-- Whether a comparison holds of two texts. -/
def Comparison.holds : Comparison → String → String → Bool
  | .equals, actual, expected => actual == expected
  | .notEquals, actual, expected => actual != expected
  | .contains, actual, expected => occursIn expected.toList actual.toList
  | .notEmpty, actual, _ => !allBlank actual

/-- Compares two values; an unknown comparison never holds. -/
def compareValues (comparison : Option Comparison) (actual expected : Value) :
    Except TextFault Bool := do
  let actual ← actual.comparand
  let expected ← expected.comparand
  return match comparison with
    | some comparison => comparison.holds actual expected
    | none => false

end DialogGraph
