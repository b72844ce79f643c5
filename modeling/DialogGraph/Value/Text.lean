import DialogGraph.Value.Basic
import DialogGraph.Number.Shortest
import DialogGraph.Number.Reading
import DialogGraph.Text.Quoted

/-!
# The text of a value

A value is shown in two ways. Inside a list or record, and wherever a fault names it, texts are
quoted; a text on its own is shown as it is. Everything else reads the same both ways. An integer
of more than 4300 digits has no text.
-/

namespace DialogGraph

open DialogGraph.Number DialogGraph.Text

/-- Why a value has no text. -/
inductive TextFault where
  /-- An integer beyond the digit limit. -/
  | tooManyDigits
  deriving Repr, DecidableEq

def TextFault.message : TextFault → String
  | .tooManyDigits =>
    "Exceeds the limit (4300 digits) for integer string conversion; " ++
      "use sys.set_int_max_str_digits() to increase the limit"

-- Kept closed in proofs: the bound is a number of thousands of digits.
/-- The text of an integer within the digit limit. -/
@[irreducible]
def integerText (n : Int) : Except TextFault String :=
  if Nat.pow 10 digitLimit ≤ n.natAbs then .error .tooManyDigits else .ok (intText n)

def openBrace : String := "\x7b"

def closeBrace : String := "\x7d"

namespace Value

mutual

/-- A value as it stands inside a list or record. -/
def quoted : Value → Except TextFault String
  | null => .ok "None"
  | bool true => .ok "True"
  | bool false => .ok "False"
  | int n => integerText n
  | real x => .ok (realText x.value)
  | text s => .ok (quote s)
  | list items => do
    let parts ← quotedItems items
    return "[" ++ ", ".intercalate parts ++ "]"
  | record fields => do
    let parts ← quotedFields fields
    return openBrace ++ ", ".intercalate parts ++ closeBrace

/-- The items of a list, each as it stands inside. -/
def quotedItems : List Value → Except TextFault (List String)
  | [] => .ok []
  | item :: rest => do
    let first ← quoted item
    let others ← quotedItems rest
    return first :: others

/-- The fields of a record, each with its quoted name. -/
def quotedFields : List (String × Value) → Except TextFault (List String)
  | [] => .ok []
  | (key, value) :: rest => do
    let first ← quoted value
    let others ← quotedFields rest
    return (quote key ++ ": " ++ first) :: others

end

/-- A value on its own. -/
def display : Value → Except TextFault String
  | text s => .ok s
  | value => value.quoted

end Value

end DialogGraph
