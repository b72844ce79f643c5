import DialogGraph.Assoc
import DialogGraph.Number.Binary64
import DialogGraph.Value.Basic

/-!
# Equality of values

Numbers are equal when they have the same value, whatever their sort; a truth value counts as 0 or
1. Records are equal when they have the same fields, in any order. Doubles that are no numbers are
equal when they are the same one.
-/

namespace DialogGraph

open DialogGraph.Number

namespace Value

/-- A value with truth values as integers. -/
def numeric : Value → Value
  | bool b => int (if b then 1 else 0)
  | value => value

/-- Equality of values that are neither lists nor records. -/
def equalScalars (a b : Value) : Bool :=
  match a.numeric, b.numeric with
  | null, null => true
  | int m, int n => m == n
  | int m, real y => exactInt? y.value == some m
  | real x, int n => exactInt? x.value == some n
  | real x, real y => x.same y
  | text s, text t => s == t
  | _, _ => false

mutual

def equal : Value → Value → Bool
  | list items, list others => equalItems items others
  | record fields, record others => fields.length == others.length && equalFields fields others
  | a, b => equalScalars a b

def equalItems : List Value → List Value → Bool
  | [], [] => true
  | item :: rest, other :: others => equal item other && equalItems rest others
  | _, _ => false

/-- Whether each field has an equal field of the same name among the others. -/
def equalFields : List (String × Value) → List (String × Value) → Bool
  | [], _ => true
  | (name, value) :: rest, others =>
    (match Assoc.get? others name with
      | some other => equal value other
      | none => false) && equalFields rest others

end

end Value

end DialogGraph
