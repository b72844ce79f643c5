import DialogGraph.Assoc
import DialogGraph.Block.Numeral
import DialogGraph.Block.Option
import DialogGraph.Value.Basic

/-!
# Reading settings

How a value is read as a setting of a given type, and what is wrong with it otherwise. Reading is
generous: numbers may be written as texts, truth values as numbers or words.
-/

namespace DialogGraph

open DialogGraph.Number DialogGraph.Text

/-- What is wrong with a value as a setting. -/
inductive Problem where
  | notText
  | notInteger
  | unreadableInteger
  | fractionalInteger
  | infiniteInteger
  | oversizedInteger
  | notReal
  | unreadableReal
  | notTruth
  | unreadableTruth
  /-- Not one of the options with these tags. -/
  | notAnOption (tags : List String)
  | notAList
  /-- Not a row of the named type. -/
  | notARow (row : String)
  deriving Repr, DecidableEq

/-- Tags in quotes, the last two joined by "or". -/
def alternatives : List String → String
  | [] => ""
  | [tag] => "'" ++ tag ++ "'"
  | [first, second] => "'" ++ first ++ "' or '" ++ second ++ "'"
  | tag :: rest => "'" ++ tag ++ "', " ++ alternatives rest

def Problem.message : Problem → String
  | notText => "Input should be a valid string"
  | notInteger => "Input should be a valid integer"
  | unreadableInteger =>
    "Input should be a valid integer, unable to parse string as an integer"
  | fractionalInteger =>
    "Input should be a valid integer, got a number with a fractional part"
  | infiniteInteger => "Input should be a finite number"
  | oversizedInteger => "Unable to parse input string as an integer, exceeded maximum size"
  | notReal => "Input should be a valid number"
  | unreadableReal => "Input should be a valid number, unable to parse string as a number"
  | notTruth => "Input should be a valid boolean"
  | unreadableTruth => "Input should be a valid boolean, unable to interpret input"
  | notAnOption tags => "Input should be " ++ alternatives tags
  | notAList => "Input should be a valid list"
  | notARow row => "Input should be a valid dictionary or instance of " ++ row

namespace Setting

def text : Value → Except Problem String
  | .text s => .ok s
  | _ => .error .notText

/-- Reads an integer written as a text. -/
def integerOfText (s : String) : Except Problem Int :=
  match Numeral.readInteger s with
  | .integer n => .ok n
  | .tooLong => .error .oversizedInteger
  | .unreadable => .error .unreadableInteger

/-- Reads an integer given as a double: it must be integral and fit 64 bits. -/
def integerOfReal (x : Float) : Except Problem Int :=
  match decode x with
  | .finite d =>
    if !d.isIntegral then .error .fractionalInteger
    else if d.truncate.natAbs < Nat.pow 2 63 then .ok d.truncate
    else .error .oversizedInteger
  | _ => .error .infiniteInteger

def integer : Value → Except Problem Int
  | .int n => .ok n
  | .bool b => .ok (if b then 1 else 0)
  | .real x => integerOfReal x.value
  | .text s => integerOfText s
  | _ => .error .notInteger

def real : Value → Except Problem Double
  | .real x => .ok x
  | .bool b => .ok (if b then 1 else 0 : Float)
  | .int n =>
    match ofInt? n with
    | some x => .ok x
    | none => .error .notReal
  | .text s =>
    match Numeral.readReal? s with
    | some x => .ok x
    | none => .error .unreadableReal
  | _ => .error .notReal

def trueWords : List String := ["1", "on", "t", "true", "y", "yes"]

def falseWords : List String := ["0", "off", "f", "false", "n", "no"]

/-- Reads a truth value given as an integer: it must fit 64 bits to be looked at. -/
def truthOfInteger (n : Int) : Except Problem Bool :=
  if n = 0 then .ok false
  else if n = 1 then .ok true
  else if -(Nat.pow 2 63 : Int) ≤ n && n < (Nat.pow 2 63 : Int) then .error .unreadableTruth
  else .error .notTruth

/-- Reads a truth value. A double is one only where it is an integer. -/
def truth : Value → Except Problem Bool
  | .bool b => .ok b
  | .int n => truthOfInteger n
  | .real x =>
    match integerOfReal x.value with
    | .ok n => truthOfInteger n
    | .error _ => .error .notTruth
  | .text s =>
    let word := String.ofList (s.toList.map Char.toLower)
    if trueWords.contains word then .ok true
    else if falseWords.contains word then .ok false
    else .error .unreadableTruth
  | _ => .error .notTruth

def option (α : Type) [Tagged α] (value : Value) : Except Problem α :=
  let found : Option α := match value with
    | .text s => Tagged.ofTag? s
    | _ => none
  match found with
  | some chosen => .ok chosen
  | none => .error (.notAnOption (Tagged.tags α))

def list {α : Type} (item : Value → Except Problem α) : Value → Except Problem (List α)
  | .list items => items.mapM item
  | _ => .error .notAList

end Setting

end DialogGraph
