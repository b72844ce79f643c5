import DialogGraph.Value.Text

/-!
# Writing JSON

A value is written on one line or, with an indent, one item a line. Numbers that JSON has no form
for are written as `NaN`, `Infinity` and `-Infinity`.
-/

namespace DialogGraph.Json

open DialogGraph.Number DialogGraph.Text

/-- How a value is laid out. -/
structure Style where
  /-- What one level is indented by; without it everything stands on one line. -/
  indent : Option String
  /-- Whether characters above ASCII are escaped. -/
  escapeUnicode : Bool
  /-- Whether the names of an object are sorted. -/
  sortNames : Bool
  /-- What stands between two items. -/
  itemSeparator : String
  /-- What stands between a name and its value. -/
  nameSeparator : String

/-- A unit of sixteen bits as an escape. -/
def unitEscape (n : Nat) : List Char := '\\' :: 'u' :: hexDigits 4 n

def escapeChar (escapeUnicode : Bool) (c : Char) : List Char :=
  let n := c.toNat
  if c == doubleQuote || c == '\\' then ['\\', c]
  else if n == 10 then ['\\', 'n']
  else if n == 13 then ['\\', 'r']
  else if n == 9 then ['\\', 't']
  else if n == 8 then ['\\', 'b']
  else if n == 12 then ['\\', 'f']
  else if n < 32 then unitEscape n
  else if escapeUnicode && 127 ≤ n then
    if n < 0x10000 then unitEscape n
    else
      unitEscape (0xD800 + (n - 0x10000) / 0x400) ++ unitEscape (0xDC00 + (n - 0x10000) % 0x400)
  else [c]

def textLiteral (escapeUnicode : Bool) (s : String) : String :=
  String.ofList (doubleQuote :: (s.toList.flatMap (escapeChar escapeUnicode) ++ [doubleQuote]))

/-- Doubles are written as plain texts are, apart from the values that are no numbers. -/
def realLayout : Layout := { plainLayout with notANumber := "NaN", infinite := "Infinity" }

def sortFields (fields : List (String × String)) : List (String × String) :=
  fields.mergeSort fun a b => a.1 ≤ b.1

/-- Lays out the written items of a container at nesting `level`. -/
def Style.container (style : Style) (level : Nat) (opening closing : String)
    (items : List String) : String :=
  if items.isEmpty then opening ++ closing
  else match style.indent with
    | none => opening ++ style.itemSeparator.intercalate items ++ closing
    | some indent =>
      let newline (depth : Nat) := "\n" ++ String.join (List.replicate depth indent)
      opening ++ newline (level + 1) ++
        (style.itemSeparator ++ newline (level + 1)).intercalate items ++ newline level ++ closing

mutual

def write (style : Style) (level : Nat) : Value → Except TextFault String
  | .null => .ok "null"
  | .bool true => .ok "true"
  | .bool false => .ok "false"
  | .int n => integerText n
  | .real x => .ok (realLayout.text x.value)
  | .text s => .ok (textLiteral style.escapeUnicode s)
  | .list items => do
    let written ← writeItems style (level + 1) items
    return style.container level "[" "]" written
  | .record fields => do
    let written ← writeFields style (level + 1) fields
    let sorted := if style.sortNames then sortFields written else written
    return style.container level openBrace closeBrace (sorted.map fun field =>
      textLiteral style.escapeUnicode field.1 ++ style.nameSeparator ++ field.2)

def writeItems (style : Style) (level : Nat) : List Value → Except TextFault (List String)
  | [] => .ok []
  | item :: rest => do
    let first ← write style level item
    let others ← writeItems style level rest
    return first :: others

def writeFields (style : Style) (level : Nat) :
    List (String × Value) → Except TextFault (List (String × String))
  | [] => .ok []
  | (name, value) :: rest => do
    let first ← write style level value
    let others ← writeFields style level rest
    return (name, first) :: others

end

/-- A style on one line, with a blank after each comma and colon. -/
def inlineStyle : Style where
  indent := none
  escapeUnicode := true
  sortNames := false
  itemSeparator := ", "
  nameSeparator := ": "

end DialogGraph.Json
