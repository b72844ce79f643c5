import DialogGraph.Text.Lines
import DialogGraph.Value.Text

/-!
# Literals spread over lines

A value is written on one line if it fits. Otherwise a list or record has one item on each line, and
a text is broken behind blanks into several literals, one below the other.
-/

namespace DialogGraph.Program

open DialogGraph.Text

def lineWidth : Nat := 100

/-- A line break, and the blanks up to a column. -/
def breakTo (column : Nat) : String := "\n" ++ String.ofList (List.replicate column ' ')

/-- How many characters the literal of a text takes. -/
def literalWidth (cs : List Char) : Nat := (quoteChars cs).length

/-- Puts words together as long as their literal fits; the last one has its own limit. `done` holds
the chunks found, last first. -/
def packWords (limit lastLimit : Nat) (done : List (List Char)) (chunk : List Char) :
    List (List Char) → List (List Char)
  | [] => (if chunk.isEmpty then done else chunk :: done).reverse
  | word :: rest =>
    let room := if rest.isEmpty then lastLimit else limit
    if literalWidth (chunk ++ word) ≤ room then
      packWords limit lastLimit done (chunk ++ word) rest
    else packWords limit lastLimit (if chunk.isEmpty then done else chunk :: done) word rest

/-- The chunks of the lines of a text: whole lines where they fit. -/
def chunksOf (limit lastLimit : Nat) : List (List Char) → List (List Char)
  | [] => []
  | line :: rest =>
    let room := if rest.isEmpty then lastLimit else limit
    let chunks :=
      if literalWidth line ≤ room then [line]
      else packWords limit room [] [] (words line)
    chunks ++ chunksOf limit lastLimit rest

/-- A text broken into literals that stand below each other in a column. On the last line `after`
characters follow. -/
def spreadText (column after : Nat) (s : String) : String :=
  let limit := lineWidth - column
  match chunksOf limit (limit - after) (lines s.toList) with
  | [] => quote s
  | chunks => (breakTo column).intercalate
      (chunks.map fun chunk => String.ofList (quoteChars chunk))

mutual

/-- A value written from a column on. On its last line `after` characters follow. -/
def spread (column after : Nat) (value : Value) : Except TextFault String := do
  let line ← value.quoted
  if column + after + line.length ≤ lineWidth then return line
  match value with
  | .text s => return spreadText column after s
  | .list items => do
    let parts ← spreadItems (column + 1) (after + 1) items
    return "[" ++ ("," ++ breakTo (column + 1)).intercalate parts ++ "]"
  | .record fields => do
    let parts ← spreadFields (column + 1) (after + 1) fields
    return openBrace ++ ("," ++ breakTo (column + 1)).intercalate parts ++ closeBrace
  | _ => return line

/-- The items of a list, each on its own line; behind all but the last stands a comma. -/
def spreadItems (column after : Nat) : List Value → Except TextFault (List String)
  | [] => .ok []
  | item :: rest => do
    let first ← spread column (if rest.isEmpty then after else 1) item
    let others ← spreadItems column after rest
    return first :: others

/-- The fields of a record, each on its own line. -/
def spreadFields (column after : Nat) : List (String × Value) → Except TextFault (List String)
  | [] => .ok []
  | (key, value) :: rest => do
    let name := quote key
    let first ← spread (column + name.length + 2) (if rest.isEmpty then after else 1) value
    let others ← spreadFields column after rest
    return (name ++ ": " ++ first) :: others

end

end DialogGraph.Program
