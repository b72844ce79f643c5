/-!
# Comma-separated values

Rows are lines, fields stand between commas. A quote opens a quoted field only at the start of a
field; inside it two quotes stand for one, and commas and line breaks are text. What follows a
closing quote up to the next comma is appended to the field. A carriage return ends a row, and only
further line breaks may follow it. A quoted field that is not closed runs to the end.
-/

namespace DialogGraph.Csv

/-- Why a text has no rows. -/
inductive Fault where
  /-- Text follows a carriage return. -/
  | bareReturn
  /-- A field holds more characters than the limit. -/
  | oversizedField
  deriving Repr, DecidableEq

/-- The most characters a field may hold. -/
def fieldLimit : Nat := 131072

def Fault.message : Fault → String
  | .bareReturn =>
    "new-line character seen in unquoted field - " ++
      "do you need to open the file in universal-newline mode?"
  | .oversizedField => "field larger than field limit (131072)"

/-- Where in a row the reader stands. -/
inductive Place where
  | rowStart
  | fieldStart
  | inField
  | inQuotes
  /-- Behind a quote inside a quoted field. -/
  | behindQuote
  /-- Behind the end of a row, where only line breaks may follow. -/
  | rowEnd
  deriving Repr, DecidableEq

/-- The reader's state: its place, the current field with its length, the fields of the current row
and the finished rows. Fields, rows and characters are held last first. -/
structure State where
  place : Place
  field : List Char
  size : Nat
  row : List String
  rows : List (List String)

namespace State

def initial : State := ⟨.rowStart, [], 0, [], []⟩

def put (s : State) (c : Char) (place : Place) : Except Fault State :=
  if fieldLimit ≤ s.size then .error .oversizedField
  else .ok { s with place := place, field := c :: s.field, size := s.size + 1 }

def endField (s : State) (place : Place) : State :=
  { s with place := place, field := [], size := 0, row := String.ofList s.field.reverse :: s.row }

def endRow (s : State) : State :=
  { s with place := .rowStart, row := [], rows := s.row.reverse :: s.rows }

def startField (s : State) (c : Char) : Except Fault State :=
  if c == '\n' || c == '\r' then .ok (s.endField .rowEnd)
  else if c.toNat == 34 then .ok { s with place := .inQuotes }
  else if c == ',' then .ok (s.endField .fieldStart)
  else s.put c .inField

def read (s : State) (c : Char) : Except Fault State :=
  match s.place with
  | .rowStart =>
    if c == '\n' || c == '\r' then .ok { s with place := .rowEnd } else s.startField c
  | .fieldStart => s.startField c
  | .inField =>
    if c == '\n' || c == '\r' then .ok (s.endField .rowEnd)
    else if c == ',' then .ok (s.endField .fieldStart)
    else s.put c .inField
  | .inQuotes =>
    if c.toNat == 34 then .ok { s with place := .behindQuote } else s.put c .inQuotes
  | .behindQuote =>
    if c.toNat == 34 then s.put c .inQuotes
    else if c == ',' then .ok (s.endField .fieldStart)
    else if c == '\n' || c == '\r' then .ok (s.endField .rowEnd)
    else s.put c .inField
  | .rowEnd =>
    if c == '\n' || c == '\r' then .ok s else .error .bareReturn

/-- The end of a line: it ends the row, except inside quotes. -/
def endLine (s : State) : State :=
  match s.place with
  | .rowStart | .rowEnd => s.endRow
  | .fieldStart | .inField | .behindQuote => (s.endField .rowStart).endRow
  | .inQuotes => s

/-- Reads all characters; a line feed is followed by the end of its line. `open?` says whether a
line has begun. -/
def readAll (s : State) (open? : Bool) : List Char → Except Fault State
  | [] => .ok (if open? then s.endLine else s)
  | c :: rest =>
    match s.read c with
    | .error fault => .error fault
    | .ok s => if c == '\n' then readAll s.endLine false rest else readAll s true rest

/-- The rows read, an unclosed quoted field included. -/
def finish (s : State) : List (List String) :=
  match s.place with
  | .inQuotes => ((s.endField .rowStart).endRow).rows.reverse
  | _ => s.rows.reverse

end State

def rows (s : String) : Except Fault (List (List String)) :=
  (State.initial.readAll false s.toList).map State.finish

end DialogGraph.Csv
