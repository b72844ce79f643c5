import DialogGraph.Assoc
import DialogGraph.Number.Reading
import DialogGraph.Text.Hexadecimal
import DialogGraph.Value.Basic

/-!
# Reading literals

How a program that is made from a bot understands the literals in it. They are read character by
character: first the characters are put together to words and texts, then these to lists and
records. Brackets may enclose line ends, texts that stand next to each other are one text, and a
name that is no constant is no literal.

Of the literals that a program may hold these are read: the constants for null, true and false,
decimal numbers with an optional sign, texts between single or double quotes, lists, and records
whose names are texts. Everything else reads as nothing.
-/

namespace DialogGraph.Literal

open DialogGraph.Number DialogGraph.Text

/-! ### Words -/

/-- Whether digits may be an integer. There is a limit to their number, and a zero may only come
first if nothing but zeros follows. -/
def isInteger (digits : List Nat) : Bool :=
  !digits.isEmpty && decide (digits.length ≤ digitLimit) &&
    (digits.head? != some 0 || digits.all (· == 0))

/-- A number without its sign: digits alone are an integer, anything else is a real. -/
def unsigned? (negative : Bool) (symbols : List Symbol) : Option Value :=
  let (digits, after) := takeDigits symbols
  if after.isEmpty then
    if isInteger digits then some (.int (signed negative (digitsValue digits))) else none
  else (magnitude? negative symbols).map fun x => .real ⟨x, .fresh⟩

def number? (cs : List Char) : Option Value :=
  let (negative, symbols) := takeSign (symbols decimalDigit? cs)
  unsigned? negative symbols

/-- The constant or number that a word is. -/
def wordValue? (cs : List Char) : Option Value :=
  if cs = "None".toList then some .null
  else if cs = "True".toList then some (.bool true)
  else if cs = "False".toList then some (.bool false)
  else number? cs

def isWordChar (c : Char) : Bool := c.isAlphanum || c == '_' || c == '.' || c == '+' || c == '-'

/-! ### Lists and records -/

/-- A list or record that is not closed yet, with its items or fields, last first. -/
inductive Frame where
  | list (items : List Value)
  | record (fields : Fields)
  /-- A record whose next field has been named. -/
  | field (fields : Fields) (name : String)

/-- What may come next. -/
inductive Stage where
  /-- A value has to come. -/
  | value
  /-- An item or field may come, or the bracket closes. -/
  | item
  /-- A value has come. -/
  | after (value : Value)
  /-- The line of the whole literal has ended. -/
  | done (value : Value)

/-- How far a literal has been read: the lists and records around, innermost first, and what may
come next. -/
structure Place where
  frames : List Frame
  stage : Stage

namespace Place

/-- Puts a constant, number or text where a value may come. A text also goes on with a text. -/
def put (value : Value) (place : Place) : Option Place :=
  match place.stage, value with
  | .value, value | .item, value => some { place with stage := .after value }
  | .after (.text s), .text t => some { place with stage := .after (.text (s ++ t)) }
  | _, _ => none

/-- Opens a list or record where a value may come. -/
def enter (frame : Frame) (place : Place) : Option Place :=
  match place.stage with
  | .value | .item => some ⟨frame :: place.frames, .item⟩
  | _ => none

/-- Behind an item or field the next one may come. -/
def next : Place → Option Place
  | ⟨.list items :: frames, .after value⟩ => some ⟨.list (value :: items) :: frames, .item⟩
  | ⟨.field fields name :: frames, .after value⟩ =>
    some ⟨.record ((name, value) :: fields) :: frames, .item⟩
  | _ => none

/-- A text at the beginning of a field is its name. -/
def name : Place → Option Place
  | ⟨.record fields :: frames, .after (.text name)⟩ => some ⟨.field fields name :: frames, .value⟩
  | _ => none

/-- What is before a closing bracket counts as if a comma stood between them. -/
def settle (place : Place) : Option Place :=
  match place.stage with
  | .after _ => place.next
  | _ => some place

def closeList (place : Place) : Option Place :=
  match place.settle with
  | some ⟨.list items :: frames, .item⟩ => some ⟨frames, .after (.list items.reverse)⟩
  | _ => none

/-- Closes a record. A field that was named twice has the later value. -/
def closeRecord (place : Place) : Option Place :=
  match place.settle with
  | some ⟨.record fields :: frames, .item⟩ =>
    some ⟨frames, .after (.record (Assoc.ofList fields.reverse))⟩
  | _ => none

/-- Ends a line, and with it a literal that is not inside of brackets. -/
def endLine : Place → Option Place
  | ⟨[], .after value⟩ => some ⟨[], .done value⟩
  | ⟨[], _⟩ => none
  | place => some place

/-- A character between words and texts. -/
def mark? (place : Place) (c : Char) : Option Place :=
  match c with
  | ' ' => some place
  | '\n' => place.endLine
  | '[' => place.enter (.list [])
  | ']' => place.closeList
  | '\x7b' => place.enter (.record [])
  | '\x7d' => place.closeRecord
  | ',' => place.next
  | ':' => place.name
  | _ => none

end Place

/-! ### Characters -/

/-- What the characters read last belong to; characters are kept last first. -/
inductive Scan where
  | gap
  | word (done : List Char)
  | text (quote : Char) (done : List Char)
  /-- In a text behind a backslash. -/
  | escape (quote : Char) (done : List Char)
  /-- In the hexadecimal code of a character, with the number of digits that follow the next. -/
  | code (quote : Char) (done : List Char) (left value : Nat)
  /-- Behind a text. -/
  | closed

/-- The state of the reader. -/
structure State where
  place : Place
  scan : Scan

def isQuote (c : Char) : Bool := c == singleQuote || c == doubleQuote

/-- Goes on behind the backslash in a text. -/
def escape? (quote : Char) (done : List Char) (c : Char) : Option Scan :=
  if isQuote c || c == '\\' then some (.text quote (c :: done))
  else match c with
  | 'n' => some (.text quote ('\n' :: done))
  | 'r' => some (.text quote ('\r' :: done))
  | 't' => some (.text quote ('\t' :: done))
  | 'x' => some (.code quote done 1 0)
  | 'u' => some (.code quote done 3 0)
  | 'U' => some (.code quote done 7 0)
  | _ => none

/-- Goes on in the code of a character. -/
def code? (quote : Char) (done : List Char) (left value : Nat) (c : Char) : Option Scan :=
  (hexValue? c).bind fun digit =>
    let value := 16 * value + digit
    match left with
    | 0 => if value.isValidChar then some (.text quote (Char.ofNat value :: done)) else none
    | left + 1 => some (.code quote done left value)

def feed (state : State) (c : Char) : Option State :=
  let place := state.place
  match state.scan with
  | .gap =>
    if isQuote c then some ⟨place, .text c []⟩
    else if isWordChar c then some ⟨place, .word [c]⟩
    else (place.mark? c).map fun place => ⟨place, .gap⟩
  | .word done =>
    if isWordChar c then some ⟨place, .word (c :: done)⟩
    else (wordValue? done.reverse).bind fun value => (place.put value).bind fun place =>
      (place.mark? c).map fun place => ⟨place, .gap⟩
  | .text quote done =>
    if c == quote then
      (place.put (.text (String.ofList done.reverse))).map fun place => ⟨place, .closed⟩
    else if c == '\\' then some ⟨place, .escape quote done⟩
    else if c == '\n' || c == '\r' || c == '\x00' then none
    else some ⟨place, .text quote (c :: done)⟩
  | .escape quote done => (escape? quote done c).map fun scan => ⟨place, scan⟩
  | .code quote done left value =>
    (code? quote done left value c).map fun scan => ⟨place, scan⟩
  | .closed => (place.mark? c).map fun place => ⟨place, .gap⟩

def start : State := ⟨⟨[], .value⟩, .gap⟩

/-- The value that has been read when its line has ended. -/
def State.result? (state : State) : Option Value :=
  match state.place.stage with
  | .done value => some value
  | _ => none

def run (state : State) (cs : List Char) : Option State := cs.foldlM feed state

/-- Reads the literal that a text is. -/
def read? (s : String) : Option Value := (run start (s.toList ++ ['\n'])).bind State.result?

example : read? "[1, 'a' \"b\", None]" = some (.list [.int 1, .text "ab", .null]) := rfl

example : read? "nan" = none := rfl

end DialogGraph.Literal
