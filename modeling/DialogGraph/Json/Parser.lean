import DialogGraph.Assoc
import DialogGraph.Json.Token

/-!
# Reading JSON

A row of tokens is folded into a value with the open containers held in a stack. Names in an
object keep the place of their first appearance and the value of their last. How deep containers may
be nested depends on the room that is left for the reading, and is given with the text.
-/

namespace DialogGraph.Json

open DialogGraph.Number

/-- Why a text is no JSON value. -/
inductive Fault where
  | malformed (problem : Problem) (line column position : Nat)
  | oversized (digits : Nat)
  | tooDeep (container : Container)
  deriving Repr, DecidableEq

def Problem.message : Problem → String
  | .byteOrderMark => "Unexpected UTF-8 BOM (decode using utf-8-sig)"
  | .expectingValue => "Expecting value"
  | .expectingName => "Expecting property name enclosed in double quotes"
  | .expectingColon => "Expecting ':' delimiter"
  | .expectingComma => "Expecting ',' delimiter"
  | .extraData => "Extra data"
  | .unterminatedText => "Unterminated string starting at"
  | .controlCharacter => "Invalid control character at"
  | .badEscape => "Invalid \\escape"
  | .badUnicodeEscape => "Invalid \\uXXXX escape"

def Fault.message : Fault → String
  | .malformed problem line column position =>
    problem.message ++ ": line " ++ natText line ++ " column " ++ natText column ++
      " (char " ++ natText position ++ ")"
  | .oversized digits => (IntegerFault.tooManyDigits digits).message
  | .tooDeep container =>
    "maximum recursion depth exceeded while decoding a JSON " ++
      (match container with | .array => "array" | .object => "object") ++
      " from a unicode string"

/-- The depth that a usual machine leaves to a reading that nothing else has begun around. -/
def usualDepth : Nat := 980

/-- An open container with what it holds so far, last first. -/
inductive Frame where
  | array (items : List Value)
  | object (fields : List (String × Value)) (name : String)

inductive Expected where
  | value
  /-- A value or the end of the array just opened. -/
  | firstItem
  /-- A name or the end of the object just opened. -/
  | firstName
  | name
  | colon
  /-- A comma or the end of the innermost container. -/
  | comma
  /-- Nothing: the value is complete. -/
  | nothing (value : Value)

/-- The problem of meeting anything else than what is expected. -/
def Expected.problem : Expected → Problem
  | .value | .firstItem => .expectingValue
  | .firstName | .name => .expectingName
  | .colon => .expectingColon
  | .comma => .expectingComma
  | .nothing _ => .extraData

/-- Hands a complete value to the innermost container. -/
def deliver (value : Value) : List Frame → List Frame × Expected
  | [] => ([], .nothing value)
  | .array items :: outer => (.array (value :: items) :: outer, .comma)
  | .object fields name :: outer => (.object ((name, value) :: fields) "" :: outer, .comma)

/-- Closes the innermost container, if it is of the given kind. -/
def close? : Container → List Frame → Option (Value × List Frame)
  | .array, .array items :: outer => some (.list items.reverse, outer)
  | .object, .object fields _ :: outer => some (.record (Assoc.ofList fields.reverse), outer)
  | _, _ => none

/-- What went wrong, before the position is turned into a line and a column. -/
inductive Trouble where
  | problem (problem : Problem) (position : Nat)
  | oversized (digits : Nat)
  | tooDeep (container : Container)

/-- A value begins at a token; at most `depth` containers may be open. -/
def beginValue (depth : Nat) (stack : List Frame) (here : Located) (problem : Problem) :
    Except Trouble (List Frame × Expected) :=
  match here.token with
  | .scalar value => .ok (deliver value stack)
  | .opening .array =>
    if depth ≤ stack.length then .error (.tooDeep .array)
    else .ok (.array [] :: stack, .firstItem)
  | .opening .object =>
    if depth ≤ stack.length then .error (.tooDeep .object)
    else .ok (.object [] "" :: stack, .firstName)
  | .faulty problem position => .error (.problem problem position)
  | .oversized digits => .error (.oversized digits)
  | _ => .error (.problem problem here.position)

def beginName (stack : List Frame) (here : Located) : Except Trouble (List Frame × Expected) :=
  match here.token, stack with
  | .scalar (.text name), .object fields _ :: outer => .ok (.object fields name :: outer, .colon)
  | .faulty problem position, _ => .error (.problem problem position)
  | _, _ => .error (.problem .expectingName here.position)

def endContainer (stack : List Frame) (here : Located) (container : Container)
    (problem : Problem) : Except Trouble (List Frame × Expected) :=
  match close? container stack with
  | some (value, outer) => .ok (deliver value outer)
  | none => .error (.problem problem here.position)

def afterComma : List Frame → Expected
  | .object _ _ :: _ => .name
  | _ => .value

def step (depth : Nat) (stack : List Frame) (expected : Expected) (here : Located) :
    Except Trouble (List Frame × Expected) :=
  match expected, here.token with
  | .firstItem, .closing .array => endContainer stack here .array .expectingValue
  | .firstItem, _ => beginValue depth stack here .expectingValue
  | .value, _ => beginValue depth stack here .expectingValue
  | .firstName, .closing .object => endContainer stack here .object .expectingName
  | .firstName, _ => beginName stack here
  | .name, _ => beginName stack here
  | .colon, .colon => .ok (stack, .value)
  | .comma, .comma => .ok (stack, afterComma stack)
  | .comma, .closing container => endContainer stack here container .expectingComma
  | expected, _ => .error (.problem expected.problem here.position)

/-- Reads all tokens of a text that ends at position `finish`. -/
def run (depth finish : Nat) (stack : List Frame) (expected : Expected) :
    List Located → Except Trouble Value
  | [] =>
    match expected with
    | .nothing value => .ok value
    | expected => .error (.problem expected.problem finish)
  | here :: rest =>
    match step depth stack expected here with
    | .ok (stack, expected) => run depth finish stack expected rest
    | .error trouble => .error trouble

/-- The line and the column of a position, both counted from one. -/
def lineAndColumn (cs : List Char) (position : Nat) : Nat × Nat :=
  (cs.take position).foldl
    (fun place c => if c == '\n' then (place.1 + 1, 1) else (place.1, place.2 + 1)) (1, 1)

/-- Reads a JSON text whose containers are nested no deeper than is allowed. -/
def parse (s : String) (depth : Nat := usualDepth) : Except Fault Value :=
  let cs := s.toList
  let locate (problem : Problem) (position : Nat) : Fault :=
    let (line, column) := lineAndColumn cs position
    .malformed problem line column position
  if cs.head? = some (Char.ofNat 0xFEFF) then .error (locate .byteOrderMark 0)
  else match run depth cs.length [] .value (tokensFrom 0 [] cs) with
    | .ok value => .ok value
    | .error (.problem problem position) => .error (locate problem position)
    | .error (.oversized digits) => .error (.oversized digits)
    | .error (.tooDeep container) => .error (.tooDeep container)

end DialogGraph.Json
