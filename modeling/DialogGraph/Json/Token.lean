import DialogGraph.Value.Basic
import DialogGraph.Number.Reading
import DialogGraph.Text.Encoding

/-!
# JSON tokens

A text is cut into tokens once, from left to right. A token that is wrong in itself is kept in its
place, so that a fault of the grammar in front of it is still the one reported.
-/

namespace DialogGraph.Json

open DialogGraph.Number DialogGraph.Text

/-- What can be wrong at a position of a JSON text. -/
inductive Problem where
  | byteOrderMark
  | expectingValue
  | expectingName
  | expectingColon
  | expectingComma
  | extraData
  | unterminatedText
  | controlCharacter
  | badEscape
  | badUnicodeEscape
  deriving Repr, DecidableEq

inductive Container where
  | array
  | object
  deriving Repr, DecidableEq

inductive Token where
  | opening (container : Container)
  | closing (container : Container)
  | comma
  | colon
  /-- A value that is no container. -/
  | scalar (value : Value)
  /-- A text or number that is wrong in itself, with the place of its fault. -/
  | faulty (problem : Problem) (position : Nat)
  /-- An integer with too many digits. -/
  | oversized (digits : Nat)
  /-- A character that begins no token. -/
  | stray

/-- A token with the position of its first character. -/
structure Located where
  position : Nat
  token : Token

def isSpace (c : Char) : Bool :=
  c == ' ' || c == '\t' || c == '\n' || c == '\r'

def hexValue4? (a b c d : Char) : Option Nat := do
  let a ← hexValue? a
  let b ← hexValue? b
  let c ← hexValue? c
  let d ← hexValue? d
  return ((a * 16 + b) * 16 + c) * 16 + d

def escaped? (c : Char) : Option Char :=
  if c == doubleQuote || c == '\\' || c == '/' then some c
  else if c == 'b' then some (Char.ofNat 8)
  else if c == 'f' then some (Char.ofNat 12)
  else if c == 'n' then some '\n'
  else if c == 'r' then some '\r'
  else if c == 't' then some '\t'
  else none

/-- The rest of a text after its opening quote at `opened`: the characters up to the closing quote
and the position behind it. `position` is that of the next character, `done` holds what was read,
last first. The escape of half a surrogate pair is read as the replacement character, as `unitChar`
has it; the texts without one are those whose surrogates are paired. -/
def scanText (opened position : Nat) (done : List Char) :
    List Char → Except (Problem × Nat) (String × Nat)
  | [] => .error (.unterminatedText, opened)
  | '\\' :: [] => .error (.unterminatedText, opened)
  | '\\' :: 'u' :: a :: b :: c :: d :: '\\' :: 'u' :: e :: f :: g :: h :: i :: rest =>
    match hexValue4? a b c d with
    | none => .error (.badUnicodeEscape, position + 1)
    | some high =>
      if isHighSurrogate high then
        match hexValue4? e f g h with
        | none => .error (.badUnicodeEscape, position + 7)
        | some low =>
          if isLowSurrogate low then
            scanText opened (position + 12) (joinSurrogates high low :: done) (i :: rest)
          else
            scanText opened (position + 6) (unitChar high :: done)
              ('\\' :: 'u' :: e :: f :: g :: h :: i :: rest)
      else
        scanText opened (position + 6) (unitChar high :: done)
          ('\\' :: 'u' :: e :: f :: g :: h :: i :: rest)
  | '\\' :: 'u' :: a :: b :: c :: d :: e :: rest =>
    match hexValue4? a b c d with
    | none => .error (.badUnicodeEscape, position + 1)
    | some n => scanText opened (position + 6) (unitChar n :: done) (e :: rest)
  | '\\' :: 'u' :: _ => .error (.badUnicodeEscape, position + 1)
  | '\\' :: c :: rest =>
    match escaped? c with
    | some e => scanText opened (position + 2) (e :: done) rest
    | none => .error (.badEscape, position)
  | c :: rest =>
    if c == doubleQuote then .ok (String.ofList done.reverse, position + 1)
    else if c.toNat < 32 then .error (.controlCharacter, position)
    else scanText opened (position + 1) (c :: done) rest

/-- The fraction of a number: a point with at least one digit behind it, else nothing. -/
def scanFraction : List Char → List Char
  | '.' :: c :: rest => if c.isDigit then c :: rest.takeWhile Char.isDigit else []
  | _ => []

/-- The exponent of a number: how many characters it takes and its value. Without a digit there is
none. -/
def scanExponent : List Char → Option (Nat × Int)
  | c :: rest =>
    if c == 'e' || c == 'E' then
      let (signs, negative, rest) := match rest with
        | '-' :: rest => (1, true, rest)
        | '+' :: rest => (1, false, rest)
        | rest => (0, false, rest)
      let digits := rest.takeWhile Char.isDigit
      if digits.isEmpty then none
      else some (1 + signs + digits.length,
        signed negative (digitsValue (digits.map fun d => d.toNat - 48)))
    else none
  | [] => none

/-- The integral digits of a number: a single zero or digits that begin with another. -/
def scanWhole : List Char → List Char
  | c :: rest =>
    if c == '0' then [c] else if c.isDigit then c :: rest.takeWhile Char.isDigit else []
  | [] => []

/-- A number and how many characters it takes. It ends where it stops being one. -/
def scanNumber (cs : List Char) : Token × Nat :=
  let (signs, negative, cs) := match cs with
    | '-' :: rest => (1, true, rest)
    | cs => (0, false, cs)
  let whole := scanWhole cs
  let fraction := scanFraction (cs.drop whole.length)
  let points := if fraction.isEmpty then 0 else 1 + fraction.length
  let exponent := scanExponent (cs.drop (whole.length + points))
  let values (ds : List Char) : List Nat := ds.map fun d => d.toNat - 48
  if whole.isEmpty then (.stray, 1)
  else if fraction.isEmpty && exponent.isNone then
    if digitLimit < whole.length then (.oversized whole.length, signs + whole.length)
    else (.scalar (.int (signed negative (digitsValue (values whole)))), signs + whole.length)
  else
    let (taken, power) := exponent.getD (0, 0)
    (.scalar (.real (ofDecimal negative (digitsValue (values (whole ++ fraction)))
      (power - (fraction.length : Int)))), signs + whole.length + points + taken)

def words : List (List Char × Value) := [
  ("null".toList, .null), ("true".toList, .bool true), ("false".toList, .bool false),
  ("NaN".toList, .real ⟨notANumber, .literal⟩), ("Infinity".toList, .real (infinity false : Float)),
  ("-Infinity".toList, .real (infinity true : Float))]

/-- The token at the start of a row of characters that begins with `c`, and how many characters it
takes. -/
def scanToken (position : Nat) (c : Char) (rest : List Char) : Token × Nat :=
  if c == '[' then (.opening .array, 1)
  else if c == ']' then (.closing .array, 1)
  else if c == '\x7b' then (.opening .object, 1)
  else if c == '\x7d' then (.closing .object, 1)
  else if c == ',' then (.comma, 1)
  else if c == ':' then (.colon, 1)
  else if c == doubleQuote then
    match scanText position (position + 1) [] rest with
    | .ok (s, behind) => (.scalar (.text s), behind - position)
    | .error (problem, place) => (.faulty problem place, 1)
  else match words.find? fun word => word.1.isPrefixOf (c :: rest) with
    | some (word, value) => (.scalar value, word.length)
    | none => scanNumber (c :: rest)

/-- Cuts a row of characters into tokens; `done` holds those already cut, last first. -/
def tokensFrom (position : Nat) (done : List Located) (cs : List Char) : List Located :=
  match cs with
  | [] => done.reverse
  | c :: rest =>
    if isSpace c then tokensFrom (position + 1) done rest
    else
      let (token, taken) := scanToken position c rest
      match token with
      | .faulty .. | .oversized _ | .stray => (⟨position, token⟩ :: done).reverse
      | token =>
        tokensFrom (position + max 1 taken) (⟨position, token⟩ :: done) (rest.drop (taken - 1))
termination_by cs.length
decreasing_by
  · simp
  · simp only [List.length_drop, List.length_cons]
    omega

end DialogGraph.Json
