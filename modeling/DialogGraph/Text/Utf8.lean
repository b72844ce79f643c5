import DialogGraph.Number.Digits
import DialogGraph.Text.Quoted

/-!
# UTF-8

Octets are read one at a time. Between characters an octet begins a new one; inside a character the
next octet must lie in a range. The first octet that rules the text out is a fault.
-/

namespace DialogGraph.Text

open DialogGraph.Number

inductive Utf8Problem where
  | badStart
  | badContinuation
  | cutOff
  deriving Repr, DecidableEq

def Utf8Problem.message : Utf8Problem → String
  | badStart => "invalid start byte"
  | badContinuation => "invalid continuation byte"
  | cutOff => "unexpected end of data"

/-- Octets that are no text: how many come before them, the first of them, and how many they are. -/
structure Utf8Fault where
  problem : Utf8Problem
  position : Nat
  octet : UInt8
  count : Nat
  deriving Repr, DecidableEq

def Utf8Fault.message (fault : Utf8Fault) : String :=
  let place :=
    if fault.count = 1 then
      "byte 0x" ++ String.ofList (hexDigits 2 fault.octet.toNat) ++ " in position " ++
        natText fault.position
    else "bytes in position " ++ natText fault.position ++ "-" ++
      natText (fault.position + fault.count - 1)
  "'utf-8' codec can't decode " ++ place ++ ": " ++ fault.problem.message

/-- A character of which some octets are read. -/
structure Utf8Partial where
  /-- How many octets come before the character. -/
  position : Nat
  first : UInt8
  taken : Nat
  /-- The bits read so far. -/
  code : Nat
  owed : Nat
  /-- The range of the next octet. -/
  low : Nat
  high : Nat

/-- The character that an octet begins: the bits in it, how many octets it owes, and the range of
the first of them; `none` for an octet that begins none. -/
def utf8Start? (n : Nat) : Option (Nat × Nat × Nat × Nat) :=
  if n < 0x80 then some (n, 0, 0x80, 0xBF)
  else if n < 0xC2 then none
  else if n < 0xE0 then some (n % 32, 1, 0x80, 0xBF)
  else if n < 0xF0 then
    some (n % 16, 2, if n = 0xE0 then 0xA0 else 0x80, if n = 0xED then 0x9F else 0xBF)
  else if n < 0xF5 then
    some (n % 8, 3, if n = 0xF0 then 0x90 else 0x80, if n = 0xF4 then 0x8F else 0xBF)
  else none

/-- A character read, or a fault in its place. -/
abbrev Utf8Item := Except Utf8Fault Char

def utf8Begin (position : Nat) (octet : UInt8) : List Utf8Item × Option Utf8Partial :=
  match utf8Start? octet.toNat with
  | none => ([.error ⟨.badStart, position, octet, 1⟩], none)
  | some (code, owed, low, high) =>
    if owed = 0 then ([.ok (Char.ofNat code)], none)
    else ([], some ⟨position, octet, 1, code, owed, low, high⟩)

/-- Takes an octet inside a character. One that does not fit begins the next character. -/
def utf8Continue (p : Utf8Partial) (position : Nat) (octet : UInt8) :
    List Utf8Item × Option Utf8Partial :=
  let n := octet.toNat
  if n < p.low || p.high < n then
    let (items, next) := utf8Begin position octet
    (.error ⟨.badContinuation, p.position, p.first, p.taken⟩ :: items, next)
  else
    let code := p.code * 64 + n % 64
    if p.owed = 1 then ([.ok (Char.ofNat code)], none)
    else
      ([], some { p with
        taken := p.taken + 1, code := code, owed := p.owed - 1, low := 0x80, high := 0xBF })

/-- Reads octets from a position on, inside a character or between two. -/
def utf8From (position : Nat) (open? : Option Utf8Partial) : List UInt8 → List Utf8Item
  | [] =>
    match open? with
    | none => []
    | some p => [.error ⟨.cutOff, p.position, p.first, p.taken⟩]
  | octet :: rest =>
    let (items, next) := match open? with
      | none => utf8Begin position octet
      | some p => utf8Continue p position octet
    items ++ utf8From (position + 1) next rest

def decodeUtf8 (octets : List UInt8) : Except Utf8Fault String := do
  let cs ← (utf8From 0 none octets).mapM id
  return String.ofList cs

/-- A row of characters without a byte order mark at its beginning. -/
def withoutMark : List Char → List Char
  | [] => []
  | c :: rest => if c.toNat = 0xFEFF then rest else c :: rest

/-- The character that stands for octets that are no text. -/
def replacement : Char := Char.ofNat 0xFFFD

/-- The text of octets, with a replacement wherever they are no text. -/
def decodeUtf8Replacing (octets : List UInt8) : String :=
  String.ofList ((utf8From 0 none octets).map fun item =>
    match item with
    | .ok c => c
    | .error _ => replacement)

end DialogGraph.Text
