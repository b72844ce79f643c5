import DialogGraph.Number.Reading

/-!
# Numerals in settings

How a text in a setting is read as a number. Digits are the ASCII ones. An integer is first taken
as it stands; only then is its text tidied, by dropping blanks around it, a plus sign, leading
zeros, a fraction of zeros and single underscores, and taken once more. A real is first taken
without the blanks around it, then without its underscores.
-/

namespace DialogGraph.Numeral

open DialogGraph.Number DialogGraph.Text

def asciiDigit? (c : Char) : Option Nat :=
  if c.isDigit then some (c.toNat - 48) else none

def hasDoubleUnderscore : List Char → Bool
  | '_' :: '_' :: _ => true
  | _ :: rest => hasDoubleUnderscore rest
  | [] => false

/-- A text without its underscores; `none` if one stands at an end or next to another. -/
def withoutUnderscores? (cs : List Char) : Option (List Char) :=
  if cs.head? = some '_' || cs.getLast? = some '_' || hasDoubleUnderscore cs then none
  else some (cs.filter (· != '_'))

/-! ### Integers -/

/-- What a text is, taken as an integer. -/
inductive Reading where
  | integer (n : Int)
  /-- More digits than an integer may have. -/
  | tooLong
  | unreadable
  deriving Repr, DecidableEq

def isPositiveDigit (c : Char) : Bool := c.isDigit && c != '0'

/-- Takes a text as it stands: a minus sign perhaps, and zero or digits that do not begin with
zero. The limit on the digits goes before whatever stands behind them. -/
def plain (cs : List Char) : Reading :=
  let signs := cs.takeWhile (· == '-')
  let rest := cs.drop signs.length
  let digits := rest.takeWhile Char.isDigit
  let negative := signs.length == 1
  if 1 < signs.length then .unreadable
  else if rest == ['0'] then .integer 0
  else if !(rest.head?.any isPositiveDigit) then .unreadable
  else if digitLimit < digits.length then .tooLong
  else if digits.length < rest.length then .unreadable
  else .integer (signed negative (digitsValue (digits.filterMap asciiDigit?)))

/-- What is left of a text that begins with zeros, mixed with underscores; `last` is the character
before. Of zeros alone the last character is left, before a point the one in front of it. -/
def afterZeros? (last : Char) : List Char → Option (List Char)
  | [] => some [last]
  | c :: rest =>
    if c == '0' || c == '_' then afterZeros? c rest
    else if isPositiveDigit c || c == '-' then some (c :: rest)
    else if c == '.' then some (last :: c :: rest)
    else none

/-- A text without leading zeros; `none` if it begins like no number. -/
def withoutZeros? : List Char → Option (List Char)
  | '0' :: rest => afterZeros? '0' rest
  | c :: rest => if isPositiveDigit c || c == '-' then some (c :: rest) else none
  | [] => none

/-- A text without the fraction behind its first point, if that is made of zeros. -/
def withoutZeroFraction (cs : List Char) : List Char :=
  let whole := cs.takeWhile (· != '.')
  match cs.drop whole.length with
  | _ :: '0' :: fraction => if fraction.all (· == '0') then whole else cs
  | _ => cs

/-- A text without sign, tidied. Misplaced underscores stay. -/
def tidiedMagnitude? (cs : List Char) : Option (List Char) :=
  (withoutZeros? cs).map fun cs =>
    let cs := withoutZeroFraction cs
    (withoutUnderscores? cs).getD cs

def tidied? (cs : List Char) : Option (List Char) :=
  match trimWith isNumberBlank cs with
  | '+' :: '-' :: _ => none
  | '+' :: rest => tidiedMagnitude? rest
  | '-' :: rest => (tidiedMagnitude? rest).map ('-' :: ·)
  | rest => tidiedMagnitude? rest

/-- Takes a text as an integer. The limit matters only for the text as it stands. -/
def readInteger (s : String) : Reading :=
  match plain s.toList with
  | .unreadable =>
    match (tidied? s.toList).map plain with
    | some (.integer n) => .integer n
    | _ => .unreadable
  | reading => reading

/-! ### Reals -/

/-- Takes a text as a real as it stands. -/
def plainReal? (cs : List Char) : Option Float := realOfSymbols? (symbols asciiDigit? cs)

/-- Takes a text as a real. Blanks and underscores are not dropped together. -/
def readReal? (s : String) : Option Float :=
  (plainReal? (trimWith isNumberBlank s.toList)).or
    ((withoutUnderscores? s.toList).bind plainReal?)

end DialogGraph.Numeral
