import DialogGraph.Number.Binary64
import DialogGraph.Number.Digits
import DialogGraph.Text.Blank
import DialogGraph.Text.DecimalDigit
import DialogGraph.Text.Quoted

/-!
# Reading numbers

Two grammars. A real is an optional sign, digits with an optional point, and an optional exponent,
or the word `inf`, `infinity` or `nan` in any letter case. An integer is an optional sign and
digits. In both, blanks may stand around the number, a single underscore may stand between two
digits, and the digits may be those of any script.
-/

namespace DialogGraph.Number

open DialogGraph.Text

inductive Symbol where
  | digit (value : Nat)
  | other (c : Char)
  deriving Repr, DecidableEq

/-- The symbols of a text whose digits may come from the given reading of a digit. -/
def symbols (digit? : Char → Option Nat) (cs : List Char) : List Symbol :=
  cs.map fun c =>
    match digit? c with
    | some d => .digit d
    | none => .other c

/-- Drops each underscore that stands between two digits; `none` if any other underscore is
present. `afterDigit` says whether the symbol before was a digit. -/
def withoutUnderscores (afterDigit : Bool) : List Symbol → Option (List Symbol)
  | [] => some []
  | .digit d :: rest => (withoutUnderscores true rest).map (.digit d :: ·)
  | .other c :: rest =>
    if c == '_' then
      match rest with
      | .digit _ :: _ => if afterDigit then withoutUnderscores false rest else none
      | _ => none
    else (withoutUnderscores false rest).map (.other c :: ·)

def takeDigits : List Symbol → List Nat × List Symbol
  | .digit d :: rest =>
    let (ds, after) := takeDigits rest
    (d :: ds, after)
  | symbols => ([], symbols)

/-- An optional sign: whether it is a minus, and what follows it. -/
def takeSign : List Symbol → Bool × List Symbol
  | .other '-' :: rest => (true, rest)
  | .other '+' :: rest => (false, rest)
  | symbols => (false, symbols)

/-- An exponent part to the end of the text: nothing, or `e`, an optional sign and digits. -/
def exponentPart? : List Symbol → Option Int
  | [] => some 0
  | .other c :: rest =>
    if c == 'e' || c == 'E' then
      let (negative, rest) := takeSign rest
      match takeDigits rest with
      | ([], _) => none
      | (ds, []) => some (signed negative (digitsValue ds))
      | _ => none
    else none
  | _ => none

/-- Digits with an optional point and an optional exponent, to the end of the text. -/
def magnitude? (negative : Bool) (symbols : List Symbol) : Option Float :=
  let (whole, rest) := takeDigits symbols
  let (fraction, rest) := match rest with
    | .other '.' :: rest => takeDigits rest
    | _ => ([], rest)
  if whole.isEmpty && fraction.isEmpty then none
  else (exponentPart? rest).map fun exponent =>
    ofDecimal negative (digitsValue (whole ++ fraction)) (exponent - (fraction.length : Int))

/-- The characters of a row of symbols without digits, in lower case. -/
def word? : List Symbol → Option (List Char)
  | [] => some []
  | .other c :: rest => (word? rest).map (c.toLower :: ·)
  | .digit _ :: _ => none

def realOfSymbols? (symbols : List Symbol) : Option Float :=
  let (negative, rest) := takeSign symbols
  match word? rest with
  | some word =>
    if word == "inf".toList || word == "infinity".toList then some (infinity negative)
    else if word == "nan".toList then some notANumber
    else none
  | none => magnitude? negative rest

/-- Reads a real number with digits of any script. -/
def readReal? (s : String) : Option Float :=
  (withoutUnderscores false (symbols decimalDigit? (trimWith isNumberBlank s.toList))).bind
    realOfSymbols?

inductive IntegerFault where
  /-- More digits than may be converted. -/
  | tooManyDigits (count : Nat)
  /-- Not the text of an integer. -/
  | notAnInteger (text : String)
  deriving Repr, DecidableEq

/-- The most digits that an integer may have to be read or written. -/
def digitLimit : Nat := 4300

/-- The message for a fault in reading an integer. At most 200 characters of the text are shown. -/
def IntegerFault.message : IntegerFault → String
  | .tooManyDigits count =>
    "Exceeds the limit (4300 digits) for integer string conversion: value has " ++
      natText count ++ " digits; use sys.set_int_max_str_digits() to increase the limit"
  | .notAnInteger text =>
    "invalid literal for int() with base 10: " ++
      String.ofList ((quoteChars text.toList).take 200)

/-- The leading digits with single underscores between them, and what follows. -/
def takeDigitGroups : List Symbol → List Nat × List Symbol
  | .digit d :: .other '_' :: .digit e :: rest =>
    let (ds, after) := takeDigitGroups (.digit e :: rest)
    (d :: ds, after)
  | .digit d :: rest =>
    let (ds, after) := takeDigitGroups rest
    (d :: ds, after)
  | symbols => ([], symbols)

/-- Reads an integer. A misplaced underscore is noticed before the digits are counted, any other
stray character after. -/
def readInteger (s : String) : Except IntegerFault Int :=
  let (negative, rest) :=
    takeSign (symbols decimalDigit? (trimWith isNumberBlank s.toList))
  match takeDigitGroups rest with
  | ([], _) => .error (.notAnInteger s)
  | (_, .other '_' :: _) => .error (.notAnInteger s)
  | (ds, after) =>
    if digitLimit < ds.length then .error (.tooManyDigits ds.length)
    else if after.isEmpty then .ok (signed negative (digitsValue ds))
    else .error (.notAnInteger s)

end DialogGraph.Number
