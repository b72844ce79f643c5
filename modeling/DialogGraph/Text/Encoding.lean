import DialogGraph.Text.Utf8

/-!
# Encodings

A text is laid out in octets in units of eight, sixteen or thirty-two bits. A character that one
unit of sixteen bits cannot hold takes two of them, a surrogate pair. The zeros among the first
octets tell the encoding of a text that begins with two ASCII characters, as every JSON text does
that is longer than a character.
-/

namespace DialogGraph.Text

/-! ### Units of sixteen bits -/

/-- Whether a unit is the first of a surrogate pair. -/
def isHighSurrogate (n : Nat) : Bool := 0xD800 ≤ n && n ≤ 0xDBFF

/-- Whether a unit is the second of a surrogate pair. -/
def isLowSurrogate (n : Nat) : Bool := 0xDC00 ≤ n && n ≤ 0xDFFF

def joinSurrogates (high low : Nat) : Char :=
  Char.ofNat (0x10000 + (high - 0xD800) * 0x400 + (low - 0xDC00))

/-- The character of a single unit. Half a surrogate pair is none, and the model stops there: the
replacement character stands for it, and texts that differ only in such a half become one. -/
def unitChar (n : Nat) : Char :=
  if isHighSurrogate n || isLowSurrogate n then replacement else Char.ofNat n

def unitChars : List Nat → List Char
  | [] => []
  | [n] => [unitChar n]
  | high :: low :: rest =>
    if isHighSurrogate high && isLowSurrogate low then joinSurrogates high low :: unitChars rest
    else unitChar high :: unitChars (low :: rest)

/-! ### Octets of units -/

/-- Which octet of a unit comes first: that of the greatest weight or that of the least. -/
inductive OctetOrder where
  | greatestFirst
  | leastFirst
  deriving Repr, DecidableEq

def OctetOrder.number : OctetOrder → List UInt8 → Nat
  | greatestFirst, octets => octets.foldl (fun n octet => n * 256 + octet.toNat) 0
  | leastFirst, octets => octets.foldr (fun octet n => n * 256 + octet.toNat) 0

/-- The units of two octets each; none if an octet is left over. -/
def OctetOrder.pairs? (order : OctetOrder) : List UInt8 → Option (List Nat)
  | [] => some []
  | a :: b :: rest => (order.pairs? rest).map (order.number [a, b] :: ·)
  | _ => none

/-- The units of four octets each; none if octets are left over. -/
def OctetOrder.quads? (order : OctetOrder) : List UInt8 → Option (List Nat)
  | [] => some []
  | a :: b :: c :: d :: rest => (order.quads? rest).map (order.number [a, b, c, d] :: ·)
  | _ => none

/-- The character of a unit of thirty-two bits; one beyond all characters has none. -/
def wideChar? (n : Nat) : Option Char := if n < 0x110000 then some (unitChar n) else none

/-! ### Encodings -/

/-- How the characters of a text are laid out in octets. -/
inductive Encoding where
  | utf8
  | utf16 (order : OctetOrder)
  | utf32 (order : OctetOrder)
  deriving Repr, DecidableEq

namespace Encoding

/-- The encoding of the octets of a text that begins with ASCII characters. -/
def ofOctets : List UInt8 → Encoding
  | [a, b] =>
    if a = 0 then utf16 .greatestFirst else if b = 0 then utf16 .leastFirst else utf8
  | a :: b :: c :: d :: _ =>
    if a = 0 then if b = 0 then utf32 .greatestFirst else utf16 .greatestFirst
    else if b = 0 then if c = 0 && d = 0 then utf32 .leastFirst else utf16 .leastFirst
    else utf8
  | _ => utf8

/-- The text of octets; none if they are no text. -/
def decode? (octets : List UInt8) : Encoding → Option String
  | utf8 => (decodeUtf8 octets).toOption
  | utf16 order => (order.pairs? octets).map fun units => String.ofList (unitChars units)
  | utf32 order => do
    let units ← order.quads? octets
    return String.ofList (← units.mapM wideChar?)

end Encoding

end DialogGraph.Text
