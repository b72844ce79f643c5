import DialogGraph.Text.Hexadecimal
import DialogGraph.Text.Printable

/-!
# Quoted text

A text is quoted with single quotes, or with double quotes when it holds a single quote and no
double one. The backslash, the chosen quote, line feed, carriage return and tab are escaped by a
letter; every other unprintable character by its code in two, four or eight hexadecimal digits.
-/

namespace DialogGraph.Text

def singleQuote : Char := Char.ofNat 39

def doubleQuote : Char := Char.ofNat 34

def enclosingQuote (cs : List Char) : Char :=
  if cs.contains singleQuote && !cs.contains doubleQuote then doubleQuote else singleQuote

/-- One character as it is written between quotes. -/
def escapeChar (quote c : Char) : List Char :=
  if c == quote || c == '\\' then ['\\', c]
  else if c == '\n' then ['\\', 'n']
  else if c == '\r' then ['\\', 'r']
  else if c == '\t' then ['\\', 't']
  else if isPrintable c then [c]
  else if c.toNat < 0x100 then '\\' :: 'x' :: hexDigits 2 c.toNat
  else if c.toNat < 0x10000 then '\\' :: 'u' :: hexDigits 4 c.toNat
  else '\\' :: 'U' :: hexDigits 8 c.toNat

/-- A text between quotes, as characters. -/
def quoteChars (cs : List Char) : List Char :=
  let quote := enclosingQuote cs
  quote :: (cs.flatMap (escapeChar quote) ++ [quote])

def quote (s : String) : String :=
  String.ofList (quoteChars s.toList)

end DialogGraph.Text
