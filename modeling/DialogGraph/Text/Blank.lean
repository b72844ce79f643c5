/-!
# Blank characters

Trimming and splitting go by the blank characters of Unicode, together with the four ASCII
separators `U+001C` to `U+001F` and the next-line character. The zero-width space and the byte
order mark are not blank.

A second, narrower class serves numbers: what may surround a number written in ASCII alone.
-/

namespace DialogGraph.Text

def isBlank (c : Char) : Bool :=
  let n := c.toNat
  (9 ≤ n && n ≤ 13) || (28 ≤ n && n ≤ 32) || n == 0x85 || n == 0xA0 || n == 0x1680 ||
    (0x2000 ≤ n && n ≤ 0x200A) || n == 0x2028 || n == 0x2029 || n == 0x202F || n == 0x205F ||
    n == 0x3000

/-- Whether a character may stand around a written number: the blanks less the four ASCII
separators. -/
def isNumberBlank (c : Char) : Bool :=
  isBlank c && !(28 ≤ c.toNat && c.toNat ≤ 31)

/-- A list of characters without those at its two ends that satisfy `drop`. -/
def trimWith (drop : Char → Bool) (cs : List Char) : List Char :=
  ((cs.dropWhile drop).reverse.dropWhile drop).reverse

def trim (s : String) : String :=
  String.ofList (trimWith isBlank s.toList)

def squeeze (s : String) : List Char :=
  s.toList.filter fun c => !isBlank c

/-- Whether a text holds nothing but blanks. -/
def allBlank (s : String) : Bool :=
  s.toList.all isBlank

end DialogGraph.Text
