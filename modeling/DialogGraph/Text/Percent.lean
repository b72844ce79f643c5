import DialogGraph.Text.Utf8

/-!
# Percent escapes

In addresses an octet may be written as a percent sign and two hexadecimal digits. A percent sign
without two such digits stands for itself.
-/

namespace DialogGraph.Text

def charOctets (c : Char) : List UInt8 := (String.singleton c).toUTF8.toList

def percentOctets : List Char → List UInt8
  | [] => []
  | '%' :: a :: b :: rest =>
    match hexValue? a, hexValue? b with
    | some high, some low => UInt8.ofNat (16 * high + low) :: percentOctets rest
    | _, _ => charOctets '%' ++ percentOctets (a :: b :: rest)
  | c :: rest => charOctets c ++ percentOctets rest

/-- The text that a text with percent escapes stands for. -/
def percentDecoded (s : String) : String := decodeUtf8Replacing (percentOctets s.toList)

end DialogGraph.Text
