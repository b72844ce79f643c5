/-!
# Decimal digits of a natural number
-/

namespace DialogGraph.Number

def digitChar (d : Nat) : Char := Char.ofNat (48 + d)

def natText (n : Nat) : String := Nat.repr n

def intText (n : Int) : String :=
  if n < 0 then "-" ++ natText n.natAbs else natText n.natAbs

/-- The value of a row of digits, read from the left. -/
def digitsValue (ds : List Nat) : Nat :=
  ds.foldl (fun value d => 10 * value + d) 0

def zeros (n : Nat) : String := String.ofList (List.replicate n '0')

/-- A natural number with leading zeros up to the given width. -/
def padded (width n : Nat) : String :=
  let text := natText n
  zeros (width - text.length) ++ text

end DialogGraph.Number
