/-!
# Pieces of a text
-/

namespace DialogGraph.Text

/-- The pieces between the places where a character stands. -/
def pieces (separator : Char) (s : String) : List String :=
  (s.toList.splitOn separator).map String.ofList

end DialogGraph.Text
