import DialogGraph.Text.Blank

/-!
# Items between commas
-/

namespace DialogGraph.Text

def splitAtCommas : List Char → List (List Char)
  | [] => [[]]
  | c :: rest =>
    match splitAtCommas rest with
    | part :: parts => if c == ',' then [] :: part :: parts else (c :: part) :: parts
    | [] => [[c]]

/-- What stands between commas, without outer blanks; blank parts are left out. -/
def itemsOf (s : String) : List String :=
  ((splitAtCommas s.toList).map fun part => String.ofList (trimWith isBlank part)).filter
    fun item => !item.isEmpty

end DialogGraph.Text
