import DialogGraph.Text.Blank

/-!
# Lines and words

Cutting a row of characters into lines, each with the end of its line, and into words, each with the
blanks behind it. Nothing is lost by either.
-/

namespace DialogGraph.Text

def hasNull (s : String) : Bool := s.toList.any fun c => c.toNat == 0

/-- Whether a character ends a line. A carriage return and a line feed end one together. -/
def isLineEnd (c : Char) : Bool :=
  let n := c.toNat
  (10 ≤ n && n ≤ 13) || (28 ≤ n && n ≤ 30) || n == 0x85 || n == 0x2028 || n == 0x2029

/-- A row of characters without one line feed at its end. -/
def withoutLineFeed (cs : List Char) : List Char :=
  if cs.getLast? = some '\n' then cs.dropLast else cs

/-- Adds a piece, given last character first, unless it is empty. -/
def addPiece (done : List (List Char)) (piece : List Char) : List (List Char) :=
  if piece.isEmpty then done else piece.reverse :: done

/-- Cuts into lines; `done` holds the lines found, last first, and `line` the current one, last
character first. -/
def linesFrom (done : List (List Char)) (line : List Char) : List Char → List (List Char)
  | [] => (addPiece done line).reverse
  | '\r' :: '\n' :: rest => linesFrom (addPiece done ('\n' :: '\r' :: line)) [] rest
  | c :: rest =>
    if isLineEnd c then linesFrom (addPiece done (c :: line)) [] rest
    else linesFrom done (c :: line) rest

def lines (cs : List Char) : List (List Char) := linesFrom [] [] cs

def withoutLineEnd (line : List Char) : List Char :=
  match line.reverse with
  | '\n' :: '\r' :: rest => rest.reverse
  | c :: rest => if isLineEnd c then rest.reverse else line
  | [] => []

/-- The lines of a text, without their ends. -/
def linesOf (s : String) : List String :=
  (lines s.toList).map fun line => String.ofList (withoutLineEnd line)

/-- Cuts into words; `blank` tells whether the current word has come to its blanks. -/
def wordsFrom (done : List (List Char)) (word : List Char) (blank : Bool) :
    List Char → List (List Char)
  | [] => (addPiece done word).reverse
  | c :: rest =>
    if isBlank c then wordsFrom done (c :: word) true rest
    else if blank then wordsFrom (addPiece done word) [c] false rest
    else wordsFrom done (c :: word) false rest

/-- The words of a row of characters. Blanks at its beginning are a word of their own. -/
def words (cs : List Char) : List (List Char) := wordsFrom [] [] false cs

end DialogGraph.Text
