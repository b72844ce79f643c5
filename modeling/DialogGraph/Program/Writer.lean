import DialogGraph.Text.Blank

/-!
# Writing indented lines
-/

namespace DialogGraph.Program

/-- Lines written so far, and the depth of those to come. A negative depth indents nothing. -/
structure Writer where
  lines : List String := []
  depth : Int := 0

namespace Writer

/-- A line at a depth of four blanks each; an empty line stays empty. -/
def indented (depth : Int) (line : String) : String :=
  if line.isEmpty then "" else String.ofList (List.replicate (4 * depth.toNat) ' ') ++ line

def line (writer : Writer) (line : String) : Writer :=
  { writer with lines := writer.lines ++ [indented writer.depth line] }

def blank (writer : Writer) : Writer := writer.line ""

def extend (writer : Writer) (lines : List String) : Writer :=
  { writer with lines := writer.lines ++ lines.map (indented writer.depth) }

def comment (writer : Writer) (text : String) : Writer := writer.line ("# " ++ text)

/-- A heading, drawn out to a fixed length, but by three characters at least. -/
def headingText (title : String) : String :=
  "# ── " ++ title ++ " " ++ String.ofList (List.replicate (max 3 (74 - title.length)) '─')

def heading (writer : Writer) (title : String) : Writer := writer.line (headingText title)

/-- Indents the lines to come by one more. -/
def deeper (writer : Writer) : Writer := { writer with depth := writer.depth + 1 }

/-- Indents the lines to come by one less, but not below none. -/
def shallower (writer : Writer) : Writer := { writer with depth := max 0 (writer.depth - 1) }

def text (writer : Writer) : String := "\n".intercalate writer.lines ++ "\n"

end Writer

end DialogGraph.Program
