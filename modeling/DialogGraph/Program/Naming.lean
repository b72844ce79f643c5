import DialogGraph.Text.Alphanumeric
import DialogGraph.Text.Blank
import DialogGraph.Text.Case

/-!
# Names of programs

A program is called after its bot: in small letters, with an underscore for whatever is neither
letter nor digit, and without underscores at the ends.
-/

namespace DialogGraph.Program

open DialogGraph.Text

/-- A name made fit for a file. A name of which nothing is left gives way to a general one. -/
def plainName (name : String) : String :=
  let safe := (lower name).toList.map fun c => if isAlphanumeric c then c else '_'
  let stripped := trimWith (· == '_') safe
  if stripped.isEmpty then "bot" else String.ofList stripped

def fileName (botName : String) : String := plainName (trim botName) ++ ".py"

/-- The name under which a program writes its log. -/
def loggerName (botName : String) : String := plainName botName

end DialogGraph.Program
