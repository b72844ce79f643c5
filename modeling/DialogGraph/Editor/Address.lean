import DialogGraph.Text.Lines
import DialogGraph.Text.Percent
import DialogGraph.Text.Pieces

/-!
# Addresses

An address is a path, perhaps with a query behind a question mark. The path names what a request is
about.
-/

namespace DialogGraph.Editor

open DialogGraph.Text

inductive Resource where
  | health
  | flow
  | blocks
  | block (id : String)
  | place (id : String)
  | ports (id : String)
  | edges
  | edge (id : String)
  | undo
  | redo
  | program
  | preview
  | start
  | text
  | press
  | resume
  /-- A page about the requests themselves. -/
  | manual
  deriving Repr, DecidableEq

namespace Resource

def ofParts? : List String → Option Resource
  | ["health"] => some health
  | ["api", "graph"] => some flow
  | ["api", "nodes"] => some blocks
  | ["api", "nodes", id] => some (block id)
  | ["api", "nodes", id, "position"] => some (place id)
  | ["api", "nodes", id, "ports"] => some (ports id)
  | ["api", "edges"] => some edges
  | ["api", "edges", id] => some (edge id)
  | ["api", "history", "undo"] => some undo
  | ["api", "history", "redo"] => some redo
  | ["api", "compile"] => some program
  | ["api", "preview"] => some preview
  | ["api", "preview", "start"] => some start
  | ["api", "preview", "text"] => some text
  | ["api", "preview", "callback"] => some press
  | ["api", "preview", "step", "resume"] => some resume
  | ["docs"] => some manual
  | ["docs", "oauth2-redirect"] => some manual
  | ["openapi.json"] => some manual
  | ["redoc"] => some manual
  | _ => none

/-- What a path names as it stands. It begins with a slash, and no part of it is empty. -/
def ofExactPath? (path : String) : Option Resource :=
  match pieces '/' path with
  | "" :: parts => if parts.any String.isEmpty then none else ofParts? parts
  | _ => none

/-- What a path names. One line feed at its end does not count, unless it is part of an id. -/
def ofPath? (path : String) : Option Resource :=
  (ofExactPath? path).or (ofExactPath? (String.ofList (withoutLineFeed path.toList)))

end Resource

def withoutSlashes (s : String) : String :=
  String.ofList (s.toList.reverse.dropWhile (· == '/')).reverse

/-- An address: a path, with its escapes resolved, and a query. -/
structure Address where
  path : String
  query : String

namespace Address

def ofText (s : String) : Address :=
  ⟨percentDecoded (String.ofList (s.toList.takeWhile (· != '?'))),
    String.ofList ((s.toList.dropWhile (· != '?')).drop 1)⟩

/-- What a part of a query stands for. -/
def queryText (cs : List Char) : String :=
  percentDecoded (String.ofList (cs.map fun c => if c == '+' then ' ' else c))

/-- A parameter of a query: a name, and a value behind an equals sign. -/
def parameter (s : String) : String × String :=
  (queryText (s.toList.takeWhile (· != '=')),
    queryText ((s.toList.dropWhile (· != '=')).drop 1))

def parameters (address : Address) : List (String × String) :=
  ((pieces '&' address.query).filter fun s => !s.isEmpty).map parameter

/-- The value of a parameter; the last one counts. -/
def parameter? (address : Address) (name : String) : Option String :=
  (address.parameters.reverse.find? fun parameter => parameter.1 == name).map Prod.snd

end Address

end DialogGraph.Editor
