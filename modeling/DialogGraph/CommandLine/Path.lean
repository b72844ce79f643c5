import DialogGraph.Text.Pieces

/-!
# Paths

A path is written with slashes. Empty parts and parts that stand for the same place are left out;
parts that lead back are kept, for they may lead through a link.
-/

namespace DialogGraph.CommandLine

/-- A path: what it starts at, and its parts. -/
structure Path where
  /-- Empty for a path that starts at the working directory. -/
  root : String
  parts : List String
  deriving Repr, DecidableEq

namespace Path

/-- The root that a text begins with. Exactly two slashes are a root of their own. -/
def rootOf : List Char → String
  | '/' :: '/' :: '/' :: _ => "/"
  | '/' :: '/' :: _ => "//"
  | '/' :: _ => "/"
  | _ => ""

/-- The parts of a text between slashes. -/
def partsOf (s : String) : List String :=
  (Text.pieces '/' s).filter fun part => !part.isEmpty && part != "."

def ofText (s : String) : Path := ⟨rootOf s.toList, partsOf s⟩

/-- Whether a text can only name a directory: it ends with a slash, or with a part that stands for a
directory. -/
def namesDirectory (s : String) : Bool :=
  match (Text.pieces '/' s).getLast? with
  | some part => part.isEmpty || part == "." || part == ".."
  | none => true

def text (path : Path) : String :=
  if path.root.isEmpty && path.parts.isEmpty then "." else path.root ++ "/".intercalate path.parts

/-- The place of a name in a directory. -/
def child (path : Path) (name : String) : Path := { path with parts := path.parts ++ partsOf name }

def name (path : Path) : String := path.parts.getLast?.getD ""

/-- The name without what follows its last point, unless that point begins or ends it. -/
def stem (path : Path) : String :=
  let cs := path.name.toList
  let behind := cs.reverse.takeWhile (· != '.')
  let before := cs.take (cs.length - behind.length - 1)
  if behind.isEmpty || before.isEmpty then path.name else String.ofList before

/-- The parts that are left when parts that lead back are carried out; `none` if they lead out of
the working directory. -/
def inside? (path : Path) : Option (List String) :=
  if path.root.isEmpty then
    (path.parts.foldlM (fun (done : List String) part =>
      if part == ".." then
        match done with
        | [] => none
        | _ :: rest => some rest
      else some (part :: done)) []).map List.reverse
  else none

end Path

end DialogGraph.CommandLine
