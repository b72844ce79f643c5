import DialogGraph.CommandLine.Path

/-!
# Jobs

A job is a calculation that may ask what is at a path, and may make a directory. It is carried out
by whoever knows: against the files of a machine, or against files that are only described.
-/

namespace DialogGraph.CommandLine

inductive Entry where
  | absent
  | directory
  | file (octets : List UInt8)
  /-- Nothing can be there, since a part of the path is too long to be a name. -/
  | overlong
  deriving Repr, DecidableEq

inductive Making where
  | made
  /-- Something is at the path already. -/
  | present
  /-- A directory that leads to the path is missing. -/
  | noParent
  /-- The path leads through a file. -/
  | notDirectory
  | overlong
  deriving Repr, DecidableEq

/-- A calculation that may look at paths and make directories. -/
inductive Job (α : Type) where
  | done (a : α)
  | look (path : Path) (next : Entry → Job α)
  | make (path : Path) (next : Making → Job α)

namespace Job

def andThen {α β : Type} (job : Job α) (next : α → Job β) : Job β :=
  match job with
  | done a => next a
  | look path answer => look path fun entry => (answer entry).andThen next
  | make path answer => make path fun making => (answer making).andThen next

instance : Monad Job where
  pure := done
  bind := andThen

def entry (path : Path) : Job Entry := look path done

def directory (path : Path) : Job Making := make path done

end Job

end DialogGraph.CommandLine
