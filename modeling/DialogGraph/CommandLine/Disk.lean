import DialogGraph.CommandLine.Job

/-!
# Described files

The files of a working directory, described instead of stored. Outside the working directory there
are only the directories that it is in, the few that every machine has, and the null device.
-/

namespace DialogGraph.CommandLine

/-- Files by the parts of their paths, and the directories made so far. -/
structure Disk where
  files : List (List String × List UInt8)
  directories : List (List String) := []

inductive Place where
  /-- To a place whose directory is there; whether it is there itself is another question. -/
  | inside (parts : List String)
  /-- Out of the working directory, with parts left to go. -/
  | outside (rest : List String)
  /-- From the root of the machine. -/
  | fromRoot (parts : List String)
  /-- Through something that is not there. -/
  | missing
  /-- Through a file. -/
  | blocked
  /-- Through a name that is too long. -/
  | overlong
  deriving Repr, DecidableEq

/-- The most octets of a name. -/
def nameLimit : Nat := 255

/-- The most octets of a path. -/
def pathLimit : Nat := 4095

/-- The parts of the path of the null device. -/
def nullDevice : List String := ["dev", "null"]

namespace Disk

def file? (disk : Disk) (parts : List String) : Option (List UInt8) :=
  (disk.files.find? fun file => file.1 = parts).map Prod.snd

/-- Whether there is a directory: the working directory, one on the way to a file, or one that was
made. -/
def isDirectory (disk : Disk) (parts : List String) : Bool :=
  parts.isEmpty || disk.directories.contains parts || disk.files.any fun file =>
    parts.isPrefixOf file.1 && parts.length < file.1.length

/-- Where parts lead from a place, whose own parts are given last first. -/
def walk (disk : Disk) (place : List String) : List String → Place
  | [] => .inside place.reverse
  | part :: rest =>
    if disk.isDirectory place.reverse then
      if part = ".." then
        match place with
        | [] => .outside rest
        | _ :: outer => disk.walk outer rest
      else if nameLimit < part.utf8ByteSize then .overlong
      else disk.walk (part :: place) rest
    else if (disk.file? place.reverse).isSome then .blocked
    else .missing

def placeOf (disk : Disk) (path : Path) : Place :=
  if pathLimit < path.text.utf8ByteSize then .overlong
  else if path.root.isEmpty then disk.walk [] path.parts
  else .fromRoot path.parts

/-- Whether parts lead from outside the working directory to a directory that it is in. -/
def leadsUp (parts : List String) : Bool := parts.all (· == "..")

/-- Whether parts lead from the root to a directory that every machine has. -/
def isCommonDirectory (parts : List String) : Bool :=
  leadsUp parts || parts = ["dev"] || parts = ["tmp"]

def entry (disk : Disk) (path : Path) : Entry :=
  match disk.placeOf path with
  | .inside parts =>
    if disk.isDirectory parts then .directory
    else ((disk.file? parts).map Entry.file).getD .absent
  | .outside rest => if leadsUp rest then .directory else .absent
  | .fromRoot parts =>
    if parts = nullDevice then .file []
    else if isCommonDirectory parts then .directory
    else .absent
  | .overlong => .overlong
  | .missing | .blocked => .absent

/-- Makes a directory. Outside the working directory it can be made wherever nothing is. -/
def make (disk : Disk) (path : Path) : Disk × Making :=
  match disk.placeOf path with
  | .inside parts =>
    if disk.isDirectory parts || (disk.file? parts).isSome then (disk, .present)
    else ({ disk with directories := parts :: disk.directories }, .made)
  | .outside rest => (disk, if leadsUp rest then .present else .made)
  | .fromRoot parts =>
    (disk,
      if parts = nullDevice || isCommonDirectory parts then .present
      else if nullDevice.isPrefixOf parts then .notDirectory
      else .made)
  | .missing => (disk, .noParent)
  | .blocked => (disk, .notDirectory)
  | .overlong => (disk, .overlong)

end Disk

/-- Carries out a job against described files. -/
def Job.onDisk {α : Type} (disk : Disk) : Job α → α
  | done a => a
  | look path next => (next (disk.entry path)).onDisk disk
  | make path next =>
    let (disk, making) := disk.make path
    (next making).onDisk disk

end DialogGraph.CommandLine
