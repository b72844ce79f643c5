import DialogGraph.CommandLine.Arguments
import DialogGraph.CommandLine.Job
import DialogGraph.CommandLine.Usage
import DialogGraph.Program
import DialogGraph.Snapshot.Load
import DialogGraph.SurroundingsFile
import DialogGraph.Text.Utf8

/-!
# The compiler

The compiler reads a snapshot from a file and writes the program of its flow into another file. What
is wrong with the snapshot is told, and the compiler ends with a code; what is wrong with the
surroundings breaks it off.
-/

namespace DialogGraph.CommandLine

open DialogGraph.Number DialogGraph.Text

inductive Ending where
  | code (n : Nat)
  /-- The arguments leave nothing to be done. -/
  | usage (n : Nat)
  deriving Repr, DecidableEq

/-- What the compiler has done: how it ended, what it said on its two streams, and the files it
wrote. -/
structure Report where
  ending : Ending
  out : String := ""
  err : String := ""
  files : List (Path × String) := []
  deriving Repr, DecidableEq

/-- Why the compiler breaks off. -/
inductive Breakdown where
  | setup (fault : IntegerFault)
  | surroundings (fault : SurroundingsFile.Fault)
  | octets (fault : Utf8Fault)
  | json (fault : Json.Fault)
  | flow (fault : Fault)
  | text (fault : TextFault)
  | isDirectory (path : Path)
  | notDirectory (path : Path)
  | fileExists (path : Path)
  | noDirectory (path : Path)
  | overlong (path : Path)
  | embeddedNull
  /-- The place for the program was taken back by the arguments. -/
  | noPlace
  deriving Repr, DecidableEq

def Breakdown.message : Breakdown → String
  | setup fault => fault.message
  | surroundings fault => fault.message
  | octets fault => fault.message
  | json fault => fault.message
  | flow fault => fault.message
  | text fault => fault.message
  | isDirectory path => "[Errno 21] Is a directory: " ++ quote path.text
  | notDirectory path => "[Errno 20] Not a directory: " ++ quote path.text
  | fileExists path => "[Errno 17] File exists: " ++ quote path.text
  | noDirectory path => "[Errno 2] No such file or directory: " ++ quote path.text
  | overlong path => "[Errno 36] File name too long: " ++ quote path.text
  | embeddedNull => "embedded null byte"
  | noPlace => "expected str, bytes or os.PathLike object, not list"

abbrev Work := ExceptT Breakdown Job

/-- Line breaks of any sort as line feeds. -/
def plainBreaks (done : List Char) : List Char → List Char
  | [] => done.reverse
  | '\r' :: '\n' :: rest => plainBreaks ('\n' :: done) rest
  | c :: rest => plainBreaks ((if c == '\r' then '\n' else c) :: done) rest

def textOf (octets : List UInt8) : Except Breakdown String :=
  match decodeUtf8 octets with
  | .ok s => .ok (String.ofList (plainBreaks [] s.toList))
  | .error fault => .error (.octets fault)

def look (path : Path) : Work Entry := ExceptT.lift (Job.entry path)

def makeOne (path : Path) : Work Making := ExceptT.lift (Job.directory path)

def warning (origin message : String) : String := "[WARNING] " ++ origin ++ ": " ++ message ++ "\n"

/-- The file of variables that the surroundings name, if it is to be read. -/
def variableFile? (surroundings : Surroundings) : Option String :=
  if SurroundingsFile.isDisabled surroundings then none
  else (Assoc.get? surroundings "BOTFLOW_ENV_FILE").filter fun s => !Path.namesDirectory s

/-- The surroundings together with the file of variables that they name, and the warnings about
it. -/
def surroundingsFrom (surroundings : Surroundings) : Work (Surroundings × String) := do
  match variableFile? surroundings with
  | none => return (surroundings, "")
  | some place =>
    match ← look (Path.ofText place) with
    | .file octets =>
      let text ← textOf octets
      let content := SurroundingsFile.contentOf text
      let warnings := content.badLines.map fun line => warning "dotenv.main"
        ("python-dotenv could not parse statement starting at line " ++ natText line)
      match SurroundingsFile.addTo surroundings content with
      | .ok surroundings => return (surroundings, String.join warnings)
      | .error fault => throw (.surroundings fault)
    | _ => return (surroundings, "")

/-- The setup, with the surroundings as they are then and the warnings on the way. -/
def setupFrom (surroundings : Surroundings) : Work (Setup × Surroundings × String) := do
  let (surroundings, warnings) ← surroundingsFrom surroundings
  match Setup.ofSurroundings surroundings with
  | .ok setup => return (setup, surroundings, warnings)
  | .error fault => throw (.setup fault)

def progress (what value : String) : String := "[botflow-compile] " ++ what ++ ": " ++ value ++ "\n"

def errorLine (message : String) : String := "[error] " ++ message ++ "\n"

def givenUp (out err message : String) : Report :=
  { ending := .code 1, out := out, err := err ++ errorLine message }

/-- The place of the fault of a flow that has no program. -/
def placeOf (fault : Program.CompileFault) : String :=
  let place (s : Option String) : Option String := s.filter fun s => !s.isEmpty
  match (place fault.block?).or (place fault.edge?) with
  | some s => " (" ++ s ++ ")"
  | none => ""

def botWarnings (flow : Flow) (bot : Program.Bot) : String :=
  match bot.entry, flow.starts with
  | none, start :: _ => warning "botflow.compiler.extractor"
      ("start node " ++ start.id ++ " is not connected; the bot will only greet")
  | _, _ => ""

/-- Why a directory cannot be made, in words of the whole work. -/
def Making.breakdown (path : Path) : Making → Breakdown
  | made | present => .fileExists path
  | noParent => .noDirectory path
  | notDirectory => .notDirectory path
  | overlong => .overlong path

/-- Settles an attempt to make a directory: it is good if there is a directory now. -/
def settleMaking (path : Path) (making : Making) : Work Unit := do
  if making ≠ .made then
    match ← look path with
    | .directory => return ()
    | _ => throw (making.breakdown path)

/-- Makes a directory, and the directories that lead to it where they are missing. The parts of its
path are given last first. -/
def makeDirectoryAt (root : String) : List String → Work Unit
  | [] => return ()
  | part :: outer => do
    let path : Path := ⟨root, (part :: outer).reverse⟩
    match ← makeOne path with
    | .noParent =>
      makeDirectoryAt root outer
      settleMaking path (← makeOne path)
    | making => settleMaking path making

def makeDirectory (path : Path) : Work Unit := do
  if hasNull path.text then throw .embeddedNull
  makeDirectoryAt path.root path.parts.reverse

def writeProgram (arguments : Arguments) (name out err source : String) : Work Report := do
  match arguments.out with
  | none => throw .noPlace
  | some chosen =>
    let directory := Path.ofText chosen
    makeDirectory directory
    let place := directory.child (Program.fileName name)
    match ← look place with
    | .directory => throw (.isDirectory place)
    | .overlong => throw (.overlong place)
    | _ => return {
        ending := .code 0
        out := out ++ progress "wrote  " place.text
        err := err
        files := [(place, source)] }

def compileData (date : String) (arguments : Arguments) (name token err : String)
    (data : Value) : Work Report := do
  let loaded := Snapshot.load Flow.empty false data
  let err := err ++ String.join (loaded.notices.map fun notice =>
    warning notice.origin notice.message)
  match loaded.outcome.result with
  | .error fault => throw (.flow fault)
  | .ok () =>
    let flow := loaded.outcome.flow
    let out := if arguments.print then "" else
      progress "bot    " name ++ progress "blocks " (natText flow.blocks.length) ++
        progress "edges  " (natText flow.edges.length)
    match Program.Bot.ofFlow flow name token with
    | .error fault => return givenUp out err ("Compile failed: " ++ fault.message ++ placeOf fault)
    | .ok bot =>
      let err := err ++ botWarnings flow bot
      match Program.text date bot with
      | .error fault => throw (.text fault)
      | .ok source =>
        if arguments.print then
          return { ending := .code 0, out := out ++ source ++ "\n", err := err }
        else writeProgram arguments name out err source

/-- The first text that is there and not empty. -/
def firstText (choices : List (Option String)) (otherwise : String) : String :=
  ((choices.filterMap id).find? fun s => !s.isEmpty).getD otherwise

/-- Compiles the snapshot that the arguments name. -/
def compileFile (date : String) (surroundings : Surroundings) (arguments : Arguments)
    (depth : Nat) : Work Report := do
  let (setup, surroundings, err) ← setupFrom surroundings
  let path := Path.ofText arguments.snapshot
  match ← look path with
  | .absent => return givenUp "" err ("File not found: " ++ path.text)
  | .directory => throw (.isDirectory path)
  | .overlong => throw (.overlong path)
  | .file octets =>
    let text ← textOf octets
    match Json.parse text depth with
    | .error fault =>
      match fault with
      | .malformed .. => return givenUp "" err ("Invalid JSON: " ++ fault.message)
      | _ => throw (.json fault)
    | .ok data =>
      match Snapshot.check arguments.strict data with
      | .error fault => return givenUp "" err ("Schema validation failed: " ++ fault.message)
      | .ok _ =>
        let name := firstText [arguments.name, Assoc.get? surroundings "BOTFLOW_BOT_NAME"] path.stem
        let token := firstText [arguments.token] setup.botToken
        compileData date arguments name token err data

/-- Runs the compiler on the given date. It reads snapshots whose containers are nested no deeper
than is allowed. -/
def compile (date : String) (surroundings : Surroundings) (arguments : List String)
    (depth : Nat := Json.usualDepth) : Work Report :=
  match Request.ofArguments arguments with
  | .help => return { ending := .usage 0, out := helpText }
  | .refused reason => return {
      ending := .usage 2
      err := usageText ++ "botflow-compile: error: " ++ reason ++ "\n" }
  | .compile arguments => compileFile date surroundings arguments depth

end DialogGraph.CommandLine
