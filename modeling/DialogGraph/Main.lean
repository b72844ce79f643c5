import DialogGraph.CommandLine.Compile
import Std.Time.Format

/-!
# The compiler on a machine

Runs the compiler against the files of the machine. Everything it decides is decided by
`CommandLine.compile`.
-/

open DialogGraph DialogGraph.CommandLine

namespace DialogGraph.CommandLine

/-- The code with which a machine tells that something is a directory. -/
def directoryCode : UInt32 := 21

/-- The code with which a machine tells that a name is too long. -/
def overlongCode : UInt32 := 36

def entryAt (path : Path) : IO Entry := do
  try
    let octets ← IO.FS.readBinFile path.text
    return .file octets.toList
  catch
    | .inappropriateType _ code _ => return if code = directoryCode then .directory else .absent
    | .noFileOrDirectory .. => return .absent
    | .invalidArgument _ code detail =>
      if code = overlongCode then return .overlong
      else throw (.invalidArgument (some path.text) code detail)
    | fault => throw fault

def makeAt (path : Path) : IO Making := do
  try
    IO.FS.createDir path.text
    return .made
  catch
    | .alreadyExists .. => return .present
    | .noFileOrDirectory .. => return .noParent
    | .inappropriateType .. => return .notDirectory
    | .invalidArgument _ code detail =>
      if code = overlongCode then return .overlong
      else throw (.invalidArgument (some path.text) code detail)
    | fault => throw fault

/-- Carries out a job against the files of the machine. -/
def Job.onMachine {α : Type} : Job α → IO α
  | done a => return a
  | look path next => do
    let entry ← entryAt path
    (next entry).onMachine
  | make path next => do
    let making ← makeAt path
    (next making).onMachine

/-- The variables that the compiler looks at. -/
def variableNames : List String := [
  "BOTFLOW_ENV_FILE", "BOTFLOW_HOST", "BOTFLOW_PORT", "BOTFLOW_CORS_ORIGINS",
  "BOTFLOW_HISTORY_SIZE", "BOTFLOW_BOT_NAME", "BOTFLOW_BOT_TOKEN", "BOTFLOW_PREVIEW_LLM",
  SurroundingsFile.disablingVariable]

/-- The variables that are set on the machine. -/
def machineSurroundings : IO Surroundings :=
  variableNames.filterMapM fun name => do
    return (← IO.getEnv name).map fun value => (name, value)

def Ending.exitCode : Ending → UInt32
  | code n | usage n => n.toUInt32

end DialogGraph.CommandLine

def main (arguments : List String) : IO UInt32 := do
  let today ← Std.Time.PlainDate.now
  let surroundings ← machineSurroundings
  match ← (compile (toString today) surroundings arguments).run.onMachine with
  | .ok report =>
    report.files.forM fun (path, text) => IO.FS.writeFile path.text text
    IO.print report.out
    IO.eprint report.err
    return report.ending.exitCode
  | .error breakdown =>
    IO.eprintln breakdown.message
    return 1
