import DialogGraph.Text.Blank
import DialogGraph.Text.DecimalDigit
import DialogGraph.Text.Lines
import DialogGraph.Text.Quoted

/-!
# Arguments

The arguments of the compiler: one path, and switches with two hyphens. A switch may be shortened as
long as it stays unambiguous, and its value may follow behind an equals sign. Behind two hyphens
alone no switch stands.
-/

namespace DialogGraph.CommandLine

open DialogGraph.Text

inductive Switch where
  | help
  | name
  | token
  | out
  | print
  | strict
  deriving Repr, DecidableEq

namespace Switch

def spellings : List (String × Switch) := [
  ("-h", help), ("--help", help), ("--name", name), ("--token", token), ("--out", out),
  ("--print", print), ("--strict", strict)]

def ofSpelling? (s : String) : Option Switch :=
  (spellings.find? fun spelling => spelling.1 == s).map Prod.snd

/-- What a switch is called in a complaint. -/
def title : Switch → String
  | help => "-h/--help"
  | name => "--name"
  | token => "--token"
  | out => "--out"
  | print => "--print"
  | strict => "--strict"

def takesValue : Switch → Bool
  | name | token | out => true
  | _ => false

end Switch

/-- What an argument is. -/
inductive Word where
  | plain (text : String)
  | twoHyphens
  /-- A switch, with one hyphen or two; `joined` is what follows it in the same argument. -/
  | switch (switch : Switch) (short : Bool) (joined : Option String)
  /-- Something like a switch that is none. -/
  | unknown (text : String)
  deriving Repr, DecidableEq

/-- What the arguments ask for. -/
structure Arguments where
  snapshot : String
  name : Option String := none
  token : Option String := none
  /-- The directory for the program; it is taken back by a value of two hyphens alone. -/
  out : Option String := some "."
  print : Bool := false
  strict : Bool := false
  deriving Repr, DecidableEq

/-- What came of reading arguments. -/
inductive Request where
  | compile (arguments : Arguments)
  | help
  | refused (reason : String)
  deriving Repr, DecidableEq

namespace Request

/-- A row of characters split at the first equals sign. -/
def splitAtEquals (s : String) : String × Option String :=
  let cs := s.toList
  let before := String.ofList (cs.takeWhile (· != '='))
  match cs.dropWhile (· != '=') with
  | _ :: after => (before, some (String.ofList after))
  | [] => (before, none)

/-- Whether an argument is a negative number; a line feed may follow it. -/
def isNegativeNumber (s : String) : Bool :=
  let isDigit (c : Char) : Bool := (decimalDigit? c).isSome
  match withoutLineFeed s.toList with
  | '-' :: cs =>
    let behind := cs.dropWhile isDigit
    match behind with
    | [] => !cs.isEmpty
    | '.' :: fraction => !fraction.isEmpty && fraction.all isDigit
    | _ => false
  | _ => false

def completions (start : String) : List (String × Switch) :=
  Switch.spellings.filter fun spelling => start.toList.isPrefixOf spelling.1.toList

/-- The complaint about a shortened switch that may mean several. -/
def ambiguity (given : String) (found : List (String × Switch)) : String :=
  "ambiguous option: " ++ given ++ " could match " ++ ", ".intercalate (found.map Prod.fst)

/-- What an argument with a leading hyphen is that is no switch. -/
def wordOther (s : String) : Word :=
  if isNegativeNumber s || s.toList.contains ' ' then .plain s else .unknown s

/-- What an argument is that begins with two hyphens and is no switch in full. -/
def wordLong (s : String) : Except String Word :=
  let (start, joined) := splitAtEquals s
  match completions start with
  | [] => .ok (wordOther s)
  | [(_, switch)] => .ok (.switch switch false joined)
  | found => .error (ambiguity s found)

def wordOf (s : String) : Except String Word :=
  match s.toList with
  | '-' :: second :: rest =>
    match Switch.ofSpelling? s with
    | some switch => .ok (.switch switch (second != '-') none)
    | none =>
      match splitAtEquals s with
      | (start, some value) =>
        match Switch.ofSpelling? start with
        | some switch => .ok (.switch switch (second != '-') (some value))
        | none => if second == '-' then wordLong s else shortWord s second rest
      | (_, none) => if second == '-' then wordLong s else shortWord s second rest
  | _ => .ok (.plain s)
where
  /-- A switch of one letter may be followed by anything at once. -/
  shortWord (s : String) (second : Char) (rest : List Char) : Except String Word :=
    match Switch.ofSpelling? (String.ofList ['-', second]) with
    | some switch => .ok (.switch switch true (some (String.ofList rest)))
    | none => .ok (wordOther s)

/-- What the arguments are, up to two hyphens alone, behind which all are plain. -/
def wordsOf : List String → Except String (List Word)
  | [] => .ok []
  | s :: rest =>
    if s = "--" then .ok (.twoHyphens :: rest.map Word.plain)
    else do
      let word ← wordOf s
      let others ← wordsOf rest
      return word :: others

/-- What has been read: the path, the values of the switches, and what is left over. -/
structure Reading where
  snapshot : Option String := none
  arguments : Arguments := { snapshot := "" }
  extras : List String := []

def complaint (switch : Switch) (problem : String) : Request :=
  .refused ("argument " ++ switch.title ++ ": " ++ problem)

/-- The complaint about what follows a switch that takes no value. -/
def ignored (switch : Switch) (joined : String) : Request :=
  complaint switch ("ignored explicit argument " ++ quote joined)

/-- Sets a switch that takes a value. A value of two hyphens alone takes back what was set. -/
def setValue (reading : Reading) (switch : Switch) (value : String) : Reading :=
  let arguments := reading.arguments
  let given := if value = "--" then none else some value
  { reading with arguments := match switch with
      | .name => { arguments with name := given }
      | .token => { arguments with token := given }
      | .out => { arguments with out := given }
      | _ => arguments }

def setFlag (reading : Reading) (switch : Switch) : Reading :=
  let arguments := reading.arguments
  { reading with arguments := match switch with
      | .print => { arguments with print := true }
      | .strict => { arguments with strict := true }
      | _ => arguments }

/-- A request for help by one letter, with more behind it: further letters of the same kind ask for
help too, anything else is a fault. -/
def helpWith (joined : String) : Request :=
  let rest := String.ofList (joined.toList.dropWhile (· == 'h'))
  if rest.isEmpty && !joined.isEmpty then .help else ignored .help rest

def finish (reading : Reading) : Request :=
  match reading.snapshot with
  | none => .refused "the following arguments are required: snapshot.json"
  | some path =>
    if reading.extras.isEmpty then .compile { reading.arguments with snapshot := path }
    else .refused ("unrecognized arguments: " ++ " ".intercalate reading.extras)

def leaveOver (reading : Reading) (text : String) : Reading :=
  { reading with extras := reading.extras ++ [text] }

def readFrom (reading : Reading) : List Word → Request
  | [] => finish reading
  | .plain text :: .twoHyphens :: rest =>
    match reading.snapshot with
    | none => readFrom { reading with snapshot := some text } rest
    | some _ => readFrom (leaveOver (leaveOver reading text) "--") rest
  | .plain text :: rest =>
    match reading.snapshot with
    | none => readFrom { reading with snapshot := some text } rest
    | some _ => readFrom (leaveOver reading text) rest
  | .twoHyphens :: .plain text :: rest =>
    match reading.snapshot with
    | none => readFrom { reading with snapshot := some text } rest
    | some _ => readFrom (leaveOver (leaveOver reading "--") text) rest
  | .twoHyphens :: rest => readFrom (leaveOver reading "--") rest
  | .unknown text :: rest => readFrom (leaveOver reading text) rest
  | .switch switch short joined :: rest =>
    if switch.takesValue then
      match joined, rest with
      | some value, rest => readFrom (setValue reading switch value) rest
      | none, .plain value :: rest => readFrom (setValue reading switch value) rest
      | none, _ => complaint switch "expected one argument"
    else
      match joined with
      | some value =>
        if switch = .help && short then helpWith value else ignored switch value
      | none => if switch = .help then .help else readFrom (setFlag reading switch) rest

def ofArguments (arguments : List String) : Request :=
  match wordsOf arguments with
  | .ok words => readFrom {} words
  | .error reason => .refused reason

end Request

end DialogGraph.CommandLine
