import DialogGraph.Setup
import DialogGraph.Text.Lines
import DialogGraph.Text.Utf8

/-!
# Files of variables

Variables of the surroundings may be kept in a file, one binding `NAME=value` after the other. A
value stands bare, up to the end of its line or a comment, or in quotes. Inside a value
`${NAME}` stands for a variable. A statement that cannot be read is skipped with its line.
-/

namespace DialogGraph.SurroundingsFile

open DialogGraph.Text

/-- Whether a character is blank but ends no line. -/
def isInlineBlank (c : Char) : Bool := isBlank c && c != '\n' && c != '\r'

/-- Whether a character ends a line of such a file. -/
def isBreak (c : Char) : Bool := c == '\n' || c == '\r'

/-- A row of characters without its leading inline blanks. -/
def dropInlineBlanks (cs : List Char) : List Char := cs.dropWhile isInlineBlank

/-- What follows a word that may introduce a binding; it is skipped only before blanks. -/
def dropIntroduction (cs : List Char) : List Char :=
  if "export".toList.isPrefixOf cs then
    let rest := cs.drop 6
    if rest.head?.any isInlineBlank then dropInlineBlanks rest else cs
  else cs

/-- What became of reading a part: the result, if the part could be read, and what is left. -/
abbrev Part (α : Type) := Option α × List Char

/-- Takes characters as long as they satisfy a condition, one at least. -/
def takeSome (keep : Char → Bool) (cs : List Char) : Part (List Char) :=
  match cs.takeWhile keep with
  | [] => (none, cs)
  | taken => (some taken, cs.dropWhile keep)

def nameOf (cs : List Char) : Part (Option String) :=
  match cs with
  | '#' :: _ => (some none, cs)
  | c :: rest =>
    if c == singleQuote then
      match takeSome (· != singleQuote) rest with
      | (some name, _ :: after) => (some (some (String.ofList name)), after)
      | _ => (none, cs)
    else
      match takeSome (fun c => c != '=' && c != '#' && !isBlank c) cs with
      | (some name, after) => (some (some (String.ofList name)), after)
      | (none, _) => (none, cs)
  | [] => (none, cs)

/-- The text up to the closing quote, and what follows that. A character behind a backslash closes
nothing. `done` is the text read, last character first. -/
def quotedFrom? (quote : Char) (done : List Char) : List Char → Option (List Char × List Char)
  | [] => none
  | '\\' :: c :: rest => quotedFrom? quote (c :: '\\' :: done) rest
  | c :: rest =>
    if c == quote then some (done.reverse, rest) else quotedFrom? quote (c :: done) rest

/-- The character that a letter behind a backslash stands for between double quotes. -/
def doubleEscape? (c : Char) : Option Char :=
  if c == '\\' || c == singleQuote || c == doubleQuote then some c
  else if c == 'a' then some (Char.ofNat 7)
  else if c == 'b' then some (Char.ofNat 8)
  else if c == 'f' then some (Char.ofNat 12)
  else if c == 'n' then some '\n'
  else if c == 'r' then some '\r'
  else if c == 't' then some '\t'
  else if c == 'v' then some (Char.ofNat 11)
  else none

/-- The character that a letter behind a backslash stands for between single quotes. -/
def singleEscape? (c : Char) : Option Char :=
  if c == '\\' || c == singleQuote then some c else none

/-- Replaces the escapes in a text; `done` is the text read, last character first. -/
def unescapeFrom (escape? : Char → Option Char) (done : List Char) : List Char → List Char
  | [] => done.reverse
  | [c] => (c :: done).reverse
  | c :: d :: rest =>
    if c == '\\' then
      match escape? d with
      | some e => unescapeFrom escape? (e :: done) rest
      | none => unescapeFrom escape? (c :: done) (d :: rest)
    else unescapeFrom escape? (c :: done) (d :: rest)

/-- A bare value without the comment behind it, which begins with a blank and a number sign. -/
def dropComment (done : List Char) (blanks : List Char) : List Char → List Char
  | [] => done.reverse
  | c :: rest =>
    if isBlank c then dropComment done (c :: blanks) rest
    else if c == '#' && !blanks.isEmpty then done.reverse
    else dropComment (c :: (blanks ++ done)) [] rest

/-- A bare value: the rest of the line, without a comment and without the blanks around it. -/
def bareValue (cs : List Char) : String :=
  String.ofList (dropInlineBlanks (dropComment [] [] (cs.takeWhile fun c => !isBreak c)))

def valueOf (cs : List Char) : Part String :=
  let start := dropInlineBlanks cs
  let quoted (escape? : Char → Option Char) (quote : Char) : Part String :=
    match quotedFrom? quote [] (start.drop 1) with
    | some (value, after) => (some (String.ofList (unescapeFrom escape? [] value)), after)
    | none => (none, start)
  if start.head? = some singleQuote then quoted singleEscape? singleQuote
  else if start.head? = some doubleQuote then quoted doubleEscape? doubleQuote
  else (some (bareValue cs), start.dropWhile fun c => !isBreak c)

def dropBreak : List Char → List Char
  | '\r' :: '\n' :: rest => rest
  | c :: rest => if isBreak c then rest else c :: rest
  | [] => []

/-- What follows the end of a statement: blanks, a comment and a line break or the end of the file;
`none` if something else stands there. -/
def statementEnd? (cs : List Char) : Option (List Char) :=
  let bare := dropInlineBlanks cs
  let rest := match bare with
    | '#' :: _ => bare.dropWhile fun c => !isBreak c
    | _ => bare
  match rest with
  | [] => some []
  | c :: _ => if isBreak c then some (dropBreak rest) else none

/-- A statement: a name with its value, if it has one. A comment is a statement without a name. -/
abbrev Statement := Option (String × Option String)

def statementOf (cs : List Char) : Part Statement :=
  match nameOf (dropIntroduction cs) with
  | (none, left) => (none, left)
  | (some name, left) =>
    let left := dropInlineBlanks left
    let (value, left) : Part (Option String) :=
      match left with
      | '=' :: rest =>
        match valueOf rest with
        | (some value, left) => (some (some value), left)
        | (none, left) => (none, left)
      | _ => (some none, left)
    match value with
    | none => (none, left)
    | some value =>
      match statementEnd? left with
      | some rest => (some (name.map fun name => (name, value)), rest)
      | none => (none, dropInlineBlanks left)

/-- What a file says: its bindings in order, and the lines that could not be read. -/
structure Content where
  bindings : List (String × Option String) := []
  badLines : List Nat := []

def breaks (cs : List Char) : Nat := cs.count '\n'

/-- Reads statements, at most as many as given. -/
def contentFrom (line : Nat) (content : Content) : Nat → List Char → Content
  | 0, _ => content
  | steps + 1, cs =>
    match cs.dropWhile isBlank with
    | [] => content
    | start =>
      let (statement, left) := statementOf start
      let rest := match statement with
        | some _ => left
        | none => dropBreak (left.dropWhile fun c => !isBreak c)
      let content := match statement with
        | some (some binding) => { content with bindings := content.bindings ++ [binding] }
        | some none => content
        | none => { content with badLines := content.badLines ++ [line] }
      contentFrom (line + (breaks cs - breaks rest)) content steps rest

/-- Reads a file; a byte order mark at its beginning is passed over. Every statement takes up a
character at least. -/
def contentOf (s : String) : Content :=
  let cs := withoutMark s.toList
  contentFrom 1 {} cs.length cs

/-- Replaces the variables in a value: `${NAME}`, or `${NAME:-default}` with a default for a
variable that is not bound. `steps` bounds how many characters are read. -/
def expandFrom (value? : String → Option String) (done : List Char) : Nat → List Char → List Char
  | 0, _ => done.reverse
  | _, [] => done.reverse
  | steps + 1, '$' :: '\x7b' :: rest =>
    let name := rest.takeWhile fun c => c != '\x7d' && c != ':'
    let found := value? (String.ofList name)
    match rest.dropWhile fun c => c != '\x7d' && c != ':' with
    | '\x7d' :: after =>
      expandFrom value? ((found.getD "").toList.reverse ++ done) steps after
    | ':' :: '-' :: tail =>
      match tail.dropWhile (· != '\x7d') with
      | _ :: after =>
        let default := String.ofList (tail.takeWhile (· != '\x7d'))
        expandFrom value? ((found.getD default).toList.reverse ++ done) steps after
      | [] => expandFrom value? ('\x7b' :: '$' :: done) steps rest
    | _ => expandFrom value? ('\x7b' :: '$' :: done) steps rest
  | steps + 1, c :: rest => expandFrom value? (c :: done) steps rest

/-- The bindings of a file with the variables in them replaced. Variables of the surroundings count
before earlier bindings. -/
def expanded (surroundings : Surroundings) (bindings : List (String × Option String)) :
    List (String × Option String) :=
  bindings.foldl (fun done binding =>
    let value? (name : String) : Option String :=
      (Assoc.get? surroundings name).or ((Assoc.get? done name).map fun value => value.getD "")
    Assoc.insert done binding.1 (binding.2.map fun value =>
      String.ofList (expandFrom value? [] value.length value.toList))) []

inductive Fault where
  | embeddedNull
  | illegalName
  deriving Repr, DecidableEq

def Fault.message : Fault → String
  | embeddedNull => "embedded null byte"
  | illegalName => "illegal environment variable name"

/-- Sets a variable, unless it is set already. -/
def setNew (surroundings : Surroundings) (name value : String) : Except Fault Surroundings :=
  if Assoc.contains surroundings name then .ok surroundings
  else if hasNull name || hasNull value then .error .embeddedNull
  else if name.toList.contains '=' then .error .illegalName
  else .ok (surroundings ++ [(name, value)])

/-- The surroundings with the bindings of a file. What is set already stays. -/
def addTo (surroundings : Surroundings) (content : Content) : Except Fault Surroundings :=
  (expanded surroundings content.bindings).foldlM (fun done binding =>
    match binding.2 with
    | some value => setNew done binding.1 value
    | none => .ok done) surroundings

/-- The variable that keeps files of variables from being read. -/
def disablingVariable : String := "PYTHON_DOTENV_DISABLED"

/-- A text in small letters, a long s counting as an s. -/
def folded (s : String) : String :=
  String.ofList ((lower s).toList.map fun c => if c.toNat = 0x17F then 's' else c)

/-- Whether files of variables are not to be read. -/
def isDisabled (surroundings : Surroundings) : Bool :=
  match Assoc.get? surroundings disablingVariable with
  | some s => ["1", "true", "t", "yes", "y"].contains (folded s)
  | none => false

end DialogGraph.SurroundingsFile
