import DialogGraph.Editor.Complaint
import DialogGraph.Json.Parser
import DialogGraph.Text.Encoding

/-!
# Reading bodies

The body of a request is a JSON text. Its fields are read independently of each other, so that all
complaints about them come together; fields that nobody asks for are passed over.
-/

namespace DialogGraph.Editor

open DialogGraph.Text

/-- Why a request is turned down before it is looked at more closely. -/
inductive Refusal where
  /-- There is nothing at the address. -/
  | notFound
  /-- The address has slashes at its end that it should not have. -/
  | moved
  /-- What is at the address does not know the method. -/
  | badMethod
  /-- The body is beyond what can be read. -/
  | unreadable
  | invalid (complaints : List Complaint)
  deriving Repr, DecidableEq

/-- What reading a part of a body comes to. -/
abbrev Read (α : Type) := Except (List Complaint) α

/-- Reads two parts. The complaints about both are kept. -/
def Read.both {α β : Type} (first : Read α) (second : Read β) : Read (α × β) :=
  match first, second with
  | .ok a, .ok b => .ok (a, b)
  | .ok _, .error complaints => .error complaints
  | .error complaints, .ok _ => .error complaints
  | .error complaints, .error more => .error (complaints ++ more)

/-- Reads a field that is there. -/
def readField {α : Type} (name : String) (read : Value → Except Problem α) (value : Value) :
    Read α :=
  (read value).mapError fun problem => [⟨.field name, .problem problem⟩]

def required {α : Type} (data : Fields) (name : String) (read : Value → Except Problem α) :
    Read α :=
  match Assoc.get? data name with
  | some value => readField name read value
  | none => .error [⟨.field name, .missing⟩]

def optional {α : Type} (data : Fields) (name : String) (default : α)
    (read : Value → Except Problem α) : Read α :=
  match Assoc.get? data name with
  | some value => readField name read value
  | none => .ok default

def textOrNull : Value → Except Problem (Option String)
  | .null => .ok none
  | value => (Setting.text value).map some

/-- Reads a number as a coordinate. -/
def coordinate (value : Value) : Except Problem Value := (Setting.real value).map .real

/-- The text of a body. Its octets may be those of a text in another encoding. -/
def bodyText? (body : String) : Option String :=
  let octets := body.toUTF8.toList
  match Encoding.ofOctets octets with
  | .utf8 => some (String.ofList (withoutMark body.toList))
  | encoding => encoding.decode? octets

/-- The value of a body; an empty body has none. -/
def bodyValue (body : String) : Except Refusal (Option Value) :=
  if body.isEmpty then .ok none
  else match (bodyText? body).map (Json.parse ·) with
    | some (.ok value) => .ok (some value)
    | some (.error (.malformed _ _ _ position)) =>
      .error (.invalid [⟨.character position, .notJson⟩])
    | _ => .error .unreadable

def bodyFields (objection : Objection) : Option Value → Read Fields
  | none => .error [⟨.body, .missing⟩]
  | some (.record data) => .ok data
  | some _ => .error [⟨.body, objection⟩]

/-- Reads a body that has to be there. -/
def readBody {α : Type} (body : String) (read : Fields → Read α) : Except Refusal α := do
  let value ← bodyValue body
  (bodyFields .noFields value >>= read).mapError .invalid

/-- Reads a body that may be left out. -/
def readBodyOr {α : Type} (body : String) (default : α) (read : Fields → Read α) :
    Except Refusal α := do
  match ← bodyValue body with
  | none => return default
  | some .null => return default
  | value => (bodyFields .noFields value >>= read).mapError .invalid

end DialogGraph.Editor
