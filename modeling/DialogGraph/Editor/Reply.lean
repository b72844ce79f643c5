import DialogGraph.Editor.Action
import DialogGraph.History
import DialogGraph.Preview
import DialogGraph.Program

/-!
# Replies of the editor

A reply has a status and perhaps a body. A fault that the editor has no status for is passed on as
it is.
-/

namespace DialogGraph.Editor

open DialogGraph.Program (CompileFault)

/-- A fault that the editor does not turn into a status. -/
inductive Breakage where
  | flow (fault : DialogGraph.Fault)
  | text (fault : TextFault)
  | preview (breakdown : Preview.Breakdown)

inductive Reply where
  | answer (status : Nat) (body : Option Value)
  | invalid (complaints : List Complaint)
  | broken (breakage : Breakage)

namespace Reply

def status? : Reply → Option Nat
  | answer status _ => some status
  | invalid _ => some 422
  | broken _ => none

/-- A reply that all is well. -/
def ok (value : Value) : Reply := .answer 200 (some value)

/-- A reply that something was made. -/
def created (value : Value) : Reply := .answer 201 (some value)

/-- A reply that all is well and there is nothing to say. -/
def done : Reply := .answer 204 none

/-- A reply that a page is there; pages hold no values. -/
def shown : Reply := .answer 200 none

def detail (status : Nat) (value : Value) : Reply :=
  .answer status (some (.record [("detail", value)]))

/-- A reply that something is not there. -/
def missing (rejection : Rejection) : Reply := detail 404 (.text rejection.message)

def rejected (rejection : Rejection) : Reply := detail 409 (.text rejection.message)

def ofRefusal : Refusal → Reply
  | .notFound => detail 404 (.text "Not Found")
  | .moved => .answer 307 none
  | .badMethod => detail 405 (.text "Method Not Allowed")
  | .unreadable => detail 400 (.text "There was an error parsing the body")
  | .invalid complaints => .invalid complaints

def ofCompileFault (fault : CompileFault) : Reply :=
  detail 422 (.record [
    ("message", .text fault.message), ("nodeId", Snapshot.idValue fault.block?),
    ("edgeId", Snapshot.idValue fault.edge?)])

end Reply

/-! ### Values in replies -/

def offerValue (offer : Preview.Offer) : Value :=
  .record [("text", .text offer.label), ("tag", .text offer.tag)]

def entryValue (entry : Preview.Entry) : Value :=
  .record [
    ("sender", .text entry.sender.name), ("text", .text entry.text),
    ("buttons", .list (entry.buttons.map offerValue)),
    ("options", .list (entry.options.map .text)), ("image", Snapshot.idValue entry.image)]

def sessionValue (session : Preview.Session) : Value :=
  .record [
    ("transcript", .list (session.transcript.toList.map entryValue)),
    ("current", Snapshot.idValue session.current),
    ("waiting", Snapshot.idValue (session.waiting.map Preview.Waiting.name)),
    ("variables", .record session.bindings),
    ("cart", .record (session.cart.map fun item => (item.1, .int item.2)))]

mutual

/-- A value with null for every number that is not finite, as replies are written. -/
def finiteValue : Value → Value
  | .real x => if x.value.isFinite then .real x else .null
  | .list items => .list (finiteItems items)
  | .record fields => .record (finiteFields fields)
  | value => value

/-- The same for the items of a list. -/
def finiteItems : List Value → List Value
  | [] => []
  | item :: rest => finiteValue item :: finiteItems rest

/-- The same for the fields of a record. -/
def finiteFields : Fields → Fields
  | [] => []
  | (name, value) :: rest => (name, finiteValue value) :: finiteFields rest

end

def Reply.written : Reply → Reply
  | answer status body => .answer status (body.map finiteValue)
  | reply => reply

end DialogGraph.Editor
