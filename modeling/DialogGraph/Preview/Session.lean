import DialogGraph.Completion
import DialogGraph.Preview.Transcript
import DialogGraph.Script.Cart
import DialogGraph.Script.Catalog
import DialogGraph.Script.Formula
import DialogGraph.Script.Loop

/-!
# Sessions

The state of a previewed conversation, and the actions of which the visits to blocks are made. An
action may fail; what it did before stays done.
-/

namespace DialogGraph.Preview

/-- What a run asked of the world outside, and what it told those who watch it. -/
structure Journal where
  sleeps : Array Int := #[]
  requests : Array Completion.Request := #[]
  trace : Array Trace := #[]

structure Session where
  transcript : Array Entry := #[]
  bindings : Fields := []
  cart : Cart := []
  /-- The block where the conversation is. -/
  current : Option String := none
  waiting : Option Waiting := none
  /-- How many fields of the current form are answered. -/
  formIndex : Nat := 0
  /-- The loops under way, innermost first. -/
  frames : List Loop.Frame := []
  /-- The records saved; they outlast the conversation. -/
  store : Fields := []
  journal : Journal := {}

namespace Session

/-- A new conversation with the records of an old one. -/
def restart (session : Session) : Session :=
  { store := session.store, journal := session.journal }

def enter (session : Session) (entry : Entry) : Session :=
  { session with transcript := session.transcript.push entry }

def say (session : Session) (text : String) (buttons : List Offer) : Session :=
  session.enter { sender := .bot, text := text, buttons := buttons }

def note (session : Session) (text : String) : Session :=
  session.enter { sender := .system, text := text }

def tell (session : Session) (event : Trace) : Session :=
  { session with journal := { session.journal with trace := session.journal.trace.push event } }

def bind (session : Session) (name : String) (value : Value) : Session :=
  { session with bindings := Assoc.insert session.bindings name value }

def value? (session : Session) (name : String) : Option Value :=
  Assoc.get? session.bindings name

/-- The value of a variable; the empty text if it is not bound. -/
def valueOrEmpty (session : Session) (name : String) : Value :=
  (session.value? name).getD (.text "")

def botTexts (session : Session) : List String :=
  (session.transcript.toList.filter fun entry => entry.sender == .bot).map Entry.text

end Session

inductive Failure where
  | text (fault : TextFault)
  | range (fault : RangeFault)
  | formula (fault : Formula.Fault)
  | catalog (fault : Catalog.Fault)
  | product (fault : Catalog.ProductFault)
  | loop (fault : Loop.Fault)
  /-- The world outside fails. -/
  | world (reason : String)
  deriving Repr, DecidableEq

def Failure.message : Failure → String
  | text fault => fault.message
  | range fault => fault.message
  | formula fault => fault.message
  | catalog fault => fault.message
  | product fault => fault.message
  | loop fault => fault.message
  | world reason => reason

/-- The world outside: how completions are made, how time passes, and what room there is for
formulas. -/
structure World where
  complete : Completion.Request → Except String String
  sleep : Int → Except String Unit
  room : Formula.Room := .usual

/-- A part of a visit: it changes the session, and may fail. -/
abbrev Act := ExceptT Failure (StateM Session)

instance : MonadLift (Except TextFault) Act where
  monadLift result := fun session => (result.mapError .text, session)

instance : MonadLift (Except RangeFault) Act where
  monadLift result := fun session => (result.mapError .range, session)

instance : MonadLift (Except Formula.Fault) Act where
  monadLift result := fun session => (result.mapError .formula, session)

instance : MonadLift (Except Catalog.Fault) Act where
  monadLift result := fun session => (result.mapError .catalog, session)

instance : MonadLift (Except Catalog.ProductFault) Act where
  monadLift result := fun session => (result.mapError .product, session)

instance : MonadLift (Except Loop.Fault) Act where
  monadLift result := fun session => (result.mapError .loop, session)

namespace Act

def say (text : String) (buttons : List Offer := []) : Act Unit :=
  modify fun session => session.say text buttons

def note (text : String) : Act Unit := modify fun session => session.note text

def await (waiting : Waiting) : Act Unit :=
  modify fun session => { session with waiting := some waiting }

/-- Binds a variable, unless it has no name. -/
def bindNamed (name : String) (value : Value) : Act Unit :=
  modify fun session =>
    if name.isEmpty then session else session.bind name value

def filled (text : String) : Act String := do
  let session ← get
  Template.fill text session.bindings

def sleep (world : World) (seconds : Int) : Act Unit := do
  modify fun session =>
    { session with
      journal := { session.journal with sleeps := session.journal.sleeps.push seconds } }
  match world.sleep seconds with
  | .ok () => pure ()
  | .error reason => throw (.world reason)

def complete (world : World) (request : Completion.Request) : Act String := do
  modify fun session =>
    { session with
      journal := { session.journal with requests := session.journal.requests.push request } }
  match world.complete request with
  | .ok text => pure text
  | .error reason => throw (.world reason)

end Act

end DialogGraph.Preview
