/-!
# Transcripts

What was said in a preview.
-/

namespace DialogGraph.Preview

/-- Who speaks. The system speaks where a real conversation would be silent. -/
inductive Sender where
  | bot
  | user
  | system
  deriving Repr, DecidableEq

def Sender.name : Sender → String
  | bot => "bot"
  | user => "user"
  | system => "system"

/-- A button below a text: what it shows, and the tag it sends when it is pressed. -/
structure Offer where
  label : String
  tag : String
  deriving Repr, DecidableEq

structure Entry where
  sender : Sender
  text : String
  buttons : List Offer := []
  options : List String := []
  image : Option String := none
  deriving Repr, DecidableEq

inductive Waiting where
  | input
  | callback
  deriving Repr, DecidableEq

def Waiting.name : Waiting → String
  | input => "input"
  | callback => "callback"

/-- One step of a run, as told to those who watch it. -/
inductive Trace where
  | started (block : String)
  | running (block : String)
  | suspended (block : String) (waiting : Waiting)
  | failed (block error : String)
  | followed (source port target : String)
  | idle
  deriving Repr, DecidableEq

end DialogGraph.Preview
