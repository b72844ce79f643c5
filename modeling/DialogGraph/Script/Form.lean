import DialogGraph.Block.Option
import DialogGraph.Value.Key
import DialogGraph.Value.Text

/-!
# Forms

The wording of an intake form.
-/

namespace DialogGraph.Form

/-- What a field asks for. -/
def label : FormFieldType → String
  | .name => "your name"
  | .phone => "your phone number"
  | .email => "your email"
  | .address => "the delivery address"
  | .comment => "a comment"

/-- The request for what a text names: the label of a known field type, otherwise the text. -/
def promptFor (type : String) : String :=
  "Please enter " ++ ((Tagged.ofTag? type : Option FormFieldType).map label).getD type ++ ":"

/-- Why there is no request for what a value names. -/
inductive Fault where
  | text (fault : TextFault)
  /-- The value cannot be looked up. -/
  | key (fault : KeyFault)
  deriving Repr, DecidableEq

/-- The wording of the fault. -/
def Fault.message : Fault → String
  | text fault => fault.message
  | key fault => fault.message

/-- The request for what any value names. -/
def promptForValue (type : Value) : Except Fault String :=
  match type.keyFault? with
  | some fault => .error (.key fault)
  | none => (type.display.map promptFor).mapError .text

/-- The request for a field of the given type. -/
def prompt (type : FormFieldType) : String := promptFor (Tagged.tag type)

/-- What is said when a form is filled in, unless the form has its own words. -/
def successText : String := "Thank you! Your details have been received."

end DialogGraph.Form
