import DialogGraph.Text.Blank
import DialogGraph.Text.Case
import DialogGraph.Value.Text

/-!
# Kinds of blocks

A flow is made of nineteen kinds of blocks. Each has a tag, under which it is saved, and a name.
A kind is recognised by its tag, or by its name in any letter case with hyphens for underscores.
-/

namespace DialogGraph

open DialogGraph.Text

inductive Kind where
  | start
  | message
  | question
  | choice
  | condition
  | delay
  | setVariable
  | loop
  | sendImage
  | inlineKeyboard
  | compute
  | cartOp
  | payment
  | recordStore
  | catalog
  | intakeForm
  | notify
  | orderConfirm
  | llmPrompt
  deriving Repr, DecidableEq, Inhabited

namespace Kind

def all : List Kind := [
  start, message, question, choice, condition, delay, setVariable, loop, sendImage,
  inlineKeyboard, compute, cartOp, payment, recordStore, catalog, intakeForm, notify,
  orderConfirm, llmPrompt]

/-- The tag under which a kind is saved. -/
def tag : Kind → String
  | start => "start"
  | message => "message"
  | question => "question"
  | choice => "choice"
  | condition => "condition"
  | delay => "delay"
  | setVariable => "variable"
  | loop => "loop"
  | sendImage => "image"
  | inlineKeyboard => "inline_keyboard"
  | compute => "calculation"
  | cartOp => "cart"
  | payment => "payment"
  | recordStore => "database"
  | catalog => "catalog"
  | intakeForm => "order_form"
  | notify => "notification"
  | orderConfirm => "order_confirm"
  | llmPrompt => "chatgpt"

def name : Kind → String
  | start => "START"
  | message => "MESSAGE"
  | question => "QUESTION"
  | choice => "CHOICE"
  | condition => "CONDITION"
  | delay => "DELAY"
  | setVariable => "SET_VARIABLE"
  | loop => "LOOP"
  | sendImage => "SEND_IMAGE"
  | inlineKeyboard => "INLINE_KEYBOARD"
  | compute => "COMPUTE"
  | cartOp => "CART_OP"
  | payment => "PAYMENT"
  | recordStore => "RECORD_STORE"
  | catalog => "CATALOG"
  | intakeForm => "INTAKE_FORM"
  | notify => "NOTIFY"
  | orderConfirm => "ORDER_CONFIRM"
  | llmPrompt => "LLM_PROMPT"

/-- The spelling under which a name is looked up: without outer blanks, in capitals, with
underscores for hyphens. -/
def nameKey (s : String) : String :=
  String.ofList (((trimWith isBlank s.toList).flatMap capitalForm).map fun c =>
    if c == '-' then '_' else c)

def ofText? (s : String) : Option Kind :=
  match all.find? (fun kind => kind.tag == s) with
  | some kind => some kind
  | none => all.find? fun kind => kind.name == nameKey s

/-- Why a value is no kind. -/
inductive Fault where
  /-- Nothing of that name; the value is given as it is shown. -/
  | unknown (shown : String)
  /-- The value cannot even be shown. -/
  | unshowable (fault : TextFault)
  deriving Repr, DecidableEq

def Fault.message : Fault → String
  | unknown shown => "Unknown node kind: " ++ shown
  | unshowable fault => fault.message

def ofValue (value : Value) : Except Fault Kind :=
  let found := match value with
    | .text s => ofText? s
    | _ => none
  match found with
  | some kind => .ok kind
  | none =>
    match value.quoted with
    | .ok shown => .error (.unknown shown)
    | .error fault => .error (.unshowable fault)

end Kind

end DialogGraph
