import DialogGraph.Block.Settings
import DialogGraph.Script.Condition
import DialogGraph.Script.Quantity
import DialogGraph.Script.Template
import DialogGraph.Text.Items
import DialogGraph.Value.Equality
import DialogGraph.Value.Key

/-!
# Loops

A loop runs its body a number of times, while a condition holds, or for each item of a list. What
it has done so far is kept in a frame.
-/

namespace DialogGraph.Loop

open DialogGraph.Text

/-- What a loop does. An unknown mode counts. The names of its variables are texts, unless the data
that the plan is taken from is loose. -/
structure Plan where
  mode : LoopMode
  count : Value
  counterVariable : Value
  whileVariable : Value
  whileCondition : Option Comparison
  whileValue : Value
  listItems : Value
  listVariable : Value

def planOf (settings : LoopSettings) : Plan where
  mode := settings.mode
  count := .int settings.count
  counterVariable := .text settings.counterVariable
  whileVariable := .text settings.whileVariable
  whileCondition := some settings.whileCondition
  whileValue := .text settings.whileValue
  listItems := .text settings.listItems
  listVariable := .text settings.listVariable

/-- A field that should be a text; anything else is empty. -/
def textField (data : Fields) (name : String) : String :=
  match Assoc.get? data name with
  | some (.text s) => s
  | _ => ""

/-- The plan in loose data. Without a condition texts are compared for equality. -/
def planOfFields (data : Fields) : Plan where
  mode := (Tagged.ofTag? (textField data "loop_type")).getD .count
  count := (Assoc.get? data "count").getD (.int 0)
  counterVariable := (Assoc.get? data "counter_variable").getD .null
  whileVariable := (Assoc.get? data "while_variable").getD (.text "")
  whileCondition :=
    if Assoc.contains data "while_condition" then
      Tagged.ofTag? (textField data "while_condition")
    else some .equals
  whileValue := (Assoc.get? data "while_value").getD (.text "")
  listItems := (Assoc.get? data "list_items").getD (.text "")
  listVariable := (Assoc.get? data "list_variable").getD .null

/-- Why a loop cannot go on. -/
inductive Fault where
  | text (fault : TextFault)
  /-- A value cannot name a variable. -/
  | name (fault : KeyFault)
  deriving Repr, DecidableEq

def Fault.message : Fault → String
  | text fault => fault.message
  | name fault => fault.message

/-! ### Variables -/

/-- The variables that a loop sees: those named by texts, and those named by other values. -/
structure Scope where
  bindings : Fields
  others : List (Value × Value) := []

namespace Scope

/-- Binds a name that is no text; a name bound again keeps its place. -/
def bindOther (name value : Value) : List (Value × Value) → List (Value × Value)
  | [] => [(name, value)]
  | entry :: rest =>
    if entry.1.equal name then (entry.1, value) :: rest else entry :: bindOther name value rest

def get? (scope : Scope) (name : Value) : Except Fault (Option Value) :=
  match name.keyFault?, name with
  | some fault, _ => .error (.name fault)
  | none, .text s => .ok (Assoc.get? scope.bindings s)
  | none, name =>
    .ok ((scope.others.find? fun entry => entry.1.equal name).map Prod.snd)

/-- Binds a variable, unless its name counts as none. -/
def bind (scope : Scope) (name value : Value) : Except Fault Scope :=
  if !name.isTruthy then .ok scope
  else
    match name.keyFault?, name with
    | some fault, _ => .error (.name fault)
    | none, .text s => .ok { scope with bindings := Assoc.insert scope.bindings s value }
    | none, name => .ok { scope with others := bindOther name value scope.others }

end Scope

/-! ### Rounds -/

/-- What a running loop has done: how often its body was entered, and the items it runs over. -/
structure Frame where
  block : String
  iteration : Nat
  items : List String
  deriving Repr, DecidableEq, Inhabited

/-- Begins a loop. The items of a list are fixed now. -/
def start (block : String) (plan : Plan) (bindings : Fields) : Except TextFault Frame :=
  if plan.mode = .list then do
    let text ← Template.fillValue plan.listItems bindings
    return ⟨block, 0, itemsOf text⟩
  else .ok ⟨block, 0, []⟩

/-- The most rounds of a loop that runs while a condition holds. -/
def whileLimit : Nat := 100

/-- Enters the next round: the counter is bound after the item. -/
def enter (plan : Plan) (frame : Frame) (scope : Scope) : Except Fault (Frame × Scope) := do
  let scope ← scope.bind plan.counterVariable (.int (frame.iteration + 1))
  return ({ frame with iteration := frame.iteration + 1 }, scope)

/-- Whether the condition of a loop holds. -/
def holds (plan : Plan) (scope : Scope) : Except Fault Bool := do
  let actual := (← scope.get? plan.whileVariable).getD (.text "")
  let compared : Except TextFault Bool := do
    let expected ← Template.fillValue plan.whileValue scope.bindings
    compareValues plan.whileCondition actual (.text expected)
  compared.mapError .text

/-- Decides on the next round: its frame and variables, or `none` when the loop is finished. -/
def advance (plan : Plan) (frame : Frame) (scope : Scope) :
    Except Fault (Option (Frame × Scope)) :=
  match plan.mode with
  | .whilst =>
    if frame.iteration < whileLimit then do
      if ← holds plan scope then return some (← enter plan frame scope) else return none
    else .ok none
  | .list =>
    match frame.items[frame.iteration]? with
    | some item => do
      let scope ← scope.bind plan.listVariable (.text item)
      return some (← enter plan frame scope)
    | none => .ok none
  | .count =>
    if (frame.iteration : Int) < plan.count.wholeOr 0 then do
      return some (← enter plan frame scope)
    else .ok none

end DialogGraph.Loop
