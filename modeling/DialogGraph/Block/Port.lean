import DialogGraph.Block.Settings
import DialogGraph.Text.Blank

/-!
# Ports

A block is left through one of its ports. Most kinds have a single port; those of an inline
keyboard are the tags of its buttons, those of an order confirmation the buttons it shows.
-/

namespace DialogGraph

open DialogGraph.Text

/-- The port of a block that goes on in one way only. -/
def defaultPort : String := "default"

def bodyPort : String := "loop_body"

def truePort : String := "true"

def falsePort : String := "false"

/-- Adds a port unless it is empty or there already. -/
def addPort (ports : List String) (port : String) : List String :=
  if port.isEmpty || ports.contains port then ports else ports ++ [port]

/-- The ports of a keyboard: the tags of its buttons without outer blanks, each once. -/
def keyboardPorts (buttons : List Button) : List String :=
  (buttons.map fun button => trim button.tag).foldl addPort []

def orderPorts (settings : OrderConfirmSettings) : List String :=
  [("confirm", settings.showConfirm), ("edit", settings.showEdit),
    ("cancel", settings.showCancel)].filterMap fun port =>
      if port.2 then some port.1 else none

def Config.ports : Config → List String
  | ⟨.condition, _⟩ => [truePort, falsePort]
  | ⟨.loop, _⟩ => [defaultPort, bodyPort]
  | ⟨.inlineKeyboard, settings⟩ => keyboardPorts (InlineKeyboardSettings.buttons settings)
  | ⟨.orderConfirm, settings⟩ => orderPorts settings
  | _ => [defaultPort]

/-- A button that may be pressed while the conversation waits at a block: pressing the tag leaves
through the port. -/
structure Route where
  block : String
  port : String
  tag : String
  deriving Repr, DecidableEq

def orderTag (port : String) : String := port ++ "_order"

def orderLabels : List (String × String) := [
  ("confirm", "✅ Confirm"), ("edit", "✏️ Edit"), ("cancel", "❌ Cancel")]

def orderLabel (port : String) : String := (Assoc.get? orderLabels port).getD ""

/-- The buttons of a block, with the block's id. -/
def Config.routes (block : String) (config : Config) : List Route :=
  match config.kind with
  | .inlineKeyboard => config.ports.map fun port => ⟨block, port, port⟩
  | .orderConfirm => config.ports.map fun port => ⟨block, port, orderTag port⟩
  | _ => []

def Kind.portsDependOnSettings : Kind → Bool
  | .inlineKeyboard | .orderConfirm => true
  | _ => false

/-- The port names of an order confirmation in older flows, with those of today. -/
def legacyOrderPorts : List (String × String) := [
  ("confirm_order", "confirm"), ("edit_order", "edit"), ("cancel_order", "cancel")]

end DialogGraph
