import DialogGraph.Flow.Basic

/-!
# Bots

A bot is what a program is made from: a flow with exactly one beginning in which every edge and
every slot leads somewhere, together with a name and a token.
-/

namespace DialogGraph.Program

open DialogGraph.Number

/-- Why a flow is no bot. -/
inductive CompileFault where
  | noStart
  | severalStarts (count : Nat) (second : String)
  | missingSource (edge : Edge)
  | missingTarget (edge : Edge)
  | noPort (edge : Edge) (kind : Kind)
  | entersStart (edge : Edge)
  | danglingSlot (block port target : String)
  deriving Repr, DecidableEq

namespace CompileFault

def message : CompileFault → String
  | noStart => "The flow has no start node"
  | severalStarts count _ =>
    "The flow has " ++ natText count ++ " start nodes; exactly one is required"
  | missingSource edge =>
    "Connection " ++ edge.id ++ " starts at missing node '" ++ edge.source ++ "'"
  | missingTarget edge =>
    "Connection " ++ edge.id ++ " points at missing node '" ++ edge.target ++ "'"
  | noPort edge kind =>
    "Connection " ++ edge.id ++ " uses port '" ++ edge.port ++ "' which node " ++ edge.source ++
      " (" ++ kind.tag ++ ") does not have"
  | entersStart edge => "Connection " ++ edge.id ++ " points into the start node"
  | danglingSlot block port target =>
    "Port '" ++ port ++ "' of node " ++ block ++ " points at missing node '" ++ target ++ "'"

/-- The block at fault, if it is one. -/
def block? : CompileFault → Option String
  | severalStarts _ second => some second
  | noPort edge _ => some edge.source
  | entersStart edge => some edge.target
  | danglingSlot block _ _ => some block
  | _ => none

/-- The edge at fault, if it is one. -/
def edge? : CompileFault → Option String
  | missingSource edge | missingTarget edge | noPort edge _ | entersStart edge => some edge.id
  | _ => none

end CompileFault

structure Row where
  id : String
  config : Config
  outputs : Slots

namespace Row

/-- The port by which each tag leaves the block. -/
def callbacks (row : Row) : List (String × String) :=
  Assoc.ofList ((row.config.routes row.id).map fun route => (route.tag, route.port))

def slotValue : Option String → Value
  | some target => .text target
  | none => .null

def toValue (row : Row) : Value := .record [
  ("id", .text row.id),
  ("type", .text row.config.kind.tag),
  ("config", .record row.config.toFields),
  ("outputs", .record (row.outputs.map fun slot => (slot.1, slotValue slot.2))),
  ("callbacks", .record (row.callbacks.map fun callback => (callback.1, .text callback.2)))]

end Row

/-- A bot: all blocks but the one where it begins, and the first of them to be visited. -/
structure Bot where
  name : String
  token : String
  entry : Option String
  greeting : String
  rows : List Row

namespace Bot

def defaultName : String := "MyBot"

def defaultToken : String := "YOUR_BOT_TOKEN"

def kinds (bot : Bot) : List Kind := (bot.rows.map fun row => row.config.kind).eraseDups

def table (bot : Bot) : Value := .record (bot.rows.map fun row => (row.id, row.toValue))

/-- Whether an edge leads from a port of a block to a block that may be entered. -/
def checkEdge (flow : Flow) (edge : Edge) : Except CompileFault Unit :=
  match flow.block? edge.source, flow.block? edge.target with
  | none, _ => .error (.missingSource edge)
  | _, none => .error (.missingTarget edge)
  | some source, some target =>
    if !source.config.ports.contains edge.port then .error (.noPort edge source.kind)
    else if target.kind = .start then .error (.entersStart edge)
    else .ok ()

/-- Whether a slot is open or leads to a block. -/
def checkSlot (flow : Flow) (block : Block) (slot : String × Option String) :
    Except CompileFault Unit :=
  match slot.2 with
  | some target =>
    if flow.hasBlock target then .ok () else .error (.danglingSlot block.id slot.1 target)
  | none => .ok ()

def greetingOf : Config → String
  | ⟨.start, settings⟩ => StartSettings.message settings
  | _ => ""

def ofFlow (flow : Flow) (name token : String) : Except CompileFault Bot :=
  match flow.starts with
  | [] => .error .noStart
  | _ :: second :: rest => .error (.severalStarts (rest.length + 2) second.id)
  | [start] => do
    flow.edges.forM (checkEdge flow)
    flow.blocks.forM fun block => block.outputs.forM (checkSlot flow block)
    let others := flow.blocks.filter fun block => block.kind != .start
    return {
      name := name
      token := token
      entry := start.targetOf defaultPort
      greeting := greetingOf start.config
      rows := others.map fun block => ⟨block.id, block.config, block.outputs⟩ }

end Bot

end DialogGraph.Program
