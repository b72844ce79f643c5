import DialogGraph.Assoc
import DialogGraph.Block.Port
import DialogGraph.Script.Quantity

/-!
# Flows

A flow is a graph of blocks. An edge leads from a port of one block to another block. The wiring is
held twice: as the list of edges, and in the slots of the blocks, where every block knows its
predecessor and what each of its ports leads to. The operations on flows keep the two in step.
-/

namespace DialogGraph

/-- A connection from a port of one block to another block. -/
structure Edge where
  id : String
  source : String
  port : String
  target : String
  deriving Repr, DecidableEq, Inhabited

def Edge.shown (edge : Edge) : String :=
  "Edge(" ++ edge.id ++ ": " ++ edge.source ++ "." ++ edge.port ++ " -> " ++ edge.target ++ ")"

/-- The output slots of a block: what each port leads to, if anything. -/
abbrev Slots := List (String × Option String)

/-- A block of a flow with its place on the canvas and its slots. -/
@[ext]
structure Block where
  id : String
  config : Config
  x : Value
  y : Value
  /-- The block that leads here. -/
  input : Option String
  outputs : Slots
  deriving Inhabited

namespace Block

def kind (block : Block) : Kind := block.config.kind

def openSlots (ports : List String) : Slots := ports.map fun port => (port, none)

/-- A block without connections. -/
def create (id : String) (config : Config) (x y : Value) : Block :=
  ⟨id, config, x, y, none, openSlots config.ports⟩

def targetOf (block : Block) (port : String) : Option String :=
  (Assoc.get? block.outputs port).join

def setOutput (block : Block) (port : String) (target : Option String) : Block :=
  { block with outputs := Assoc.insert block.outputs port target }

/-- Marks what is new in a block. -/
def mark (n : Nat) (block : Block) : Block :=
  { block with config := block.config.mark n, x := block.x.mark n, y := block.y.mark n }

def shown (block : Block) : String :=
  "FlowNode(" ++ block.id ++ ", " ++ block.kind.name ++ ")"

end Block

/-- A flow: its blocks and edges in order, and how many ids of each sort were given out. -/
structure Flow where
  blocks : List Block
  edges : List Edge
  blockCounter : Nat
  edgeCounter : Nat
  deriving Inhabited

namespace Flow

def empty : Flow := ⟨[], [], 0, 0⟩

def block? (flow : Flow) (id : String) : Option Block :=
  flow.blocks.find? fun block => block.id == id

def hasBlock (flow : Flow) (id : String) : Bool := (flow.block? id).isSome

def edge? (flow : Flow) (id : String) : Option Edge :=
  flow.edges.find? fun edge => edge.id == id

def edgeOnPort? (flow : Flow) (id port : String) : Option Edge :=
  flow.edges.find? fun edge => edge.source == id && edge.port == port

def incoming? (flow : Flow) (id : String) : Option Edge :=
  flow.edges.find? fun edge => edge.target == id

def edgesTouching (flow : Flow) (id : String) : List Edge :=
  flow.edges.filter fun edge => edge.source == id || edge.target == id

/-- The blocks where a conversation can begin. -/
def starts (flow : Flow) : List Block :=
  flow.blocks.filter fun block => block.kind == .start

def modify (flow : Flow) (id : String) (f : Block → Block) : Flow :=
  { flow with blocks := flow.blocks.map fun block => if block.id = id then f block else block }

/-- Marks what is new in a flow. -/
def mark (n : Nat) (flow : Flow) : Flow :=
  { flow with blocks := flow.blocks.map (Block.mark n) }

end Flow

/-- What listeners of a flow are told. -/
inductive Event where
  | created (id : String)
  | connected (edge : Edge)
  | disconnected (edge : Edge)
  | configured (id field : String)
  deriving Repr, DecidableEq

end DialogGraph
