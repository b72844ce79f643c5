import DialogGraph.Flow.Fault

/-!
# Editing flows

Blocks are created, moved, set and deleted, edges connected and disconnected. Two rules hold
throughout: a block has at most one edge into it, and a port carries at most one edge.
-/

namespace DialogGraph.Flow

open DialogGraph.Number DialogGraph.Text

/-! ### Blocks -/

def blockId (n : Nat) : Except Fault String :=
  match integerText n with
  | .ok digits => .ok ("block_" ++ digits)
  | .error fault => .error (.text fault)

/-- The first unused block number after `n`. At most as many numbers are tried as there are blocks,
and one more. -/
def freeNumber (flow : Flow) : Nat → Nat → Nat
  | 0, n => n + 1
  | steps + 1, n =>
    match blockId (n + 1) with
    | .ok id => if flow.hasBlock id then freeNumber flow steps (n + 1) else n + 1
    | .error _ => n + 1

def addBlock (flow : Flow) (block : Block) : Flow :=
  { flow with blocks := flow.blocks ++ [block] }

def createNew (flow : Flow) (config : Config) (x y : Value) : Outcome (Except Fault String) :=
  let number := freeNumber flow flow.blocks.length flow.blockCounter
  let counted := { flow with blockCounter := number }
  match blockId number with
  | .error fault => ⟨counted, [], .error fault⟩
  | .ok id => ⟨counted.addBlock (Block.create id config x y), [.created id], .ok id⟩

def create (flow : Flow) (kind : Kind) (x y : Value) : Outcome (Except Fault String) :=
  flow.createNew (Config.initial kind) x y

def createAs (flow : Flow) (id : String) (config : Config) (x y : Value) :
    Outcome (Except Fault String) :=
  if flow.hasBlock id then ⟨flow, [], .error (.duplicateBlock id)⟩
  else ⟨flow.addBlock (Block.create id config x y), [.created id], .ok id⟩

def move (flow : Flow) (id : String) (x y : Value) : Except Rejection Flow :=
  if flow.hasBlock id then
    .ok (flow.modify id fun block => { block with x := x, y := y })
  else .error (.noBlock id)

/-! ### Edges -/

/-- Whether a text is a row of digits, styled digits included. -/
def isDigits (s : String) : Bool := !s.isEmpty && s.toList.all isDigitLike

/-- What the ids of edges begin with. -/
def edgeIdStart : String := "conn_"

/-- The number in the id of an edge, if it has one. -/
def edgeNumber? (id : String) : Option (Except IntegerFault Nat) :=
  if edgeIdStart.toList.isPrefixOf id.toList then
    let number := String.ofList (id.toList.drop edgeIdStart.length)
    if isDigits number then some ((readInteger number).map Int.toNat) else none
  else none

/-- Why an edge may not be added, if there is a reason. -/
def objection (flow : Flow) (source port target : String) : Option Rejection :=
  match flow.block? source, flow.block? target with
  | none, _ => some (.noSource source)
  | _, none => some (.noTarget target)
  | some sourceBlock, some targetBlock =>
    if source = target then some .selfConnection
    else if targetBlock.kind = .start then some .entersStart
    else if !Assoc.contains sourceBlock.outputs port then some (.noPort source port)
    else if (sourceBlock.targetOf port).isSome || (flow.edgeOnPort? source port).isSome then
      some (.portTaken source port)
    else if targetBlock.input.isSome || (flow.incoming? target).isSome then
      some (.inputTaken target)
    else none

/-- Adds an edge and fills its two slots. -/
def attach (flow : Flow) (edge : Edge) : Flow :=
  let listed := { flow with edges := flow.edges ++ [edge] }
  let left := listed.modify edge.source fun block => block.setOutput edge.port (some edge.target)
  left.modify edge.target fun block => { block with input := some edge.source }

/-- Gives out the id of a new edge: the wanted one if it is free, otherwise the next number. A
wanted id with a number moves the counter up to it. -/
def edgeIdFor (flow : Flow) (wanted : Option String) : Flow × Except Fault String :=
  let free := wanted.filter fun id => (flow.edge? id).isNone
  match free with
  | none =>
    let counted := { flow with edgeCounter := flow.edgeCounter + 1 }
    match integerText counted.edgeCounter with
    | .ok digits => (counted, .ok (edgeIdStart ++ digits))
    | .error fault => (counted, .error (.text fault))
  | some id =>
    match edgeNumber? id with
    | none => (flow, .ok id)
    | some (.ok n) => ({ flow with edgeCounter := max flow.edgeCounter n }, .ok id)
    | some (.error fault) => (flow, .error (.integer fault))

/-- The result of connecting: the id of the new edge, unless the edge is turned down. -/
abbrev Connected := Except Fault (Except Rejection String)

def connect (flow : Flow) (source port target : String) (wanted : Option String) :
    Outcome Connected :=
  match flow.objection source port target with
  | some reason => ⟨flow, [], .ok (.error reason)⟩
  | none =>
    match flow.edgeIdFor wanted with
    | (counted, .error fault) => ⟨counted, [], .error fault⟩
    | (counted, .ok id) =>
      let edge : Edge := ⟨id, source, port, target⟩
      ⟨counted.attach edge, [.connected edge], .ok (.ok id)⟩

/-- Clears the two slots of an edge, where they still hold it. -/
def clearSlots (flow : Flow) (edge : Edge) : Flow :=
  let left := flow.modify edge.source fun block =>
    if block.targetOf edge.port = some edge.target then block.setOutput edge.port none else block
  left.modify edge.target fun block =>
    if block.input = some edge.source then { block with input := none } else block

/-- Takes an edge off the list; its slots stay. -/
def dropEdge (flow : Flow) (edge : Edge) : Flow :=
  { flow with edges := flow.edges.erase edge }

/-- Takes an edge off the list and clears its slots. -/
def detach (flow : Flow) (edge : Edge) : Flow := (flow.dropEdge edge).clearSlots edge

/-- Disconnects the first edge with a given id. -/
def disconnect (flow : Flow) (id : String) : Except Rejection (Flow × List Event) :=
  match flow.edge? id with
  | none => .error (.noEdge id)
  | some edge => .ok (flow.detach edge, [.disconnected edge])

/-- Disconnects edges by their ids, one after the other. -/
def disconnectAll (flow : Flow) (edges : List Edge) : Flow × List Event :=
  edges.foldl (fun state edge =>
    match state.1.disconnect edge.id with
    | .ok (flow, events) => (flow, state.2 ++ events)
    | .error _ => state) (flow, [])

def delete (flow : Flow) (id : String) : Except Rejection (Flow × List Event) :=
  if flow.hasBlock id then
    let (flow, events) := flow.disconnectAll (flow.edgesTouching id)
    .ok ({ flow with blocks := flow.blocks.filter fun block => block.id != id }, events)
  else .error (.noBlock id)

end DialogGraph.Flow
