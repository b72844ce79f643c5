import DialogGraph.Flow.Repair
import DialogGraph.Snapshot.Schema

/-!
# Loading snapshots

A snapshot whose shape is right is loaded as far as it makes sense: settings that cannot be read
fall back to their initial values, blocks of unknown kinds are left out, and edges that do not fit
are dropped. Each loss is noted.
-/

namespace DialogGraph

open DialogGraph.Number DialogGraph.Text

/-- A loss in loading. -/
inductive Notice where
  | rejectedFields (kind : Kind) (names : List String)
  | skippedBlock (id : String) (type : String)
  | droppedConnection (shown : String) (reason : Rejection)
  | droppedEdge (edge : Edge) (reason : Flow.Misfit)

namespace Notice

def origin : Notice → String
  | rejectedFields .. => "botflow.core.NodeCatalog"
  | skippedBlock .. => "botflow.core.Snapshot"
  | droppedConnection .. => "botflow.core.Snapshot"
  | droppedEdge .. => "botflow.core.Normalizer"

/-- Names in quotes as a list in alphabetical order. -/
def quotedNames (names : List String) : String :=
  "[" ++ ", ".intercalate ((names.mergeSort fun a b => a ≤ b).map quote) ++ "]"

def message : Notice → String
  | rejectedFields kind names =>
    kind.settingsTitle ++ ": dropping invalid fields " ++ quotedNames names
  | skippedBlock id type =>
    "skipping block " ++ id ++ ": " ++ (Kind.Fault.unknown (quote type)).message
  | droppedConnection shown reason => "dropping connection " ++ shown ++ ": " ++ reason.message
  | droppedEdge edge reason =>
    "normalize: dropping " ++ edge.shown ++ " (" ++ reason.message ++ ")"

end Notice

namespace Snapshot

/-- The keys of a block that are not its settings. -/
def reservedKeys : List String := ["id", "type", "x", "y", "connections"]

/-- A connection as a snapshot names it. -/
structure Wire where
  id : Option String
  source : String
  port : String
  target : String
  /-- The connection as it was given. -/
  given : Value

def textOf (data : Fields) (name : String) : Option String :=
  match Assoc.get? data name with
  | some (.text s) => some s
  | _ => none

def wireOf? : Value → Option Wire
  | .record data => do
    let source ← textOf data "from"
    let port ← textOf data "fromPort"
    let target ← textOf data "to"
    return ⟨textOf data "id", source, port, target, .record data⟩
  | _ => none

/-- The output slots that a block was saved with. -/
def savedOutputs (block : Value) : Fields :=
  match block with
  | .record data =>
    match Assoc.get? data "connections" with
    | some (.record slots) =>
      match Assoc.get? slots "outputs" with
      | some (.record outputs) => outputs
      | _ => []
    | _ => []
  | _ => []

/-- The connection of an output slot, if the slot names a block. -/
def wireOfSlot? (id : String) (slot : String × Value) : Option Wire :=
  match slot.2 with
  | .text target =>
    if target.isEmpty then none
    else some ⟨none, id, slot.1, target,
      .record [("from", .text id), ("fromPort", .text slot.1), ("to", .text target)]⟩
  | _ => none

/-- The connections that the slots of the blocks name. -/
def wiresOfSlots (blocks : Fields) : List Wire :=
  blocks.flatMap fun entry => (savedOutputs entry.2).filterMap (wireOfSlot? entry.1)

/-- The connections of a snapshot: its list, or if that is empty the slots of its blocks. -/
def wires (parts : Parts) : List Wire :=
  if parts.connections.isEmpty then wiresOfSlots parts.blocks
  else parts.connections.filterMap wireOf?

structure Progress where
  flow : Flow
  events : List Event
  notices : List Notice

def loadBlock (progress : Progress) (entry : String × Value) : Progress :=
  match entry.2 with
  | .record block =>
    let type := (textOf block "type").getD ""
    match Kind.ofText? type with
    | none => { progress with notices := progress.notices ++ [.skippedBlock entry.1 type] }
    | some kind =>
      let fields := block.filter fun field => !reservedKeys.contains field.1
      let rejected := Config.rejectedNames kind fields
      let outcome := progress.flow.createAs entry.1 (Config.ofFields kind fields)
        ((Assoc.get? block "x").getD (.int 0)) ((Assoc.get? block "y").getD (.int 0))
      { flow := outcome.flow
        events := progress.events ++ outcome.events
        notices := progress.notices ++
          if rejected.isEmpty then [] else [.rejectedFields kind rejected] }
  | _ => progress

/-- The port that a connection names; those of order confirmations may have their older names. -/
def portOf (flow : Flow) (wire : Wire) : String :=
  match flow.block? wire.source with
  | some block =>
    if block.kind = .orderConfirm then (Assoc.get? legacyOrderPorts wire.port).getD wire.port
    else wire.port
  | none => wire.port

def loadWire (progress : Progress) (wire : Wire) : Except (Progress × Fault) Progress :=
  let outcome := progress.flow.connect wire.source (portOf progress.flow wire) wire.target wire.id
  let events := progress.events ++ outcome.events
  match outcome.result with
  | .error fault => .error (⟨outcome.flow, events, progress.notices⟩, fault)
  | .ok (.ok _) => .ok ⟨outcome.flow, events, progress.notices⟩
  | .ok (.error reason) =>
    match wire.given.display with
    | .ok shown =>
      .ok ⟨outcome.flow, events, progress.notices ++ [.droppedConnection shown reason]⟩
    | .error _ => .ok ⟨outcome.flow, events, progress.notices⟩

/-- Loads connections up to the first fault. -/
def loadWires (progress : Progress) : List Wire → Except (Progress × Fault) Progress
  | [] => .ok progress
  | wire :: rest =>
    match loadWire progress wire with
    | .ok progress => loadWires progress rest
    | .error stopped => .error stopped

/-- The number in the id of a block, 0 if it has none. The part behind the last underscore counts,
and only if the part before it is the usual one. -/
def blockNumber (id : String) : Except IntegerFault Nat :=
  let behind := (id.toList.reverse.takeWhile (· != '_')).reverse
  let number := String.ofList behind
  if String.ofList (id.toList.take (id.length - behind.length)) = "block_" && Flow.isDigits number
  then (readInteger number).map Int.toNat
  else .ok 0

def highestNumber (blocks : List Block) : Except IntegerFault Nat :=
  blocks.foldlM (fun highest block => (blockNumber block.id).map (max highest)) 0

structure Loaded where
  outcome : Outcome (Except Fault Unit)
  notices : List Notice

/-- Loads the parts of a snapshot into an empty flow. -/
def loadParts (parts : Parts) : Loaded :=
  let blocks := parts.blocks.foldl loadBlock ⟨Flow.empty, [], []⟩
  match loadWires blocks (wires parts) with
  | .error (progress, fault) => ⟨⟨progress.flow, progress.events, .error fault⟩, progress.notices⟩
  | .ok progress =>
    match highestNumber progress.flow.blocks with
    | .error fault =>
      ⟨⟨progress.flow, progress.events, .error (.integer fault)⟩, progress.notices⟩
    | .ok highest =>
      let counted := { progress.flow with blockCounter := max parts.counter.toNat highest }
      let repaired := counted.repair
      ⟨⟨repaired.flow, progress.events ++ repaired.events, .ok ()⟩,
        progress.notices ++ repaired.result.map fun drop => .droppedEdge drop.1 drop.2⟩

/-- Loads a snapshot in place of a flow. A snapshot of the wrong shape leaves the flow alone. -/
def load (flow : Flow) (strict : Bool) (data : Value) : Loaded :=
  match check strict data with
  | .error fault => ⟨⟨flow, [], .error (.schema fault)⟩, []⟩
  | .ok parts => loadParts parts

/-- Loads the text of a snapshot in place of a flow. -/
def read (flow : Flow) (strict : Bool) (text : String) (depth : Nat := Json.usualDepth) : Loaded :=
  match Json.parse text depth with
  | .error fault => ⟨⟨flow, [], .error (.json fault)⟩, []⟩
  | .ok data => load flow strict data

end Snapshot

end DialogGraph
