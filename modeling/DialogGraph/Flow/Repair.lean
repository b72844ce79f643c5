import DialogGraph.Flow.Edit

/-!
# Repairing flows

After a change of settings a block may have other ports, and a flow read from elsewhere may have
any edges at all. Repair removes the edges that do not fit, never blocks, and brings the slots in
line. Where two edges compete the first in the list stays.
-/

namespace DialogGraph.Flow

/-! ### One block -/

/-- The slots of a block with the given ports, filled from the edges that leave it. -/
def slotsFrom (edges : List Edge) (id : String) (ports : List String) : Slots :=
  ports.map fun port =>
    (port, (edges.reverse.find? fun edge => edge.source == id && edge.port == port).map Edge.target)

/-- Brings the ports of one block in line with its settings: edges on ports that are gone are
disconnected, new ports are open. Also gives the edges removed. -/
def repairBlock (flow : Flow) (id : String) : Outcome (List Edge) :=
  match flow.block? id with
  | none => ⟨flow, [], []⟩
  | some block =>
    let ports := block.config.ports
    let lost := flow.edges.filter fun edge => edge.source == id && !ports.contains edge.port
    let (flow, events) := flow.disconnectAll lost
    let slots := slotsFrom flow.edges id ports
    ⟨flow.modify id fun block => { block with outputs := slots }, events, lost⟩

def update (flow : Flow) (id field : String) (value : Value) :
    Except Rejection (Flow × List Event) :=
  match flow.block? id with
  | none => .error (.noBlock id)
  | some block =>
    match block.config.set? field value with
    | none => .error (.noField block.kind field)
    | some (.error problem) => .error (.badValue field problem)
    | some (.ok config) =>
      let outcome := (flow.modify id fun block => { block with config := config }).repairBlock id
      .ok (outcome.flow, outcome.events ++ [.configured id field])

/-! ### The whole flow -/

inductive Misfit where
  | missingEnd
  | selfLoop
  | entersStart
  | noPort (port : String)
  | portTaken
  | inputTaken
  deriving Repr, DecidableEq

def Misfit.message : Misfit → String
  | missingEnd => "missing endpoint"
  | selfLoop => "self-loop"
  | entersStart => "start node has no input"
  | noPort port => "no port '" ++ port ++ "'"
  | portTaken => "port already connected"
  | inputTaken => "input already connected"

/-- Why an edge does not fit a flow, given the ports and inputs that are already taken. -/
def misfit? (flow : Flow) (usedPorts : List (String × String)) (usedInputs : List String)
    (edge : Edge) : Option Misfit :=
  match flow.block? edge.source, flow.block? edge.target with
  | some source, some target =>
    if edge.source = edge.target then some .selfLoop
    else if target.kind = .start then some .entersStart
    else if !source.config.ports.contains edge.port then some (.noPort edge.port)
    else if usedPorts.contains (edge.source, edge.port) then some .portTaken
    else if usedInputs.contains edge.target then some .inputTaken
    else none
  | _, _ => some .missingEnd

/-- The misfits among the edges, in order, judged from the front. -/
def misfits (flow : Flow) (usedPorts : List (String × String)) (usedInputs : List String) :
    List Edge → List (Edge × Misfit)
  | [] => []
  | edge :: rest =>
    match flow.misfit? usedPorts usedInputs edge with
    | some reason => (edge, reason) :: misfits flow usedPorts usedInputs rest
    | none =>
      misfits flow ((edge.source, edge.port) :: usedPorts) (edge.target :: usedInputs) rest

/-- Opens all slots; the outputs become the ports given by the settings. -/
def openAll (flow : Flow) : Flow :=
  { flow with blocks := flow.blocks.map fun block =>
      { block with input := none, outputs := Block.openSlots block.config.ports } }

/-- Clears all slots; the outputs keep their ports. -/
def clearAll (flow : Flow) : Flow :=
  { flow with blocks := flow.blocks.map fun block =>
      { block with input := none, outputs := Block.openSlots (Assoc.keys block.outputs) } }

/-- Fills the slots from edges, up to the first edge with a missing end, whose id is given. -/
def fillSlots (flow : Flow) : List Edge → Flow × Option String
  | [] => (flow, none)
  | edge :: rest =>
    if flow.hasBlock edge.source then
      let flow := flow.modify edge.source fun block =>
        block.setOutput edge.port (some edge.target)
      if flow.hasBlock edge.target then
        fillSlots (flow.modify edge.target fun block => { block with input := some edge.source })
          rest
      else (flow, some edge.target)
    else (flow, some edge.source)

/-- Rebuilds every slot from the edges. An edge with a missing end is a fault. -/
def resync (flow : Flow) : Outcome (Except Fault Unit) :=
  match flow.clearAll.fillSlots flow.edges with
  | (flow, none) => ⟨flow, [], .ok ()⟩
  | (flow, some id) => ⟨flow, [], .error (.missingBlock id)⟩

/-- Repairs a whole flow. Also gives the edges removed, with the reasons. -/
def repair (flow : Flow) : Outcome (List (Edge × Misfit)) :=
  let removed := flow.misfits [] [] flow.edges
  let kept := removed.foldl (fun edges drop => edges.erase drop.1) flow.edges
  let pruned := { flow with edges := kept }
  ⟨(pruned.openAll.fillSlots kept).1, removed.map fun drop => .disconnected drop.1, removed⟩

end DialogGraph.Flow
