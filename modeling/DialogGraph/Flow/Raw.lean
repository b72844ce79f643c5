import DialogGraph.Flow.Repair

/-!
# Changes without repair

Changes made to a single part of a flow, without regard for the rest. What they leave behind is
for `Flow.repairBlock`, `Flow.repair` and `Flow.resync` to put right.
-/

namespace DialogGraph.Flow

/-- Adds an edge to the list; no slot changes. -/
def rawEdge (flow : Flow) (edge : Edge) : Flow :=
  { flow with edges := flow.edges ++ [edge] }

/-- Sets an output slot; no edge changes. -/
def rawSlot (flow : Flow) (id port : String) (target : Option String) : Except Fault Flow :=
  if flow.hasBlock id then .ok (flow.modify id fun block => block.setOutput port target)
  else .error (.missingBlock id)

/-- Sets a field; no slot and no edge changes. Also gives the new settings. -/
def rawConfig (flow : Flow) (id field : String) (value : Value) :
    Except Fault (Flow × Config) :=
  match flow.block? id with
  | none => .error (.missingBlock id)
  | some block =>
    match block.config.set? field value with
    | none => .error (.noAttribute field)
    | some (.error problem) => .error (.invalid problem)
    | some (.ok config) => .ok (flow.modify id fun block => { block with config := config }, config)

end DialogGraph.Flow
