import DialogGraph.Flow.Edit
import DialogGraph.Preview.Run

/-!
# Previews

A preview lets a user talk to a flow. In step mode every run stops before each block until it is
resumed; several runs may be held at once, and meanwhile the flow may be edited.
-/

namespace DialogGraph

open DialogGraph.Preview

/-- A preview: its conversation, the runs that are held, oldest first, and the step mode. -/
structure Preview where
  session : Session := {}
  held : List Held := []
  stepping : Bool := false

namespace Preview

/-- What a preview is made in: the world and the flow, whether anybody watches and can hold runs
up, and how many steps a run may take. -/
structure Stage where
  world : World
  flow : Flow
  watched : Bool := true
  steps : Nat

def settingOf (preview : Preview) (stage : Stage) : Setting where
  world := fun _ => stage.world
  flow := stage.flow
  gated := preview.stepping && stage.watched

/-- Carries on a run, and holds it if it stops at a gate. -/
def proceed (preview : Preview) (stage : Stage) (begun : Session × Progress) :
    Preview × Option Breakdown :=
  match run (preview.settingOf stage) stage.steps begun.1 begun.2 with
  | (session, .held block) =>
    ({ preview with session := session, held := preview.held ++ [block] }, none)
  | (session, .broken breakdown) => ({ preview with session := session }, some breakdown)
  | (session, _) => ({ preview with session := session }, none)

def start (preview : Preview) (stage : Stage) : Preview × Option Breakdown :=
  preview.proceed stage (begin stage.flow preview.session)

def text (preview : Preview) (stage : Stage) (text : String) : Preview × Option Breakdown :=
  preview.proceed stage (takeText stage.flow preview.session text)

def press (preview : Preview) (stage : Stage) (tag : String) : Preview × Option Breakdown :=
  preview.proceed stage (takePress stage.flow preview.session tag)

def release (preview : Preview) (stage : Stage) (block : Held) : Preview × Option Breakdown :=
  match block.block? stage.flow with
  | some block => preview.proceed stage (visitBlock stage.world preview.session block)
  | none => (preview, none)

/-- Lets held runs go on one after the other; a run that is held again waits for the next time. -/
def releaseAll (preview : Preview) (stage : Stage) : List Held → Preview × List Breakdown
  | [] => (preview, [])
  | block :: rest =>
    let (preview, breakdown) := preview.release stage block
    let (preview, breakdowns) := preview.releaseAll stage rest
    (preview, breakdown.toList ++ breakdowns)

/-- Opens the gate once. -/
def resume (preview : Preview) (stage : Stage) : Preview × List Breakdown :=
  Preview.releaseAll { preview with held := [] } stage preview.held

def stepOn (preview : Preview) : Preview := { preview with stepping := true }

def stepOff (preview : Preview) (stage : Stage) : Preview × List Breakdown :=
  Preview.resume { preview with stepping := false } stage

/-- Forgets the conversation, except for the records saved. -/
def reset (preview : Preview) : Preview := { preview with session := preview.session.restart }

/-! ### Edits meanwhile -/

/-- The block that a held run keeps when the given blocks leave the flow. -/
def Held.keep (flow : Flow) (leaves : Block → Bool) : Held → Held
  | .inFlow id =>
    match flow.block? id with
    | some block => if leaves block then .removed block else .inFlow id
    | none => .inFlow id
  | .removed block => .removed block

/-- To be told before a block is deleted from the flow: its edges go with it. -/
def blockDeleted (preview : Preview) (flow : Flow) (id : String) : Preview :=
  let (flow, _) := flow.disconnectAll (flow.edgesTouching id)
  { preview with held := preview.held.map (Held.keep flow fun block => block.id == id) }

/-- To be told before all blocks of the flow are replaced. -/
def flowReplaced (preview : Preview) (flow : Flow) : Preview :=
  { preview with held := preview.held.map (Held.keep flow fun _ => true) }

end Preview

end DialogGraph
