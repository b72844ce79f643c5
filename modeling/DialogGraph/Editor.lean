import DialogGraph.Editor.Reply
import DialogGraph.Setup

/-!
# The editor

The editor keeps a flow with its history and a preview of it, and is worked by requests. Every
change of the flow is recorded in the history. The preview takes one event at a time: while a run is
held before a block, further events wait their turn.
-/

namespace DialogGraph

open DialogGraph.Editor

structure Editor where
  setup : Setup
  flow : Flow
  history : History
  preview : Preview := {}
  /-- The events that wait until the preview is free, in order. -/
  queue : List PreviewAction := []

/-- What an editor works with: the date, the service for completions with the key of the
surroundings, and how many steps a run may take. -/
structure Editor.Outside where
  date : String
  service : Completion.Service
  ownKey : String
  steps : Nat

namespace Editor

/-- A new editor: its flow is a single start block. There is none if the setup leaves no room for a
history. -/
def ofSetup? (setup : Setup) : Option Editor :=
  (History.ofLimit? setup.historySize).map fun history =>
    let flow := (Flow.empty.create .start (.int 100) (.int 100)).flow
    let (history, flow) := history.record flow
    { setup := setup, flow := flow, history := history }

/-- What an action comes to: the editor afterwards, the reply unless the action has to wait, and the
replies to actions that waited until now. -/
structure Outcome where
  editor : Editor
  reply : Option Reply
  late : List Reply := []

/-- An action that is answered at once. -/
def answered (editor : Editor) (reply : Reply) : Outcome := ⟨editor, some reply, []⟩

/-- An action that changes the editor and is answered at once. -/
def settled (result : Editor × Reply) : Outcome := result.1.answered result.2

/-! ### The flow -/

/-- Takes over a changed flow and records it. -/
def commit (editor : Editor) (flow : Flow) : Editor :=
  let (history, flow) := editor.history.record flow
  { editor with flow := flow, history := history }

def blockOf (editor : Editor) (id : String) : Value :=
  match editor.flow.block? id with
  | some block => Snapshot.blockValue block
  | none => .null

/-- Loads a snapshot in place of the flow. -/
def replaceFlow (editor : Editor) (data : Fields) : Editor × Reply :=
  let outcome := (Snapshot.load editor.flow false (.record data)).outcome
  match outcome.result with
  | .error (.schema fault) => (editor, .detail 400 (.text fault.message))
  | .error fault =>
    let preview := editor.preview.flowReplaced editor.flow
    ({ editor with flow := outcome.flow, preview := preview }, .broken (.flow fault))
  | .ok () =>
    let preview := (editor.preview.flowReplaced editor.flow).reset
    ({ editor with preview := preview }.commit outcome.flow, .ok (Snapshot.save outcome.flow))

def create (editor : Editor) (type : String) (x y : Value) : Editor × Reply :=
  match Kind.ofValue (.text type) with
  | .error fault => (editor, .detail 400 (.text fault.message))
  | .ok kind =>
    let outcome := editor.flow.create kind x y
    match outcome.result with
    | .error fault => ({ editor with flow := outcome.flow }, .broken (.flow fault))
    | .ok id =>
      let editor := editor.commit outcome.flow
      (editor, .created (editor.blockOf id))

def setField (editor : Editor) (id field : String) (value : Value) : Editor × Reply :=
  match editor.flow.update id field value with
  | .error rejection => (editor, .rejected rejection)
  | .ok (flow, _) =>
    let editor := editor.commit flow
    (editor, .ok (editor.blockOf id))

def move (editor : Editor) (id : String) (x y : Value) : Editor × Reply :=
  match editor.flow.move id x y with
  | .error rejection => (editor, .rejected rejection)
  | .ok flow => (editor.commit flow, .done)

def delete (editor : Editor) (id : String) : Editor × Reply :=
  match editor.flow.delete id with
  | .error rejection => (editor, .rejected rejection)
  | .ok (flow, _) =>
    let preview := editor.preview.blockDeleted editor.flow id
    ({ editor with preview := preview }.commit flow, .done)

/-- The ports of a block and what they lead to. -/
def portsOf (block : Block) : Value :=
  .record [
    ("ports", .list (block.config.ports.map .text)),
    ("outputs", .record (block.outputs.map fun slot => (slot.1, Snapshot.idValue slot.2)))]

/-- Does something with a block that has to be there. -/
def withBlock (editor : Editor) (id : String) (act : Block → Editor × Reply) : Editor × Reply :=
  match editor.flow.block? id with
  | some block => act block
  | none => (editor, .missing (.noBlock id))

def connect (editor : Editor) (source port target : String) : Editor × Reply :=
  let outcome := editor.flow.connect source port target none
  match outcome.result with
  | .error fault => ({ editor with flow := outcome.flow }, .broken (.flow fault))
  | .ok (.error rejection) => (editor, .rejected rejection)
  | .ok (.ok id) =>
    (editor.commit outcome.flow, .created (Snapshot.edgeValue ⟨id, source, port, target⟩))

def disconnect (editor : Editor) (id : String) : Editor × Reply :=
  match editor.flow.disconnect id with
  | .error rejection => (editor, .missing rejection)
  | .ok (flow, _) => (editor.commit flow, .done)

/-! ### The history -/

/-- What is told about a step through the history. -/
def travelled (changed : Bool) (history : History) (flow : Flow) : Value :=
  .record [
    ("changed", .bool changed), ("canUndo", .bool history.canUndo),
    ("canRedo", .bool history.canRedo), ("graph", Snapshot.save flow)]

def travel (editor : Editor) (go : History → Flow → History × DialogGraph.Outcome History.Stepped) :
    Editor × Reply :=
  let (history, outcome) := go editor.history editor.flow
  match outcome.result with
  | .ok false =>
    (editor, .ok (travelled false history editor.flow))
  | .ok true =>
    let preview := editor.preview.flowReplaced editor.flow
    ({ editor with flow := outcome.flow, history := history, preview := preview },
      .ok (travelled true history outcome.flow))
  | .error fault =>
    let preview := editor.preview.flowReplaced editor.flow
    ({ editor with flow := outcome.flow, history := history, preview := preview },
      .broken (.flow fault))

/-! ### The program -/

/-- The text given, unless there is none or it is empty. -/
def textOr (given : Option String) (default : String) : String :=
  (given.filter fun s => !s.isEmpty).getD default

def compile (outside : Outside) (editor : Editor) (name token : Option String) : Reply :=
  let name := textOr name editor.setup.botName
  let token := textOr token editor.setup.botToken
  match Program.compile outside.date editor.flow name token with
  | .ok text =>
    .ok (.record [("filename", .text (Program.fileName name)), ("source", .text text)])
  | .error (.compile fault) => .ofCompileFault fault
  | .error (.text fault) => .broken (.text fault)

/-! ### The preview -/

/-- The world of the preview: time passes at once, and completions are made up unless the setup asks
for the service. -/
def world (outside : Outside) (editor : Editor) : Preview.World where
  complete request :=
    .ok (if editor.setup.livePreview then
      Completion.request outside.service outside.ownKey request
    else Completion.mock request)
  sleep _ := .ok ()

/-- What the preview is made in. -/
def stage (outside : Outside) (editor : Editor) : Preview.Stage where
  world := editor.world outside
  flow := editor.flow
  steps := outside.steps

def isBusy (editor : Editor) : Bool := !editor.preview.held.isEmpty

/-- The reply when a run is over. -/
def played (editor : Editor) : List Preview.Breakdown → Reply
  | [] => .ok (sessionValue editor.preview.session)
  | breakdown :: _ => .broken (.preview breakdown)

/-- Ends a run, with its reply, unless it is held. Step mode ends with the run. -/
def finish (editor : Editor) (result : Preview × List Preview.Breakdown) :
    Editor × Option Reply :=
  let editor := { editor with preview := result.1 }
  if editor.isBusy then (editor, none)
  else
    let editor := { editor with preview := { editor.preview with stepping := false } }
    (editor, some (editor.played result.2))

def play (outside : Outside) (editor : Editor) (action : PreviewAction) : Editor × Option Reply :=
  let stage := editor.stage outside
  let (preview, breakdown) := match action with
    | .start stepwise => { editor.preview with stepping := stepwise }.start stage
    | .text text => editor.preview.text stage text
    | .press tag => editor.preview.press stage tag
  editor.finish (preview, breakdown.toList)

/-- Plays events in order, until a run is held. The events behind it wait. -/
def playAll (outside : Outside) (editor : Editor) : List PreviewAction → Editor × List Reply
  | [] => ({ editor with queue := [] }, [])
  | action :: rest =>
    if editor.isBusy then ({ editor with queue := action :: rest }, [])
    else
      let (editor, reply) := editor.play outside action
      let (editor, replies) := editor.playAll outside rest
      (editor, reply.toList ++ replies)

/-- Plays an event, or has it wait. -/
def enqueue (outside : Outside) (editor : Editor) (action : PreviewAction) : Outcome :=
  if editor.isBusy then ⟨{ editor with queue := editor.queue ++ [action] }, none, []⟩
  else
    let (editor, reply) := editor.play outside action
    ⟨editor, reply, []⟩

/-- Lets a held run go on up to the next block. When it is over the events that wait are played. -/
def resume (outside : Outside) (editor : Editor) : Outcome :=
  let ok : Reply := .ok (.record [("ok", .bool true)])
  if editor.isBusy then
    let (editor, reply) := editor.finish (editor.preview.resume (editor.stage outside))
    let (editor, replies) := editor.playAll outside editor.queue
    ⟨editor, some ok, reply.toList ++ replies⟩
  else editor.answered ok

/-! ### Requests -/

def perform (outside : Outside) (editor : Editor) : Action → Outcome
  | .health => editor.answered (.ok (.record [("status", .text "ok")]))
  | .showFlow => editor.answered (.ok (Snapshot.save editor.flow))
  | .replaceFlow data => settled (editor.replaceFlow data)
  | .create type x y => settled (editor.create type x y)
  | .setField id field value =>
    settled (editor.withBlock id fun _ => editor.setField id field value)
  | .move id x y => settled (editor.withBlock id fun _ => editor.move id x y)
  | .delete id => settled (editor.withBlock id fun _ => editor.delete id)
  | .showPorts id => settled (editor.withBlock id fun block => (editor, .ok (portsOf block)))
  | .connect source port target => settled (editor.connect source port target)
  | .disconnect id => settled (editor.disconnect id)
  | .undo => settled (editor.travel History.undo)
  | .redo => settled (editor.travel History.redo)
  | .compile name token => editor.answered (editor.compile outside name token)
  | .showPreview => editor.answered (.ok (sessionValue editor.preview.session))
  | .play action => editor.enqueue outside action
  | .resume => editor.resume outside
  | .showManual => editor.answered .shown

def serve (outside : Outside) (editor : Editor) (request : Request) : Outcome :=
  match Action.ofRequest request with
  | .error refusal => editor.answered (.ofRefusal refusal)
  | .ok action =>
    let outcome := editor.perform outside action
    { outcome with
      reply := outcome.reply.map Reply.written, late := outcome.late.map Reply.written }

end Editor

end DialogGraph
