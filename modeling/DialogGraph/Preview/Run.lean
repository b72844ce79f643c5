import DialogGraph.Flow.Basic
import DialogGraph.Preview.Answer

/-!
# Runs

A run goes from block to block until the conversation waits for the user or has nowhere to go. It
is made of steps, each of which visits one block or looks at one loop under way; as loops may be
long, a run is given a number of steps to take. At a gate it stops before each visit.
-/

namespace DialogGraph.Preview

/-- A block before which a run has stopped. The run keeps the block even when the flow loses it. -/
inductive Held where
  | inFlow (id : String)
  | removed (block : Block)

/-- The held block as it is now. -/
def Held.block? (flow : Flow) : Held → Option Block
  | inFlow id => flow.block? id
  | removed block => some block

/-- Why a run breaks off. -/
inductive Breakdown where
  /-- The run came to a start block. -/
  | entersStart
  /-- A loop under way cannot go on. -/
  | loop (fault : Loop.Fault)
  deriving Repr, DecidableEq

/-- How far a run has come. A run that is going looks for the block named, or, without one, goes on
with the innermost loop. -/
inductive Progress where
  | going (next : Option String)
  | held (block : Held)
  | ended
  | broken (breakdown : Breakdown)

/-- What a run is made in. The world may change with what was asked of it. -/
structure Setting where
  world : Journal → World
  flow : Flow
  /-- Whether to stop before each visit. -/
  gated : Bool := false

/-- Carries out a visit. A failure is told, and the conversation ends. -/
def guarded (id : String) (visit : Visit) (session : Session) : Session × Option String :=
  match visit session with
  | (.ok port, session) => (session, port)
  | (.error failure, session) =>
    let told := (session.tell (.failed id failure.message)).note
      ("Error in " ++ id ++ ": " ++ failure.message)
    ({ told with waiting := none, current := none }, none)

def follow (session : Session) (block : Block) (port : String) : Session × Option String :=
  match block.targetOf port with
  | some target => (session.tell (.followed block.id port target), some target)
  | none => (session, none)

def visitBlock (world : World) (session : Session) (block : Block) : Session × Progress :=
  match visit? world block.id block.config with
  | none => (session, .broken .entersStart)
  | some visit =>
    match guarded block.id visit session with
    | (session, some port) =>
      let (session, next) := follow session block port
      (session, .going next)
    | (session, none) =>
      match session.waiting with
      | some waiting => (session.tell (.suspended block.id waiting), .ended)
      | none => (session, .ended)

/-- The plan of the loop at a block. A block that has become another kind counts to nothing. -/
def loopPlan : Config → Loop.Plan
  | ⟨.loop, settings⟩ => Loop.planOf settings
  | config => Loop.planOfFields config.toFields

/-- Goes on with the innermost loop. -/
def continueLoop (flow : Flow) (session : Session) : Session × Progress :=
  match session.frames with
  | [] => (Session.tell { session with current := none } .idle, .ended)
  | frame :: rest =>
    match flow.block? frame.block with
    | none => ({ session with frames := rest }, .going none)
    | some block =>
      match Visit.loopPort (loopPlan block.config) frame session with
      | (.ok port, session) =>
        let (session, next) := follow session block port
        (session, .going next)
      | (.error (.loop fault), session) => (session, .broken (.loop fault))
      | (.error _, session) => (session, .ended)

def step (setting : Setting) (session : Session) : Option String → Session × Progress
  | none => continueLoop setting.flow session
  | some id =>
    match setting.flow.block? id with
    | none => ({ session.note ("Missing node " ++ id) with current := none }, .ended)
    | some block =>
      let session := Session.tell { session with current := some id } (.running id)
      if setting.gated then (session, .held (.inFlow id))
      else visitBlock (setting.world session.journal) session block

/-- Takes steps until the run stops, at most as many as given. -/
def run (setting : Setting) : Nat → Session → Progress → Session × Progress
  | steps + 1, session, .going next =>
    let (session, progress) := step setting session next
    run setting steps session progress
  | _, session, progress => (session, progress)

def leaveBlock (session : Session) (block : Block) (port : String) : Session × Progress :=
  let (session, next) := follow { session with waiting := none } block port
  (session, .going next)

def begin (flow : Flow) (session : Session) : Session × Progress :=
  let fresh := session.restart
  match flow.starts with
  | [] => (fresh.note "The flow has no start node.", .ended)
  | block :: _ =>
    let told := fresh.tell (.started block.id)
    let greeted := match block.config with
      | ⟨.start, settings⟩ =>
        let message := StartSettings.message settings
        if message.isEmpty then told else told.say message []
      | _ => told
    (greeted, .going (block.targetOf defaultPort))

def currentBlock? (flow : Flow) (session : Session) : Option Block :=
  (session.current.filter fun id => !id.isEmpty).bind flow.block?

/-- What is said to a text that nothing waits for. -/
def restartHint : String := "Send /start to begin."

def takeText (flow : Flow) (session : Session) (text : String) : Session × Progress :=
  if Text.trim text = "/start" then begin flow session
  else
    let heard := session.enter { sender := .user, text := text }
    let answered := (currentBlock? flow heard).bind fun block =>
      (answer? block.config).map fun answer => (block, answer text)
    match heard.waiting, answered with
    | some .input, some (block, visit) =>
      match guarded block.id visit heard with
      | (session, some port) => leaveBlock session block port
      | (session, none) => (session, .ended)
    | _, _ => (heard.say restartHint [], .ended)

def takePress (flow : Flow) (session : Session) (tag : String) : Session × Progress :=
  let pressed := (currentBlock? flow session).bind fun block =>
    (press? block.id block.config).map fun press => (block, press tag)
  match session.waiting, pressed with
  | some .callback, some (block, visit) =>
    match guarded block.id visit (session.enter { sender := .user, text := "[" ++ tag ++ "]" }) with
    | (session, some port) => leaveBlock session block port
    | (session, none) => (session, .ended)
  | _, _ => (session, .ended)

end DialogGraph.Preview
