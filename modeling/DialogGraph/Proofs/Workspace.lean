import DialogGraph.History
import DialogGraph.Proofs.Snapshot.Loading

/-!
# Workspaces

A workspace is a flow together with its history. Whatever is done in a workspace is one of finitely
many edits with any arguments; an edit may be carried out, turned down or end in a fault, and a run
goes on in any case. The edits keep the flow sound one by one, hence so does every run.
-/

namespace DialogGraph

/-- The settings that a new block is to get: the initial ones of a kind, named by its tag, or given
ones. -/
inductive Design where
  | named (type : Value)
  | given (config : Config)

/-- The settings of a design, unless it names no kind. -/
def Design.config : Design → Except Fault Config
  | named type =>
    match Kind.ofValue type with
    | .ok kind => .ok (Config.initial kind)
    | .error fault => .error (.kind fault)
  | given config => .ok config

/-- An edit of a workspace. -/
inductive Edit where
  /-- Creates a block, under the given id or a new one. -/
  | create (design : Design) (id : Option String) (x y : Value)
  | move (id : String) (x y : Value)
  | update (id field : String) (value : Value)
  /-- Connects two blocks, with the wanted id if it is free. -/
  | connect (source port target : String) (wanted : Option String)
  | disconnect (id : String)
  | delete (id : String)
  | clear
  | repairBlock (id : String)
  | repair
  | load (strict : Bool) (data : Value)
  | record
  | undo
  | redo
  | forget

structure Workspace where
  flow : Flow
  history : History

namespace Workspace

/-- What came of an edit: a fault, or else the reason if it was turned down. -/
abbrev Answer := Except Fault (Option Rejection)

def become (workspace : Workspace) (flow : Flow) : Workspace := { workspace with flow := flow }

/-- The workspace after an edit that may be turned down. -/
def edited (workspace : Workspace) : Except Rejection Flow → Workspace × Answer
  | .ok flow => (workspace.become flow, .ok none)
  | .error reason => (workspace, .ok (some reason))

def create (flow : Flow) (config : Config) (id : Option String) (x y : Value) :
    Outcome (Except Fault String) :=
  match id with
  | none => flow.createNew config x y
  | some id => flow.createAs id config x y

/-- The workspace after a block is created by a design. -/
def created (workspace : Workspace) (design : Design) (id : Option String) (x y : Value) :
    Workspace × Answer :=
  match design.config with
  | .error fault => (workspace, .error fault)
  | .ok config =>
    let outcome := create workspace.flow config id x y
    (workspace.become outcome.flow, outcome.result.map fun _ => none)

/-- The reason why an edge was turned down, if it was. -/
def reason? : Except Rejection String → Option Rejection
  | .ok _ => none
  | .error reason => some reason

def perform (workspace : Workspace) : Edit → Workspace × Answer
  | .create design id x y => workspace.created design id x y
  | .move id x y => workspace.edited (workspace.flow.move id x y)
  | .update id field value =>
    workspace.edited ((workspace.flow.update id field value).map Prod.fst)
  | .connect source port target wanted =>
    let outcome := workspace.flow.connect source port target wanted
    (workspace.become outcome.flow, outcome.result.map reason?)
  | .disconnect id => workspace.edited ((workspace.flow.disconnect id).map Prod.fst)
  | .delete id => workspace.edited ((workspace.flow.delete id).map Prod.fst)
  | .clear => (workspace.become Flow.empty, .ok none)
  | .repairBlock id => (workspace.become (workspace.flow.repairBlock id).flow, .ok none)
  | .repair => (workspace.become workspace.flow.repair.flow, .ok none)
  | .load strict data =>
    let outcome := (Snapshot.load workspace.flow strict data).outcome
    (workspace.become outcome.flow, outcome.result.map fun _ => none)
  | .record =>
    let (history, flow) := workspace.history.record workspace.flow
    (⟨flow, history⟩, .ok none)
  | .undo =>
    let (history, outcome) := workspace.history.undo workspace.flow
    (⟨outcome.flow, history⟩, outcome.result.map fun _ => none)
  | .redo =>
    let (history, outcome) := workspace.history.redo workspace.flow
    (⟨outcome.flow, history⟩, outcome.result.map fun _ => none)
  | .forget => ({ workspace with history := workspace.history.clear }, .ok none)

def run (workspace : Workspace) (edits : List Edit) : Workspace :=
  edits.foldl (fun workspace edit => (workspace.perform edit).1) workspace

variable {workspace : Workspace}

theorem edited_sound (hsound : workspace.flow.Sound) {result : Except Rejection Flow}
    (hresult : ∀ flow, result = .ok flow → flow.Sound) :
    (workspace.edited result).1.flow.Sound := by
  cases result with
  | ok flow => exact hresult flow rfl
  | error reason => exact hsound

/-- Where the events of an edit do not matter, its flow is what counts. -/
theorem edited_map_fst_sound (hsound : workspace.flow.Sound)
    {result : Except Rejection (Flow × List Event)}
    (hresult : ∀ flow events, result = .ok (flow, events) → flow.Sound) :
    (workspace.edited (result.map Prod.fst)).1.flow.Sound := by
  apply edited_sound hsound
  intro flow hflow
  cases result with
  | ok pair =>
    obtain rfl := Except.ok.inj hflow
    exact hresult pair.1 pair.2 rfl
  | error reason => cases hflow

theorem create_sound {flow : Flow} (hsound : flow.Sound) (config : Config) (id : Option String)
    (x y : Value) : (create flow config id x y).flow.Sound := by
  cases id with
  | none => exact hsound.createNew config x y
  | some id => exact hsound.createAs id config x y

theorem created_sound (hsound : workspace.flow.Sound) (design : Design) (id : Option String)
    (x y : Value) : (workspace.created design id x y).1.flow.Sound := by
  rw [created]
  split
  · exact hsound
  · exact create_sound hsound _ id x y

theorem restore_sound (hsound : workspace.flow.Sound) (step : Option (History × Value)) :
    (workspace.history.restore step workspace.flow).2.flow.Sound := by
  unfold History.restore
  split
  · exact hsound
  · exact Snapshot.load_sound hsound false _

/-- Every edit keeps the flow of a workspace sound. -/
theorem perform_sound (hsound : workspace.flow.Sound) (edit : Edit) :
    (workspace.perform edit).1.flow.Sound := by
  cases edit with
  | create design id x y => exact created_sound hsound design id x y
  | move id x y => exact edited_sound hsound fun _ hmoved => hsound.move hmoved
  | update id field value =>
    exact edited_map_fst_sound hsound fun _ _ hupdated => hsound.update hupdated
  | connect source port target wanted => exact hsound.connect source port target wanted
  | disconnect id =>
    exact edited_map_fst_sound hsound fun _ _ hdisconnected => hsound.disconnect hdisconnected
  | delete id => exact edited_map_fst_sound hsound fun _ _ hdeleted => hsound.delete hdeleted
  | clear => exact .empty
  | repairBlock id => exact hsound.repairBlock id
  | repair => exact hsound.repair
  | load strict data => exact Snapshot.load_sound hsound strict data
  | record => exact hsound.mark _
  | undo => exact restore_sound hsound _
  | redo => exact restore_sound hsound _
  | forget => exact hsound

/-- Every run keeps the flow of a workspace sound. -/
theorem run_sound (hsound : workspace.flow.Sound) (edits : List Edit) :
    (workspace.run edits).flow.Sound := by
  induction edits generalizing workspace with
  | nil => exact hsound
  | cons edit rest ih => exact ih (perform_sound hsound edit)

/-- Whatever is done in a workspace that starts without blocks, in whatever order and with whatever
arguments, its flow is well-formed at any time. -/
theorem run_wellFormed (history : History) (edits : List Edit) :
    (run ⟨Flow.empty, history⟩ edits).flow.WellFormed :=
  (run_sound .empty edits).toWellFormed

/-- A workspace without blocks whose history is empty and keeps as much as usual. -/
def fresh : Workspace := ⟨Flow.empty, History.empty 50 (Nat.succ_pos 49)⟩

end Workspace

end DialogGraph
