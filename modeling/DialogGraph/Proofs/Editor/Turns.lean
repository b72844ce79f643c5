import DialogGraph.Editor
import DialogGraph.Proofs.Result
import DialogGraph.Proofs.Workspace.Undoing

/-!
# What requests do to the flow

Of an editor only the flow and the history matter here. A request leaves both alone, or makes one
edit and records it, or takes a step through the history, or ends in a fault; and what is answered
tells which. The edits that requests make can always be undone: new blocks get new ids, blocks are
put at numbers, and a snapshot that could be loaded only in part ends in a fault.
-/

namespace DialogGraph.Editor

open DialogGraph.Snapshot

/-! ### Coordinates -/

namespace Action

/-- Whether the places that an action names are given by numbers. -/
def Numeric : Action → Prop
  | create _ x y | move _ x y => isNumber x = true ∧ isNumber y = true
  | _ => True

end Action

theorem isNumber_of_coordinate {value x : Value} (hread : coordinate value = .ok x) :
    isNumber x = true := by
  rw [coordinate] at hread
  cases hreal : Setting.real value with
  | error problem =>
    rw [hreal] at hread
    cases hread
  | ok found =>
    rw [hreal] at hread
    obtain rfl := Except.ok.inj hread
    rfl

theorem isNumber_of_readField {name : String} {value x : Value}
    (hread : readField name coordinate value = .ok x) : isNumber x = true := by
  rw [readField] at hread
  cases hcoordinate : coordinate value with
  | error problem =>
    rw [hcoordinate] at hread
    cases hread
  | ok found =>
    rw [hcoordinate] at hread
    obtain rfl := Except.ok.inj hread
    exact isNumber_of_coordinate hcoordinate

variable {data : Fields} {name : String} {x : Value}

theorem isNumber_of_required (hread : required data name coordinate = .ok x) :
    isNumber x = true := by
  rw [required] at hread
  split at hread
  · exact isNumber_of_readField hread
  · cases hread

theorem isNumber_of_optional {default : Value} (hdefault : isNumber default = true)
    (hread : optional data name default coordinate = .ok x) : isNumber x = true := by
  rw [optional] at hread
  split at hread
  · exact isNumber_of_readField hread
  · obtain rfl := Except.ok.inj hread
    exact hdefault

theorem Read.both_eq_ok_iff {α β : Type} {first : Read α} {second : Read β} {a : α} {b : β} :
    first.both second = .ok (a, b) ↔ first = .ok a ∧ second = .ok b := by
  cases first <;> cases second <;> simp [Read.both]

/-- What is read from a body is read from its fields. -/
theorem exists_of_readBody {α : Type} {body : String} {read : Fields → Read α} {a : α}
    (hread : readBody body read = .ok a) : ∃ data, read data = .ok a := by
  obtain ⟨value, -, hfields⟩ := bind_eq_ok_iff.1 hread
  obtain ⟨data, -, hdata⟩ := bind_eq_ok_iff.1 (mapError_eq_ok_iff.1 hfields)
  exact ⟨data, hdata⟩

namespace Action

theorem numeric_readCreate {action : Action} (hread : readCreate data = .ok action) :
    action.Numeric := by
  obtain ⟨⟨type, x, y⟩, hparts, rfl⟩ := map_eq_ok_iff.1 hread
  obtain ⟨-, hplace⟩ := Read.both_eq_ok_iff.1 hparts
  obtain ⟨hx, hy⟩ := Read.both_eq_ok_iff.1 hplace
  exact ⟨isNumber_of_optional rfl hx, isNumber_of_optional rfl hy⟩

theorem numeric_readMove {id : String} {action : Action} (hread : readMove id data = .ok action) :
    action.Numeric := by
  obtain ⟨⟨x, y⟩, hparts, rfl⟩ := map_eq_ok_iff.1 hread
  obtain ⟨hx, hy⟩ := Read.both_eq_ok_iff.1 hparts
  exact ⟨isNumber_of_required hx, isNumber_of_required hy⟩

theorem numeric_of_map {ε α : Type} {result : Except ε α} {f : α → Action} {action : Action}
    (hf : ∀ a, (f a).Numeric) (hread : result.map f = .ok action) : action.Numeric := by
  obtain ⟨a, -, rfl⟩ := map_eq_ok_iff.1 hread
  exact hf a

theorem numeric_of_readBody {body : String} {read : Fields → Read Action} {action : Action}
    (hdata : ∀ data, read data = .ok action → action.Numeric)
    (hread : readBody body read = .ok action) : action.Numeric := by
  obtain ⟨data, hfields⟩ := exists_of_readBody hread
  exact hdata data hfields

theorem numeric_readCompile {action : Action} (hread : readCompile data = .ok action) :
    action.Numeric := by
  obtain ⟨⟨name, token⟩, -, rfl⟩ := map_eq_ok_iff.1 hread
  trivial

theorem numeric_readBodyOr {body : String} {action : Action}
    (hread : readBodyOr body (.compile none none) readCompile = .ok action) : action.Numeric := by
  obtain ⟨value, -, hvalue⟩ := bind_eq_ok_iff.1 hread
  split at hvalue
  · obtain rfl := Except.ok.inj hvalue
    trivial
  · obtain rfl := Except.ok.inj hvalue
    trivial
  · obtain ⟨data, -, hdata⟩ := bind_eq_ok_iff.1 (mapError_eq_ok_iff.1 hvalue)
    exact numeric_readCompile hdata

theorem numeric_readStart {address : Address} {action : Action}
    (hread : readStart address = .ok action) : action.Numeric := by
  rw [readStart] at hread
  split at hread
  · obtain rfl := Except.ok.inj hread
    trivial
  · split at hread
    · obtain rfl := Except.ok.inj hread
      trivial
    · cases hread

/-- Only two requests name places, and both read them as numbers. -/
theorem numeric_readAt {address : Address} {body : String} {resource : Resource} {method : Method}
    {action : Action} (hread : readAt address body resource method = .ok action) :
    action.Numeric := by
  unfold readAt at hread
  split at hread
  case h_3 =>
    obtain ⟨value, -, hfields⟩ := bind_eq_ok_iff.1 hread
    exact numeric_of_map (f := .replaceFlow) (fun _ => trivial) (mapError_eq_ok_iff.1 hfields)
  case h_4 => exact numeric_of_readBody (fun _ => numeric_readCreate) hread
  case h_5 id =>
    exact numeric_of_readBody (fun data => numeric_of_map
      (f := fun field => .setField id field ((Assoc.get? data "value").getD .null))
      fun _ => trivial) hread
  case h_7 => exact numeric_of_readBody (fun _ => numeric_readMove) hread
  case h_9 =>
    exact numeric_of_readBody (fun _ => numeric_of_map
      (f := fun (source, port, target) => .connect source port target)
      fun ⟨_, _, _⟩ => trivial) hread
  case h_13 => exact numeric_readBodyOr hread
  case h_15 => exact numeric_readStart hread
  case h_16 =>
    exact numeric_of_readBody (fun _ => numeric_of_map (f := fun text => .play (.text text))
      fun _ => trivial) hread
  case h_17 =>
    exact numeric_of_readBody (fun _ => numeric_of_map (f := fun tag => .play (.press tag))
      fun _ => trivial) hread
  case h_21 => cases hread
  all_goals
    obtain rfl := Except.ok.inj hread
    trivial

theorem numeric_ofRequest {request : Request} {action : Action}
    (hread : ofRequest request = .ok action) : action.Numeric := by
  unfold ofRequest at hread
  dsimp only at hread
  split at hread
  · cases hread
  · split at hread
    · cases hread
    · exact numeric_readAt hread

end Action

/-! ### Turns -/

/-- A reply that is no complaint about the request. -/
def Reply.Fine (reply : Reply) : Prop := ∀ status, reply.status? = some status → status < 400

/-- What a request other than an undo does to the flow and the history, beside the reply to it. -/
inductive Turn (before : Workspace) : Workspace → Option Reply → Prop
  | idle (reply : Option Reply) : Turn before before reply
  | edited {edit : Edit} {reply : Reply} (hplain : edit.Plain) (hundoable : edit.Undoable)
      (hfine : reply.Fine) :
      Turn before ((before.perform edit).1.perform .record).1 (some reply)
  | redone {reply : Reply} (hresult : (before.history.redo before.flow).2.result = .ok true)
      (hfine : reply.Fine) : Turn before (before.perform .redo).1 (some reply)
  | broken (after : Workspace) (breakage : Breakage) : Turn before after (some (.broken breakage))

theorem Reply.Fine.answer {status : Nat} (hstatus : status < 400) (body : Option Value) :
    (Reply.answer status body).Fine := by
  rintro _ ⟨⟩
  exact hstatus

variable {outside : Outside} {editor : Editor}

def workspace (editor : Editor) : Workspace := ⟨editor.flow, editor.history⟩

/-- Whether what came of an action that is settled at once is a turn. -/
def Turns (editor : Editor) (result : Editor × Reply) : Prop :=
  Turn editor.workspace result.1.workspace (some result.2)

theorem turns_idle (reply : Reply) : Turns editor (editor, reply) := .idle _

theorem turns_broken (result : Editor) (breakage : Breakage) :
    Turns editor (result, .broken breakage) := .broken _ _

/-- A flow that comes of an edit is recorded. The preview may have changed with it. -/
theorem turns_commit (edit : Edit) (hplain : edit.Plain) (hundoable : edit.Undoable)
    (preview : Preview) {flow : Flow}
    (hflow : (editor.workspace.perform edit).1 = editor.workspace.become flow) {reply : Reply}
    (hfine : reply.Fine) :
    Turns editor ({ editor with preview := preview }.commit flow, reply) := by
  have hturn : Turn editor.workspace _ (some reply) := .edited hplain hundoable hfine
  rw [hflow] at hturn
  exact hturn

/-- The same where the edit might have been turned down. -/
theorem turns_edited (edit : Edit) (hplain : edit.Plain) (hundoable : edit.Undoable)
    (preview : Preview) {result : Except Rejection Flow} {flow : Flow}
    (hperform : editor.workspace.perform edit = editor.workspace.edited result)
    (hresult : result = .ok flow) {reply : Reply} (hfine : reply.Fine) :
    Turns editor ({ editor with preview := preview }.commit flow, reply) := by
  apply turns_commit edit hplain hundoable preview _ hfine
  rw [hperform, hresult]
  rfl

theorem undoable_of_saveable {edit : Edit} (hload : ∀ strict data, edit ≠ .load strict data)
    (hsaveable : edit.Saveable) : edit.Undoable :=
  (Edit.undoable_iff_of_not_load hload).2 hsaveable

/-- A snapshot that is loaded without a fault is loaded as a whole. -/
theorem undoable_load {flow : Flow} {data : Value}
    (hresult : (load flow false data).outcome.result = .ok ()) :
    (Edit.load false data).Undoable := by
  refine ⟨trivial, ?_⟩
  rintro strict data parts ⟨⟩ hcheck
  rw [load, hcheck] at hresult
  exact (loadParts_eq_ok_iff parts).1 hresult

theorem turns_replaceFlow (data : Fields) : Turns editor (editor.replaceFlow data) := by
  unfold replaceFlow
  dsimp only
  split
  · exact turns_idle _
  · exact turns_broken _ _
  · rename_i hresult
    exact turns_commit (.load false (.record data)) trivial (undoable_load hresult) _ rfl
      (.answer (by decide) _)

theorem turns_create {type : String} {x y : Value}
    (hnumeric : isNumber x = true ∧ isNumber y = true) :
    Turns editor (editor.create type x y) := by
  unfold create
  split
  · exact turns_idle _
  · rename_i kind hkind
    dsimp only
    split
    · exact turns_broken _ _
    · exact turns_commit (.create (.given (Config.initial kind)) none x y) trivial
        (undoable_of_saveable (by simp) ⟨rfl, hnumeric⟩) editor.preview rfl (.answer (by decide) _)

theorem turns_setField (id field : String) (value : Value) :
    Turns editor (editor.setField id field value) := by
  unfold setField
  split
  · exact turns_idle _
  · rename_i flow events hupdate
    exact turns_edited (.update id field value) trivial
      (undoable_of_saveable (by simp) trivial) editor.preview rfl
      (congrArg (Except.map Prod.fst) hupdate) (.answer (by decide) _)

theorem turns_move {id : String} {x y : Value} (hnumeric : isNumber x = true ∧ isNumber y = true) :
    Turns editor (editor.move id x y) := by
  unfold move
  split
  · exact turns_idle _
  · rename_i flow hmove
    exact turns_edited (.move id x y) trivial
      (undoable_of_saveable (by simp) hnumeric) editor.preview rfl hmove (.answer (by decide) _)

theorem turns_delete (id : String) : Turns editor (editor.delete id) := by
  unfold delete
  split
  · exact turns_idle _
  · rename_i flow events hdelete
    exact turns_edited (.delete id) trivial (undoable_of_saveable (by simp) trivial) _ rfl
      (congrArg (Except.map Prod.fst) hdelete) (.answer (by decide) _)

theorem turns_connect (source port target : String) :
    Turns editor (editor.connect source port target) := by
  unfold connect
  dsimp only
  split
  · exact turns_broken _ _
  · exact turns_idle _
  · exact turns_commit (.connect source port target none) trivial
      (undoable_of_saveable (by simp) trivial) editor.preview rfl (.answer (by decide) _)

theorem turns_disconnect (id : String) : Turns editor (editor.disconnect id) := by
  unfold disconnect
  split
  · exact turns_idle _
  · rename_i flow events hdisconnect
    exact turns_edited (.disconnect id) trivial
      (undoable_of_saveable (by simp) trivial) editor.preview rfl
      (congrArg (Except.map Prod.fst) hdisconnect) (.answer (by decide) _)

theorem turns_withBlock {id : String} {act : Block → Editor × Reply}
    (hact : ∀ block, Turns editor (act block)) : Turns editor (editor.withBlock id act) := by
  unfold withBlock
  split
  · exact hact _
  · exact turns_idle _

theorem turns_redo : Turns editor (editor.travel History.redo) := by
  unfold travel
  dsimp only
  split
  · exact turns_idle _
  · rename_i hresult
    exact .redone hresult (.answer (by decide) _)
  · exact turns_broken _ _

/-! ### The preview -/

theorem finish_workspace (result : Preview × List Preview.Breakdown) :
    (editor.finish result).1.workspace = editor.workspace := by
  unfold finish
  dsimp only
  split <;> rfl

theorem play_workspace (action : PreviewAction) :
    (editor.play outside action).1.workspace = editor.workspace :=
  finish_workspace _

theorem playAll_workspace (actions : List PreviewAction) :
    (editor.playAll outside actions).1.workspace = editor.workspace := by
  induction actions generalizing editor with
  | nil => rfl
  | cons action rest ih =>
    unfold playAll
    split
    · rfl
    · exact ih.trans (play_workspace action)

theorem enqueue_workspace (action : PreviewAction) :
    (editor.enqueue outside action).editor.workspace = editor.workspace := by
  unfold enqueue
  split
  · rfl
  · exact play_workspace action

theorem resume_workspace : (editor.resume outside).editor.workspace = editor.workspace := by
  unfold resume
  dsimp only
  split
  · exact (playAll_workspace _).trans (finish_workspace _)
  · rfl

/-! ### Requests -/

/-- Any action but an undo is a turn. -/
theorem turn_perform {action : Action} (hnumeric : action.Numeric) (hundo : action ≠ .undo) :
    Turn editor.workspace (editor.perform outside action).editor.workspace
      (editor.perform outside action).reply := by
  have hidle : ∀ {after : Workspace} (reply : Option Reply), after = editor.workspace →
      Turn editor.workspace after reply := by
    rintro _ reply rfl
    exact .idle reply
  cases action with
  | health | showFlow | compile | showPreview | showManual => exact .idle _
  | replaceFlow data => exact turns_replaceFlow data
  | create type x y => exact turns_create hnumeric
  | setField id field value => exact turns_withBlock fun _ => turns_setField id field value
  | move id x y => exact turns_withBlock fun _ => turns_move hnumeric
  | delete id => exact turns_withBlock fun _ => turns_delete id
  | showPorts id => exact turns_withBlock fun _ => turns_idle _
  | connect source port target => exact turns_connect source port target
  | disconnect id => exact turns_disconnect id
  | undo => exact absurd rfl hundo
  | redo => exact turns_redo
  | play action => exact hidle _ (enqueue_workspace action)
  | resume => exact hidle _ resume_workspace

/-- Where no step was taken, nothing happened. -/
theorem restore_eq_of_false {step : Option (History × Value)} {history : History} {flow : Flow}
    (hresult : (History.restore step history flow).2.result = .ok false) :
    History.restore step history flow = (history, ⟨flow, [], .ok false⟩) := by
  cases step with
  | none => rfl
  | some pair =>
    obtain ⟨done, -, hdone⟩ := map_eq_ok_iff.1 hresult
    cases hdone

/-- An undo ends in a fault, or it does what it does in the workspace. -/
theorem perform_undo (outside : Outside) (editor : Editor) :
    (∃ breakage, (editor.perform outside .undo).reply = some (.broken breakage)) ∨
      (editor.perform outside .undo).editor.workspace = (editor.workspace.perform .undo).1 ∧
        ∃ value, (editor.perform outside .undo).reply = some (.ok value) := by
  change (∃ breakage, some (editor.travel History.undo).2 = _) ∨
    (editor.travel History.undo).1.workspace = _ ∧
      ∃ value, some (editor.travel History.undo).2 = _
  unfold travel
  dsimp only
  split
  · rename_i hresult
    have hstays := restore_eq_of_false hresult
    refine .inr ⟨?_, _, rfl⟩
    change _ = Workspace.mk (History.restore editor.history.back? editor.history editor.flow).2.flow
      (History.restore editor.history.back? editor.history editor.flow).1
    rw [hstays]
    rfl
  · exact .inr ⟨rfl, _, rfl⟩
  · exact .inl ⟨_, rfl⟩

/-- A step through the history that meets no fault is answered as done. -/
theorem travel_of_ok {go : History → Flow → History × DialogGraph.Outcome History.Stepped}
    (hresult : (go editor.history editor.flow).2.result = .ok true) :
    (editor.travel go).1.workspace =
        ⟨(go editor.history editor.flow).2.flow, (go editor.history editor.flow).1⟩ ∧
      ∃ value, (editor.travel go).2 = .ok value := by
  unfold travel
  dsimp only
  rw [hresult]
  exact ⟨rfl, _, rfl⟩

/-! ### Replies as they are written -/

@[simp]
theorem Reply.status?_written (reply : Reply) : reply.written.status? = reply.status? := by
  cases reply <;> rfl

theorem Turn.written {before after : Workspace} {reply : Option Reply}
    (hturn : Turn before after reply) : Turn before after (reply.map Reply.written) := by
  have hfine : ∀ {reply : Reply}, reply.Fine → reply.written.Fine := by
    intro reply hfine status hstatus
    exact hfine status (reply.status?_written ▸ hstatus)
  cases hturn with
  | idle => exact .idle _
  | edited hplain hundoable hreply => exact .edited hplain hundoable (hfine hreply)
  | redone hresult hreply => exact .redone hresult (hfine hreply)
  | broken after breakage => exact .broken _ breakage

variable {request : Request} {outcome : Editor.Outcome}

/-- What comes of any request but an undo. -/
theorem turn_serve (hserve : editor.serve outside request = outcome)
    (hundo : Action.ofRequest request ≠ .ok .undo) :
    Turn editor.workspace outcome.editor.workspace outcome.reply := by
  subst hserve
  unfold serve
  cases hread : Action.ofRequest request with
  | error refusal => exact .idle _
  | ok action =>
    rw [hread] at hundo
    exact (turn_perform (Action.numeric_ofRequest hread) (hundo <| congrArg Except.ok ·)).written

/-- Whether a request is answered with a status. -/
def Outcome.Answers (outcome : Editor.Outcome) (status : Nat) : Prop :=
  ∃ reply, outcome.reply = some reply ∧ reply.status? = some status

/-- What comes of a request to undo. -/
theorem serve_undo (hserve : editor.serve outside request = outcome)
    (hundo : Action.ofRequest request = .ok .undo) :
    (∃ breakage, outcome.reply = some (.broken breakage)) ∨
      outcome.editor.workspace = (editor.workspace.perform .undo).1 ∧ outcome.Answers 200 := by
  rw [serve, hundo] at hserve
  subst hserve
  rcases perform_undo outside editor with ⟨breakage, hreply⟩ | ⟨hworkspace, value, hreply⟩
  · refine .inl ⟨breakage, ?_⟩
    change (editor.perform outside .undo).reply.map Reply.written = _
    rw [hreply]
    rfl
  · refine .inr ⟨hworkspace, (Reply.ok value).written, ?_, rfl⟩
    change (editor.perform outside .undo).reply.map Reply.written = _
    rw [hreply]
    rfl

/-- A request to undo takes the step back if there is one to a snapshot that can be loaded. -/
theorem serve_undo_of_ok (hserve : editor.serve outside request = outcome)
    (hundo : Action.ofRequest request = .ok .undo)
    (hresult : (editor.history.undo editor.flow).2.result = .ok true) :
    outcome.editor.workspace = (editor.workspace.perform .undo).1 ∧ outcome.Answers 200 := by
  obtain ⟨hworkspace, value, hvalue⟩ := travel_of_ok hresult
  rw [serve, hundo] at hserve
  subst hserve
  exact ⟨hworkspace, _, congrArg (some ∘ Reply.written) hvalue, rfl⟩

/-- A request to redo takes the step on if there is one to a snapshot that can be loaded. -/
theorem serve_redo_of_ok (hserve : editor.serve outside request = outcome)
    (hredo : Action.ofRequest request = .ok .redo)
    (hresult : (editor.history.redo editor.flow).2.result = .ok true) :
    outcome.editor.workspace = (editor.workspace.perform .redo).1 ∧ outcome.Answers 200 := by
  obtain ⟨hworkspace, value, hvalue⟩ := travel_of_ok hresult
  rw [serve, hredo] at hserve
  subst hserve
  exact ⟨hworkspace, _, congrArg (some ∘ Reply.written) hvalue, rfl⟩

end DialogGraph.Editor
