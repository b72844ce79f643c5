import DialogGraph.Proofs.Program.Determined
import DialogGraph.Proofs.Program.Literals
import DialogGraph.Proofs.Value.Equality
import DialogGraph.Proofs.Workspace.Undoing

/-!
# What leaves the program of a workspace as it is

An editor compiles the flow at hand, other tools compile a flow that was saved and loaded again.
Both get the same program, and so do those who move a block, or take an edge off and put it back.
Going back and on again in the history also leads to the same program, but only if the history kept
what was recorded: a record is left out when it equals the one before, and records are equal even if
their blocks stand in another order.
-/

namespace DialogGraph

open DialogGraph.Program DialogGraph.Snapshot

/-! ### What a snapshot tells of a flow -/

namespace Snapshot

variable {flow other : Flow}

theorem plan_opened (block : Block) : block.opened.plan = block.plan := rfl

/-- A snapshot tells the plans of the blocks. -/
theorem plans_of_save_eq (hsave : save flow = save other) :
    flow.blocks.map Block.plan = other.blocks.map Block.plan := by
  have hparts : savedParts flow = savedParts other :=
    Except.ok.inj ((parts_save flow).symm.trans (hsave ▸ parts_save other))
  have hopened : ∀ flow : Flow, (savedParts flow).blocks.filterMap blockOf? =
      flow.blocks.map Block.opened := by
    intro flow
    rw [savedParts, List.filterMap_map, ← List.filterMap_eq_map]
    congr 1
    funext block
    exact blockOf?_blockValue block
  have hsame : flow.blocks.map Block.opened = other.blocks.map Block.opened := by
    rw [← hopened, hparts, hopened]
  simpa [Function.comp_def, plan_opened] using congrArg (List.map Block.plan) hsame

theorem edges_of_save_eq (hsave : save flow = save other) : flow.edges = other.edges := by
  have hparts : savedParts flow = savedParts other :=
    Except.ok.inj ((parts_save flow).symm.trans (hsave ▸ parts_save other))
  have hwires : ∀ flow : Flow,
      (savedParts flow).connections.filterMap wireOf? = flow.edges.map wireOf := by
    intro flow
    rw [savedParts, List.filterMap_map, ← List.filterMap_eq_map]
    rfl
  have hsame : flow.edges.map wireOf = other.edges.map wireOf := by
    rw [← hwires, hparts, hwires]
  refine List.map_injective_iff.2 ?_ hsame
  rintro ⟨⟩ ⟨⟩ hwire
  cases hwire
  rfl

theorem edge_eq_of_equal {edge otherEdge : Edge}
    (hequal : (edgeValue edge).equal (edgeValue otherEdge) = true) : edge = otherEdge := by
  obtain ⟨id, source, port, target⟩ := edge
  obtain ⟨otherId, otherSource, otherPort, otherTarget⟩ := otherEdge
  simpa [edgeValue, Value.equal, Value.equalFields, Assoc.get?, Value.equalScalars, Value.numeric]
    using hequal

/-- Snapshots that are equal tell the same edges. -/
theorem edges_eq_of_equal (hequal : (save flow).equal (save other) = true) :
    flow.edges = other.edges := by
  obtain ⟨fields, hfields, -, hsame⟩ := Value.record_equal_iff.1 hequal
  obtain rfl := Value.record.inj hfields
  obtain ⟨found, hfound, hedges⟩ :=
    hsame ("connections", .list (flow.edges.map edgeValue)) (by simp)
  obtain rfl : found = .list (other.edges.map edgeValue) := (Option.some.inj hfound).symm
  obtain ⟨items, hitems, hall⟩ := Value.list_equal_iff.1 hedges
  obtain rfl := Value.list.inj hitems
  rw [List.forall₂_map_left_iff, List.forall₂_map_right_iff] at hall
  rw [← List.forall₂_eq_eq_eq]
  exact hall.imp fun _ _ => edge_eq_of_equal

end Snapshot

/-! ### Flows that are alike -/

namespace Flow

variable {flow other : Flow}

theorem Alike.of_edges_eq (hplans : flow.blocks.map Block.plan = other.blocks.map Block.plan)
    (hedges : flow.edges = other.edges) : flow.Alike other :=
  ⟨hplans, fun source port target => by rw [Joins, hedges, Joins]⟩

/-- A change of blocks that keeps their plans. -/
theorem alike_map_blocks {g : Block → Block} (hplan : ∀ block, (g block).plan = block.plan) :
    flow.Alike { flow with blocks := flow.blocks.map g } := by
  apply Alike.of_edges_eq
  · simp [Function.comp_def, hplan]
  · rfl

theorem plan_mark (block : Block) (n : Nat) : (block.mark n).plan = block.plan :=
  Prod.ext rfl (block.config.unmarked_mark n)

theorem alike_mark (flow : Flow) (n : Nat) : flow.Alike (flow.mark n) :=
  alike_map_blocks fun block => plan_mark block n

theorem alike_move {id : String} {x y : Value} (hmoved : flow.move id x y = .ok other) :
    flow.Alike other := by
  rw [move] at hmoved
  split_ifs at hmoved
  obtain rfl := Except.ok.inj hmoved
  apply alike_map_blocks
  intro block
  split_ifs <;> rfl

/-- Once an edge is taken off, nothing stands in its way. -/
theorem WellFormed.objection_detach (hflow : flow.WellFormed) {edge : Edge}
    (hedge : edge ∈ flow.edges) :
    (flow.detach edge).objection edge.source edge.port edge.target = none := by
  have hdetached := hflow.toConsistent.detach hedge
  have hblocks : (flow.detach edge).blocks = flow.blocks.map (Block.lose edge) := by
    rw [detach_eq]
  have hedges : (flow.detach edge).edges = flow.edges.erase edge := by rw [detach_eq]
  rw [hdetached.objection_eq_none_iff]
  constructor
  · obtain ⟨source, hsource, target, htarget, hsourceId, htargetId, hne, hstart⟩ :=
      hflow.ends edge hedge
    rw [hblocks]
    refine ⟨_, List.mem_map_of_mem hsource, _, List.mem_map_of_mem htarget, ?_⟩
    rw [Block.lose_id, Block.lose_id, Block.lose_kind, Block.lose_keys,
      hflow.keys_outputs source hsource]
    exact ⟨hsourceId, htargetId, hne, hstart, hflow.mem_ports edge hedge source hsource hsourceId⟩
  · rw [hedges]
    intro other hother hsource hport
    obtain ⟨hne, hother⟩ := hflow.mem_erase_iff.1 hother
    exact hne (hflow.eq_of_port hother hedge hsource hport)
  · rw [hedges]
    intro other hother htarget
    obtain ⟨hne, hother⟩ := hflow.mem_erase_iff.1 hother
    exact hne (hflow.eq_of_target hother hedge htarget)

/-- An edge that is taken off and put back, under whatever id, makes no difference. -/
theorem Consistent.alike_reattach (hflow : flow.Consistent) {edge : Edge}
    (hedge : edge ∈ flow.edges) (id : String) (counter : Nat) :
    flow.Alike (Flow.attach { flow.detach edge with edgeCounter := counter }
      ⟨id, edge.source, edge.port, edge.target⟩) := by
  constructor
  · simp [attach_eq, detach_eq, Function.comp_def, Block.plan]
  · intro source port target
    have hcounted : Joins { flow.detach edge with edgeCounter := counter } source port target ↔
        (flow.detach edge).Joins source port target := Iff.rfl
    rw [joins_attach_iff, hcounted, hflow.joins_detach_iff hedge]
    constructor
    · rintro ⟨other, hother, rfl, rfl, rfl⟩
      by_cases hsame : edge.source = other.source ∧ edge.port = other.port
      · rw [hflow.eq_of_port hedge hother hsame.1 hsame.2]
        exact .inr ⟨rfl, rfl, rfl⟩
      · exact .inl ⟨⟨other, hother, rfl, rfl, rfl⟩, hsame⟩
    · rintro (⟨hjoins, -⟩ | ⟨rfl, rfl, rfl⟩)
      · exact hjoins
      · exact ⟨edge, hedge, rfl, rfl, rfl⟩

end Flow

namespace Workspace

def recorded (workspace : Workspace) : Workspace := (workspace.perform .record).1

def undone (workspace : Workspace) : Workspace := (workspace.perform .undo).1

/-- What leaves the program of a workspace as it is. Going back and on again does only if it is not
just the step back that is refused, and if what the history keeps as the present lists the same
blocks in the same order. -/
structure ProgramStays (workspace : Workspace) : Prop where
  reload : ∀ other strict, (load other strict (save workspace.flow)).outcome.result = .ok () →
    SameProgram workspace.flow (load other strict (save workspace.flow)).outcome.flow
  travel : (workspace.recorded.history.canUndo = false →
      workspace.recorded.history.canRedo = false) →
    ∀ kept, workspace.recorded.history.present = some (save kept) →
      workspace.flow.blocks.map Block.plan = kept.blocks.map Block.plan →
        ∀ after, workspace.recorded.undone.perform .redo = (after, .ok none) →
          SameProgram workspace.flow after.flow
  move : ∀ id x y, SameProgram workspace.flow (workspace.perform (.move id x y)).1.flow
  /-- An edge that is taken off is never turned down when it is to be put back, and only the lack of
  an id for it is a fault. -/
  reconnect : ∀ edge ∈ workspace.flow.edges, ∀ wanted,
    (workspace.perform (.disconnect edge.id)).2 = .ok none ∧
      (∀ reason, ((workspace.perform (.disconnect edge.id)).1.perform
        (.connect edge.source edge.port edge.target wanted)).2 ≠ .ok (some reason)) ∧
      (∀ fault, ((workspace.perform (.disconnect edge.id)).1.perform
          (.connect edge.source edge.port edge.target wanted)).2 = .error fault ↔
        ((workspace.perform (.disconnect edge.id)).1.flow.edgeIdFor wanted).2 = .error fault) ∧
      ∀ after, (workspace.perform (.disconnect edge.id)).1.perform
          (.connect edge.source edge.port edge.target wanted) = (after, .ok none) →
        SameProgram workspace.flow after.flow

variable {limit : Nat} {workspace : Workspace}

/-- A workspace whose history has nothing but snapshots of sound flows. -/
structure Traced (limit : Nat) (workspace : Workspace) : Prop where
  fits : workspace.history.Fits limit
  sound : workspace.flow.Sound
  saved : ∀ entry ∈ workspace.history.log.entries, ∃ flow : Flow, flow.Sound ∧ save flow = entry

theorem Traced.perform (htraced : workspace.Traced limit) (edit : Edit) :
    (workspace.perform edit).1.Traced limit := by
  obtain ⟨hfits, hlog⟩ := perform_log htraced.fits edit
  have hsound := perform_sound htraced.sound edit
  refine ⟨hfits, hsound, ?_⟩
  intro entry hentry
  rw [hlog] at hentry
  rcases Log.mem_after hentry with hold | hnew
  · exact htraced.saved entry hold
  · exact ⟨_, hsound, hnew.symm⟩

theorem Traced.run (htraced : workspace.Traced limit) (edits : List Edit) :
    (workspace.run edits).Traced limit := by
  induction edits generalizing workspace with
  | nil => exact htraced
  | cons edit rest ih => exact ih (htraced.perform edit)

theorem Traced.reload (htraced : workspace.Traced limit) {other : Flow} {strict : Bool}
    (hok : (load other strict (save workspace.flow)).outcome.result = .ok ()) :
    SameProgram workspace.flow (load other strict (save workspace.flow)).outcome.flow := by
  obtain ⟨hblocks, hedges⟩ := load_save_of_ok htraced.sound hok
  have hloaded := htraced.sound.toWellFormed.congr hblocks hedges
  exact sameProgram_of_alike htraced.sound.toWellFormed hloaded
    (.of_edges_eq (by rw [hblocks]) hedges.symm)

/-- A step on after a step back loads what was recorded before. -/
theorem Traced.redo_loads (htraced : workspace.Traced limit) {next : Log}
    (hundo : workspace.history.log.undo? = some next) {after : Workspace}
    (hredo : workspace.undone.perform .redo = (after, .ok none)) :
    ∃ snapshot, workspace.history.present = some snapshot ∧
      (load workspace.undone.flow false snapshot).outcome.result = .ok () ∧
      after.flow = (load workspace.undone.flow false snapshot).outcome.flow := by
  have hundone : workspace.undone.Traced limit := htraced.perform .undo
  have hlog : workspace.undone.history.log = next := by
    have hback := History.follows_back? htraced.fits
    rw [hundo] at hback
    exact History.restore_log hback
  have hforth := History.follows_forth? hundone.fits
  rw [hlog, htraced.fits.bounded.redo?_of_undo? hundo] at hforth
  obtain ⟨snapshot, hat, hflow, hresult⟩ :=
    History.restore_loads hforth
  obtain ⟨hafter, hanswer⟩ := Prod.mk.inj hredo
  refine ⟨snapshot, htraced.fits.present?_log ▸ hat, ?_, ?_⟩
  · obtain ⟨stepped, hstepped, -⟩ := map_eq_ok_iff.1 hanswer
    obtain ⟨_, hok, -⟩ := map_eq_ok_iff.1 (hresult.symm.trans hstepped)
    exact hok
  · rw [← hafter]
    exact hflow

/-- What the history has at present after a record is the snapshot of a flow with the same edges, if
not of the flow itself. -/
theorem Traced.exists_saved (htraced : workspace.Traced limit) {kept : Flow}
    (hkept : workspace.recorded.history.present = some (save kept)) :
    ∃ saved : Flow, saved.Sound ∧ save saved = save kept ∧ saved.edges = workspace.flow.edges := by
  have hrecorded : workspace.recorded.Traced limit := htraced.perform .record
  have hentry : save kept ∈ workspace.recorded.history.log.entries :=
    Log.mem_of_present? (hrecorded.fits.present?_log.trans hkept)
  obtain ⟨saved, hsaved, hsame⟩ := hrecorded.saved _ hentry
  refine ⟨saved, hsaved, hsame, ?_⟩
  let counted := { workspace.history with marks := workspace.history.marks + 1 }
  obtain ⟨found, hfound, hcases⟩ :=
    History.recordSnapshot_present counted (save workspace.recorded.flow)
  obtain rfl : found = save saved := Option.some.inj (hfound.symm.trans (hsame ▸ hkept))
  have hedges : saved.edges = workspace.recorded.flow.edges := by
    rcases hcases with heq | hequal
    · exact edges_of_save_eq heq
    · exact edges_eq_of_equal hequal
  rw [hedges]
  rfl

theorem Traced.travel (htraced : workspace.Traced limit)
    (hback : workspace.recorded.history.canUndo = false →
      workspace.recorded.history.canRedo = false) {kept : Flow}
    (hkept : workspace.recorded.history.present = some (save kept))
    (hplans : workspace.flow.blocks.map Block.plan = kept.blocks.map Block.plan) {after : Workspace}
    (hredo : workspace.recorded.undone.perform .redo = (after, .ok none)) :
    SameProgram workspace.flow after.flow := by
  have hrecorded : workspace.recorded.Traced limit := htraced.perform .record
  cases hundo : workspace.recorded.history.log.undo? with
  | none =>
    -- Neither step is carried out, so the workspace is as it was recorded.
    have hstays := (logged hrecorded.fits).undo_refused hundo
    have hredoNone := hrecorded.fits.redo?_eq_none (hback (hrecorded.fits.canUndo_eq_false hundo))
    have hundone : workspace.recorded.undone = workspace.recorded := by
      rw [undone, Workspace.perform, hstays]
    have hafter : workspace.recorded = after := by
      rw [hundone, Workspace.perform, (logged hrecorded.fits).redo_refused hredoNone] at hredo
      exact (Prod.mk.inj hredo).1
    rw [← hafter]
    exact sameProgram_of_alike htraced.sound.toWellFormed hrecorded.sound.toWellFormed
      (workspace.flow.alike_mark _)
  | some next =>
    obtain ⟨snapshot, hpresent, hok, hflow⟩ := hrecorded.redo_loads hundo hredo
    obtain rfl : save kept = snapshot := Option.some.inj (hkept.symm.trans hpresent)
    obtain ⟨saved, hsaved, hsame, hsavedEdges⟩ := htraced.exists_saved hkept
    rw [← hsame] at hok hflow
    obtain ⟨hblocks, hedges⟩ := load_save_of_ok hsaved hok
    rw [← hflow] at hblocks hedges
    refine sameProgram_of_alike htraced.sound.toWellFormed
      (hsaved.toWellFormed.congr hblocks hedges) (.of_edges_eq ?_ ?_)
    · rw [hplans, hblocks, plans_of_save_eq hsame]
    · rw [hedges, hsavedEdges]

theorem Traced.move (htraced : workspace.Traced limit) (id : String) (x y : Value) :
    SameProgram workspace.flow (workspace.perform (.move id x y)).1.flow := by
  have hmoved := perform_sound htraced.sound (.move id x y)
  rw [Workspace.perform] at hmoved ⊢
  cases hresult : workspace.flow.move id x y with
  | error reason =>
    rw [edited]
    exact fun _ _ _ => rfl
  | ok flow =>
    rw [hresult, edited] at hmoved
    exact sameProgram_of_alike htraced.sound.toWellFormed hmoved.toWellFormed
      (Flow.alike_move hresult)

theorem Traced.reconnect (htraced : workspace.Traced limit) {edge : Edge}
    (hedge : edge ∈ workspace.flow.edges) (wanted : Option String) :
    (workspace.perform (.disconnect edge.id)).2 = .ok none ∧
      (∀ reason, ((workspace.perform (.disconnect edge.id)).1.perform
        (.connect edge.source edge.port edge.target wanted)).2 ≠ .ok (some reason)) ∧
      (∀ fault, ((workspace.perform (.disconnect edge.id)).1.perform
          (.connect edge.source edge.port edge.target wanted)).2 = .error fault ↔
        ((workspace.perform (.disconnect edge.id)).1.flow.edgeIdFor wanted).2 = .error fault) ∧
      ∀ after, (workspace.perform (.disconnect edge.id)).1.perform
          (.connect edge.source edge.port edge.target wanted) = (after, .ok none) →
        SameProgram workspace.flow after.flow := by
  have hflow := htraced.sound.toWellFormed
  have hleft : workspace.perform (.disconnect edge.id) =
      (workspace.become (workspace.flow.detach edge), .ok none) := by
    rw [Workspace.perform, hflow.toConsistent.disconnect_eq hedge]
    rfl
  have hdetached : (workspace.flow.detach edge).Sound := by
    have hsound := (htraced.perform (.disconnect edge.id)).sound
    rwa [hleft] at hsound
  have hsound := hdetached.connect edge.source edge.port edge.target wanted
  have hback : ∀ outcome,
      (workspace.flow.detach edge).connect edge.source edge.port edge.target wanted = outcome →
        (workspace.become (workspace.flow.detach edge)).perform
          (.connect edge.source edge.port edge.target wanted) =
            (workspace.become outcome.flow, outcome.result.map reason?) := by
    rintro _ rfl
    rfl
  obtain ⟨counter, -, hcounted⟩ := (workspace.flow.detach edge).edgeIdFor_flow wanted
  rw [hleft]
  dsimp only
  rcases (workspace.flow.detach edge).connect_cases edge.source edge.port edge.target wanted with
    ⟨reason, hreason, -⟩ | ⟨-, ⟨fault, hfault, heq⟩ | ⟨id, hid, heq⟩⟩
  · rw [hflow.objection_detach hedge] at hreason
    cases hreason
  · rw [hback _ heq]
    refine ⟨rfl, by simp [Except.map], ?_, by simp [Except.map]⟩
    intro other
    simp [become, hfault, Except.map]
  · rw [hback _ heq]
    rw [heq, hcounted] at hsound
    refine ⟨rfl, by simp [Except.map, reason?], ?_, ?_⟩
    · intro other
      simp [become, hid, Except.map]
    intro after hafter
    obtain ⟨rfl, -⟩ := Prod.mk.inj hafter
    rw [hcounted]
    exact sameProgram_of_alike hflow hsound.toWellFormed
      (hflow.toConsistent.alike_reattach hedge id counter)

theorem Traced.programStays (htraced : workspace.Traced limit) : workspace.ProgramStays where
  reload _ _ := htraced.reload
  travel hback _ := htraced.travel hback
  move := htraced.move
  reconnect _ := htraced.reconnect

/-- Well-formed flows with the same blocks in the same order and the same connections compile to the
same program. So whatever is done in a workspace that starts without blocks and history, its program
survives saving and loading, a step back and on, a move, and an edge taken off and put back. -/
theorem sameProgram_and_programStays_run (hlimit : 0 < limit) (edits : List Edit) :
    (∀ flow other : Flow, flow.WellFormed → other.WellFormed → flow.Alike other →
      SameProgram flow other) ∧
      (run ⟨Flow.empty, History.empty limit hlimit⟩ edits).ProgramStays := by
  have hstart : Traced limit ⟨Flow.empty, History.empty limit hlimit⟩ :=
    ⟨.empty hlimit, .empty, fun _ hentry => by cases hentry⟩
  exact ⟨fun _ _ => sameProgram_of_alike, (hstart.run edits).programStays⟩

/-- Edits that record a beginning and two messages and then connect them. -/
def chainEdits (place : Value) (wires : List Edit) : List Edit :=
  .create (.named (.text "start")) (some "block_1") place place ::
    .create (.named (.text "message")) (some "block_2") place place ::
      .create (.named (.text "message")) (some "block_3") place place :: .record :: wires

/-- Edits that connect the blocks from the first to the last. -/
def forwardEdits : List Edit :=
  chainEdits (.int 0) [.connect "block_1" "default" "block_2" (some "conn_1"),
    .connect "block_2" "default" "block_3" (some "conn_2")]

/-- Edits that connect the same blocks from the last to the first, under other ids. -/
def backwardEdits : List Edit :=
  chainEdits (.int 7) [.connect "block_2" "default" "block_3" (some "last"),
    .connect "block_1" "default" "block_2" (some "first")]

def forward : Workspace := fresh.run forwardEdits

def backward : Workspace := fresh.run backwardEdits

theorem alike_forward_backward : forward.flow.Alike backward.flow := by
  have hforward : forward.flow.edges = [⟨"conn_1", "block_1", "default", "block_2"⟩,
      ⟨"conn_2", "block_2", "default", "block_3"⟩] := rfl
  have hbackward : backward.flow.edges = [⟨"last", "block_2", "default", "block_3"⟩,
      ⟨"first", "block_1", "default", "block_2"⟩] := rfl
  refine ⟨rfl, ?_⟩
  intro source port target
  simp [Flow.Joins, hforward, hbackward, or_comm]

/-- `sameProgram_and_programStays_run` at `forwardEdits`: with `backwardEdits` they come to the same
program, and so does a step back and on. -/
theorem sameProgram_and_programStays_forwardEdits :
    0 < 50 ∧ forward.flow.WellFormed ∧ backward.flow.WellFormed ∧
      forward.flow.Alike backward.flow ∧ SameProgram forward.flow backward.flow ∧
        forward.recorded.history.canUndo = true ∧
          forward.recorded.history.present = some (save forward.recorded.flow) ∧
            (forward.recorded.undone.perform .redo).2 = .ok none ∧
              SameProgram forward.flow (forward.recorded.undone.perform .redo).1.flow := by
  have hforward : forward.flow.WellFormed := (run_sound .empty forwardEdits).toWellFormed
  have hbackward : backward.flow.WellFormed := (run_sound .empty backwardEdits).toWellFormed
  obtain ⟨hsame, hstays⟩ :=
    sameProgram_and_programStays_run (show 0 < 50 by decide) forwardEdits
  have hpresent : forward.recorded.history.present = some (save forward.recorded.flow) := rfl
  have hredo : (forward.recorded.undone.perform .redo).2 = .ok none := rfl
  refine ⟨by decide, hforward, hbackward, alike_forward_backward,
    hsame _ _ hforward hbackward alike_forward_backward, rfl, hpresent, hredo, ?_⟩
  exact hstays.travel (fun _ => rfl) _ hpresent rfl _ (Prod.ext rfl hredo)

/-! ### The same blocks in two orders -/

/-- A snapshot of a beginning and some messages. -/
def messagesSnapshot (ids : List String) : Value :=
  .record [("blocks", .record (("block_1", .record [("type", .text "start")]) ::
    ids.map fun id => (id, .record [("type", .text "message")])))]

/-- Edits that record two messages and then load them in the other order. -/
def reorderingEdits : List Edit :=
  [.record, .load false (messagesSnapshot ["block_2", "block_3"]), .record,
    .load false (messagesSnapshot ["block_3", "block_2"])]

def reordered : Workspace := fresh.run reorderingEdits

/-- The workspace once it is recorded, with a step back and a step on. -/
def revisited : Workspace := (reordered.recorded.undone.perform .redo).1

/-- The bot of a beginning and some messages. -/
def messagesBot (ids : List String) : Bot where
  name := Bot.defaultName
  token := Bot.defaultToken
  entry := none
  greeting := Bot.greetingOf (Config.initial .start)
  rows := ids.map fun id => ⟨id, Config.initial .message, [(defaultPort, none)]⟩

theorem ofFlow_reordered : Bot.ofFlow reordered.flow Bot.defaultName Bot.defaultToken =
    .ok (messagesBot ["block_3", "block_2"]) := rfl

theorem ofFlow_revisited : Bot.ofFlow revisited.flow Bot.defaultName Bot.defaultToken =
    .ok (messagesBot ["block_2", "block_3"]) := rfl

/-- A bot of messages compiles to a program that holds its data. -/
theorem exists_holdsData_of_messages {flow : Flow} (hflow : flow.WellFormed) {ids : List String}
    (hbot : Bot.ofFlow flow Bot.defaultName Bot.defaultToken = .ok (messagesBot ids))
    (date : String) :
    ∃ source, compile date flow Bot.defaultName Bot.defaultToken = .ok source ∧
      HoldsData date source (messagesBot ids) := by
  have hkeyed : (messagesBot ids).table.Keyed := by
    obtain ⟨start, -, -, hbegins⟩ := Bot.ofFlow_eq_ok_iff.1 hbot
    rw [← hbegins]
    exact keyed_table_beginningAt hflow _ _
  cases htext : text date (messagesBot ids) with
  | ok source =>
    refine ⟨source, ?_, holdsData_of_text hkeyed htext⟩
    rw [compile, hbot]
    exact mapError_eq_ok_iff.2 htext
  | error fault =>
    cases fault
    refine absurd (text_eq_error_iff.1 htext) (not_overlong_table fun row hrow => ?_)
    obtain ⟨id, -, rfl⟩ := List.mem_map.1 hrow
    exact not_overlong_record (List.forall_mem_singleton.2 fun htoo => by cases htoo)

/-- The history leaves out the record of the same blocks in another order. So a step back and on
leads to a program in which the blocks stand in the order that they had before. -/
theorem not_sameProgram_revisited :
    reordered.recorded.history.canUndo = true ∧ (reordered.recorded.perform .undo).2 = .ok none ∧
      (reordered.recorded.undone.perform .redo).2 = .ok none ∧
        ¬SameProgram reordered.flow revisited.flow := by
  refine ⟨rfl, rfl, rfl, ?_⟩
  intro hsame
  have hreordered : reordered.flow.Sound := run_sound .empty reorderingEdits
  have hrevisited : revisited.flow.Sound :=
    perform_sound (perform_sound (perform_sound hreordered .record) .undo) .redo
  obtain ⟨source, hsource, hholds⟩ :=
    exists_holdsData_of_messages hreordered.toWellFormed ofFlow_reordered "2024-05-01"
  obtain ⟨other, hother, hotherHolds⟩ :=
    exists_holdsData_of_messages hrevisited.toWellFormed ofFlow_revisited "2024-05-01"
  obtain rfl : source = other :=
    Except.ok.inj (hsource.symm.trans ((hsame _ _ _).trans hother))
  obtain ⟨table, otherTable, tail, otherTail, htable, hotherTable, happend⟩ :=
    exists_table_append_eq hholds hotherHolds rfl fun _ => rfl
  -- The tables begin with the ids of different blocks.
  have hthree : ∃ rest, table = openBrace ++ (Text.quote "block_3" ++ rest) :=
    Literal.exists_eq_of_spread_record htable
  have htwo : ∃ rest, otherTable = openBrace ++ (Text.quote "block_2" ++ rest) :=
    Literal.exists_eq_of_spread_record hotherTable
  obtain ⟨rest, rfl⟩ := hthree
  obtain ⟨otherRest, rfl⟩ := htwo
  have hquoteThree : Text.quote "block_3" = "'block_3'" := by decide +kernel
  have hquoteTwo : Text.quote "block_2" = "'block_2'" := by decide +kernel
  rw [hquoteThree, hquoteTwo] at happend
  have hchars := congrArg String.toList happend
  simp at hchars

end Workspace

end DialogGraph
