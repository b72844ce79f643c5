import DialogGraph.Proofs.Snapshot.Storable
import DialogGraph.Proofs.Workspace

/-!
# New ids of a session

A session begins with a flow that has no blocks, or with one that a snapshot was loaded into, and goes
on with edits to its blocks and edges. No id that is given out in a session has been the id of a
block, or of an edge, at any time since the session began, whether it is still there or not. The
counters bring this about: they never fall, and they are never behind the number of anything that was
ever there.
-/

namespace DialogGraph

open DialogGraph.Number DialogGraph.Text

namespace Flow

variable {flow after past : Flow}

/-- Whether an edge with the given wish is given a new id: there is no wish, or an edge has the wanted
id already. -/
def Mints (flow : Flow) (wanted : Option String) : Prop :=
  ∀ other ∈ wanted, ∃ edge ∈ flow.edges, edge.id = other

/-- An edge that gets a new id gets that of the next number. -/
theorem Mints.edgeIdFor {wanted : Option String} {id : String} (hmints : flow.Mints wanted)
    (hid : (flow.edgeIdFor wanted).2 = .ok id) :
    flow.edgeCounter + 1 < 10 ^ digitLimit ∧ id = edgeId (flow.edgeCounter + 1) := by
  have hnone : (wanted.filter fun id => (flow.edge? id).isNone) = none := by
    rw [Option.filter_eq_none_iff]
    intro other hother hfree
    obtain ⟨edge, hedge, hedgeId⟩ := hmints other hother
    rw [Option.isNone_iff_eq_none, edge?_eq_none_iff] at hfree
    exact hfree edge hedge hedgeId
  rw [Flow.edgeIdFor, hnone] at hid
  dsimp only at hid
  split at hid
  next digits hdigits =>
    obtain ⟨hshort, rfl⟩ := integerText_eq_ok_iff.1 hdigits
    exact ⟨hshort, (Except.ok.inj hid).symm⟩
  next fault hfault => cases hid

/-! ### Counters that are not behind -/

/-- Whether the counters of a flow are at or above every number in the ids of another one. -/
structure Outnumbers (flow past : Flow) : Prop where
  blocks : ∀ block ∈ past.blocks, ∃ n ≤ flow.blockCounter,
    Snapshot.blockNumber block.id = .ok n
  edges : ∀ edge ∈ past.edges, ∀ number, edgeNumber? edge.id = some number →
    ∃ n ≤ flow.edgeCounter, number = .ok n

/-- The id of a new block is none that a flow with smaller numbers has. -/
theorem Outnumbers.createNew_ne (hpast : flow.Outnumbers past) {config : Config} {x y : Value}
    {id : String} (hid : (flow.createNew config x y).result = .ok id) :
    ∀ block ∈ past.blocks, block.id ≠ id := by
  have hnumber : flow.blockCounter < flow.freeNumber flow.blocks.length flow.blockCounter :=
    lt_freeNumber _ _ _
  unfold createNew at hid
  dsimp only at hid
  split at hid
  next fault hfault => cases hid
  next other hother =>
    obtain rfl : other = id := Except.ok.inj hid
    obtain ⟨hshort, rfl⟩ := blockId_eq_ok_iff.1 hother
    intro block hblock hsame
    obtain ⟨n, hn, hread⟩ := hpast.blocks block hblock
    rw [hsame, Snapshot.blockNumber_blockId hshort, Except.ok.injEq] at hread
    omega

/-- The new id of an edge is none that a flow with smaller numbers has. -/
theorem Outnumbers.connect_ne (hpast : flow.Outnumbers past) {source port target : String}
    {wanted : Option String} {id : String} (hmints : flow.Mints wanted)
    (hid : (flow.connect source port target wanted).result = .ok (.ok id)) :
    ∀ edge ∈ past.edges, edge.id ≠ id := by
  rcases flow.connect_cases source port target wanted with
    ⟨reason, -, heq⟩ | ⟨-, ⟨fault, -, heq⟩ | ⟨other, hother, heq⟩⟩
  · rw [heq] at hid
    cases hid
  · rw [heq] at hid
    cases hid
  · rw [heq] at hid
    obtain rfl : other = id := Except.ok.inj (Except.ok.inj hid)
    obtain ⟨hshort, rfl⟩ := hmints.edgeIdFor hother
    intro edge hedge hsame
    obtain ⟨n, hn, hread⟩ := hpast.edges edge hedge _ (hsame ▸ edgeNumber?_edgeId hshort)
    rw [Except.ok.injEq] at hread
    omega

/-- What every edit of a session sees to: the blocks are counted, and no counter falls. -/
structure Proceeds (before after : Flow) : Prop where
  blocks_counted : after.BlocksCounted
  blockCounter : before.blockCounter ≤ after.blockCounter
  edgeCounter : before.edgeCounter ≤ after.edgeCounter

namespace Proceeds

theorem refl (hflow : flow.BlocksCounted) : flow.Proceeds flow := ⟨hflow, le_rfl, le_rfl⟩

theorem trans {before middle : Flow} (hfirst : before.Proceeds middle)
    (hsecond : middle.Proceeds after) : before.Proceeds after where
  blocks_counted := hsecond.blocks_counted
  blockCounter := hfirst.blockCounter.trans hsecond.blockCounter
  edgeCounter := hfirst.edgeCounter.trans hsecond.edgeCounter

theorem shrinks (hflow : flow.BlocksCounted) (hshrinks : flow.Shrinks after) :
    flow.Proceeds after :=
  ⟨hflow.shrinks hshrinks, hshrinks.blockCounter.ge, hshrinks.edgeCounter.ge⟩

theorem createNew (hflow : flow.BlocksCounted) (config : Config) (x y : Value) :
    flow.Proceeds (flow.createNew config x y).flow := by
  have hnumber : flow.blockCounter < flow.freeNumber flow.blocks.length flow.blockCounter :=
    lt_freeNumber _ _ _
  refine ⟨hflow.createNew config x y, ?_, ?_⟩
  · unfold Flow.createNew
    dsimp only
    split <;> exact hnumber.le
  · unfold Flow.createNew
    dsimp only
    split <;> exact le_rfl

theorem move (hflow : flow.BlocksCounted) {id : String} {x y : Value}
    (hafter : flow.move id x y = .ok after) : flow.Proceeds after := by
  have hcounted := hflow.move hafter
  rw [Flow.move] at hafter
  split_ifs at hafter
  obtain rfl := Except.ok.inj hafter
  exact ⟨hcounted, le_rfl, le_rfl⟩

theorem connect (hflow : flow.BlocksCounted) (source port target : String)
    (wanted : Option String) : flow.Proceeds (flow.connect source port target wanted).flow := by
  have hblocks := hflow.connect source port target wanted
  obtain ⟨counter, hcounter, hcounted⟩ := flow.edgeIdFor_flow wanted
  rcases flow.connect_cases source port target wanted with
    ⟨reason, -, heq⟩ | ⟨-, ⟨fault, -, heq⟩ | ⟨id, -, heq⟩⟩
  · rw [heq]
    exact refl hflow
  · rw [heq, hcounted] at hblocks ⊢
    exact ⟨hblocks, le_rfl, hcounter⟩
  · rw [heq, hcounted, attach_eq] at hblocks ⊢
    exact ⟨hblocks, le_rfl, hcounter⟩

/-- After a session has gone on, the counters are still not behind what was there. -/
theorem outnumbers (hproceeds : past.Proceeds flow) (hsound : past.Sound)
    (hblocks : past.BlocksCounted) : flow.Outnumbers past where
  blocks := by
    intro block hblock
    obtain ⟨n, hn, hread⟩ := hblocks block hblock
    exact ⟨n, hn.trans hproceeds.blockCounter, hread⟩
  edges := by
    intro edge hedge number hnumber
    obtain ⟨n, hn, hread⟩ := hsound.edges_counted edge hedge number hnumber
    exact ⟨n, hn.trans hproceeds.edgeCounter, hread⟩

end Proceeds

/-! ### Sessions -/

/-- A flow that a session can begin with: one that has no blocks and edges, or what a snapshot was
loaded into without a fault. -/
inductive Opening : Flow → Prop
  | blank (blockCounter edgeCounter : Nat) : Opening ⟨[], [], blockCounter, edgeCounter⟩
  | loaded (before : Flow) (strict : Bool) (data : Value)
      (hresult : (Snapshot.load before strict data).outcome.result = .ok ()) :
      Opening (Snapshot.load before strict data).outcome.flow

theorem Opening.sound_and_counted (hopening : flow.Opening) :
    flow.Sound ∧ flow.BlocksCounted := by
  cases hopening with
  | blank blockCounter edgeCounter =>
    refine ⟨⟨wellFormed_empty.congr rfl rfl, ?_⟩, ?_⟩
    · simp [EdgesCounted]
    · simp [BlocksCounted]
  | loaded before strict data hresult =>
    have hstorable := Snapshot.load_storable hresult
    exact ⟨hstorable.toSound, hstorable.counted⟩

end Flow

/-- Whether an edit belongs to a session: it creates a block under a new id, moves, sets or deletes
one, or connects or disconnects. -/
def Edit.InSession : Edit → Prop
  | create _ id _ _ => id = none
  | move .. | update .. | connect .. | disconnect _ | delete _ => True
  | clear | repairBlock _ | repair | load .. | record | undo | redo | forget => False

namespace Workspace

variable {workspace : Workspace}

/-- The flow before, between and after the edits of a run. -/
def stages (workspace : Workspace) : List Edit → List Flow
  | [] => [workspace.flow]
  | edit :: rest => workspace.flow :: (workspace.perform edit).1.stages rest

theorem edited_proceeds (hcounted : workspace.flow.BlocksCounted) {result : Except Rejection Flow}
    (hresult : ∀ flow, result = .ok flow → workspace.flow.Proceeds flow) :
    workspace.flow.Proceeds (workspace.edited result).1.flow := by
  cases result with
  | ok flow => exact hresult flow rfl
  | error reason => exact .refl hcounted

theorem edited_map_fst_proceeds (hcounted : workspace.flow.BlocksCounted)
    {result : Except Rejection (Flow × List Event)}
    (hresult : ∀ flow events, result = .ok (flow, events) → workspace.flow.Shrinks flow) :
    workspace.flow.Proceeds (workspace.edited (result.map Prod.fst)).1.flow := by
  apply edited_proceeds hcounted
  intro flow hflow
  cases result with
  | ok pair =>
    obtain rfl := Except.ok.inj hflow
    exact .shrinks hcounted (hresult pair.1 pair.2 rfl)
  | error reason => cases hflow

theorem created_proceeds (hcounted : workspace.flow.BlocksCounted) (design : Design) (x y : Value) :
    workspace.flow.Proceeds (workspace.created design none x y).1.flow := by
  rw [created]
  cases design.config with
  | error fault => exact .refl hcounted
  | ok config => exact .createNew hcounted config x y

theorem perform_proceeds (hsound : workspace.flow.Sound) (hcounted : workspace.flow.BlocksCounted)
    {edit : Edit} (hedit : edit.InSession) :
    workspace.flow.Proceeds (workspace.perform edit).1.flow := by
  have hconsistent := hsound.toConsistent
  cases edit with
  | create design id x y =>
    obtain rfl := hedit
    exact created_proceeds hcounted design x y
  | move id x y => exact edited_proceeds hcounted fun _ hmoved => .move hcounted hmoved
  | update id field value =>
    exact edited_map_fst_proceeds hcounted fun _ _ hupdated => .update hconsistent hupdated
  | connect source port target wanted => exact .connect hcounted source port target wanted
  | disconnect id =>
    exact edited_map_fst_proceeds hcounted fun _ _ hdisconnected => .disconnect hdisconnected
  | delete id =>
    exact edited_map_fst_proceeds hcounted fun _ _ hdeleted => .delete hconsistent hdeleted
  | clear | repairBlock | repair | load | record | undo | redo | forget => exact hedit.elim

theorem run_proceeds (hsound : workspace.flow.Sound) (hcounted : workspace.flow.BlocksCounted)
    {edits : List Edit} (hedits : ∀ edit ∈ edits, edit.InSession) :
    workspace.flow.Proceeds (workspace.run edits).flow := by
  induction edits generalizing workspace with
  | nil => exact .refl hcounted
  | cons edit rest ih =>
    obtain ⟨hedit, hrest⟩ := List.forall_mem_cons.1 hedits
    have hnext := perform_proceeds hsound hcounted hedit
    exact hnext.trans (ih (perform_sound hsound edit) hnext.blocks_counted hrest)

/-- The counters that a session comes to are at or above all numbers that it has seen. -/
theorem run_outnumbers (hsound : workspace.flow.Sound) (hcounted : workspace.flow.BlocksCounted)
    {edits : List Edit} (hedits : ∀ edit ∈ edits, edit.InSession) :
    ∀ past ∈ workspace.stages edits, (workspace.run edits).flow.Outnumbers past := by
  have hfirst : (workspace.run edits).flow.Outnumbers workspace.flow :=
    (run_proceeds hsound hcounted hedits).outnumbers hsound hcounted
  induction edits generalizing workspace with
  | nil =>
    intro past hpast
    rwa [List.mem_singleton.1 hpast]
  | cons edit rest ih =>
    obtain ⟨hedit, hrest⟩ := List.forall_mem_cons.1 hedits
    have hnext := (perform_proceeds hsound hcounted hedit).blocks_counted
    have hlater := perform_sound hsound edit
    intro past hpast
    rcases List.mem_cons.1 hpast with rfl | hpast
    · exact hfirst
    · exact ih hlater hnext hrest ((run_proceeds hlater hnext hrest).outnumbers hlater hnext)
        past hpast

/-- However far a session has come, with whatever arguments and whether or not edits were turned
down: the id of a new block has been the id of no block since the session began, and the new id of an
edge the id of no edge. -/
theorem new_ids_of_session (hopening : workspace.flow.Opening) {edits : List Edit}
    (hedits : ∀ edit ∈ edits, edit.InSession) :
    (∀ config x y id, ((workspace.run edits).flow.createNew config x y).result = .ok id →
      ∀ past ∈ workspace.stages edits, ∀ block ∈ past.blocks, block.id ≠ id) ∧
    ∀ source port target wanted id, (workspace.run edits).flow.Mints wanted →
      ((workspace.run edits).flow.connect source port target wanted).result = .ok (.ok id) →
      ∀ past ∈ workspace.stages edits, ∀ edge ∈ past.edges, edge.id ≠ id := by
  obtain ⟨hsound, hcounted⟩ := hopening.sound_and_counted
  have hpast := run_outnumbers hsound hcounted hedits
  constructor
  · intro config x y id hid past hmem
    exact (hpast past hmem).createNew_ne hid
  · intro source port target wanted id hmints hid past hmem
    exact (hpast past hmem).connect_ne hmints hid

/-- A snapshot whose blocks and edges have numbers that are written in unusual ways, and edits that
remove what has the highest ones. -/
def unusualNumbers : Value :=
  .record [
    ("blocks", .record [
      ("block_007", .record [("type", .text "start")]),
      ("block_٣", .record [("type", .text "message")]),
      ("greeting", .record [("type", .text "message")])]),
    ("connections", .list [.record [
      ("id", .text "conn_٠٩"), ("from", .text "block_007"), ("fromPort", .text "default"),
      ("to", .text "block_٣")]])]

/-- What had the highest numbers is deleted again. -/
def unusualDeletes : List Edit :=
  [.delete "block_007", .create (.named (.text "start")) none (.int 0) (.int 0), .delete "block_8"]

/-- `new_ids_of_session` where what had the highest numbers is gone: the next block has the number 9,
the next edge the number 10. -/
theorem new_ids_of_unusualDeletes :
    let workspace : Workspace :=
      { fresh with flow := (Snapshot.load Flow.empty true unusualNumbers).outcome.flow }
    let now := (workspace.run unusualDeletes).flow
    now.blocks.map Block.id = ["block_٣", "greeting"] ∧ now.edges = [] ∧
      (now.createNew (Config.initial .message) (.int 0) (.int 0)).result = .ok "block_9" ∧
      (now.connect "greeting" "default" "block_٣" none).result = .ok (.ok "conn_10") ∧
      (∀ past ∈ workspace.stages unusualDeletes, ∀ block ∈ past.blocks, block.id ≠ "block_9") ∧
      ∀ past ∈ workspace.stages unusualDeletes, ∀ edge ∈ past.edges, edge.id ≠ "conn_10" := by
  intro workspace now
  have hopening : workspace.flow.Opening := .loaded Flow.empty true unusualNumbers (by decide +kernel)
  have hedits : ∀ edit ∈ unusualDeletes, edit.InSession := by simp [unusualDeletes, Edit.InSession]
  have hblock : (now.createNew (Config.initial .message) (.int 0) (.int 0)).result =
      .ok "block_9" := by decide +kernel
  have hedge : (now.connect "greeting" "default" "block_٣" none).result = .ok (.ok "conn_10") := by
    decide +kernel
  obtain ⟨hblocks, hedges⟩ := new_ids_of_session hopening hedits
  refine ⟨by decide +kernel, by decide +kernel, hblock, hedge, ?_, ?_⟩
  · exact hblocks _ _ _ _ hblock
  · exact hedges _ _ _ none _ (by simp [Flow.Mints]) hedge

end Workspace

end DialogGraph
