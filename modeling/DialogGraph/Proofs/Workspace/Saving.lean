import DialogGraph.Proofs.Result
import DialogGraph.Proofs.Snapshot.RoundTrip
import DialogGraph.Proofs.Workspace

/-!
# Saved workspaces

What is built up in a workspace can be saved and loaded without loss, as long as new blocks are not
given ids by hand and blocks are put at places given by numbers. Loaded snapshots may bring any ids
and edges along: what loading accepts can be saved again.
-/

namespace DialogGraph

open DialogGraph.Snapshot

/-- Whether an edit gives out the id of a new block itself and puts blocks at numbers. -/
def Edit.Saveable : Edit → Prop
  | create _ id x y => id = none ∧ isNumber x = true ∧ isNumber y = true
  | move _ x y => isNumber x = true ∧ isNumber y = true
  | _ => True

namespace Workspace

/-- Carries out edits one after the other, up to the first that ends in a fault. -/
def complete (workspace : Workspace) (edits : List Edit) : Except Fault Workspace :=
  edits.foldlM (fun workspace edit =>
    (workspace.perform edit).2.map fun _ => (workspace.perform edit).1) workspace

variable {workspace after : Workspace}

theorem edited_storable (hstorable : workspace.flow.Storable) {result : Except Rejection Flow}
    (hresult : ∀ flow, result = .ok flow → flow.Storable) :
    (workspace.edited result).1.flow.Storable := by
  cases result with
  | ok flow => exact hresult flow rfl
  | error reason => exact hstorable

/-- An edit that takes something away keeps a flow storable. -/
theorem edited_map_fst_storable (hstorable : workspace.flow.Storable)
    {result : Except Rejection (Flow × List Event)}
    (hresult : ∀ flow events, result = .ok (flow, events) →
      flow.Sound ∧ workspace.flow.Shrinks flow) :
    (workspace.edited (result.map Prod.fst)).1.flow.Storable := by
  apply edited_storable hstorable
  intro flow hflow
  cases result with
  | ok pair =>
    obtain rfl := Except.ok.inj hflow
    obtain ⟨hsound, hshrinks⟩ := hresult pair.1 pair.2 rfl
    exact hstorable.shrinks hsound hshrinks
  | error reason => cases hflow

theorem restore_storable (hstorable : workspace.flow.Storable) {step : Option (History × Value)}
    {moved : Bool}
    (hresult : (workspace.history.restore step workspace.flow).2.result = .ok moved) :
    (workspace.history.restore step workspace.flow).2.flow.Storable := by
  unfold History.restore at hresult ⊢
  cases step with
  | none => exact hstorable
  | some pair =>
    apply load_storable
    dsimp only at hresult
    cases hload : (load workspace.flow false pair.2).outcome.result with
    | ok _ => rfl
    | error fault =>
      rw [hload] at hresult
      cases hresult

theorem create_storable {flow : Flow} (hstorable : flow.Storable) (config : Config) {x y : Value}
    (hx : isNumber x = true) (hy : isNumber y = true) :
    (create flow config none x y).flow.Storable :=
  hstorable.createNew config hx hy

theorem created_storable (hstorable : workspace.flow.Storable) (design : Design) {x y : Value}
    (hx : isNumber x = true) (hy : isNumber y = true) :
    (workspace.created design none x y).1.flow.Storable := by
  rw [created]
  cases design.config with
  | error fault => exact hstorable
  | ok config => exact create_storable hstorable config hx hy

/-- Every saveable edit that meets no fault keeps the flow of a workspace storable. -/
theorem perform_storable (hstorable : workspace.flow.Storable) {edit : Edit}
    (hedit : edit.Saveable) {reason : Option Rejection}
    (hanswer : (workspace.perform edit).2 = .ok reason) :
    (workspace.perform edit).1.flow.Storable := by
  have hconsistent := hstorable.toConsistent
  cases edit with
  | create design id x y =>
    obtain ⟨rfl, hx, hy⟩ := hedit
    exact created_storable hstorable design hx hy
  | move id x y =>
    exact edited_storable hstorable fun _ hmoved => hstorable.move hedit.1 hedit.2 hmoved
  | update id field value =>
    exact edited_map_fst_storable hstorable fun _ _ hupdated =>
      ⟨hstorable.toSound.update hupdated, .update hconsistent hupdated⟩
  | connect source port target wanted => exact hstorable.connect source port target wanted
  | disconnect id =>
    exact edited_map_fst_storable hstorable fun _ _ hdisconnected =>
      ⟨hstorable.toSound.disconnect hdisconnected, .disconnect hdisconnected⟩
  | delete id =>
    exact edited_map_fst_storable hstorable fun _ _ hdeleted =>
      ⟨hstorable.toSound.delete hdeleted, .delete hconsistent hdeleted⟩
  | clear => exact .empty
  | repairBlock id =>
    exact hstorable.shrinks (hstorable.toSound.repairBlock id) (.repairBlock hconsistent id)
  | repair =>
    have hrepair := hstorable.toWellFormed.tidy.repair_eq
    unfold perform become
    rw [hrepair]
    exact hstorable
  | load strict data =>
    obtain ⟨_, hresult, -⟩ := map_eq_ok_iff.1 hanswer
    exact load_storable hresult
  | record => exact hstorable.mark _
  | undo =>
    obtain ⟨_, hresult, -⟩ := map_eq_ok_iff.1 hanswer
    exact restore_storable hstorable hresult
  | redo =>
    obtain ⟨_, hresult, -⟩ := map_eq_ok_iff.1 hanswer
    exact restore_storable hstorable hresult
  | forget => exact hstorable

/-- Every run of saveable edits without a fault keeps the flow of a workspace storable. -/
theorem complete_storable (hstorable : workspace.flow.Storable) {edits : List Edit}
    (hedits : ∀ edit ∈ edits, edit.Saveable) (hrun : workspace.complete edits = .ok after) :
    after.flow.Storable := by
  induction edits generalizing workspace with
  | nil =>
    obtain rfl := Except.ok.inj hrun
    exact hstorable
  | cons edit rest ih =>
    obtain ⟨hedit, hrest⟩ := List.forall_mem_cons.1 hedits
    rw [complete, List.foldlM_cons] at hrun
    cases hanswer : (workspace.perform edit).2 with
    | error fault =>
      rw [hanswer] at hrun
      cases hrun
    | ok reason =>
      rw [hanswer] at hrun
      exact ih (perform_storable hstorable hedit hanswer) hrest hrun

/-- Whatever saveable edits make of a workspace that starts without blocks, its snapshot passes the
strictest check, loading the snapshot meets no fault and restores the blocks, the edges and the block
counter, and what is loaded is saved as the same snapshot. -/
theorem load_save_complete {history : History} {edits : List Edit}
    (hedits : ∀ edit ∈ edits, edit.Saveable)
    (hrun : complete ⟨Flow.empty, history⟩ edits = .ok after) :
    (∃ parts, check true (save after.flow) = .ok parts) ∧
      ∀ other strict,
        (load other strict (save after.flow)).outcome.result = .ok () ∧
          (load other strict (save after.flow)).outcome.flow.blocks = after.flow.blocks ∧
          (load other strict (save after.flow)).outcome.flow.edges = after.flow.edges ∧
          (load other strict (save after.flow)).outcome.flow.blockCounter =
            after.flow.blockCounter ∧
          save (load other strict (save after.flow)).outcome.flow = save after.flow := by
  have hempty : Flow.Storable (Workspace.flow ⟨Flow.empty, history⟩) := .empty
  have hstorable := complete_storable hempty hedits hrun
  refine ⟨⟨_, check_save hstorable true⟩, ?_⟩
  intro other strict
  obtain ⟨hresult, counter, hflow⟩ := load_save hstorable other strict
  rw [hflow]
  exact ⟨hresult, rfl, rfl, rfl, rfl⟩

/-- A short session: two blocks, one of them moved, an edge between them, and a change of text. -/
def sampleEdits : List Edit :=
  [.create (.named (.text "start")) none (.int 0) (.int 0),
    .create (.named (.text "message")) none (.int 3) (.int 4), .move "block_1" (.int 1) (.int 2),
    .connect "block_1" "default" "block_2" none, .update "block_2" "text" (.text "Hello")]

theorem load_save_sampleEdits :
    ∃ after, complete ⟨Flow.empty, History.empty 50 (by decide)⟩ sampleEdits = .ok after ∧
      after.flow.edges = [⟨"conn_1", "block_1", "default", "block_2"⟩] ∧
      (load Flow.empty true (save after.flow)).outcome.flow.edges = after.flow.edges := by
  have hedits : ∀ edit ∈ sampleEdits, edit.Saveable := by
    simp [sampleEdits, Edit.Saveable, isNumber]
  have hedges : ((complete ⟨Flow.empty, History.empty 50 (by decide)⟩ sampleEdits).toOption.map
      fun after => after.flow.edges) = some [⟨"conn_1", "block_1", "default", "block_2"⟩] := by
    decide +kernel
  cases hrun : complete ⟨Flow.empty, History.empty 50 (by decide)⟩ sampleEdits with
  | error fault =>
    rw [hrun] at hedges
    cases hedges
  | ok after =>
    rw [hrun] at hedges
    refine ⟨after, rfl, Option.some.inj hedges, ?_⟩
    exact ((load_save_complete hedits hrun).2 Flow.empty true).2.2.1

end Workspace

end DialogGraph
