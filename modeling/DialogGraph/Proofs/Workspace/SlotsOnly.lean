import DialogGraph.Proofs.Snapshot.SlotsOnly
import DialogGraph.Proofs.Workspace.Undoing

/-!
# Workspaces that come back from their slots

The slots of the blocks carry the wiring of whatever is built up in a workspace: its snapshot can do
without a list of connections, as long as the blocks have been given their ids and places in the usual
way and no load stopped half way.
-/

namespace DialogGraph

open DialogGraph.Number DialogGraph.Snapshot

namespace Workspace

/-- Whatever is done in a workspace, a flow that can be stored and has no empty ids comes back from
its slots alone exactly if its edges can be numbered anew; and edits that do not stop half way always
lead to a flow that can be stored. -/
theorem restored_slotsOnly_run {limit : Nat} (hlimit : 0 < limit) {edits : List Edit}
    (hids : ∀ block ∈ (run ⟨Flow.empty, History.empty limit hlimit⟩ edits).flow.blocks,
      block.id ≠ "") :
    let flow := (run ⟨Flow.empty, History.empty limit hlimit⟩ edits).flow
    (flow.Storable → ∀ other strict older listed,
        (Restored flow (load other strict (slotsOnly flow older listed)).outcome ↔
          flow.edges.length < 10 ^ digitLimit)) ∧
      ((∀ edit ∈ edits, edit.Undoable) → flow.Storable) := by
  intro flow
  have hsound : flow.Sound := run_sound .empty edits
  constructor
  · intro hstorable other strict older listed
    rw [restored_slotsOnly_iff hsound hids, and_iff_right hstorable]
  · intro hedits
    have hkept : Kept limit ⟨Flow.empty, History.empty limit hlimit⟩ :=
      ⟨.empty hlimit, .empty, fun _ hentry => by cases hentry⟩
    exact (hkept.run hedits).storable

/-- An order that is confirmed or edited. -/
def orderEdits : List Edit :=
  [.create (.named (.text "message")) none (.int 0) (.int 0),
    .create (.named (.text "order_confirm")) none (.int 1) (.int 0),
    .create (.named (.text "start")) none (.int 2) (.int 0),
    .connect "block_2" "edit" "block_1" none, .connect "block_3" "default" "block_2" (some "go")]

/-- `restored_slotsOnly_run` for an order confirmation whose ports have their older names, in a
snapshot without any list. The edges come in the order of the blocks, under new ids. -/
theorem restored_slotsOnly_orderEdits :
    let flow := (run fresh orderEdits).flow
    let outcome := (load Flow.empty true (slotsOnly flow (fun _ _ => true) false)).outcome
    (∀ block ∈ flow.blocks, block.id ≠ "") ∧
      flow.edges =
        [⟨"conn_1", "block_2", "edit", "block_1"⟩, ⟨"go", "block_3", "default", "block_2"⟩] ∧
      outcome.flow.edges =
        [⟨"conn_1", "block_2", "edit", "block_1"⟩, ⟨"conn_2", "block_3", "default", "block_2"⟩] ∧
      Restored flow outcome := by
  intro flow outcome
  have hids : ∀ block ∈ flow.blocks, block.id ≠ "" := by decide +kernel
  have hedits : ∀ edit ∈ orderEdits, edit.Undoable := by
    simp [orderEdits, Edit.undoable_iff_of_not_load, Edit.Saveable, isNumber]
  have hedges : flow.edges =
      [⟨"conn_1", "block_2", "edit", "block_1"⟩, ⟨"go", "block_3", "default", "block_2"⟩] := by
    decide +kernel
  obtain ⟨hrestored, hstorable⟩ := restored_slotsOnly_run (Nat.succ_pos 49) hids
  refine ⟨hids, hedges, by decide +kernel, ?_⟩
  have hroom : flow.edges.length < 10 ^ digitLimit := by
    rw [hedges]
    exact (show 2 < 10 by decide).trans_le (Nat.le_self_pow (show digitLimit ≠ 0 by decide) 10)
  exact (hrestored (hstorable hedits) Flow.empty true (fun _ _ => true) false).2 hroom

/-- A block is created under an id that is ahead of the block counter. -/
def chosenId : List Edit :=
  [.create (.named (.text "message")) (some "block_9") (.int 0) (.int 0)]

/-- A block is put at a place that is no number. -/
def textPlace : List Edit := [.create (.named (.text "message")) none (.text "left") (.int 0)]

/-- A flow whose block counter is behind does not come back the same, and one with a place that is no
number does not come back at all. -/
theorem not_restored_chosenId_textPlace :
    let chosen := (run fresh chosenId).flow
    let placed := (run fresh textPlace).flow
    (∀ block ∈ chosen.blocks, block.id ≠ "") ∧ (∀ block ∈ placed.blocks, block.id ≠ "") ∧
      ¬Restored chosen
        (load Flow.empty false (slotsOnly chosen (fun _ _ => false) true)).outcome ∧
      ¬Restored placed
        (load Flow.empty false (slotsOnly placed (fun _ _ => false) true)).outcome := by
  refine ⟨by decide +kernel, by decide +kernel, ?_, ?_⟩
  · intro hrestored
    have hcounter := hrestored.blockCounter
    revert hcounter
    decide +kernel
  · intro hrestored
    have hblocks := congrArg List.length hrestored.blocks
    revert hblocks
    decide +kernel

end Workspace

end DialogGraph
