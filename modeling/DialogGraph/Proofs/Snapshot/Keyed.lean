import DialogGraph.Proofs.Block.Keyed
import DialogGraph.Proofs.Snapshot.RoundTrip

/-!
# Snapshots are keyed

In the snapshot of a storable flow no name occurs twice in one record: blocks have different ids and
ports, and the settings of a block have none of the names that are reserved. Snapshots can therefore
be compared in either order.
-/

namespace DialogGraph.Snapshot

open Value

theorem keyed_of_isNumber {value : Value} (hnumber : isNumber value = true) : value.Keyed := by
  cases value with
  | int | real => exact .scalar rfl
  | _ => cases hnumber

theorem keyed_idValue (id : Option String) : (idValue id).Keyed := by
  cases id <;> exact .scalar rfl

theorem keyed_slotsValue {block : Block} (hports : (Assoc.keys block.outputs).Nodup) :
    (slotsValue block).Keyed := by
  have houtputs : (record (block.outputs.map fun slot => (slot.1, idValue slot.2))).Keyed := by
    apply Keyed.record
    · simpa [Assoc.keys, Function.comp_def] using hports
    · intro field hfield
      obtain ⟨slot, -, rfl⟩ := List.mem_map.1 hfield
      exact keyed_idValue slot.2
  apply Keyed.record
  · simp [Assoc.keys]
  · simp [keyed_idValue, houtputs]

/-- A block is saved under names that are all different. -/
theorem nodup_keys_savedFields (block : Block) : (Assoc.keys (savedFields block)).Nodup := by
  obtain ⟨hsettings, -⟩ := keyed_record_iff.1 block.config.keyed_toFields
  have hkeys : Assoc.keys (savedFields block) =
      ["id", "type", "x", "y"] ++ (Assoc.keys block.config.toFields ++ ["connections"]) := by
    simp [savedFields, Assoc.keys]
  have hperm : (Assoc.keys (savedFields block)).Perm
      (reservedKeys ++ Assoc.keys block.config.toFields) := by
    rw [hkeys]
    exact List.perm_append_comm.append_left ["id", "type", "x", "y"]
  rw [hperm.nodup_iff, List.nodup_append]
  refine ⟨by decide, hsettings, ?_⟩
  rintro name hname _ hmem rfl
  exact notMem_reservedKeys_of_mem_keys hmem hname

theorem keyed_blockValue {block : Block} (hx : isNumber block.x = true)
    (hy : isNumber block.y = true) (hports : (Assoc.keys block.outputs).Nodup) :
    (blockValue block).Keyed := by
  obtain ⟨-, hsettings⟩ := keyed_record_iff.1 block.config.keyed_toFields
  apply Keyed.record (nodup_keys_savedFields block)
  intro field hfield
  rcases List.mem_append.1 hfield with hfield | hlast
  · rcases List.mem_append.1 hfield with hfirst | hsetting
    · simp only [List.mem_cons, List.not_mem_nil, or_false] at hfirst
      rcases hfirst with rfl | rfl | rfl | rfl
      · exact .scalar rfl
      · exact .scalar rfl
      · exact keyed_of_isNumber hx
      · exact keyed_of_isNumber hy
    · exact hsettings field hsetting
  · rw [List.mem_singleton.1 hlast]
    exact keyed_slotsValue hports

theorem keyed_edgeValue (edge : Edge) : (edgeValue edge).Keyed := by
  apply Keyed.record
  · simp [Assoc.keys]
  · exact List.forall_iff_forall_mem.1 ⟨.scalar rfl, .scalar rfl, .scalar rfl, .scalar rfl⟩

/-- The snapshot of a storable flow is keyed. -/
theorem keyed_save {flow : Flow} (hflow : flow.Storable) : (save flow).Keyed := by
  have hblocks : (record (flow.blocks.map fun block => (block.id, blockValue block))).Keyed := by
    apply Keyed.record
    · simpa [Assoc.keys, Function.comp_def] using hflow.nodup_blocks
    · intro field hfield
      obtain ⟨block, hblock, rfl⟩ := List.mem_map.1 hfield
      obtain ⟨hx, hy⟩ := hflow.places_numeric block hblock
      apply keyed_blockValue hx hy
      rw [hflow.keys_outputs block hblock]
      exact block.config.nodup_ports
  have hedges : (list (flow.edges.map edgeValue)).Keyed := by
    apply Keyed.list
    intro item hitem
    obtain ⟨edge, -, rfl⟩ := List.mem_map.1 hitem
    exact keyed_edgeValue edge
  apply Keyed.record
  · simp [Assoc.keys]
  · exact List.forall_iff_forall_mem.1 ⟨hblocks, hedges, .scalar rfl⟩

end DialogGraph.Snapshot
