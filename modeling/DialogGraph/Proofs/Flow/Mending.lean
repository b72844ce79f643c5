import DialogGraph.Proofs.Flow.Repairing
import Mathlib.Data.List.Perm.Subperm

/-!
# Mending any flow

A flow may come with any edges and any slots: edges whose ends are missing, edges that compete,
records that repeat, slots that lead nowhere. As long as its blocks have ids of their own, repair
makes it tidy. The edges are judged one after the other against the ports and the targets that the
edges kept so far take, so the ones that stay cannot compete, and the slots are told from them
alone.
-/

namespace DialogGraph.Flow

variable {flow : Flow}

/-! ### Which edges stay -/

/-- The edges that are no misfits, in order, judged from the front. -/
def keepers (flow : Flow) (usedPorts : List (String × String)) (usedInputs : List String) :
    List Edge → List Edge
  | [] => []
  | edge :: rest =>
    match flow.misfit? usedPorts usedInputs edge with
    | some _ => keepers flow usedPorts usedInputs rest
    | none =>
      edge :: keepers flow ((edge.source, edge.port) :: usedPorts) (edge.target :: usedInputs) rest

variable {ports : List (String × String)} {inputs : List String} {edges : List Edge}

/-- Every edge is a misfit or stays. -/
theorem misfits_append_keepers_perm (flow : Flow) (ports : List (String × String))
    (inputs : List String) (edges : List Edge) :
    ((flow.misfits ports inputs edges).map Prod.fst ++ flow.keepers ports inputs edges).Perm
      edges := by
  induction edges generalizing ports inputs with
  | nil => exact List.Perm.refl _
  | cons edge rest ih =>
    rw [misfits, keepers]
    cases flow.misfit? ports inputs edge with
    | some reason => exact (ih ports inputs).cons edge
    | none =>
      refine List.perm_middle.trans ?_
      exact (ih ((edge.source, edge.port) :: ports) (edge.target :: inputs)).cons edge

/-- An edge that stays takes no port and no target that was taken before. -/
theorem misfit?_of_mem_keepers {edge : Edge} (hedge : edge ∈ flow.keepers ports inputs edges) :
    flow.misfit? ports inputs edge = none := by
  induction edges generalizing ports inputs with
  | nil => cases hedge
  | cons first rest ih =>
    rw [keepers] at hedge
    cases hfirst : flow.misfit? ports inputs first with
    | some reason =>
      rw [hfirst] at hedge
      exact ih hedge
    | none =>
      rw [hfirst] at hedge
      rcases List.mem_cons.1 hedge with rfl | hrest
      · exact hfirst
      · have hlater := ih hrest
        rw [misfit?_eq_none_iff] at hlater ⊢
        obtain ⟨source, target, hsource, htarget, hne, hstart, hport, hports, hinputs⟩ := hlater
        exact ⟨source, target, hsource, htarget, hne, hstart, hport,
          fun htaken => hports (List.mem_cons_of_mem _ htaken),
          fun htaken => hinputs (List.mem_cons_of_mem _ htaken)⟩

/-- The edges lead between blocks of a flow, by ports that the settings give, and do not compete. -/
structure Fits (flow : Flow) (edges : List Edge) : Prop where
  joins : ∀ edge ∈ edges, ∃ source target, flow.block? edge.source = some source ∧
    flow.block? edge.target = some target ∧ edge.source ≠ edge.target ∧ target.kind ≠ .start ∧
      edge.port ∈ source.config.ports
  nodup_ports : (takenPorts edges).Nodup
  nodup_targets : (edges.map Edge.target).Nodup

theorem Fits.perm {other : List Edge} (hedges : flow.Fits edges) (hperm : edges.Perm other) :
    flow.Fits other where
  joins := fun edge hedge => hedges.joins edge (hperm.mem_iff.2 hedge)
  nodup_ports := (hperm.map _).nodup_iff.1 hedges.nodup_ports
  nodup_targets := (hperm.map _).nodup_iff.1 hedges.nodup_targets

theorem fits_keepers (flow : Flow) (ports : List (String × String)) (inputs : List String)
    (edges : List Edge) : flow.Fits (flow.keepers ports inputs edges) := by
  induction edges generalizing ports inputs with
  | nil => exact ⟨by simp [keepers], List.nodup_nil, List.nodup_nil⟩
  | cons edge rest ih =>
    rw [keepers]
    cases hedge : flow.misfit? ports inputs edge with
    | some reason => exact ih ports inputs
    | none =>
      have hrest := ih ((edge.source, edge.port) :: ports) (edge.target :: inputs)
      -- The port and the target of this edge count as taken when the rest is judged.
      have hlater : ∀ other ∈ flow.keepers ((edge.source, edge.port) :: ports)
          (edge.target :: inputs) rest,
          (other.source, other.port) ≠ (edge.source, edge.port) ∧ other.target ≠ edge.target := by
        intro other hother
        obtain ⟨-, -, -, -, -, -, -, hports, hinputs⟩ :=
          misfit?_eq_none_iff.1 (misfit?_of_mem_keepers hother)
        exact ⟨List.ne_of_not_mem_cons hports, List.ne_of_not_mem_cons hinputs⟩
      constructor
      · intro other hother
        rcases List.mem_cons.1 hother with rfl | hother
        · obtain ⟨source, target, hsource, htarget, hne, hstart, hport, -, -⟩ :=
            misfit?_eq_none_iff.1 hedge
          exact ⟨source, target, hsource, htarget, hne, hstart, hport⟩
        · exact hrest.joins other hother
      · refine List.nodup_cons.2 ⟨?_, hrest.nodup_ports⟩
        intro htaken
        obtain ⟨other, hother, hsame⟩ := List.mem_map.1 htaken
        exact (hlater other hother).1 hsame
      · refine List.nodup_cons.2 ⟨?_, hrest.nodup_targets⟩
        intro htaken
        obtain ⟨other, hother, hsame⟩ := List.mem_map.1 htaken
        exact (hlater other hother).2 hsame

theorem diff_perm_of_append_perm {dropped kept : List Edge} (hperm : (dropped ++ kept).Perm edges) :
    (edges.diff dropped).Perm kept := by
  have hleft : (dropped ++ edges.diff dropped).Perm edges := by
    apply List.subperm_append_diff_self_of_count_le
    intro edge _
    rw [← hperm.count_eq edge, List.count_append]
    exact Nat.le_add_right _ _
  exact (List.perm_append_left_iff dropped).1 (hleft.trans hperm.symm)

/-- The edges that repair leaves on the list. Of equal records it takes off the first, so that they
may stand in another order than the keepers. -/
def survivors (flow : Flow) : List Edge :=
  flow.edges.diff ((flow.misfits [] [] flow.edges).map Prod.fst)

theorem survivors_perm (flow : Flow) : flow.survivors.Perm (flow.keepers [] [] flow.edges) :=
  diff_perm_of_append_perm (misfits_append_keepers_perm flow [] [] flow.edges)

theorem fits_survivors (flow : Flow) : flow.Fits flow.survivors :=
  (fits_keepers flow [] [] flow.edges).perm flow.survivors_perm.symm

/-! ### Slots told from the edges -/

/-- A flow with other edges, its slots told from them. -/
def rewired (flow : Flow) (edges : List Edge) : Flow :=
  { flow with blocks := flow.blocks.map fun block => block.opened.gainAll edges, edges := edges }

/-- A flow whose slots are told from edges that fit is tidy. -/
theorem Fits.tidy_rewired (hedges : flow.Fits edges) (hblocks : (flow.blocks.map Block.id).Nodup) :
    (flow.rewired edges).Tidy := by
  have hids : (flow.rewired edges).blocks.map Block.id = flow.blocks.map Block.id := by
    rw [rewired, List.map_map]
    exact List.map_congr_left fun block _ => Block.gainAll_id edges block.opened
  have hmem : ∀ {id block}, flow.block? id = some block →
      block.opened.gainAll edges ∈ (flow.rewired edges).blocks ∧
        (block.opened.gainAll edges).id = id := by
    intro id block hfound
    have hid : block.id = id := id_of_block? hfound
    exact ⟨List.mem_map_of_mem (mem_of_block? hfound), (Block.gainAll_id _ _).trans hid⟩
  -- An edge that leaves a block leaves it by one of its ports.
  have hports : ∀ edge ∈ edges, ∀ block ∈ flow.blocks, block.id = edge.source →
      edge.port ∈ block.config.ports := by
    intro edge hedge block hblock hid
    obtain ⟨source, -, hsource, -, -, -, hport⟩ := hedges.joins edge hedge
    obtain rfl : source = block :=
      eq_of_id_eq hblocks (mem_of_block? hsource) hblock ((id_of_block? hsource).trans hid.symm)
    exact hport
  refine ⟨hids ▸ hblocks, ?ends, ?mem_ports, hedges.nodup_ports, hedges.nodup_targets, ?keys,
    ?targetOf, ?input⟩
  case ends =>
    intro edge hedge
    obtain ⟨source, target, hsource, htarget, hne, hstart, -⟩ := hedges.joins edge hedge
    obtain ⟨hsourceMem, hsourceId⟩ := hmem hsource
    obtain ⟨htargetMem, htargetId⟩ := hmem htarget
    refine ⟨_, hsourceMem, _, htargetMem, hsourceId, htargetId, ?_, ?_⟩
    · rwa [hsourceId, htargetId]
    · rwa [Block.kind, Block.gainAll_config]
  case mem_ports =>
    intro edge hedge block hblock hid
    obtain ⟨old, hold, rfl⟩ := List.mem_map.1 hblock
    rw [Block.gainAll_id] at hid
    rw [Block.gainAll_config]
    exact hports edge hedge old hold hid
  case keys =>
    intro block hblock
    obtain ⟨old, hold, rfl⟩ := List.mem_map.1 hblock
    have hopened : Assoc.keys old.opened.outputs = old.config.ports := Block.keys_openSlots _
    rw [Block.gainAll_keys, hopened, Block.gainAll_config]
    · rfl
    · intro edge hedge hid
      rw [hopened]
      exact hports edge hedge old hold hid.symm
  case targetOf =>
    intro block hblock port target
    obtain ⟨old, -, rfl⟩ := List.mem_map.1 hblock
    rw [Block.gainAll_targetOf, Block.opened_targetOf, Option.or_none, Block.gainAll_id]
    exact find?_port_eq_some_iff hedges.nodup_ports
  case input =>
    intro block hblock source
    obtain ⟨old, -, rfl⟩ := List.mem_map.1 hblock
    rw [Block.gainAll_input, Block.gainAll_id]
    have hopened : old.opened.input = none := rfl
    rw [hopened, Option.or_none]
    exact find?_input_eq_some_iff hedges.nodup_targets

/-- Slots that are open are filled from edges that fit, without a fault. -/
theorem Fits.fillSlots_openAll (hedges : flow.Fits edges) :
    (Flow.openAll { flow with edges := edges }).fillSlots edges = (flow.rewired edges, none) := by
  have hends : ∀ edge ∈ edges,
      (Flow.openAll { flow with edges := edges }).hasBlock edge.source = true ∧
        (Flow.openAll { flow with edges := edges }).hasBlock edge.target = true := by
    intro edge hedge
    obtain ⟨source, target, hsource, htarget, -⟩ := hedges.joins edge hedge
    rw [hasBlock_openAll, hasBlock_openAll]
    exact ⟨Option.isSome_iff_exists.2 ⟨source, hsource⟩,
      Option.isSome_iff_exists.2 ⟨target, htarget⟩⟩
  rw [fillSlots_eq _ _ hends, openAll, List.map_map]
  rfl

/-! ### Repair -/

theorem repair_eq_rewired (flow : Flow) :
    flow.repair =
      ⟨flow.rewired flow.survivors,
        (flow.misfits [] [] flow.edges).map fun drop => .disconnected drop.1,
        flow.misfits [] [] flow.edges⟩ := by
  have hkept : (flow.misfits [] [] flow.edges).foldl (fun edges drop => edges.erase drop.1)
      flow.edges = flow.survivors := by
    rw [survivors, List.diff_eq_foldl, List.foldl_map]
  rw [repair, hkept, (fits_survivors flow).fillSlots_openAll]

/-- Opening slots leaves nothing to clear, so that rebuilding the slots of the survivors comes to no
fault. -/
theorem resync_survivors (flow : Flow) :
    (Flow.openAll { flow with edges := flow.survivors }).resync =
      ⟨flow.rewired flow.survivors, [], .ok ()⟩ := by
  have hclear : (Flow.openAll { flow with edges := flow.survivors }).clearAll =
      Flow.openAll { flow with edges := flow.survivors } := by
    simp [clearAll, openAll, Function.comp_def]
  have hedges : (Flow.openAll { flow with edges := flow.survivors }).edges = flow.survivors := rfl
  rw [resync, hclear, hedges, (fits_survivors flow).fillSlots_openAll]

/-- Every record that repair takes off the list is on the list at that moment. -/
theorem mem_of_misfits_eq {front back : List (Edge × Misfit)} {drop : Edge × Misfit}
    (hmisfits : flow.misfits [] [] flow.edges = front ++ drop :: back) :
    drop.1 ∈ front.foldl (fun edges drop => edges.erase drop.1) flow.edges := by
  have hperm := misfits_append_keepers_perm flow [] [] flow.edges
  rw [hmisfits, List.map_append, List.append_assoc] at hperm
  rw [← List.foldl_map, ← List.diff_eq_foldl, (diff_perm_of_append_perm hperm).mem_iff]
  exact List.mem_cons_self

/-- Repair mends every flow whose blocks have ids of their own, whatever its edges and its slots
are. It comes to no fault: a record that it takes off the list is on it, and the edges that are left
have both their ends when the slots are rebuilt. The blocks stay as they are but for their slots,
the flow is tidy afterwards, the edges removed and the edges left are those there were, and a second
repair finds nothing to do. -/
theorem repair_mends (hblocks : (flow.blocks.map Block.id).Nodup) :
    (∀ front drop back, flow.repair.result = front ++ drop :: back →
      drop.1 ∈ front.foldl (fun edges drop => edges.erase drop.1) flow.edges) ∧
    (Flow.openAll { flow with edges := flow.repair.flow.edges }).resync =
      ⟨flow.repair.flow, [], .ok ()⟩ ∧
    (flow.repair.flow.blocks.map fun block => (block.id, block.config, block.x, block.y)) =
      (flow.blocks.map fun block => (block.id, block.config, block.x, block.y)) ∧
    flow.repair.flow.blockCounter = flow.blockCounter ∧
    flow.repair.flow.edgeCounter = flow.edgeCounter ∧
    flow.repair.flow.Tidy ∧
    (flow.repair.result.map Prod.fst ++ flow.repair.flow.edges).Perm flow.edges ∧
    flow.repair.flow.repair = ⟨flow.repair.flow, [], []⟩ := by
  have htidy : (flow.rewired flow.survivors).Tidy := (fits_survivors flow).tidy_rewired hblocks
  have hperm : ((flow.misfits [] [] flow.edges).map Prod.fst ++ flow.survivors).Perm flow.edges :=
    (flow.survivors_perm.append_left _).trans (misfits_append_keepers_perm flow [] [] flow.edges)
  rw [repair_eq_rewired]
  refine ⟨fun _ _ _ => mem_of_misfits_eq, resync_survivors flow, ?_, rfl, rfl, htidy,
    hperm, htidy.repair_eq⟩
  rw [rewired, List.map_map]
  apply List.map_congr_left
  intro block _
  obtain ⟨hx, hy⟩ := Block.gainAll_place flow.survivors block.opened
  rw [Function.comp_apply, Block.gainAll_id, Block.gainAll_config, hx, hy]
  rfl

/-- A flow with every kind of misfit among its edges, a record that repeats, an id that repeats, and
slots that have nothing to do with the edges. -/
def tangledFlow : Flow where
  blocks := [
    { Block.create "block_1" (Config.initial .start) (.int 0) (.int 0) with
      input := some "block_9"
      outputs := [("gone", some "block_3")] },
    Block.create "block_2" (Config.initial .message) (.int 0) (.int 0),
    Block.create "block_3" (Config.initial .message) (.int 0) (.int 0)]
  edges := [
    ⟨"conn_1", "block_1", defaultPort, "block_2"⟩, ⟨"conn_1", "block_1", defaultPort, "block_2"⟩,
    ⟨"conn_2", "block_2", defaultPort, "block_2"⟩, ⟨"conn_3", "block_2", defaultPort, "block_1"⟩,
    ⟨"conn_4", "block_2", "gone", "block_3"⟩, ⟨"conn_5", "block_2", defaultPort, "block_9"⟩,
    ⟨"conn_6", "block_3", defaultPort, "block_2"⟩, ⟨"conn_1", "block_2", defaultPort, "block_3"⟩]
  blockCounter := 0
  edgeCounter := 0

/-- `repair_mends` at `tangledFlow`. -/
theorem repair_mends_tangledFlow :
    (tangledFlow.blocks.map Block.id).Nodup ∧
      tangledFlow.repair.result.map Prod.snd =
        [.portTaken, .selfLoop, .entersStart, .noPort "gone", .missingEnd, .inputTaken] ∧
      tangledFlow.repair.flow.Tidy ∧
      (tangledFlow.repair.result.map Prod.fst ++ tangledFlow.repair.flow.edges).Perm
        tangledFlow.edges ∧
      tangledFlow.repair.flow.repair = ⟨tangledFlow.repair.flow, [], []⟩ := by
  have hblocks : (tangledFlow.blocks.map Block.id).Nodup := by decide
  obtain ⟨-, -, -, -, -, htidy, hperm, hagain⟩ := repair_mends hblocks
  exact ⟨hblocks, by decide, htidy, hperm, hagain⟩

end DialogGraph.Flow
