import DialogGraph.Proofs.Flow.Editing

/-!
# Removing edges and blocks

Edges are removed one after the other by their ids. In a consistent flow this is the same as
detaching the edges themselves, and what stays is exactly the other edges. So a block that is deleted
leaves no edge behind.
-/

namespace DialogGraph

namespace Block

/-- The block once several edges are detached one after the other. -/
def loseAll (edges : List Edge) (block : Block) : Block :=
  edges.foldl (fun block edge => block.lose edge) block

variable (edges : List Edge) (block : Block)

@[simp]
theorem loseAll_id : (block.loseAll edges).id = block.id := by
  induction edges generalizing block with
  | nil => rfl
  | cons edge rest ih => exact (ih (block.lose edge)).trans (block.lose_id edge)

@[simp]
theorem loseAll_config : (block.loseAll edges).config = block.config := by
  induction edges generalizing block with
  | nil => rfl
  | cons edge rest ih => exact (ih (block.lose edge)).trans (block.lose_config edge)

theorem loseAll_keys : Assoc.keys (block.loseAll edges).outputs = Assoc.keys block.outputs := by
  induction edges generalizing block with
  | nil => rfl
  | cons edge rest ih => exact (ih (block.lose edge)).trans (block.lose_keys edge)

end Block

namespace Flow

variable {flow : Flow}

/-! ### Edges -/

/-- A consistent flow disconnects the very edge whose id is given. -/
theorem Consistent.disconnect_eq (hflow : flow.Consistent) {edge : Edge} (hedge : edge ∈ flow.edges) :
    flow.disconnect edge.id = .ok (flow.detach edge, [.disconnected edge]) := by
  have hfound : flow.edge? edge.id = some edge :=
    (edge?_eq_some_iff hflow.nodup_edges).2 ⟨hedge, rfl⟩
  rw [disconnect, hfound]

def detachAll (flow : Flow) (edges : List Edge) : Flow := edges.foldl detach flow

@[simp]
theorem detachAll_cons (flow : Flow) (edge : Edge) (rest : List Edge) :
    flow.detachAll (edge :: rest) = (flow.detach edge).detachAll rest := rfl

theorem detachAll_eq (flow : Flow) (edges : List Edge) :
    flow.detachAll edges =
      { flow with
        edges := flow.edges.diff edges
        blocks := flow.blocks.map (Block.loseAll edges) } := by
  induction edges generalizing flow with
  | nil =>
    have hblocks : flow.blocks.map (Block.loseAll []) = flow.blocks := List.map_id flow.blocks
    rw [hblocks]
    rfl
  | cons edge rest ih =>
    rw [detachAll_cons, ih, detach_eq]
    simp [List.diff_cons, Function.comp_def, Block.loseAll]

/-- Detaching an edge leaves the edges that come after it in a list without repetitions. -/
theorem Consistent.subset_detach (hflow : flow.Consistent) {edge : Edge} {rest : List Edge}
    (hedges : edge :: rest ⊆ flow.edges) (hnodup : (edge :: rest).Nodup) :
    rest ⊆ (flow.detach edge).edges := by
  intro other hother
  rw [detach_eq]
  refine hflow.mem_erase_iff.2 ⟨?_, hedges (List.mem_cons_of_mem _ hother)⟩
  rintro rfl
  exact (List.nodup_cons.1 hnodup).1 hother

/-- Detaching different edges of a consistent flow keeps it consistent. -/
theorem Consistent.detachAll (hflow : flow.Consistent) {edges : List Edge}
    (hedges : edges ⊆ flow.edges) (hnodup : edges.Nodup) : (flow.detachAll edges).Consistent := by
  induction edges generalizing flow with
  | nil => exact hflow
  | cons edge rest ih =>
    have hstep := hflow.detach (hedges List.mem_cons_self)
    exact ih hstep (hflow.subset_detach hedges hnodup) (List.nodup_cons.1 hnodup).2

theorem Consistent.mem_detachAll_iff (hflow : flow.Consistent) {edges : List Edge} {edge : Edge} :
    edge ∈ (flow.detachAll edges).edges ↔ edge ∈ flow.edges ∧ edge ∉ edges := by
  rw [detachAll_eq]
  exact hflow.nodup.mem_sdiff_iff

/-- A fold that disconnects different edges of a consistent flow by their ids detaches them all. -/
theorem Consistent.foldl_disconnect (hflow : flow.Consistent) {edges : List Edge}
    (hedges : edges ⊆ flow.edges) (hnodup : edges.Nodup)
    {step : Flow × List Event → Edge → Flow × List Event}
    (hstep : ∀ state edge left events, state.1.disconnect edge.id = .ok (left, events) →
      step state edge = (left, state.2 ++ events)) (events : List Event) :
    edges.foldl step (flow, events) = (flow.detachAll edges, events ++ edges.map .disconnected) := by
  induction edges generalizing flow events with
  | nil => simp [Flow.detachAll]
  | cons edge rest ih =>
    have hedge := hedges List.mem_cons_self
    have hrest := hflow.subset_detach hedges hnodup
    have hfirst := hstep (flow, events) edge _ _ (hflow.disconnect_eq hedge)
    rw [List.foldl_cons, hfirst]
    rw [ih (hflow.detach hedge) hrest (List.nodup_cons.1 hnodup).2, detachAll_cons]
    simp

theorem Consistent.disconnectAll_eq (hflow : flow.Consistent) {edges : List Edge}
    (hedges : edges ⊆ flow.edges) (hnodup : edges.Nodup) :
    flow.disconnectAll edges = (flow.detachAll edges, edges.map .disconnected) := by
  apply hflow.foldl_disconnect hedges hnodup
  intro state edge left events hleft
  rw [hleft]

/-- An edge can be disconnected in a well-formed flow, which stays well-formed. -/
theorem WellFormed.disconnect (hflow : flow.WellFormed) {id : String} {left : Flow}
    {events : List Event} (hleft : flow.disconnect id = .ok (left, events)) : left.WellFormed := by
  rw [Flow.disconnect] at hleft
  split at hleft
  · cases hleft
  · rename_i edge hedge
    obtain ⟨rfl, -⟩ := Prod.mk.inj (Except.ok.inj hleft)
    exact hflow.detach (mem_of_edge? hedge)

/-! ### Blocks -/

theorem edgesTouching_subset (flow : Flow) (id : String) : flow.edgesTouching id ⊆ flow.edges :=
  List.filter_subset_self _

theorem mem_edgesTouching {id : String} {edge : Edge} :
    edge ∈ flow.edgesTouching id ↔ edge ∈ flow.edges ∧ (edge.source = id ∨ edge.target = id) := by
  simp [edgesTouching]

/-- A block without edges can go without a trace. -/
theorem Consistent.filter_blocks (hflow : flow.Consistent) {id : String}
    (hfree : ∀ edge ∈ flow.edges, edge.source ≠ id ∧ edge.target ≠ id) :
    Consistent { flow with blocks := flow.blocks.filter fun block => block.id != id } where
  nodup_blocks := (List.filter_sublist.map Block.id).nodup hflow.nodup_blocks
  nodup_edges := hflow.nodup_edges
  ends := by
    intro edge hedge
    obtain ⟨hsourceFree, htargetFree⟩ := hfree edge hedge
    obtain ⟨source, hsource, target, htarget, hsourceId, htargetId, hends⟩ := hflow.ends edge hedge
    refine ⟨source, List.mem_filter.2 ⟨hsource, ?_⟩, target, List.mem_filter.2 ⟨htarget, ?_⟩,
      hsourceId, htargetId, hends⟩
    · rwa [hsourceId, bne_iff_ne]
    · rwa [htargetId, bne_iff_ne]
  nodup_ports := hflow.nodup_ports
  nodup_targets := hflow.nodup_targets
  targetOf_iff := fun block hblock => hflow.targetOf_iff block (List.mem_of_mem_filter hblock)
  input_iff := fun block hblock => hflow.input_iff block (List.mem_of_mem_filter hblock)

/-- What deleting a block comes to in a consistent flow. -/
theorem Consistent.delete_eq (hflow : flow.Consistent) {id : String}
    (hblock : flow.hasBlock id = true) :
    flow.delete id = .ok
      ({ flow.detachAll (flow.edgesTouching id) with
          blocks := (flow.detachAll (flow.edgesTouching id)).blocks.filter fun block =>
            block.id != id },
        (flow.edgesTouching id).map .disconnected) := by
  rw [delete]
  rw [if_pos hblock,
    hflow.disconnectAll_eq (flow.edgesTouching_subset id) (hflow.nodup.filter _)]

/-- Deleting a block keeps a flow well-formed. -/
theorem WellFormed.delete (hflow : flow.WellFormed) {id : String} {left : Flow}
    {events : List Event} (hleft : flow.delete id = .ok (left, events)) : left.WellFormed := by
  by_cases hblock : flow.hasBlock id = true
  · rw [hflow.delete_eq hblock, Except.ok.injEq, Prod.mk.injEq] at hleft
    obtain ⟨rfl, -⟩ := hleft
    have hdetached := hflow.toConsistent.detachAll (flow.edgesTouching_subset id)
      (hflow.nodup.filter _)
    have hfree : ∀ edge ∈ (flow.detachAll (flow.edgesTouching id)).edges,
        edge.source ≠ id ∧ edge.target ≠ id := by
      intro edge hedge
      obtain ⟨hedge, huntouched⟩ := hflow.mem_detachAll_iff.1 hedge
      rw [mem_edgesTouching] at huntouched
      tauto
    refine (hdetached.filter_blocks hfree).wellFormed ?_
    intro block hmem
    rw [detachAll_eq] at hmem
    obtain ⟨old, hold, rfl⟩ := List.mem_map.1 (List.mem_of_mem_filter hmem)
    rw [Block.loseAll_keys, Block.loseAll_config, hflow.keys_outputs old hold]
  · rw [Flow.delete] at hleft
    rw [if_neg hblock] at hleft
    cases hleft

end Flow

end DialogGraph
