import DialogGraph.Proofs.Flow.Mending
import DialogGraph.Proofs.Snapshot.Wiring

/-!
# Connecting and repairing let in the same edges

Edges can come into a flow one by one, each of them connected under its own id, or all at once, by
putting them on the list and repairing the flow. Connecting looks at the slots and at the edges so
far, repair at the settings of the blocks and at what the edges before have taken. From blocks
without connections both come to the same edges, the same slots and the same edges turned down.
-/

namespace DialogGraph

open DialogGraph.Snapshot

namespace Flow

variable {flow base : Flow} {edges : List Edge} {edge : Edge}

/-! ### Edges that are all different -/

/-- Where no record repeats, the edges that repair leaves stand in their old order. -/
theorem diff_misfits_eq_keepers {ports : List (String × String)} {inputs : List String}
    (hedges : edges.Nodup) :
    edges.diff ((flow.misfits ports inputs edges).map Prod.fst) =
      flow.keepers ports inputs edges := by
  induction edges generalizing ports inputs with
  | nil => rfl
  | cons edge rest ih =>
    obtain ⟨hnew, hrest⟩ := List.nodup_cons.1 hedges
    rw [misfits, keepers]
    cases flow.misfit? ports inputs edge with
    | some reason =>
      dsimp only
      rw [List.map_cons, List.diff_cons, List.erase_cons_head, ih hrest]
    | none =>
      have hkept : edge ∉ (flow.misfits ((edge.source, edge.port) :: ports) (edge.target :: inputs)
          rest).map Prod.fst := by
        intro hdropped
        exact hnew ((misfits_append_keepers_perm flow _ _ rest).subset
          (List.mem_append_left _ hdropped))
      dsimp only
      rw [List.cons_diff_of_not_mem hkept, ih hrest]

/-- Whether ports and targets are taken does not depend on the order of the edges that take them. -/
theorem misfit?_reverse_eq_none_iff :
    flow.misfit? (takenPorts edges.reverse) (edges.reverse.map Edge.target) edge = none ↔
      flow.misfit? (takenPorts edges) (edges.map Edge.target) edge = none := by
  simp only [misfit?_eq_none_iff, takenPorts, List.map_reverse, List.mem_reverse]

/-! ### One by one -/

/-- Connects edges one after the other, each under its own id. Also gives those that are turned
down. -/
def connectEach (flow : Flow) : List Edge → Except Fault (Flow × List Edge)
  | [] => .ok (flow, [])
  | edge :: rest =>
    let outcome := flow.connect edge.source edge.port edge.target (some edge.id)
    match outcome.result with
    | .error fault => .error fault
    | .ok (.ok _) => connectEach outcome.flow rest
    | .ok (.error _) =>
      (connectEach outcome.flow rest).map fun ended => (ended.1, edge :: ended.2)

/-- Whether the number in an id, if there is one, can be read. -/
def Readable (id : String) : Prop :=
  ∀ number, edgeNumber? id = some number → ∃ n, number = .ok n

/-- Connecting an edge under an id that is free and readable: it is turned down where repair would
drop it, otherwise it comes in under that id. -/
theorem WiredFrom.connect_own (hflow : base.WiredFrom flow)
    (hfresh : edge.id ∉ flow.edges.map Edge.id) (hreadable : Readable edge.id) :
    (base.misfit? (takenPorts flow.edges) (flow.edges.map Edge.target) edge ≠ none ∧
      ∃ reason, flow.connect edge.source edge.port edge.target (some edge.id) =
        ⟨flow, [], .ok (.error reason)⟩) ∨
    base.misfit? (takenPorts flow.edges) (flow.edges.map Edge.target) edge = none ∧
      ∃ next events, flow.connect edge.source edge.port edge.target (some edge.id) =
          ⟨next, events, .ok (.ok edge.id)⟩ ∧
        base.WiredFrom next ∧ next.edges = flow.edges ++ [edge] := by
  have hadmitted : flow.objection edge.source edge.port edge.target = none ↔
      base.misfit? (takenPorts flow.edges) (flow.edges.map Edge.target) edge = none :=
    hflow.objection_eq_none_iff
  obtain ⟨after, hissues⟩ := exists_issues hfresh hreadable flow.edgeCounter
  obtain ⟨hid, -⟩ := (edgeIdFor_ok_iff flow (some edge.id) edge.id after).2 hissues
  have hnext := hflow.connect edge.source edge.port edge.target (some edge.id)
  rcases flow.connect_cases edge.source edge.port edge.target (some edge.id) with
    ⟨reason, hreason, heq⟩ | ⟨hnone, ⟨fault, hfault, -⟩ | ⟨id, hother, heq⟩⟩
  · left
    rw [ne_eq, ← hadmitted, hreason]
    exact ⟨Option.some_ne_none reason, reason, heq⟩
  · rw [hid] at hfault
    cases hfault
  · obtain rfl : edge.id = id := Except.ok.inj (hid.symm.trans hother)
    obtain ⟨counter, -, hcounted⟩ := flow.edgeIdFor_flow (some edge.id)
    rw [heq] at hnext
    refine .inr ⟨hadmitted.1 hnone, _, _, heq, hnext, ?_⟩
    rw [hcounted, attach_eq]

/-- Connecting edges under ids of their own lets in the keepers and turns down the misfits. -/
theorem WiredFrom.connectEach (hflow : base.WiredFrom flow)
    (hids : ((flow.edges ++ edges).map Edge.id).Nodup)
    (hreadable : ∀ edge ∈ edges, Readable edge.id) :
    ∃ after,
      flow.connectEach edges = .ok (after,
        (base.misfits (takenPorts flow.edges.reverse) (flow.edges.reverse.map Edge.target)
          edges).map Prod.fst) ∧
      base.WiredFrom after ∧
      after.edges = flow.edges ++
        base.keepers (takenPorts flow.edges.reverse) (flow.edges.reverse.map Edge.target)
          edges := by
  induction edges generalizing flow with
  | nil => exact ⟨flow, rfl, hflow, (List.append_nil _).symm⟩
  | cons edge rest ih =>
    have hfresh := notMem_map_front hids rfl
    have hrest : ∀ other ∈ rest, Readable other.id :=
      fun other hother => hreadable other (List.mem_cons_of_mem _ hother)
    rw [Flow.connectEach, misfits, keepers]
    rcases hflow.connect_own hfresh (hreadable edge List.mem_cons_self) with
      ⟨hmisfit, reason, heq⟩ | ⟨hfits, next, events, heq, hnext, hedges⟩
    · obtain ⟨why, hwhy⟩ := Option.ne_none_iff_exists'.1 (mt misfit?_reverse_eq_none_iff.1 hmisfit)
      have hskipped : ((flow.edges ++ rest).map Edge.id).Nodup := by
        refine hids.sublist (List.Sublist.map _ ?_)
        exact (List.sublist_cons_self edge rest).append_left flow.edges
      obtain ⟨after, hafter, hwired, hkept⟩ := ih hflow hskipped hrest
      refine ⟨after, ?_, hwired, ?_⟩
      · rw [heq, hwhy]
        dsimp only
        rw [hafter]
        rfl
      · rw [hwhy]
        exact hkept
    · have hnone := misfit?_reverse_eq_none_iff.2 hfits
      have htaken : ((next.edges ++ rest).map Edge.id).Nodup := by
        rwa [hedges, List.append_assoc, List.singleton_append]
      obtain ⟨after, hafter, hwired, hkept⟩ := ih hnext htaken hrest
      rw [hedges, List.reverse_concat] at hafter hkept
      refine ⟨after, ?_, hwired, ?_⟩
      · rw [heq, hnone]
        exact hafter
      · rw [hnone, hkept, List.append_assoc]
        rfl

/-! ### All at once -/

/-- Blocks with ids of their own and nothing in their slots, and no edges. -/
structure Bare (flow : Flow) : Prop where
  nodup_blocks : (flow.blocks.map Block.id).Nodup
  edges_eq : flow.edges = []
  opened_eq : ∀ block ∈ flow.blocks, block.opened = block

/-- Blocks without connections are tidy: no edge has to be told by the slots. -/
theorem Bare.sound (hbase : base.Bare) : base.Sound := by
  have hblocks : base.blocks.map (fun block => block.opened.gainAll []) = base.blocks :=
    (List.map_congr_left hbase.opened_eq).trans (List.map_id _)
  have hsame : base.rewired [] = base := by
    obtain ⟨blocks, edges, _, _⟩ := base
    obtain rfl : edges = [] := hbase.edges_eq
    rw [rewired, hblocks]
  have hfits : base.Fits [] := fits_keepers base [] [] []
  have htidy : base.Tidy := hsame ▸ hfits.tidy_rewired hbase.nodup_blocks
  refine ⟨htidy.wellFormed ?_, ?_⟩
  · rw [hbase.edges_eq]
    exact List.nodup_nil
  · intro edge hedge
    rw [hbase.edges_eq] at hedge
    cases hedge

/-- Blocks without connections, seen as wired from themselves with edges merely put on the list. -/
theorem Bare.wiredFrom (hbase : base.Bare) (edges : List Edge) :
    WiredFrom { base with edges := edges } base where
  toSound := hbase.sound
  blocks_eq := by
    rw [hbase.edges_eq]
    exact (List.map_id base.blocks).symm
  blockCounter_eq := rfl

/-- On blocks without connections, connecting edges that have readable ids of their own one by one
and putting them on the list and repairing the flow come to the same edges, the same slots and the
same edges turned down. So nothing is left to repair once loading has replayed the connections of a
snapshot. -/
theorem connectEach_agrees_repair (hbase : base.Bare) (hids : (edges.map Edge.id).Nodup)
    (hreadable : ∀ edge ∈ edges, Readable edge.id) :
    (∃ after refused, base.connectEach edges = .ok (after, refused) ∧
      after.edges = (Flow.repair { base with edges := edges }).flow.edges ∧
      after.blocks = (Flow.repair { base with edges := edges }).flow.blocks ∧
      refused = (Flow.repair { base with edges := edges }).result.map Prod.fst) ∧
    ∀ parts progress, wired parts = .ok progress → ∀ count,
      Flow.repair { progress.flow with blockCounter := count } =
        ⟨{ progress.flow with blockCounter := count }, [], []⟩ := by
  constructor
  · have hall : ((base.edges ++ edges).map Edge.id).Nodup := by rwa [hbase.edges_eq]
    obtain ⟨after, hafter, hwired, hedges⟩ := (hbase.wiredFrom edges).connectEach hall hreadable
    rw [hbase.edges_eq] at hafter hedges
    have hkept : Flow.survivors { base with edges := edges } = after.edges :=
      (diff_misfits_eq_keepers (List.Nodup.of_map _ hids)).trans hedges.symm
    rw [repair_eq_rewired]
    refine ⟨after, _, hafter, hkept.symm, ?_, rfl⟩
    rw [hwired.blocks_eq, rewired, hkept]
    apply List.map_congr_left
    intro block hblock
    rw [hbase.opened_eq block hblock]
  · intro parts progress hprogress count
    have hsound := wired_sound parts
    rw [hprogress] at hsound
    have hcounted : WellFormed { progress.flow with blockCounter := count } :=
      hsound.toWellFormed.congr rfl rfl
    exact hcounted.tidy.repair_eq

/-- A beginning and two messages, not connected. -/
def looseFlow : Flow where
  blocks := [
    Block.create "block_1" (Config.initial .start) (.int 0) (.int 0),
    Block.create "block_2" (Config.initial .message) (.int 0) (.int 0),
    Block.create "block_3" (Config.initial .message) (.int 0) (.int 0)]
  edges := []
  blockCounter := 3
  edgeCounter := 0

/-- Edges for `looseFlow`, two of which come too late. -/
def rivalEdges : List Edge := [
  ⟨"conn_7", "block_1", defaultPort, "block_2"⟩, ⟨"conn_2", "block_3", defaultPort, "block_2"⟩,
  ⟨"again", "block_1", defaultPort, "block_3"⟩, ⟨"last", "block_2", defaultPort, "block_3"⟩]

/-- `connectEach_agrees_repair` at `looseFlow` and `rivalEdges`. -/
theorem connectEach_agrees_repair_rivalEdges :
    looseFlow.Bare ∧ (rivalEdges.map Edge.id).Nodup ∧
      (∀ edge ∈ rivalEdges, Readable edge.id) ∧
      ∃ after refused, looseFlow.connectEach rivalEdges = .ok (after, refused) ∧
        after.blocks = (Flow.repair { looseFlow with edges := rivalEdges }).flow.blocks ∧
        refused.map Edge.id = ["conn_2", "again"] := by
  have hopened : ∀ block ∈ looseFlow.blocks, block.opened = block := by
    simp only [looseFlow, List.forall_mem_cons]
    exact ⟨rfl, rfl, rfl, by simp⟩
  have hbare : looseFlow.Bare := ⟨by decide, rfl, hopened⟩
  have hids : (rivalEdges.map Edge.id).Nodup := by decide
  have hreadable : ∀ edge ∈ rivalEdges, Readable edge.id := by
    have hseven : edgeNumber? "conn_7" = some (.ok 7) := rfl
    have htwo : edgeNumber? "conn_2" = some (.ok 2) := rfl
    have hagain : edgeNumber? "again" = none := rfl
    have hlast : edgeNumber? "last" = none := rfl
    simp only [rivalEdges, List.forall_mem_cons, Readable, hseven, htwo, hagain, hlast]
    simp
  obtain ⟨⟨after, refused, hafter, -, hblocks, hrefused⟩, -⟩ :=
    connectEach_agrees_repair hbare hids hreadable
  refine ⟨hbare, hids, hreadable, after, refused, hafter, hblocks, ?_⟩
  rw [hrefused]
  decide

end Flow

end DialogGraph
