import DialogGraph.Proofs.Flow.WellFormed

/-!
# Edits keep flows well-formed

Each edit of a flow touches an edge and the two slots that mirror it, or a block without edges.
Attaching and detaching an edge are first put in a form where every block changes by a function of
its own; then one lemma per edit shows that consistency is kept, and with it the ports of every
block.
-/

namespace DialogGraph

/-! ### Slots of one block -/

namespace Block

/-- The block once an edge is attached: the slots that the edge touches hold it. -/
def gain (edge : Edge) (block : Block) : Block :=
  let left := if block.id = edge.source then block.setOutput edge.port (some edge.target) else block
  if left.id = edge.target then { left with input := some edge.source } else left

/-- The block once an edge is detached: the slots that hold the edge are cleared. -/
def lose (edge : Edge) (block : Block) : Block :=
  let left := if block.id = edge.source then
      if block.targetOf edge.port = some edge.target then block.setOutput edge.port none else block
    else block
  if left.id = edge.target then
    if left.input = some edge.source then { left with input := none } else left
  else left

variable (edge : Edge) (block : Block)

@[simp]
theorem gain_id : (block.gain edge).id = block.id := by
  unfold gain setOutput
  dsimp only
  split_ifs <;> rfl

@[simp]
theorem gain_config : (block.gain edge).config = block.config := by
  unfold gain setOutput
  dsimp only
  split_ifs <;> rfl

@[simp]
theorem gain_kind : (block.gain edge).kind = block.kind :=
  congrArg Config.kind (gain_config edge block)

theorem gain_input : (block.gain edge).input =
    if block.id = edge.target then some edge.source else block.input := by
  unfold gain setOutput
  dsimp only
  split_ifs <;> simp_all

theorem gain_targetOf (port : String) : (block.gain edge).targetOf port =
    if block.id = edge.source ∧ edge.port = port then some edge.target
    else block.targetOf port := by
  have hinput : (block.gain edge).targetOf port =
      (if block.id = edge.source then block.setOutput edge.port (some edge.target)
        else block).targetOf port := by
    unfold gain
    dsimp only
    split_ifs <;> rfl
  rw [hinput]
  by_cases hsource : block.id = edge.source
  · simp [hsource, targetOf_setOutput]
  · simp [hsource]

theorem gain_keys (hport : block.id = edge.source → edge.port ∈ Assoc.keys block.outputs) :
    Assoc.keys (block.gain edge).outputs = Assoc.keys block.outputs := by
  unfold gain setOutput
  dsimp only
  split_ifs with hsource <;> first | rfl | exact Assoc.keys_insert_of_mem (hport hsource) _

@[simp]
theorem lose_id : (block.lose edge).id = block.id := by
  unfold lose setOutput
  dsimp only
  split_ifs <;> rfl

@[simp]
theorem lose_config : (block.lose edge).config = block.config := by
  unfold lose setOutput
  dsimp only
  split_ifs <;> rfl

@[simp]
theorem lose_kind : (block.lose edge).kind = block.kind :=
  congrArg Config.kind (lose_config edge block)

theorem lose_input : (block.lose edge).input =
    if block.id = edge.target ∧ block.input = some edge.source then none else block.input := by
  unfold lose setOutput
  dsimp only
  split_ifs <;> simp_all

theorem lose_targetOf (port : String) : (block.lose edge).targetOf port =
    if block.id = edge.source ∧ edge.port = port ∧ block.targetOf port = some edge.target then none
    else block.targetOf port := by
  have hinput : (block.lose edge).targetOf port =
      (if block.id = edge.source then
        if block.targetOf edge.port = some edge.target then block.setOutput edge.port none
        else block
      else block).targetOf port := by
    unfold lose
    dsimp only
    split_ifs <;> rfl
  rw [hinput]
  split_ifs with hsource hheld hcleared hcleared hcleared
  · rw [targetOf_setOutput]
    simp [hcleared.2.1]
  · rw [targetOf_setOutput]
    have hport : edge.port ≠ port := fun h => hcleared ⟨hsource, h, h ▸ hheld⟩
    simp [hport]
  · exact absurd (hcleared.2.1 ▸ hcleared.2.2) hheld
  · rfl
  · exact absurd hcleared.1 hsource
  · rfl

theorem mem_keys_of_targetOf {port target : String} (htarget : block.targetOf port = some target) :
    port ∈ Assoc.keys block.outputs := by
  by_contra hmissing
  rw [← Assoc.get?_eq_none_iff] at hmissing
  simp [targetOf, hmissing] at htarget

theorem lose_keys : Assoc.keys (block.lose edge).outputs = Assoc.keys block.outputs := by
  unfold lose setOutput
  dsimp only
  split_ifs with hsource hheld <;>
    first | rfl | exact Assoc.keys_insert_of_mem (block.mem_keys_of_targetOf hheld) _

end Block

namespace Flow

variable {flow : Flow} {edge : Edge}

theorem attach_eq (flow : Flow) (edge : Edge) :
    flow.attach edge =
      { flow with edges := flow.edges ++ [edge], blocks := flow.blocks.map (Block.gain edge) } := by
  simp [attach, modify, Block.gain, Function.comp_def]

theorem detach_eq (flow : Flow) (edge : Edge) :
    flow.detach edge =
      { flow with edges := flow.edges.erase edge, blocks := flow.blocks.map (Block.lose edge) } := by
  simp [detach, dropEdge, clearSlots, modify, Block.lose, Function.comp_def]

/-! ### Attaching an edge -/

/-- What an edge needs to be let in. -/
structure Admits (flow : Flow) (source port target : String) : Prop where
  ends : ∃ sourceBlock ∈ flow.blocks, ∃ targetBlock ∈ flow.blocks,
    sourceBlock.id = source ∧ targetBlock.id = target ∧ sourceBlock.id ≠ targetBlock.id ∧
      targetBlock.kind ≠ .start ∧ port ∈ Assoc.keys sourceBlock.outputs
  port_free : ∀ edge ∈ flow.edges, edge.source = source → edge.port ≠ port
  input_free : ∀ edge ∈ flow.edges, edge.target ≠ target

theorem objection_eq_none_iff {source port target : String} :
    flow.objection source port target = none ↔
      ∃ sourceBlock targetBlock, flow.block? source = some sourceBlock ∧
        flow.block? target = some targetBlock ∧ source ≠ target ∧ targetBlock.kind ≠ .start ∧
          port ∈ Assoc.keys sourceBlock.outputs ∧
            (sourceBlock.targetOf port = none ∧ flow.edgeOnPort? source port = none) ∧
              targetBlock.input = none ∧ flow.incoming? target = none := by
  rw [objection]
  split
  · simp_all
  · simp_all
  · rename_i sourceBlock targetBlock hsource htarget
    simp only [hsource, htarget, Option.some.injEq, ← Assoc.contains_iff_mem_keys]
    split_ifs <;> simp_all [Option.isSome_iff_ne_none] <;> tauto

/-- In a consistent flow the slots of a block agree with the edges, so an edge meets no objection
exactly when the blocks and edges admit it. -/
theorem Consistent.objection_eq_none_iff (hflow : flow.Consistent) {source port target : String} :
    flow.objection source port target = none ↔ flow.Admits source port target := by
  rw [Flow.objection_eq_none_iff]
  constructor
  · rintro ⟨sourceBlock, targetBlock, hsource, htarget, hne, hstart, hkeys, ⟨-, hport⟩, -, hinput⟩
    have hsourceId := id_of_block? hsource
    have htargetId := id_of_block? htarget
    refine ⟨⟨sourceBlock, mem_of_block? hsource, targetBlock, mem_of_block? htarget, hsourceId,
      htargetId, ?_, hstart, hkeys⟩, edgeOnPort?_eq_none_iff.1 hport,
      incoming?_eq_none_iff.1 hinput⟩
    rwa [hsourceId, htargetId]
  · rintro ⟨⟨sourceBlock, hsource, targetBlock, htarget, rfl, rfl, hne, hstart, hkeys⟩, hport,
      hinput⟩
    refine ⟨sourceBlock, targetBlock, (block?_eq_some_iff hflow.nodup_blocks).2 ⟨hsource, rfl⟩,
      (block?_eq_some_iff hflow.nodup_blocks).2 ⟨htarget, rfl⟩, hne, hstart, hkeys,
      ⟨?_, edgeOnPort?_eq_none_iff.2 hport⟩, ?_, incoming?_eq_none_iff.2 hinput⟩
    · rw [Option.eq_none_iff_forall_ne_some]
      intro target hheld
      obtain ⟨edge, hedge, hsourceEq, hportEq, -⟩ :=
        (hflow.targetOf_iff sourceBlock hsource port target).1 hheld
      exact hport edge hedge hsourceEq hportEq
    · rw [Option.eq_none_iff_forall_ne_some]
      intro source hheld
      obtain ⟨port, edge, hedge, -, -, htargetEq⟩ :=
        (hflow.input_iff targetBlock htarget source).1 hheld
      exact hinput edge hedge htargetEq

theorem joins_attach_iff {source port target : String} :
    (flow.attach edge).Joins source port target ↔
      flow.Joins source port target ∨
        edge.source = source ∧ edge.port = port ∧ edge.target = target := by
  simp [Joins, attach_eq, or_and_right, exists_or]

/-- Attaching an edge that is admitted, under a new id, keeps a flow consistent. -/
theorem Consistent.attach (hflow : flow.Consistent)
    (hadmits : flow.Admits edge.source edge.port edge.target)
    (hfresh : ∀ other ∈ flow.edges, other.id ≠ edge.id) : (flow.attach edge).Consistent := by
  have hblocks : (flow.attach edge).blocks = flow.blocks.map (Block.gain edge) := by
    rw [attach_eq]
  have hedges : (flow.attach edge).edges = flow.edges ++ [edge] := by rw [attach_eq]
  constructor
  case nodup_blocks => simpa [hblocks, Function.comp_def] using hflow.nodup_blocks
  case nodup_edges =>
    rw [hedges]
    exact nodup_map_concat hflow.nodup_edges hfresh
  case ends =>
    intro old hold
    rw [hedges, List.mem_append, List.mem_singleton] at hold
    obtain ⟨source, hsource, target, htarget, hends⟩ :
        ∃ source ∈ flow.blocks, ∃ target ∈ flow.blocks, source.id = old.source ∧
          target.id = old.target ∧ source.id ≠ target.id ∧ target.kind ≠ .start := by
      rcases hold with hold | rfl
      · exact hflow.ends old hold
      · obtain ⟨source, hsource, target, htarget, h⟩ := hadmits.ends
        exact ⟨source, hsource, target, htarget, h.1, h.2.1, h.2.2.1, h.2.2.2.1⟩
    refine ⟨source.gain edge, ?_, target.gain edge, ?_, by simpa using hends⟩
    · exact hblocks ▸ List.mem_map_of_mem hsource
    · exact hblocks ▸ List.mem_map_of_mem htarget
  case nodup_ports =>
    rw [hedges]
    apply nodup_map_concat hflow.nodup_ports
    intro old hold
    rw [ne_eq, Prod.mk.injEq, not_and]
    exact hadmits.port_free old hold
  case nodup_targets =>
    rw [hedges]
    exact nodup_map_concat hflow.nodup_targets hadmits.input_free
  case targetOf_iff =>
    intro block hblock port target
    obtain ⟨old, hold, rfl⟩ := List.mem_map.1 (hblocks ▸ hblock)
    rw [Block.gain_targetOf, Block.gain_id, joins_attach_iff, ← hflow.targetOf_iff old hold]
    split_ifs with htouched
    · have hnone : old.targetOf port ≠ some target := by
        rw [ne_eq, hflow.targetOf_iff old hold]
        rintro ⟨other, hother, hsource, hport, -⟩
        exact hadmits.port_free other hother (hsource.trans htouched.1) (hport.trans htouched.2.symm)
      simp [hnone, htouched.1, htouched.2]
    · have hother : ¬(edge.source = old.id ∧ edge.port = port ∧ edge.target = target) :=
        fun h => htouched ⟨h.1.symm, h.2.1⟩
      simp [hother]
  case input_iff =>
    intro block hblock source
    obtain ⟨old, hold, rfl⟩ := List.mem_map.1 (hblocks ▸ hblock)
    simp only [Block.gain_input, Block.gain_id, joins_attach_iff, exists_or,
      ← hflow.input_iff old hold]
    split_ifs with htouched
    · have hnone : old.input ≠ some source := by
        rw [ne_eq, hflow.input_iff old hold]
        rintro ⟨port, other, hother, -, -, htarget⟩
        exact hadmits.input_free other hother (htarget.trans htouched)
      simp [hnone, htouched]
    · have hother : edge.target ≠ old.id := Ne.symm htouched
      simp [hother]

/-- The ports of the blocks stay as they are when an edge is attached to a port that is there. -/
theorem WellFormed.attach (hflow : flow.WellFormed)
    (hadmits : flow.Admits edge.source edge.port edge.target)
    (hfresh : ∀ other ∈ flow.edges, other.id ≠ edge.id) : (flow.attach edge).WellFormed := by
  refine (hflow.toConsistent.attach hadmits hfresh).wellFormed ?_
  intro block hblock
  rw [attach_eq] at hblock
  obtain ⟨old, hold, rfl⟩ := List.mem_map.1 hblock
  rw [Block.gain_keys, Block.gain_config, hflow.keys_outputs old hold]
  intro hid
  obtain ⟨source, hsource, -, -, hsourceId, -, -, -, hkeys⟩ := hadmits.ends
  rwa [hflow.block_eq_of_id hold hsource (hid.trans hsourceId.symm)]

/-! ### Detaching an edge -/

theorem Consistent.mem_erase_iff (hflow : flow.Consistent) {other : Edge} :
    other ∈ flow.edges.erase edge ↔ other ≠ edge ∧ other ∈ flow.edges :=
  hflow.nodup.mem_erase_iff

/-- Once an edge is off the list, exactly its own connection is gone. -/
theorem Consistent.joins_detach_iff (hflow : flow.Consistent) (hedge : edge ∈ flow.edges)
    {source port target : String} :
    (flow.detach edge).Joins source port target ↔
      flow.Joins source port target ∧ ¬(edge.source = source ∧ edge.port = port) := by
  simp only [Joins, detach_eq, hflow.mem_erase_iff]
  constructor
  · rintro ⟨other, ⟨hne, hother⟩, rfl, rfl, rfl⟩
    refine ⟨⟨other, hother, rfl, rfl, rfl⟩, ?_⟩
    rintro ⟨hsource, hport⟩
    exact hne (hflow.eq_of_port hother hedge hsource.symm hport.symm)
  · rintro ⟨⟨other, hother, rfl, rfl, rfl⟩, hkept⟩
    refine ⟨other, ⟨?_, hother⟩, rfl, rfl, rfl⟩
    rintro rfl
    exact hkept ⟨rfl, rfl⟩

/-- Detaching an edge of the list keeps a flow consistent. -/
theorem Consistent.detach (hflow : flow.Consistent) (hedge : edge ∈ flow.edges) :
    (flow.detach edge).Consistent := by
  have hblocks : (flow.detach edge).blocks = flow.blocks.map (Block.lose edge) := by
    rw [detach_eq]
  have hedges : (flow.detach edge).edges = flow.edges.erase edge := by rw [detach_eq]
  have hsub : (flow.detach edge).edges.Sublist flow.edges := hedges ▸ List.erase_sublist
  constructor
  case nodup_blocks => simpa [hblocks, Function.comp_def] using hflow.nodup_blocks
  case nodup_edges => exact (hsub.map Edge.id).nodup hflow.nodup_edges
  case ends =>
    intro other hother
    obtain ⟨source, hsource, target, htarget, hends⟩ := hflow.ends other (hsub.subset hother)
    refine ⟨source.lose edge, ?_, target.lose edge, ?_, by simpa using hends⟩
    · exact hblocks ▸ List.mem_map_of_mem hsource
    · exact hblocks ▸ List.mem_map_of_mem htarget
  case nodup_ports => exact (hsub.map _).nodup hflow.nodup_ports
  case nodup_targets => exact (hsub.map Edge.target).nodup hflow.nodup_targets
  case targetOf_iff =>
    intro block hblock port target
    obtain ⟨old, hold, rfl⟩ := List.mem_map.1 (hblocks ▸ hblock)
    rw [Block.lose_targetOf, Block.lose_id, hflow.joins_detach_iff hedge,
      ← hflow.targetOf_iff old hold]
    split_ifs with hcleared
    · simp [hcleared.1, hcleared.2.1]
    · refine ⟨fun hheld => ⟨hheld, ?_⟩, fun h => h.1⟩
      rintro ⟨hsource, rfl⟩
      exact hcleared ⟨hsource.symm, rfl, hflow.targetOf_of_mem hedge hold hsource.symm⟩
  case input_iff =>
    intro block hblock source
    obtain ⟨old, hold, rfl⟩ := List.mem_map.1 (hblocks ▸ hblock)
    simp only [Block.lose_input, Block.lose_id, hflow.joins_detach_iff hedge]
    split_ifs with hcleared
    · -- The only edge into this block is the one that goes.
      simp only [false_iff]
      rintro ⟨port, ⟨other, hother, rfl, rfl, htarget⟩, hkept⟩
      rw [hflow.eq_of_target hother hedge (htarget.trans hcleared.1)] at hkept
      exact hkept ⟨rfl, rfl⟩
    · rw [hflow.input_iff old hold]
      refine ⟨?_, fun ⟨port, hjoins, _⟩ => ⟨port, hjoins⟩⟩
      rintro ⟨port, other, hother, rfl, rfl, htarget⟩
      refine ⟨other.port, ⟨other, hother, rfl, rfl, htarget⟩, ?_⟩
      rintro ⟨hsource, hport⟩
      have hsame := hflow.eq_of_port hother hedge hsource.symm hport.symm
      have hentered : old.id = edge.target := by rw [← hsame, htarget]
      exact hcleared ⟨hentered, hflow.input_of_mem hedge hold hentered⟩

theorem WellFormed.detach (hflow : flow.WellFormed) (hedge : edge ∈ flow.edges) :
    (flow.detach edge).WellFormed := by
  refine (hflow.toConsistent.detach hedge).wellFormed ?_
  intro block hblock
  rw [detach_eq] at hblock
  obtain ⟨old, hold, rfl⟩ := List.mem_map.1 hblock
  rw [Block.lose_keys, Block.lose_config, hflow.keys_outputs old hold]

end Flow

end DialogGraph
