import DialogGraph.Proofs.Flow.Lookup

/-!
# Well-formed flows

The wiring of a flow is held in three places: the list of edges, the output slots of the blocks
that edges leave, and the input slots of the blocks that they enter. A flow is consistent when the
edges fit the blocks, no two edges compete, and the slots tell exactly what the edges tell. It is
well-formed when moreover the output slots of every block are the ports that its settings give it.

Consistency says nothing about the ports of blocks. It is what survives the moment between a change
of settings and the repair of the block. A tidy flow is well-formed except that two of its edges may
have the same id: that is all that repair can promise of a flow that comes with any edges.
-/

namespace DialogGraph

namespace Flow

/-- Whether an edge leads from a port of one block to another block. -/
def Joins (flow : Flow) (source port target : String) : Prop :=
  ∃ edge ∈ flow.edges, edge.source = source ∧ edge.port = port ∧ edge.target = target

/-- The edges fit the blocks and do not compete, and the slots tell what the edges tell. -/
structure Consistent (flow : Flow) : Prop where
  nodup_blocks : (flow.blocks.map Block.id).Nodup
  nodup_edges : (flow.edges.map Edge.id).Nodup
  ends : ∀ edge ∈ flow.edges, ∃ source ∈ flow.blocks, ∃ target ∈ flow.blocks,
    source.id = edge.source ∧ target.id = edge.target ∧ source.id ≠ target.id ∧
      target.kind ≠ .start
  nodup_ports : (flow.edges.map fun edge => (edge.source, edge.port)).Nodup
  nodup_targets : (flow.edges.map Edge.target).Nodup
  targetOf_iff : ∀ block ∈ flow.blocks, ∀ port target,
    block.targetOf port = some target ↔ flow.Joins block.id port target
  input_iff : ∀ block ∈ flow.blocks, ∀ source,
    block.input = some source ↔ ∃ port, flow.Joins source port block.id

/-- A consistent flow in which every block has exactly the ports that its settings give it. -/
structure WellFormed (flow : Flow) : Prop extends Consistent flow where
  keys_outputs : ∀ block ∈ flow.blocks, Assoc.keys block.outputs = block.config.ports
  mem_ports : ∀ edge ∈ flow.edges, ∀ block ∈ flow.blocks, block.id = edge.source →
    edge.port ∈ block.config.ports

/-- The edges fit the blocks and their ports and do not compete, and the slots tell what the edges
tell. The ids of the edges do not matter. -/
structure Tidy (flow : Flow) : Prop where
  nodup_blocks : (flow.blocks.map Block.id).Nodup
  ends : ∀ edge ∈ flow.edges, ∃ source ∈ flow.blocks, ∃ target ∈ flow.blocks,
    source.id = edge.source ∧ target.id = edge.target ∧ source.id ≠ target.id ∧
      target.kind ≠ .start
  mem_ports : ∀ edge ∈ flow.edges, ∀ block ∈ flow.blocks, block.id = edge.source →
    edge.port ∈ block.config.ports
  nodup_ports : (flow.edges.map fun edge => (edge.source, edge.port)).Nodup
  nodup_targets : (flow.edges.map Edge.target).Nodup
  keys_outputs : ∀ block ∈ flow.blocks, Assoc.keys block.outputs = block.config.ports
  targetOf_iff : ∀ block ∈ flow.blocks, ∀ port target,
    block.targetOf port = some target ↔ flow.Joins block.id port target
  input_iff : ∀ block ∈ flow.blocks, ∀ source,
    block.input = some source ↔ ∃ port, flow.Joins source port block.id

theorem WellFormed.tidy {flow : Flow} (hflow : flow.WellFormed) : flow.Tidy :=
  ⟨hflow.nodup_blocks, hflow.ends, hflow.mem_ports, hflow.nodup_ports, hflow.nodup_targets,
    hflow.keys_outputs, hflow.targetOf_iff, hflow.input_iff⟩

theorem Tidy.wellFormed {flow : Flow} (hflow : flow.Tidy) (hedges : (flow.edges.map Edge.id).Nodup) :
    flow.WellFormed :=
  ⟨⟨hflow.nodup_blocks, hedges, hflow.ends, hflow.nodup_ports, hflow.nodup_targets,
    hflow.targetOf_iff, hflow.input_iff⟩, hflow.keys_outputs, hflow.mem_ports⟩

/-- What the edges of a list have each for itself, an edge does not share with those before it. -/
theorem notMem_map_front {α : Type} {g : Edge → α} {edges front rest : List Edge} {edge : Edge}
    (hnodup : (edges.map g).Nodup) (hedges : edges = front ++ edge :: rest) :
    g edge ∉ front.map g := by
  intro hmem
  rw [hedges, List.map_append, List.nodup_append] at hnodup
  exact hnodup.2.2 (g edge) hmem (g edge) (List.mem_map_of_mem List.mem_cons_self) rfl

namespace Consistent

variable {flow : Flow}

/-- A port carries at most one edge. -/
theorem eq_of_port (hflow : flow.Consistent) {edge other : Edge} (hedge : edge ∈ flow.edges)
    (hother : other ∈ flow.edges) (hsource : edge.source = other.source)
    (hport : edge.port = other.port) : edge = other :=
  List.inj_on_of_nodup_map hflow.nodup_ports hedge hother (Prod.ext hsource hport)

/-- A block has at most one edge into it. -/
theorem eq_of_target (hflow : flow.Consistent) {edge other : Edge} (hedge : edge ∈ flow.edges)
    (hother : other ∈ flow.edges) (htarget : edge.target = other.target) : edge = other :=
  List.inj_on_of_nodup_map hflow.nodup_targets hedge hother htarget

theorem nodup (hflow : flow.Consistent) : flow.edges.Nodup :=
  List.Nodup.of_map Edge.id hflow.nodup_edges

/-- The edges before an edge in the list take neither its port nor its target, nor its id. -/
theorem notMem_front (hflow : flow.Consistent) {front rest : List Edge} {edge : Edge}
    (hedges : flow.edges = front ++ edge :: rest) :
    (edge.source, edge.port) ∉ front.map (fun other => (other.source, other.port)) ∧
      edge.target ∉ front.map Edge.target ∧ edge.id ∉ front.map Edge.id :=
  ⟨notMem_map_front hflow.nodup_ports hedges, notMem_map_front hflow.nodup_targets hedges,
    notMem_map_front hflow.nodup_edges hedges⟩

theorem block_eq_of_id (hflow : flow.Consistent) {block other : Block}
    (hblock : block ∈ flow.blocks) (hother : other ∈ flow.blocks) (hid : block.id = other.id) :
    block = other :=
  eq_of_id_eq hflow.nodup_blocks hblock hother hid

/-- No edge enters a start block. -/
theorem target_ne_start (hflow : flow.Consistent) {edge : Edge} (hedge : edge ∈ flow.edges)
    {block : Block} (hblock : block ∈ flow.blocks) (hid : block.id = edge.target) :
    block.kind ≠ .start := by
  obtain ⟨-, -, target, htarget, -, htargetId, -, hstart⟩ := hflow.ends edge hedge
  rwa [hflow.block_eq_of_id hblock htarget (hid.trans htargetId.symm)]

theorem targetOf_of_mem (hflow : flow.Consistent) {edge : Edge} (hedge : edge ∈ flow.edges)
    {block : Block} (hblock : block ∈ flow.blocks) (hid : block.id = edge.source) :
    block.targetOf edge.port = some edge.target :=
  (hflow.targetOf_iff block hblock _ _).2 ⟨edge, hedge, hid.symm, rfl, rfl⟩

theorem input_of_mem (hflow : flow.Consistent) {edge : Edge} (hedge : edge ∈ flow.edges)
    {block : Block} (hblock : block ∈ flow.blocks) (hid : block.id = edge.target) :
    block.input = some edge.source :=
  (hflow.input_iff block hblock _).2 ⟨edge.port, edge, hedge, rfl, rfl, hid.symm⟩

/-- Consistency is a matter of the blocks and the edges alone. -/
theorem congr (hflow : flow.Consistent) {other : Flow} (hblocks : other.blocks = flow.blocks)
    (hedges : other.edges = flow.edges) : other.Consistent := by
  obtain ⟨blocks, edges, _, _⟩ := other
  simp only at hblocks hedges
  subst hblocks hedges
  exact ⟨hflow.nodup_blocks, hflow.nodup_edges, hflow.ends, hflow.nodup_ports,
    hflow.nodup_targets, hflow.targetOf_iff, hflow.input_iff⟩

/-- Of the blocks only their ids, kinds and slots matter. -/
theorem map_blocks (hflow : flow.Consistent) {g : Block → Block}
    (hid : ∀ block, (g block).id = block.id)
    (hkind : ∀ block ∈ flow.blocks, (g block).kind = block.kind)
    (hinput : ∀ block ∈ flow.blocks, (g block).input = block.input)
    (htarget : ∀ block ∈ flow.blocks, ∀ port, (g block).targetOf port = block.targetOf port) :
    Consistent { flow with blocks := flow.blocks.map g } where
  nodup_blocks := by simpa [Function.comp_def, hid] using hflow.nodup_blocks
  nodup_edges := hflow.nodup_edges
  ends := by
    intro edge hedge
    obtain ⟨source, hsource, target, htarget, hends⟩ := hflow.ends edge hedge
    refine ⟨g source, List.mem_map_of_mem hsource, g target, List.mem_map_of_mem htarget, ?_⟩
    simpa only [hid, hkind target htarget] using hends
  nodup_ports := hflow.nodup_ports
  nodup_targets := hflow.nodup_targets
  targetOf_iff := by
    intro block hblock port target
    obtain ⟨old, hold, rfl⟩ := List.mem_map.1 hblock
    rw [htarget old hold, hid]
    exact hflow.targetOf_iff old hold port target
  input_iff := by
    intro block hblock source
    obtain ⟨old, hold, rfl⟩ := List.mem_map.1 hblock
    rw [hinput old hold, hid]
    exact hflow.input_iff old hold source

/-- In a consistent flow an edge leaves by a slot, so it is enough to compare slots and ports. -/
theorem wellFormed (hflow : flow.Consistent)
    (hkeys : ∀ block ∈ flow.blocks, Assoc.keys block.outputs = block.config.ports) :
    flow.WellFormed where
  toConsistent := hflow
  keys_outputs := hkeys
  mem_ports := by
    intro edge hedge block hblock hid
    have htarget := hflow.targetOf_of_mem hedge hblock hid
    rw [← hkeys block hblock]
    by_contra hmissing
    rw [← Assoc.get?_eq_none_iff] at hmissing
    simp [Block.targetOf, hmissing] at htarget

end Consistent

theorem WellFormed.congr {flow other : Flow} (hflow : flow.WellFormed)
    (hblocks : other.blocks = flow.blocks) (hedges : other.edges = flow.edges) :
    other.WellFormed := by
  refine (hflow.toConsistent.congr hblocks hedges).wellFormed ?_
  rw [hblocks]
  exact hflow.keys_outputs

/-- A change of blocks that leaves their slots and ports alone keeps a flow well-formed. -/
theorem WellFormed.map_blocks {flow : Flow} (hflow : flow.WellFormed) {g : Block → Block}
    (hg : ∀ block, (g block).id = block.id ∧ (g block).kind = block.kind ∧
      (g block).config.ports = block.config.ports ∧ (g block).input = block.input ∧
      (g block).outputs = block.outputs) :
    WellFormed { flow with blocks := flow.blocks.map g } := by
  have hid : ∀ block, (g block).id = block.id := fun block => (hg block).1
  refine (hflow.toConsistent.map_blocks hid ?_ ?_ ?_).wellFormed ?_
  · exact fun block _ => (hg block).2.1
  · exact fun block _ => (hg block).2.2.2.1
  · intro block _ port
    rw [Block.targetOf, (hg block).2.2.2.2, Block.targetOf]
  · intro block hblock
    obtain ⟨old, hold, rfl⟩ := List.mem_map.1 hblock
    rw [(hg old).2.2.2.2, (hg old).2.2.1, hflow.keys_outputs old hold]

/-- The flow without blocks is well-formed. -/
theorem wellFormed_empty : Flow.empty.WellFormed := by
  constructor
  · constructor <;> simp [Flow.empty]
  · simp [Flow.empty]
  · simp [Flow.empty]

end Flow

end DialogGraph
