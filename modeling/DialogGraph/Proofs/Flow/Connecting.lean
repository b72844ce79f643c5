import DialogGraph.Proofs.Flow.Sound
import Mathlib.Tactic.TFAE

/-!
# Connecting is exact

Before an edge comes in, the slots and the list of edges are asked whether it may. In a well-formed
flow their answer is exact: an edge comes in if and only if there is a well-formed flow that is the
old one with this edge added, however the slots are set. Nothing then changes but the two slots that
the edge touches, and to disconnect the edge is to undo all of it.
-/

namespace DialogGraph

open DialogGraph.Number DialogGraph.Text

namespace Block

/-- The block with an edge in the slots that the edge touches. No port is added. -/
def joined (edge : Edge) (block : Block) : Block :=
  { block with
    input := if block.id = edge.target then some edge.source else block.input
    outputs :=
      if block.id = edge.source then Assoc.modify block.outputs edge.port fun _ => some edge.target
      else block.outputs }

theorem gain_outputs (edge : Edge) (block : Block) : (block.gain edge).outputs =
    if block.id = edge.source then Assoc.insert block.outputs edge.port (some edge.target)
    else block.outputs := by
  unfold gain setOutput
  dsimp only
  split_ifs <;> rfl

/-- A port that is there already is all that an edge needs in order not to add one. -/
theorem gain_eq_joined {edge : Edge} {block : Block} (hnodup : (Assoc.keys block.outputs).Nodup)
    (hport : block.id = edge.source → edge.port ∈ Assoc.keys block.outputs) :
    block.gain edge = block.joined edge := by
  ext1
  case id => exact block.gain_id edge
  case config => exact block.gain_config edge
  case x => exact (block.gain_place edge).1
  case y => exact (block.gain_place edge).2
  case input => exact block.gain_input edge
  case outputs =>
    rw [gain_outputs, joined]
    dsimp only
    split_ifs with hsource
    · exact Assoc.insert_eq_modify hnodup (hport hsource) _
    · rfl

end Block

namespace Flow

/-- The flow with one more edge, which is counted. -/
def joined (flow : Flow) (edge : Edge) : Flow :=
  { flow with
    blocks := flow.blocks.map (Block.joined edge)
    edges := flow.edges ++ [edge]
    edgeCounter := flow.edgeCounter + 1 }

/-- Whether one more edge can come in at all: under some id, and with the slots set in some way, the
flow with the edge is well-formed. -/
def Accommodates (flow : Flow) (source port target : String) : Prop :=
  ∃ id after, WellFormed after ∧
    after.openAll = { flow.openAll with edges := flow.edges ++ [⟨id, source, port, target⟩] }

/-- Two different blocks are there, the one with an open port, the other, where no conversation
begins, with an open input. -/
structure HasRoom (flow : Flow) (source port target : String) : Prop where
  differ : source ≠ target
  port_open : ∃ block ∈ flow.blocks, block.id = source ∧ port ∈ block.config.ports ∧
    block.targetOf port = none
  input_open : ∃ block ∈ flow.blocks, block.id = target ∧ block.kind ≠ .start ∧
    block.input = none

/-- What comes of connecting a port of a block to another block. -/
structure ConnectsExactly (flow : Flow) (source port target : String) : Prop where
  answered : ∃ answer, (flow.connect source port target none).result = .ok answer
  accepted : List.TFAE [
    ∃ id, (flow.connect source port target none).result = .ok (.ok id),
    flow.Accommodates source port target,
    flow.HasRoom source port target]
  connected : ∀ id, (flow.connect source port target none).result = .ok (.ok id) →
    (∀ edge ∈ flow.edges, edge.id ≠ id) ∧
    flow.connect source port target none =
      ⟨flow.joined ⟨id, source, port, target⟩, [.connected ⟨id, source, port, target⟩],
        .ok (.ok id)⟩ ∧
    (flow.joined ⟨id, source, port, target⟩).disconnect id =
      .ok ({ flow with edgeCounter := flow.edgeCounter + 1 },
        [.disconnected ⟨id, source, port, target⟩])

variable {flow : Flow} {source port target : String}

/-! ### When an edge is admitted -/

theorem HasRoom.admits (hroom : flow.HasRoom source port target) (hflow : flow.WellFormed) :
    flow.Admits source port target := by
  obtain ⟨hdiffer, ⟨sourceBlock, hsource, rfl, hport, hopen⟩, ⟨targetBlock, htarget, rfl, hstart,
    hinput⟩⟩ := hroom
  constructor
  case ends =>
    refine ⟨sourceBlock, hsource, targetBlock, htarget, rfl, rfl, hdiffer, hstart, ?_⟩
    rwa [hflow.keys_outputs sourceBlock hsource]
  case port_free =>
    rintro edge hedge hleaves rfl
    have htaken := hflow.targetOf_of_mem hedge hsource hleaves.symm
    rw [hopen] at htaken
    cases htaken
  case input_free =>
    intro edge hedge henters
    have htaken := hflow.input_of_mem hedge htarget henters.symm
    rw [hinput] at htaken
    cases htaken

/-- Flows that agree but for their slots have the same blocks with the same settings. -/
theorem exists_mem_of_opened {after : Flow}
    (hopened : after.blocks.map Block.opened = flow.blocks.map Block.opened) {block : Block}
    (hblock : block ∈ after.blocks) :
    ∃ old ∈ flow.blocks, old.id = block.id ∧ old.config = block.config := by
  have hmem : block.opened ∈ flow.blocks.map Block.opened := hopened ▸ List.mem_map_of_mem hblock
  obtain ⟨old, hold, heq⟩ := List.mem_map.1 hmem
  have hid : old.opened.id = block.opened.id := by rw [heq]
  have hconfig : old.opened.config = block.opened.config := by rw [heq]
  exact ⟨old, hold, hid, hconfig⟩

/-- The slots of a flow do not matter for what it can take: the blocks and edges are the same, and
those of a well-formed flow admit each edge of it by the others. -/
theorem Accommodates.admits (hroom : flow.Accommodates source port target)
    (hflow : flow.WellFormed) : flow.Admits source port target := by
  obtain ⟨id, after, hafter, hopened⟩ := hroom
  have hedges : after.edges = flow.edges ++ [⟨id, source, port, target⟩] :=
    congrArg Flow.edges hopened
  have hblocks : after.blocks.map Block.opened = flow.blocks.map Block.opened :=
    congrArg Flow.blocks hopened
  obtain ⟨hports, htargets, -⟩ := hafter.notMem_front hedges
  have hedge : (⟨id, source, port, target⟩ : Edge) ∈ after.edges := by
    rw [hedges]
    exact List.mem_concat_self
  constructor
  case ends =>
    obtain ⟨sourceBlock, hsource, targetBlock, htarget, hsourceId, htargetId, hne, hstart⟩ :=
      hafter.ends _ hedge
    have hport := hafter.mem_ports _ hedge sourceBlock hsource hsourceId
    obtain ⟨oldSource, holdSource, hid, hconfig⟩ := exists_mem_of_opened hblocks hsource
    obtain ⟨oldTarget, holdTarget, hotherId, hotherConfig⟩ := exists_mem_of_opened hblocks htarget
    refine ⟨oldSource, holdSource, oldTarget, holdTarget, hid.trans hsourceId,
      hotherId.trans htargetId, ?_, ?_, ?_⟩
    · rwa [hid, hotherId]
    · rwa [Block.kind, hotherConfig]
    · rwa [hflow.keys_outputs oldSource holdSource, hconfig]
  case port_free =>
    intro edge hmem hleaves hsamePort
    exact hports (List.mem_map.2 ⟨edge, hmem, Prod.ext hleaves hsamePort⟩)
  case input_free =>
    intro edge hmem henters
    exact htargets (List.mem_map.2 ⟨edge, hmem, henters⟩)

theorem WellFormed.hasRoom (hflow : flow.WellFormed)
    (hobjection : flow.objection source port target = none) : flow.HasRoom source port target := by
  obtain ⟨sourceBlock, targetBlock, hsource, htarget, hdiffer, hstart, hport, ⟨hopen, -⟩, hinput, -⟩ :=
    objection_eq_none_iff.1 hobjection
  have hsourceMem := mem_of_block? hsource
  rw [hflow.keys_outputs sourceBlock hsourceMem] at hport
  exact ⟨hdiffer, ⟨sourceBlock, hsourceMem, id_of_block? hsource, hport, hopen⟩,
    ⟨targetBlock, mem_of_block? htarget, id_of_block? htarget, hstart, hinput⟩⟩

/-! ### There and back -/

/-- An edge that is admitted to a well-formed flow is attached to two slots. -/
theorem WellFormed.attach_eq_joined (hflow : flow.WellFormed) {edge : Edge}
    (hadmits : flow.Admits edge.source edge.port edge.target) :
    Flow.attach { flow with edgeCounter := flow.edgeCounter + 1 } edge = flow.joined edge := by
  have hblocks : flow.blocks.map (Block.gain edge) = flow.blocks.map (Block.joined edge) := by
    apply List.map_congr_left
    intro block hblock
    apply Block.gain_eq_joined
    · rw [hflow.keys_outputs block hblock]
      exact block.config.nodup_ports
    · intro hid
      obtain ⟨source, hsource, -, -, hsourceId, -, -, -, hport⟩ := hadmits.ends
      rwa [hflow.block_eq_of_id hblock hsource (hid.trans hsourceId.symm)]
  rw [attach_eq, joined]
  dsimp only
  rw [hblocks]

/-- Disconnecting an edge that has just come in gives the flow back. -/
theorem WellFormed.disconnect_attach (hflow : flow.WellFormed) {edge : Edge}
    (hadmits : flow.Admits edge.source edge.port edge.target)
    (hfresh : ∀ other ∈ flow.edges, other.id ≠ edge.id) :
    (flow.attach edge).disconnect edge.id = .ok (flow, [.disconnected edge]) := by
  have hattached := hflow.attach hadmits hfresh
  have hedges : (flow.attach edge).edges = flow.edges ++ [edge] := by rw [attach_eq]
  have hedge : edge ∈ (flow.attach edge).edges := hedges ▸ List.mem_concat_self
  have hnew : edge ∉ flow.edges := fun hmem => hfresh edge hmem rfl
  have hback : (flow.attach edge).detachAll [edge] = flow := by
    have hdetached : ((flow.attach edge).detachAll [edge]).WellFormed := hattached.detach hedge
    apply hdetached.tidy.eq_of_openAll_eq hflow.tidy
    rw [openAll_detachAll, openAll_attach, hedges, List.diff_cons, List.diff_nil,
      List.erase_append_right _ hnew, List.erase_cons_head, List.append_nil]
    rfl
  rw [hattached.disconnect_eq hedge]
  exact congrArg (fun left => Except.ok (left, [Event.disconnected edge])) hback

/-! ### Connecting -/

theorem edgeIdFor_none (hcounter : flow.edgeCounter + 1 < 10 ^ digitLimit) :
    flow.edgeIdFor none =
      ({ flow with edgeCounter := flow.edgeCounter + 1 }, .ok (edgeId (flow.edgeCounter + 1))) := by
  have htext := integerText_natCast hcounter
  rw [edgeIdFor, Option.filter_none]
  dsimp only
  rw [htext]
  rfl

/-- What connecting comes to once the edge is admitted. -/
theorem WellFormed.connect_eq (hflow : flow.WellFormed)
    (hcounter : flow.edgeCounter + 1 < 10 ^ digitLimit)
    (hadmits : flow.Admits source port target) {edge : Edge}
    (hedge : edge = ⟨edgeId (flow.edgeCounter + 1), source, port, target⟩) :
    flow.connect source port target none =
      ⟨flow.joined edge, [.connected edge], .ok (.ok edge.id)⟩ := by
  subst hedge
  rw [connect, hflow.toConsistent.objection_eq_none_iff.2 hadmits, edgeIdFor_none hcounter]
  dsimp only
  rw [hflow.attach_eq_joined hadmits]

/-- An edge that comes in has met no objection. -/
theorem objection_of_connect {wanted : Option String} {id : String}
    (hid : (flow.connect source port target wanted).result = .ok (.ok id)) :
    flow.objection source port target = none := by
  rcases flow.connect_cases source port target wanted with ⟨reason, -, heq⟩ | ⟨hobjection, -⟩
  · rw [heq] at hid
    cases hid
  · exact hobjection

theorem EdgesCounted.ne_edgeId (hflow : flow.EdgesCounted)
    (hcounter : flow.edgeCounter + 1 < 10 ^ digitLimit) :
    ∀ edge ∈ flow.edges, edge.id ≠ edgeId (flow.edgeCounter + 1) := by
  have hid : (flow.edgeIdFor none).2 = .ok (edgeId (flow.edgeCounter + 1)) := by
    rw [edgeIdFor_none hcounter]
  exact (hflow.edgeIdFor hid).1

/-- Connecting is exact in a sound flow whose next edge can be numbered. -/
theorem Sound.connectsExactly (hflow : flow.Sound)
    (hcounter : flow.edgeCounter + 1 < 10 ^ digitLimit) (source port target : String) :
    flow.ConnectsExactly source port target := by
  let edge : Edge := ⟨edgeId (flow.edgeCounter + 1), source, port, target⟩
  have hfresh : ∀ other ∈ flow.edges, other.id ≠ edge.id := hflow.edges_counted.ne_edgeId hcounter
  constructor
  case answered =>
    cases hobjection : flow.objection source port target with
    | some reason =>
      rw [Flow.connect, hobjection]
      exact ⟨.error reason, rfl⟩
    | none =>
      have hadmits := hflow.toConsistent.objection_eq_none_iff.1 hobjection
      exact ⟨.ok edge.id, congrArg Outcome.result (hflow.connect_eq hcounter hadmits rfl)⟩
  case accepted =>
    tfae_have 1 → 3 := by
      rintro ⟨id, hid⟩
      exact hflow.hasRoom (objection_of_connect hid)
    tfae_have 3 → 2 := by
      intro hroom
      have hadmits := hroom.admits hflow.toWellFormed
      exact ⟨edge.id, flow.attach edge, hflow.attach hadmits hfresh, openAll_attach flow edge⟩
    tfae_have 2 → 1 := by
      intro hroom
      have hadmits := hroom.admits hflow.toWellFormed
      exact ⟨edge.id, congrArg Outcome.result (hflow.connect_eq hcounter hadmits rfl)⟩
    tfae_finish
  case connected =>
    intro id hid
    have hadmits := hflow.toConsistent.objection_eq_none_iff.1 (objection_of_connect hid)
    have hconnect := hflow.connect_eq hcounter hadmits (rfl : edge = _)
    obtain rfl : edge.id = id := by simpa [hconnect] using hid
    refine ⟨hfresh, hconnect, ?_⟩
    let counted : Flow := { flow with edgeCounter := flow.edgeCounter + 1 }
    have hcounted : counted.WellFormed := hflow.toWellFormed.congr rfl rfl
    have hcountedAdmits : counted.Admits edge.source edge.port edge.target :=
      ⟨hadmits.ends, hadmits.port_free, hadmits.input_free⟩
    have hback := hcounted.disconnect_attach hcountedAdmits hfresh
    rwa [hflow.attach_eq_joined hadmits] at hback

end Flow

end DialogGraph
