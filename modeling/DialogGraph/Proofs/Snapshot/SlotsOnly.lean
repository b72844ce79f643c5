import DialogGraph.Proofs.Flow.Mending
import DialogGraph.Proofs.Snapshot.RoundTrip

/-!
# Snapshots without a list of connections

Older snapshots have no list of connections, and the ports of their order confirmations have other
names. Their wiring is in the slots of the blocks alone. A flow that is saved like this comes back
with the same blocks and slots, and with an edge for every edge, under a new id and in the order of
the blocks. As with any snapshot this needs numbers of the blocks that are counted and places that
are numbers, and here also numbers for the new ids.
-/

namespace DialogGraph

open DialogGraph.Number

def Edge.unnamed (edge : Edge) : Edge := { edge with id := "" }

namespace Flow

variable {flow base : Flow}

/-- What a flow joins can be told from its edges without their ids. -/
theorem joins_iff_unnamed {source port target : String} :
    flow.Joins source port target ↔ ⟨"", source, port, target⟩ ∈ flow.edges.map Edge.unnamed := by
  rw [List.mem_map]
  constructor
  · rintro ⟨edge, hedge, rfl, rfl, rfl⟩
    exact ⟨edge, hedge, rfl⟩
  · rintro ⟨edge, hedge, hsame⟩
    obtain ⟨-, rfl, rfl, rfl⟩ := Edge.mk.inj hsame
    exact ⟨edge, hedge, rfl, rfl, rfl⟩

/-- Whether edges fit does not depend on their ids. -/
theorem fits_unnamed_iff {edges : List Edge} :
    flow.Fits (edges.map Edge.unnamed) ↔ flow.Fits edges := by
  have hports : takenPorts (edges.map Edge.unnamed) = takenPorts edges := List.map_map
  have htargets : (edges.map Edge.unnamed).map Edge.target = edges.map Edge.target := List.map_map
  constructor
  · intro hfits
    exact ⟨fun edge hedge => hfits.joins edge.unnamed (List.mem_map_of_mem hedge),
      hports ▸ hfits.nodup_ports, htargets ▸ hfits.nodup_targets⟩
  · intro hfits
    refine ⟨?_, hports ▸ hfits.nodup_ports, htargets ▸ hfits.nodup_targets⟩
    intro edge hedge
    obtain ⟨old, hold, rfl⟩ := List.mem_map.1 hedge
    exact hfits.joins old hold

/-- The edges of a tidy flow fit its blocks. -/
theorem Tidy.fits (hflow : flow.Tidy) : flow.Fits flow.edges where
  joins := by
    intro edge hedge
    obtain ⟨source, target, hsource, htarget, hne, hstart, hport, -, -⟩ := misfit?_eq_none_iff.1
      (hflow.misfit?_eq_none hedge List.not_mem_nil List.not_mem_nil)
    exact ⟨source, target, hsource, htarget, hne, hstart, hport⟩
  nodup_ports := hflow.nodup_ports
  nodup_targets := hflow.nodup_targets

/-- An edge among others that fit is no misfit once those before it are there. -/
theorem Fits.misfit?_eq_none {front rest : List Edge} {edge : Edge}
    (hfits : base.Fits (front ++ edge :: rest)) :
    base.misfit? (takenPorts front) (front.map Edge.target) edge = none := by
  obtain ⟨source, target, hsource, htarget, hne, hstart, hport⟩ :=
    hfits.joins edge (List.mem_append_right _ List.mem_cons_self)
  rw [misfit?_eq_none_iff]
  exact ⟨source, target, hsource, htarget, hne, hstart, hport,
    notMem_map_front hfits.nodup_ports rfl, notMem_map_front hfits.nodup_targets rfl⟩

/-- The slots of a tidy flow are told by any edges that join the same. -/
theorem Tidy.gainAll_opened_of_joins (hflow : flow.Tidy) {edges : List Edge}
    (hfits : flow.Fits edges) (hsame : ∀ source port target,
      Flow.Joins { flow with edges := edges } source port target ↔ flow.Joins source port target)
    {block : Block} (hblock : block ∈ flow.blocks) : block.opened.gainAll edges = block := by
  have hother : Tidy { flow with edges := edges } := by
    constructor
    case nodup_blocks => exact hflow.nodup_blocks
    case ends =>
      intro edge hedge
      obtain ⟨source, target, hsource, htarget, hne, hstart, -⟩ := hfits.joins edge hedge
      have hsourceId := id_of_block? hsource
      have htargetId := id_of_block? htarget
      exact ⟨source, mem_of_block? hsource, target, mem_of_block? htarget, hsourceId, htargetId,
        by rwa [hsourceId, htargetId], hstart⟩
    case mem_ports =>
      intro edge hedge source hsource hid
      obtain ⟨other, -, hother, -, -, -, hport⟩ := hfits.joins edge hedge
      rwa [eq_of_id_eq hflow.nodup_blocks hsource (mem_of_block? hother)
        (hid.trans (id_of_block? hother).symm)]
    case nodup_ports => exact hfits.nodup_ports
    case nodup_targets => exact hfits.nodup_targets
    case keys_outputs => exact hflow.keys_outputs
    case targetOf_iff =>
      intro other hother port target
      rw [hflow.targetOf_iff other hother, hsame]
    case input_iff =>
      intro other hother source
      simp only [hflow.input_iff other hother, hsame]
  exact hother.gainAll_opened hblock

/-! ### Slots as edges -/

/-- The edges that the slots of the blocks name, in the order of the blocks and without ids. -/
def slotEdges (flow : Flow) : List Edge :=
  flow.blocks.flatMap fun block => block.outputs.filterMap fun slot =>
    slot.2.map fun target => ⟨"", block.id, slot.1, target⟩

theorem mem_slotEdges (hflow : flow.WellFormed) {edge : Edge} :
    edge ∈ flow.slotEdges ↔ edge ∈ flow.edges.map Edge.unnamed := by
  have hkeys : ∀ block ∈ flow.blocks, (Assoc.keys block.outputs).Nodup := by
    intro block hblock
    rw [hflow.keys_outputs block hblock]
    exact block.config.nodup_ports
  constructor
  · intro hedge
    obtain ⟨block, hblock, hslots⟩ := List.mem_flatMap.1 hedge
    obtain ⟨⟨port, slot⟩, hslot, hnamed⟩ := List.mem_filterMap.1 hslots
    obtain ⟨target, rfl, rfl⟩ := Option.map_eq_some_iff.1 hnamed
    have htarget : block.targetOf port = some target := by
      rw [Block.targetOf, Assoc.get?_of_mem (hkeys block hblock) hslot, Option.join_some]
    exact joins_iff_unnamed.1 ((hflow.targetOf_iff block hblock port target).1 htarget)
  · intro hedge
    obtain ⟨old, hold, rfl⟩ := List.mem_map.1 hedge
    obtain ⟨source, hsource, -, -, hsourceId, -⟩ := hflow.ends old hold
    have htarget := hflow.targetOf_of_mem hold hsource hsourceId
    rw [Block.targetOf, Option.join_eq_some_iff] at htarget
    refine List.mem_flatMap.2 ⟨source, hsource, ?_⟩
    refine List.mem_filterMap.2 ⟨_, Assoc.mem_of_get? htarget, ?_⟩
    rw [Edge.unnamed, ← hsourceId]
    rfl

/-- The slots name every edge once. -/
theorem slotEdges_perm (hflow : flow.WellFormed) :
    flow.slotEdges.Perm (flow.edges.map Edge.unnamed) := by
  have hunnamed : (flow.edges.map Edge.unnamed).Nodup :=
    .of_map _ (fits_unnamed_iff.2 hflow.tidy.fits).nodup_ports
  refine (List.perm_ext_iff_of_nodup ?_ hunnamed).2 fun edge => mem_slotEdges hflow
  rw [slotEdges, List.nodup_flatMap]
  constructor
  · intro block hblock
    have houtputs : block.outputs.Nodup := by
      apply List.Nodup.of_map Prod.fst
      rw [← Assoc.keys, hflow.keys_outputs block hblock]
      exact block.config.nodup_ports
    refine houtputs.filterMap ?_
    intro slot other edge hslot hother
    obtain ⟨target, htarget, rfl⟩ := Option.map_eq_some_iff.1 hslot
    obtain ⟨otherTarget, hotherTarget, hsame⟩ := Option.map_eq_some_iff.1 hother
    obtain ⟨-, -, hport, rfl⟩ := Edge.mk.inj hsame
    exact Prod.ext hport.symm (htarget.trans hotherTarget.symm)
  · refine (List.pairwise_map.1 hflow.nodup_blocks).imp ?_
    intro block other hne edge hedge hother
    have hsource : ∀ {block : Block}, (edge ∈ block.outputs.filterMap fun slot =>
        slot.2.map fun target => (⟨"", block.id, slot.1, target⟩ : Edge)) →
          edge.source = block.id := by
      intro block hmem
      obtain ⟨slot, -, hnamed⟩ := List.mem_filterMap.1 hmem
      obtain ⟨target, -, rfl⟩ := Option.map_eq_some_iff.1 hnamed
      rfl
    exact hne ((hsource hedge).symm.trans (hsource hother))

/-- Edges that want no id can all get one as long as the counter has room. -/
theorem issuable_replicate {ids : List String} {counter n : Nat} :
    Issuable ids counter (List.replicate n none) ↔ n = 0 ∨ counter + n < 10 ^ digitLimit := by
  induction n generalizing ids counter with
  | zero => simp [Issuable]
  | succ n ih =>
    rw [List.replicate_succ, Issuable]
    constructor
    · rintro ⟨id, after, ⟨hroom, -, rfl⟩, hrest⟩
      have hlater := ih.1 hrest
      omega
    · intro hroom
      refine ⟨edgeId (counter + 1), counter + 1, ⟨by omega, rfl, rfl⟩, ih.2 ?_⟩
      omega

end Flow

namespace Snapshot

open DialogGraph.Flow

/-! ### Connections that all fit -/

variable {flow base : Flow}

/-- Where all connections fit, none is left out. -/
theorem placed_eq_self {front : List Edge} {wires : List Wire}
    (hfits : base.Fits (front ++ wires.map (Wire.edge base))) :
    placed base (takenPorts front) (front.map Edge.target) wires = wires := by
  induction wires generalizing front with
  | nil => rfl
  | cons wire rest ih =>
    rw [List.map_cons] at hfits
    rw [placed, if_pos hfits.misfit?_eq_none]
    rw [List.append_cons] at hfits
    have hrest := ih hfits
    rw [takenPorts, List.map_append, List.map_append] at hrest
    exact congrArg (wire :: ·) hrest

/-- Loading connections puts those that fit behind the edges that were there. -/
theorem edges_of_loadWires {progress done : Progress} (hflow : base.WiredFrom progress.flow)
    {wires : List Wire} (hdone : loadWires progress wires = .ok done) :
    done.flow.edges.map Edge.unnamed = progress.flow.edges.map Edge.unnamed ++
      (placed base (takenPorts progress.flow.edges) (progress.flow.edges.map Edge.target)
        wires).map (Wire.edge base) := by
  induction wires generalizing progress with
  | nil =>
    obtain rfl := Except.ok.inj hdone
    simp [placed]
  | cons wire rest ih =>
    have hnext := hflow.connect wire.source (portOf progress.flow wire) wire.target wire.id
    rw [← reached_loadWire] at hnext
    rw [loadWires] at hdone
    rcases loadWire_cases hflow wire with ⟨hmisfit, next, heq, hsame⟩ |
      ⟨hfits, ⟨-, stopped, heq⟩ | ⟨id, after, next, -, heq, hattached⟩⟩
    · rw [heq] at hdone hnext
      rw [placed, if_neg hmisfit, ih hnext hdone, reached, hsame]
    · rw [heq] at hdone
      cases hdone
    · rw [heq] at hdone hnext
      rw [placed, if_pos hfits, ih hnext hdone, reached, hattached, attach_eq]
      simp only [takenPorts, List.map_append, List.map_cons, List.map_nil, List.append_assoc]
      rfl

/-! ### Snapshots without connections -/

/-- The name that a port of an order confirmation has in older snapshots. -/
def olderName (port : String) : String :=
  ((legacyOrderPorts.find? fun names => names.2 == port).map Prod.fst).getD port

/-- The name under which a port of a block is saved, if those chosen have their older names. -/
def savedName (older : String → Bool) (block : Block) (port : String) : String :=
  if block.kind = .orderConfirm ∧ older port = true then olderName port else port

/-- A block with its ports under the names they are saved under. -/
def renamed (older : String → Bool) (block : Block) : Block :=
  { block with outputs := block.outputs.map fun slot => (savedName older block slot.1, slot.2) }

/-- A snapshot without connections: its list of them is empty, or there is none. -/
def withoutConnections (listed : Bool) : Value → Value
  | .record data =>
    .record (if listed then Assoc.insert data "connections" (.list [])
      else Assoc.erase data "connections")
  | data => data

/-- The snapshot of a flow without connections, in which some ports of order confirmations have
their older names. -/
def slotsOnly (flow : Flow) (older : String → String → Bool) (listed : Bool) : Value :=
  withoutConnections listed
    (save { flow with blocks := flow.blocks.map fun block => renamed (older block.id) block })

/-- What came of loading gives a flow back, but for the ids and the order of its edges. -/
structure Restored (flow : Flow) (outcome : Outcome (Except Fault Unit)) : Prop where
  result : outcome.result = .ok ()
  blocks : outcome.flow.blocks = flow.blocks
  blockCounter : outcome.flow.blockCounter = flow.blockCounter
  joins : ∀ source port target,
    outcome.flow.Joins source port target ↔ flow.Joins source port target

def slotParts (flow : Flow) (older : String → String → Bool) : Parts :=
  ⟨flow.blocks.map fun block => (block.id, blockValue (renamed (older block.id) block)), [],
    flow.blockCounter⟩

variable {older : String → String → Bool} {listed strict : Bool}

theorem parts_slotsOnly (flow : Flow) (older : String → String → Bool) (listed : Bool) :
    parts (slotsOnly flow older listed) = .ok (slotParts flow older) := by
  rw [slotsOnly, save, List.map_map]
  cases listed <;> rfl

/-- The snapshot passes the check exactly if the blocks stand at numbers. -/
theorem check_slotsOnly_iff {found : Parts} :
    check strict (slotsOnly flow older listed) = .ok found ↔ found = slotParts flow older ∧
      ∀ block ∈ flow.blocks, isNumber block.x = true ∧ isNumber block.y = true := by
  rw [check_eq_ok_iff, parts_slotsOnly, Except.ok.injEq, Parts.fault?_eq_none_iff]
  constructor
  · rintro ⟨rfl, hblocks, -⟩
    refine ⟨rfl, ?_⟩
    intro block hblock
    have hcomplaint := hblocks _ (List.mem_map_of_mem hblock)
    have hplaces := places_numeric_of_blockOf? hcomplaint
      (blockOf?_blockValue (renamed (older block.id) block))
    exact hplaces
  · rintro ⟨rfl, hplaces⟩
    refine ⟨rfl, ?_, rfl⟩
    intro entry hentry
    obtain ⟨block, hblock, rfl⟩ := List.mem_map.1 hentry
    obtain ⟨hx, hy⟩ := hplaces block hblock
    exact blockComplaint?_blockValue (renamed (older block.id) block) strict hx hy

/-- Before any connection is made, nothing can be seen of the slots. -/
theorem unwired_slotParts (hnodup : (flow.blocks.map Block.id).Nodup) :
    unwired (slotParts flow older) = stripped flow := by
  have hids : (flow.blocks.map fun block => renamed (older block.id) block).map Block.id =
      flow.blocks.map Block.id := by
    rw [List.map_map]
    rfl
  have hblocks : (slotParts flow older).blocks =
      (flow.blocks.map fun block => renamed (older block.id) block).map fun block =>
        (block.id, blockValue block) := by
    rw [List.map_map]
    rfl
  rw [unwired, hblocks, foldl_loadBlock_blockValue]
  · simp only [Progress.start, Flow.empty, List.nil_append, List.map_map]
    rfl
  · rw [Progress.start, Flow.empty, List.nil_append, hids]
    exact hnodup

/-- An older name is read as the port that has it. -/
theorem portOf_savedName (hnodup : (flow.blocks.map Block.id).Nodup) {block : Block}
    (hblock : block ∈ flow.blocks) {port : String} (hport : port ∈ block.config.ports)
    (older : String → Bool) {wire : Wire} (hsource : wire.source = block.id)
    (hsaved : wire.port = savedName older block port) : portOf (stripped flow) wire = port := by
  have hfound : (stripped flow).block? wire.source = some block.opened := by
    rw [block?_stripped, hsource, (block?_eq_some_iff hnodup).2 ⟨hblock, rfl⟩, Option.map_some]
  have holder : ∀ name ∈ ["confirm", "edit", "cancel"],
      Assoc.get? legacyOrderPorts (olderName name) = some name := by
    decide
  have hkind : block.opened.kind = block.kind := rfl
  rw [portOf, hfound]
  dsimp only
  rw [hkind, hsaved, savedName]
  by_cases horder : block.kind = .orderConfirm
  · rw [if_pos horder]
    split_ifs with hchosen
    · rw [holder port (mem_orderPorts horder hport), Option.getD_some]
    · rw [get?_legacyOrderPorts horder hport, Option.getD_none]
  · rw [if_neg horder, if_neg fun hchosen => horder hchosen.1]

/-- A slot is read as the edge that it names, as long as no block has the empty id, which stands for
an open slot. -/
theorem wireOfSlot?_savedName (hflow : flow.WellFormed) (hids : ∀ block ∈ flow.blocks, block.id ≠ "")
    (older : String → Bool) {block : Block} (hblock : block ∈ flow.blocks)
    {slot : String × Option String} (hslot : slot ∈ block.outputs) :
    (wireOfSlot? block.id (savedName older block slot.1, idValue slot.2)).map
        (Wire.edge (stripped flow)) =
      slot.2.map fun target => ⟨"", block.id, slot.1, target⟩ := by
  obtain ⟨port, named⟩ := slot
  have hkeys := hflow.keys_outputs block hblock
  cases named with
  | none => rfl
  | some target =>
    have hport : port ∈ block.config.ports := hkeys ▸ List.mem_map_of_mem hslot
    have hjoins : flow.Joins block.id port target := by
      refine (hflow.targetOf_iff block hblock port target).1 ?_
      rw [Block.targetOf, Assoc.get?_of_mem (hkeys ▸ block.config.nodup_ports) hslot,
        Option.join_some]
    have htarget : target.isEmpty = false := by
      obtain ⟨edge, hedge, -, -, rfl⟩ := hjoins
      obtain ⟨-, -, other, hother, -, hid, -⟩ := hflow.ends edge hedge
      have hne := hids other hother
      rw [hid] at hne
      simpa using hne
    let wire : Wire := ⟨none, block.id, savedName older block port, target,
      .record [("from", .text block.id), ("fromPort", .text (savedName older block port)),
        ("to", .text target)]⟩
    have hwire : wireOfSlot? block.id (savedName older block port, idValue (some target)) =
        some wire := by
      simp only [wireOfSlot?, idValue, htarget, Bool.false_eq_true, if_false]
      rfl
    rw [hwire, Option.map_some, Option.map_some, Wire.edge,
      portOf_savedName hflow.nodup_blocks hblock hport older rfl rfl]

/-- The connections that the snapshot names are the edges that the slots name. -/
theorem wires_slotParts (hflow : flow.WellFormed)
    (hids : ∀ block ∈ flow.blocks, block.id ≠ "") :
    (wires (slotParts flow older)).map (Wire.edge (stripped flow)) = flow.slotEdges := by
  have hwires : wires (slotParts flow older) = flow.blocks.flatMap fun block =>
      (savedOutputs (blockValue (renamed (older block.id) block))).filterMap
        (wireOfSlot? block.id) := by
    rw [wires, slotParts, if_pos List.isEmpty_nil, wiresOfSlots, List.flatMap_map]
  rw [hwires, List.map_flatMap, slotEdges]
  apply List.flatMap_congr
  intro block hblock
  rw [savedOutputs_blockValue, renamed, List.map_map, List.filterMap_map, List.map_filterMap]
  exact List.filterMap_congr fun _ => wireOfSlot?_savedName hflow hids (older block.id) hblock

theorem wires_slotParts_id {wire : Wire} (hwire : wire ∈ wires (slotParts flow older)) :
    wire.id = none := by
  rw [wires, slotParts, if_pos List.isEmpty_nil, wiresOfSlots] at hwire
  obtain ⟨entry, -, hslots⟩ := List.mem_flatMap.1 hwire
  obtain ⟨slot, -, hnamed⟩ := List.mem_filterMap.1 hslots
  rw [wireOfSlot?] at hnamed
  split at hnamed
  next target htarget =>
    split_ifs at hnamed
    rw [← Option.some.inj hnamed]
  next => cases hnamed

/-! ### Loading without connections -/

theorem fits_stripped {edges : List Edge} (hfits : flow.Fits edges) :
    (stripped flow).Fits edges where
  joins := by
    intro edge hedge
    obtain ⟨source, target, hsource, htarget, hrest⟩ := hfits.joins edge hedge
    refine ⟨source.opened, target.opened, ?_, ?_, hrest⟩
    · rw [block?_stripped, hsource, Option.map_some]
    · rw [block?_stripped, htarget, Option.map_some]
  nodup_ports := hfits.nodup_ports
  nodup_targets := hfits.nodup_targets

theorem fits_slotEdges (hflow : flow.WellFormed) : flow.Fits flow.slotEdges :=
  (fits_unnamed_iff.2 hflow.tidy.fits).perm (slotEdges_perm hflow).symm

/-- All connections that the slots name come in. -/
theorem placed_slotParts (hflow : flow.WellFormed) (hids : ∀ block ∈ flow.blocks, block.id ≠ "") :
    placed (stripped flow) [] [] (wires (slotParts flow older)) = wires (slotParts flow older) := by
  refine @placed_eq_self (stripped flow) [] _ ?_
  rw [List.nil_append, wires_slotParts hflow hids]
  exact fits_stripped (fits_slotEdges hflow)

/-- All connections can be made exactly if their new ids have numbers that are short enough. -/
theorem wired_slotParts_iff (hflow : flow.Sound) (hids : ∀ block ∈ flow.blocks, block.id ≠ "") :
    (∃ done, wired (slotParts flow older) = .ok done) ↔ flow.edges.length < 10 ^ digitLimit := by
  have hnone : (wires (slotParts flow older)).map Wire.id =
      List.replicate (wires (slotParts flow older)).length none :=
    List.map_eq_replicate_iff.2 fun _ => wires_slotParts_id
  have hlength : (wires (slotParts flow older)).length = flow.edges.length := by
    calc (wires (slotParts flow older)).length
        = ((wires (slotParts flow older)).map (Wire.edge (stripped flow))).length :=
          (List.length_map _).symm
      _ = flow.slotEdges.length := by rw [wires_slotParts hflow.toWellFormed hids]
      _ = (flow.edges.map Edge.unnamed).length := (slotEdges_perm hflow.toWellFormed).length_eq
      _ = flow.edges.length := List.length_map _
  have hlimit : 0 < 10 ^ digitLimit := Nat.pow_pos (by decide)
  rw [wired_eq_ok_iff, unwired_slotParts hflow.nodup_blocks,
    placed_slotParts hflow.toWellFormed hids, hnone, hlength, issuable_replicate]
  omega

/-- Once all connections are made, the blocks and what they are joined by are those of the flow. -/
theorem restored_of_wired (hflow : flow.Sound) (hids : ∀ block ∈ flow.blocks, block.id ≠ "")
    {done : Progress} (hdone : wired (slotParts flow older) = .ok done) :
    done.flow.blocks = flow.blocks ∧
      ∀ source port target, done.flow.Joins source port target ↔
        flow.Joins source port target := by
  have hunwired : unwired (slotParts flow older) = stripped flow :=
    unwired_slotParts hflow.nodup_blocks
  have hbase := (unwired_unwired (slotParts flow older)).wiredFrom
  have hwiredFrom := wiredFrom_wired (slotParts flow older)
  rw [hdone, hunwired] at hwiredFrom
  have hedges : done.flow.edges.map Edge.unnamed = flow.slotEdges := by
    have hloaded := edges_of_loadWires hbase hdone
    rw [← unwired, hunwired] at hloaded
    rw [hloaded]
    change (placed (stripped flow) [] [] (wires (slotParts flow older))).map
      (Wire.edge (stripped flow)) = flow.slotEdges
    rw [placed_slotParts hflow.toWellFormed hids, wires_slotParts hflow.toWellFormed hids]
  have hjoins : ∀ source port target, done.flow.Joins source port target ↔
      flow.Joins source port target := by
    intro source port target
    rw [joins_iff_unnamed, hedges, mem_slotEdges hflow.toWellFormed, ← joins_iff_unnamed]
  have hfits : flow.Fits done.flow.edges := by
    rw [← fits_unnamed_iff, hedges]
    exact fits_slotEdges hflow.toWellFormed
  refine ⟨?_, hjoins⟩
  calc done.flow.blocks
      = flow.blocks.map fun block => block.opened.gainAll done.flow.edges := by
        refine hwiredFrom.blocks_eq.trans ?_
        rw [stripped, List.map_map]
        rfl
    _ = flow.blocks.map id :=
        List.map_congr_left fun _ hblock => hflow.tidy.gainAll_opened_of_joins hfits hjoins hblock
    _ = flow.blocks := List.map_id flow.blocks

/-- What comes back from its slots alone could be stored, and its edges got new numbers. -/
theorem storable_of_restored (hflow : flow.Sound) (hids : ∀ block ∈ flow.blocks, block.id ≠ "")
    {other : Flow}
    (hrestored : Restored flow (load other strict (slotsOnly flow older listed)).outcome) :
    flow.Storable ∧ flow.edges.length < 10 ^ digitLimit := by
  have hresult := hrestored.result
  have hcounter := hrestored.blockCounter
  rw [load] at hresult hcounter
  cases hcheck : check strict (slotsOnly flow older listed) with
  | error fault =>
    rw [hcheck] at hresult
    cases hresult
  | ok found =>
    obtain ⟨rfl, hplaces⟩ := check_slotsOnly_iff.1 hcheck
    rw [hcheck] at hresult hcounter
    dsimp only at hresult hcounter
    rcases loadParts_cases (slotParts flow older) with ⟨progress, fault, -, heq⟩ |
      ⟨progress, hwired, ⟨fault, -, heq⟩ | ⟨highest, hhighest, heq⟩⟩
    · rw [heq] at hresult
      cases hresult
    · rw [heq] at hresult
      cases hresult
    · rw [(restored_of_wired hflow hids hwired).1] at hhighest
      rw [heq] at hcounter
      have hle : highest ≤ flow.blockCounter := hcounter ▸ le_max_right _ _
      exact ⟨⟨hflow, (highestNumber_le_iff hhighest flow.blockCounter).1 hle, hplaces⟩,
        (wired_slotParts_iff hflow hids).1 ⟨progress, hwired⟩⟩

/-- What can be stored comes back from its slots alone if its edges can get new numbers. -/
theorem restored_of_storable (hflow : flow.Storable) (hids : ∀ block ∈ flow.blocks, block.id ≠ "")
    (hroom : flow.edges.length < 10 ^ digitLimit) (other : Flow) :
    Restored flow (load other strict (slotsOnly flow older listed)).outcome := by
  have hload : load other strict (slotsOnly flow older listed) =
      loadParts (slotParts flow older) := by
    rw [load, check_slotsOnly_iff.2 ⟨rfl, hflow.places_numeric⟩]
  obtain ⟨done, hdone⟩ := (@wired_slotParts_iff flow older hflow.toSound hids).2 hroom
  obtain ⟨hblocks, hjoins⟩ := restored_of_wired hflow.toSound hids hdone
  obtain ⟨highest, hhighest⟩ := highestNumber_eq_ok_iff.2 fun block hblock =>
    (hflow.blocks_counted block hblock).imp fun _ hread => hread.2
  have hcounter : max (slotParts flow older).counter.toNat highest = flow.blockCounter :=
    max_eq_left ((highestNumber_le_iff hhighest flow.blockCounter).2 hflow.blocks_counted)
  rw [hload]
  rcases loadParts_cases (slotParts flow older) with ⟨progress, fault, hwired, -⟩ |
    ⟨progress, hwired, ⟨fault, hfault, -⟩ | ⟨number, hnumber, heq⟩⟩
  · rw [hdone] at hwired
    cases hwired
  · obtain rfl := Except.ok.inj (hdone.symm.trans hwired)
    rw [hblocks, hhighest] at hfault
    cases hfault
  · obtain rfl := Except.ok.inj (hdone.symm.trans hwired)
    rw [hblocks, hhighest] at hnumber
    obtain rfl := Except.ok.inj hnumber
    rw [heq, hcounter]
    exact ⟨rfl, hblocks, rfl, hjoins⟩

/-- A flow comes back from its slots alone exactly if it can be stored and its edges can be numbered
anew, whatever the flow is loaded in place of, however strictly, and whichever older names the
snapshot has. -/
theorem restored_slotsOnly_iff (hflow : flow.Sound) (hids : ∀ block ∈ flow.blocks, block.id ≠ "")
    (other : Flow) (strict : Bool) (older : String → String → Bool) (listed : Bool) :
    Restored flow (load other strict (slotsOnly flow older listed)).outcome ↔
      flow.Storable ∧ flow.edges.length < 10 ^ digitLimit :=
  ⟨storable_of_restored hflow hids, fun hstored =>
    restored_of_storable hstored.1 hids hstored.2 other⟩

end Snapshot

end DialogGraph
