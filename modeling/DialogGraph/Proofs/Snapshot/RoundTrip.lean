import DialogGraph.Proofs.Block.ReadBack
import DialogGraph.Proofs.Snapshot.Storable
import DialogGraph.Snapshot.Save

/-!
# Saving and loading

The snapshot of a storable flow passes the strictest check, and loading it builds the flow up again:
first the blocks with open slots, then the edges one by one, each under its own id. Of the flow only
the edge counter may come out lower.
-/

namespace DialogGraph

open DialogGraph.Number

theorem Kind.ofText?_tag (kind : Kind) : Kind.ofText? kind.tag = some kind := by
  cases kind <;> rfl

namespace Snapshot

open DialogGraph.Flow

/-! ### Saved blocks -/

def savedFields (block : Block) : Fields :=
  [("id", .text block.id), ("type", .text block.kind.tag), ("x", block.x), ("y", block.y)] ++
    block.config.toFields ++ [("connections", slotsValue block)]

theorem blockValue_eq (block : Block) : blockValue block = .record (savedFields block) := rfl

/-- The settings of no kind have a field under a name that is reserved. -/
theorem notMem_reservedKeys (kind : Kind) :
    ∀ name ∈ (Settings.fields : List (Field kind.SettingsOf)).map Field.name,
      name ∉ reservedKeys := by
  cases kind <;> decide

theorem notMem_reservedKeys_of_mem_keys {config : Config} {name : String}
    (hname : name ∈ Assoc.keys config.toFields) : name ∉ reservedKeys := by
  rw [Config.toFields, Settings.keys_toFields] at hname
  exact notMem_reservedKeys config.kind name hname

section SavedFields

variable (block : Block)

theorem get?_savedFields_id : Assoc.get? (savedFields block) "id" = some (.text block.id) := by
  simp [savedFields, Assoc.get?]

theorem get?_savedFields_type :
    Assoc.get? (savedFields block) "type" = some (.text block.kind.tag) := by
  simp [savedFields, Assoc.get?]

theorem get?_savedFields_x : Assoc.get? (savedFields block) "x" = some block.x := by
  simp [savedFields, Assoc.get?]

theorem get?_savedFields_y : Assoc.get? (savedFields block) "y" = some block.y := by
  simp [savedFields, Assoc.get?]

theorem get?_savedFields_connections :
    Assoc.get? (savedFields block) "connections" = some (slotsValue block) := by
  have hsettings : Assoc.get? block.config.toFields "connections" = none := by
    rw [Assoc.get?_eq_none_iff]
    intro hmem
    exact notMem_reservedKeys_of_mem_keys hmem (by decide)
  simp [savedFields, Assoc.get?_append, Assoc.get?, hsettings]

/-- What is not reserved of the saved fields are the settings. -/
theorem filter_savedFields :
    (savedFields block).filter (fun field => !reservedKeys.contains field.1) =
      block.config.toFields := by
  have hsettings : block.config.toFields.filter (fun field => !reservedKeys.contains field.1) =
      block.config.toFields := by
    rw [List.filter_eq_self]
    intro field hfield
    have hname := notMem_reservedKeys_of_mem_keys (List.mem_map_of_mem hfield)
    simpa using hname
  rw [savedFields, List.filter_append, List.filter_append, hsettings]
  simp [reservedKeys]

/-- A saved block describes the block with open slots. -/
theorem blockOf?_blockValue : blockOf? (block.id, blockValue block) = some block.opened := by
  have htype : textOf (savedFields block) "type" = some block.kind.tag := by
    rw [textOf, get?_savedFields_type]
  rw [blockValue_eq, blockOf?]
  dsimp only
  rw [htype, Option.getD_some, Kind.ofText?_tag, Option.map_some, filter_savedFields,
    get?_savedFields_x, get?_savedFields_y, Block.kind, Config.ofFields_toFields]
  rfl

/-- A saved block passes the check if it stands at numbers. -/
theorem blockComplaint?_blockValue (strict : Bool) (hx : isNumber block.x = true)
    (hy : isNumber block.y = true) :
    blockComplaint? strict block.id (blockValue block) = none := by
  have hid : idComplaint? block.id (savedFields block) = none := by
    rw [idComplaint?, get?_savedFields_id]
    simp
  have hplaceX : coordinateComplaint? (savedFields block) "x" = none := by
    rw [coordinateComplaint?, get?_savedFields_x]
    simp [hx]
  have hplaceY : coordinateComplaint? (savedFields block) "y" = none := by
    rw [coordinateComplaint?, get?_savedFields_y]
    simp [hy]
  have hslots : slotsComplaint? (savedFields block) = none := by
    rw [slotsComplaint?, get?_savedFields_connections]
    rfl
  have hkind : kindComplaint? strict block.kind.tag = none := by
    rw [kindComplaint?, Kind.ofText?_tag]
    simp
  rw [blockValue_eq, blockComplaint?]
  simp only [get?_savedFields_type]
  rw [hid, hplaceX, hplaceY, hslots, hkind]
  rfl

end SavedFields

/-! ### Saved edges -/

theorem connectionComplaint?_edgeValue (edge : Edge) :
    connectionComplaint? (edgeValue edge) = none := by
  rfl

theorem connectionFault?_edgeValues (edges : List Edge) (index : Nat) :
    connectionFault? index (edges.map edgeValue) = none := by
  induction edges generalizing index with
  | nil => rfl
  | cons edge rest ih =>
    rw [List.map_cons, connectionFault?, connectionComplaint?_edgeValue]
    exact ih (index + 1)

def wireOf (edge : Edge) : Wire :=
  ⟨some edge.id, edge.source, edge.port, edge.target, edgeValue edge⟩

theorem wireOf?_edgeValue (edge : Edge) : wireOf? (edgeValue edge) = some (wireOf edge) := rfl

/-! ### Saved flows -/

def savedParts (flow : Flow) : Parts :=
  ⟨flow.blocks.map fun block => (block.id, blockValue block), flow.edges.map edgeValue,
    flow.blockCounter⟩

theorem parts_save (flow : Flow) : parts (save flow) = .ok (savedParts flow) := rfl

/-- The snapshot of a flow passes the check if its blocks stand at numbers. -/
theorem check_save {flow : Flow} (hflow : flow.Storable) (strict : Bool) :
    check strict (save flow) = .ok (savedParts flow) := by
  rw [check_eq_ok_iff, Parts.fault?_eq_none_iff]
  refine ⟨parts_save flow, ?_, connectionFault?_edgeValues flow.edges 0⟩
  intro entry hentry
  obtain ⟨block, hblock, rfl⟩ := List.mem_map.1 hentry
  obtain ⟨hx, hy⟩ := hflow.places_numeric block hblock
  exact blockComplaint?_blockValue block strict hx hy

/-- Loading saved blocks adds them one by one, with open slots. -/
theorem foldl_loadBlock_blockValue (blocks : List Block) (progress : Progress)
    (hnodup : ((progress.flow.blocks ++ blocks).map Block.id).Nodup) :
    ((blocks.map fun block => (block.id, blockValue block)).foldl loadBlock progress).flow =
      { progress.flow with blocks := progress.flow.blocks ++ blocks.map Block.opened } := by
  induction blocks generalizing progress with
  | nil => simp
  | cons block rest ih =>
    have hfresh : progress.flow.hasBlock block.id = false := by
      rw [hasBlock_eq_false_iff]
      intro old hold hsame
      rw [List.map_append, List.nodup_append] at hnodup
      exact hnodup.2.2 old.id (List.mem_map_of_mem hold) block.id (by simp) hsame
    have hstep : (loadBlock progress (block.id, blockValue block)).flow =
        progress.flow.addBlock block.opened := by
      rw [loadBlock_flow, blockOf?_blockValue]
      dsimp only
      rw [createAs, if_neg (by simp [Block.opened, hfresh])]
      rfl
    rw [List.map_cons, List.foldl_cons, ih, hstep, addBlock]
    · simp
    · rw [hstep, addBlock]
      simpa [Block.opened] using hnodup

/-- The blocks of a snapshot before any connection is made. -/
theorem unwired_savedParts {flow : Flow} (hflow : flow.Consistent) :
    unwired (savedParts flow) = { Flow.empty with blocks := flow.blocks.map Block.opened } := by
  rw [unwired, savedParts, foldl_loadBlock_blockValue]
  · simp [Progress.start, Flow.empty]
  · simpa [Progress.start, Flow.empty] using hflow.nodup_blocks

/-! ### Saved connections -/

/-- Without edges every slot is open. -/
theorem slot_eq_none {flow : Flow} (hflow : flow.WellFormed) (hedges : flow.edges = [])
    {block : Block} (hblock : block ∈ flow.blocks) {slot : String × Option String}
    (hslot : slot ∈ block.outputs) : slot.2 = none := by
  obtain ⟨port, target⟩ := slot
  have hnodup : (Assoc.keys block.outputs).Nodup := by
    rw [hflow.keys_outputs block hblock]
    exact block.config.nodup_ports
  rw [Option.eq_none_iff_forall_ne_some]
  rintro other rfl
  have htarget : block.targetOf port = some other := by
    rw [Block.targetOf, Assoc.get?_of_mem hnodup hslot, Option.join_some]
  obtain ⟨edge, hedge, -⟩ := (hflow.targetOf_iff block hblock _ _).1 htarget
  rw [hedges] at hedge
  cases hedge

theorem savedOutputs_blockValue (block : Block) :
    savedOutputs (blockValue block) =
      block.outputs.map fun slot => (slot.1, idValue slot.2) := by
  rw [blockValue_eq, savedOutputs]
  simp only [get?_savedFields_connections, slotsValue]
  rfl

/-- The connections of a snapshot are the edges; where there are none, the slots name none either. -/
theorem wires_savedParts {flow : Flow} (hflow : flow.WellFormed) :
    wires (savedParts flow) = flow.edges.map wireOf := by
  rw [wires]
  split_ifs with hempty
  · have hedges : flow.edges = [] := by simpa [savedParts] using hempty
    rw [hedges, List.map_nil, wiresOfSlots, List.flatMap_eq_nil_iff]
    intro entry hentry
    obtain ⟨block, hblock, rfl⟩ := List.mem_map.1 hentry
    rw [savedOutputs_blockValue, List.filterMap_map, List.filterMap_eq_nil_iff]
    intro slot hslot
    rw [Function.comp_apply, slot_eq_none hflow hedges hblock hslot]
    rfl
  · rw [savedParts, List.filterMap_map]
    have hwire : wireOf? ∘ edgeValue = some ∘ wireOf := funext wireOf?_edgeValue
    rw [hwire, List.filterMap_eq_map]

/-- The ports that an order confirmation may have. -/
theorem mem_orderPorts {config : Config} (hkind : config.kind = .orderConfirm) {port : String}
    (hport : port ∈ config.ports) : port ∈ ["confirm", "edit", "cancel"] := by
  obtain ⟨kind, settings⟩ := config
  obtain rfl : kind = .orderConfirm := hkind
  change port ∈ orderPorts settings at hport
  unfold orderPorts at hport
  obtain ⟨button, hbutton, hshown⟩ := List.mem_filterMap.1 hport
  split_ifs at hshown
  rw [← Option.some.inj hshown]
  exact List.mem_map_of_mem hbutton

/-- No port of today has the name of an older one. -/
theorem get?_legacyOrderPorts {config : Config} (hkind : config.kind = .orderConfirm) {port : String}
    (hport : port ∈ config.ports) : Assoc.get? legacyOrderPorts port = none := by
  have hold : ∀ name ∈ ["confirm", "edit", "cancel"], Assoc.get? legacyOrderPorts name = none := by
    decide
  exact hold port (mem_orderPorts hkind hport)

/-! ### Replaying saved edges -/

/-- The flow that the edges of a flow are replayed on: its blocks with open slots. -/
def stripped (flow : Flow) : Flow := { Flow.empty with blocks := flow.blocks.map Block.opened }

theorem block?_stripped (flow : Flow) (id : String) :
    (stripped flow).block? id = (flow.block? id).map Block.opened :=
  block?_map fun _ => rfl

/-- Whether an edge fits does not depend on the slots. -/
theorem misfit?_stripped (flow : Flow) (ports : List (String × String)) (inputs : List String)
    (edge : Edge) : (stripped flow).misfit? ports inputs edge = flow.misfit? ports inputs edge := by
  unfold misfit?
  rw [block?_stripped, block?_stripped]
  cases flow.block? edge.source with
  | none => rfl
  | some source =>
    cases flow.block? edge.target with
    | none => rfl
    | some target => rfl

variable {flow : Flow}

/-- The port of a saved edge is not taken for an older name. -/
theorem portOf_wireOf (hflow : flow.WellFormed) {edge : Edge} (hedge : edge ∈ flow.edges) :
    portOf (stripped flow) (wireOf edge) = edge.port := by
  rw [portOf]
  rw [block?_stripped]
  cases hsource : flow.block? (wireOf edge).source with
  | none => rfl
  | some block =>
    have hport := hflow.mem_ports edge hedge block (mem_of_block? hsource) (id_of_block? hsource)
    rw [Option.map_some]
    dsimp only
    split_ifs with hkind
    · have holder : Assoc.get? legacyOrderPorts (wireOf edge).port = none :=
        get?_legacyOrderPorts hkind hport
      rw [holder]
      rfl
    · rfl

/-- Replaying the edges of a sound flow brings all of them in under their own ids. -/
theorem loadWires_wireOf (hflow : flow.Sound) {front rest : List Edge}
    (hedges : flow.edges = front ++ rest) {progress : Progress}
    (hprogress : (stripped flow).WiredFrom progress.flow) (hfront : progress.flow.edges = front) :
    ∃ done, loadWires progress (rest.map wireOf) = .ok done ∧ done.flow.edges = flow.edges ∧
      (stripped flow).WiredFrom done.flow := by
  induction rest generalizing front progress with
  | nil =>
    refine ⟨progress, rfl, ?_, hprogress⟩
    rw [hfront, hedges, List.append_nil]
  | cons edge rest ih =>
    have hedge : edge ∈ flow.edges := by simp [hedges]
    obtain ⟨hport, htarget, hid⟩ := hflow.notMem_front hedges
    have hportOf := portOf_wireOf hflow.toWellFormed hedge
    have hfits : (stripped flow).misfit? (takenPorts progress.flow.edges)
        (progress.flow.edges.map Edge.target) ((wireOf edge).edge (stripped flow)) = none := by
      rw [hfront, Wire.edge, hportOf, misfit?_stripped]
      exact hflow.tidy.misfit?_eq_none hedge hport htarget
    obtain ⟨after, hissues⟩ : ∃ after, Issues (progress.flow.edges.map Edge.id)
        progress.flow.edgeCounter (wireOf edge).id edge.id after := by
      apply exists_issues
      · rwa [hfront]
      · intro number hnumber
        obtain ⟨n, -, hn⟩ := hflow.edges_counted edge hedge number hnumber
        exact ⟨n, hn⟩
    have hnext := hprogress.connect (wireOf edge).source (portOf progress.flow (wireOf edge))
      (wireOf edge).target (wireOf edge).id
    rw [← reached_loadWire] at hnext
    rw [List.map_cons, loadWires]
    rcases loadWire_cases hprogress (wireOf edge) with ⟨hmisfit, -⟩ |
      ⟨-, ⟨hnoId, -⟩ | ⟨id, otherAfter, next, hother, heq, hattached⟩⟩
    · exact absurd hfits hmisfit
    · exact absurd ⟨edge.id, after, hissues⟩ hnoId
    · obtain ⟨rfl, -⟩ := issues_unique hissues hother
      rw [heq] at hnext ⊢
      refine @ih (front ++ [edge]) (by rw [hedges, List.append_cons]) next hnext ?_
      rw [hattached, attach_eq, hportOf, hfront]
      rfl

/-- The saved connections are all made. -/
theorem wired_savedParts (hflow : flow.Sound) :
    ∃ done, wired (savedParts flow) = .ok done ∧ done.flow.edges = flow.edges ∧
      done.flow.blocks = flow.blocks := by
  have hunwired : unwired (savedParts flow) = stripped flow :=
    unwired_savedParts hflow.toConsistent
  have hbase := unwired_unwired (savedParts flow)
  have hstart : (stripped flow).WiredFrom (unwired (savedParts flow)) := by
    have hwiredFrom := hbase.wiredFrom
    rwa [hunwired] at hwiredFrom ⊢
  obtain ⟨done, hdone, hedges, hwiredFrom⟩ :=
    loadWires_wireOf hflow (List.nil_append _).symm hstart hbase.edges_eq
  refine ⟨done, ?_, hedges, ?_⟩
  · rw [wired, wires_savedParts hflow.toWellFormed, hdone]
  · calc done.flow.blocks
        = (flow.blocks.map Block.opened).map (Block.gainAll flow.edges) := by
          rw [hwiredFrom.blocks_eq, hedges]
          rfl
      _ = flow.blocks.map fun block => block.opened.gainAll flow.edges := List.map_map
      _ = flow.blocks.map id :=
          List.map_congr_left fun _ hblock => hflow.tidy.gainAll_opened hblock
      _ = flow.blocks := List.map_id flow.blocks

/-- Loading the snapshot of a sound flow, where it meets no fault, gives the blocks and the edges
back. -/
theorem load_save_of_ok (hflow : flow.Sound) {other : Flow} {strict : Bool}
    (hok : (load other strict (save flow)).outcome.result = .ok ()) :
    (load other strict (save flow)).outcome.flow.blocks = flow.blocks ∧
      (load other strict (save flow)).outcome.flow.edges = flow.edges := by
  obtain ⟨done, hdone, hedges, hblocks⟩ := wired_savedParts hflow
  rw [load] at hok ⊢
  cases hcheck : check strict (save flow) with
  | error fault =>
    rw [hcheck] at hok
    cases hok
  | ok parts =>
    obtain rfl : parts = savedParts flow :=
      (Except.ok.inj ((parts_save flow).symm.trans (check_eq_ok_iff.1 hcheck).1)).symm
    rw [hcheck] at hok
    dsimp only at hok ⊢
    rcases loadParts_cases (savedParts flow) with ⟨progress, fault, -, heq⟩ |
      ⟨progress, hwired, ⟨fault, -, heq⟩ | ⟨highest, -, heq⟩⟩
    · rw [heq] at hok
      cases hok
    · rw [heq] at hok
      cases hok
    · obtain rfl := Except.ok.inj (hdone.symm.trans hwired)
      rw [heq]
      exact ⟨hblocks, hedges⟩

/-- Loading the snapshot of a storable flow gives the flow back, up to its edge counter. -/
theorem load_save (hflow : flow.Storable) (other : Flow) (strict : Bool) :
    (load other strict (save flow)).outcome.result = .ok () ∧
      ∃ counter, (load other strict (save flow)).outcome.flow =
        { flow with edgeCounter := counter } := by
  obtain ⟨done, hdone, hedges, hblocks⟩ := wired_savedParts hflow.toSound
  have hload : load other strict (save flow) = loadParts (savedParts flow) := by
    rw [load, check_save hflow]
  have hreadable : ∃ highest, highestNumber flow.blocks = .ok highest := by
    rw [highestNumber_eq_ok_iff]
    intro block hblock
    obtain ⟨n, -, hn⟩ := hflow.blocks_counted block hblock
    exact ⟨n, hn⟩
  rw [hload]
  rcases loadParts_cases (savedParts flow) with ⟨progress, fault, hwired, -⟩ |
    ⟨progress, hwired, ⟨fault, hhighest, -⟩ | ⟨highest, hhighest, heq⟩⟩
  · rw [hdone] at hwired
    cases hwired
  · rw [hdone] at hwired
    obtain rfl := Except.ok.inj hwired
    obtain ⟨highest, hother⟩ := hreadable
    rw [hblocks, hother] at hhighest
    cases hhighest
  · rw [hdone] at hwired
    obtain rfl := Except.ok.inj hwired
    rw [hblocks] at hhighest
    have hcounter : max (savedParts flow).counter.toNat highest = flow.blockCounter :=
      max_eq_left ((highestNumber_le_iff hhighest flow.blockCounter).2 hflow.blocks_counted)
    rw [heq]
    refine ⟨rfl, done.flow.edgeCounter, ?_⟩
    dsimp only
    rw [hcounter, hblocks, hedges]

end Snapshot

end DialogGraph
