import DialogGraph.Proofs.Flow.Removing
import Mathlib.Data.List.Induction

/-!
# Repair

Both repairs rebuild slots from the list of edges. Of a consistent flow the list knows every slot, so
that rebuilding them loses nothing. Repairing one block mends the ports of that block after a change
of its settings; repairing a whole tidy flow changes nothing.
-/

namespace DialogGraph

/-! ### Slots filled from edges -/

namespace Block

def opened (block : Block) : Block :=
  { block with input := none, outputs := openSlots block.config.ports }

@[simp]
theorem opened_targetOf (block : Block) (port : String) : block.opened.targetOf port = none :=
  get?_openSlots_join _ _

/-- The block once several edges are attached one after the other. -/
def gainAll (edges : List Edge) (block : Block) : Block :=
  edges.foldl (fun block edge => block.gain edge) block

variable (edges : List Edge) (block : Block)

@[simp]
theorem gainAll_concat (edge : Edge) :
    block.gainAll (edges ++ [edge]) = (block.gainAll edges).gain edge := by
  simp [gainAll]

@[simp]
theorem gainAll_id : (block.gainAll edges).id = block.id := by
  induction edges using List.reverseRecOn with
  | nil => rfl
  | append_singleton rest edge ih => rw [gainAll_concat, gain_id, ih]

@[simp]
theorem gainAll_config : (block.gainAll edges).config = block.config := by
  induction edges using List.reverseRecOn with
  | nil => rfl
  | append_singleton rest edge ih => rw [gainAll_concat, gain_config, ih]

/-- A block that gains edges keeps its place. -/
theorem gain_place (edge : Edge) : (block.gain edge).x = block.x ∧ (block.gain edge).y = block.y := by
  unfold gain setOutput
  dsimp only
  split_ifs <;> exact ⟨rfl, rfl⟩

theorem gainAll_place :
    (block.gainAll edges).x = block.x ∧ (block.gainAll edges).y = block.y := by
  induction edges using List.reverseRecOn with
  | nil => exact ⟨rfl, rfl⟩
  | append_singleton rest edge ih =>
    rw [gainAll_concat, (gain_place _ edge).1, (gain_place _ edge).2]
    exact ih

/-- Edges that are attached or detached leave of a block everything as it is but its slots. -/
theorem opened_gain (edge : Edge) : (block.gain edge).opened = block.opened := by
  unfold gain setOutput
  dsimp only
  split_ifs <;> rfl

@[simp]
theorem opened_gainAll : (block.gainAll edges).opened = block.opened := by
  induction edges using List.reverseRecOn with
  | nil => rfl
  | append_singleton rest edge ih => rw [gainAll_concat, opened_gain, ih]

theorem opened_lose (edge : Edge) : (block.lose edge).opened = block.opened := by
  unfold lose setOutput
  dsimp only
  split_ifs <;> rfl

@[simp]
theorem opened_loseAll : (block.loseAll edges).opened = block.opened := by
  induction edges generalizing block with
  | nil => rfl
  | cons edge rest ih => exact (ih (block.lose edge)).trans (block.opened_lose edge)

/-- The last edge into a block fills its input. -/
theorem gainAll_input : (block.gainAll edges).input =
    ((edges.reverse.find? fun edge => edge.target == block.id).map Edge.source).or block.input := by
  induction edges using List.reverseRecOn with
  | nil => rfl
  | append_singleton rest edge ih =>
    rw [gainAll_concat, gain_input, gainAll_id, ih, List.reverse_concat, List.find?_cons]
    by_cases htarget : block.id = edge.target
    · simp [htarget]
    · have hother : (edge.target == block.id) = false := beq_eq_false_iff_ne.2 (Ne.symm htarget)
      rw [if_neg htarget, hother]

/-- The last edge on a port fills its slot. -/
theorem gainAll_targetOf (port : String) : (block.gainAll edges).targetOf port =
    ((edges.reverse.find? fun edge => edge.source == block.id && edge.port == port).map
      Edge.target).or (block.targetOf port) := by
  induction edges using List.reverseRecOn with
  | nil => rfl
  | append_singleton rest edge ih =>
    rw [gainAll_concat, gain_targetOf, gainAll_id, ih, List.reverse_concat, List.find?_cons]
    by_cases hedge : block.id = edge.source ∧ edge.port = port
    · simp [hedge.1, hedge.2]
    · have hother : (edge.source == block.id && edge.port == port) = false := by
        rw [Bool.and_eq_false_iff, beq_eq_false_iff_ne, beq_eq_false_iff_ne]
        tauto
      simp [hedge, hother]

theorem gainAll_keys
    (hports : ∀ edge ∈ edges, edge.source = block.id → edge.port ∈ Assoc.keys block.outputs) :
    Assoc.keys (block.gainAll edges).outputs = Assoc.keys block.outputs := by
  induction edges using List.reverseRecOn with
  | nil => rfl
  | append_singleton rest edge ih =>
    have hrest := ih fun other hother => hports other (List.mem_append_left _ hother)
    rw [gainAll_concat, gain_keys, hrest]
    intro hid
    rw [hrest]
    rw [gainAll_id] at hid
    exact hports edge (List.mem_append_right _ (List.mem_singleton_self edge)) hid.symm

end Block

namespace Flow

variable {flow : Flow}

/-- What is told of the only element of a sort does not depend on where the search begins. -/
theorem map_find?_reverse_eq_some_iff {α β : Type} {xs : List α} {p : α → Bool} {g : α → β} {b : β}
    (honly : ∀ x ∈ xs, ∀ y ∈ xs, p x = true → p y = true → x = y) :
    (xs.reverse.find? p).map g = some b ↔ ∃ x ∈ xs, p x = true ∧ g x = b := by
  rw [Option.map_eq_some_iff]
  constructor
  · rintro ⟨x, hfound, hx⟩
    exact ⟨x, List.mem_reverse.1 (List.mem_of_find?_eq_some hfound), List.find?_some hfound, hx⟩
  · rintro ⟨x, hmem, hfits, hx⟩
    obtain ⟨y, hfound⟩ := Option.isSome_iff_exists.1
      (List.find?_isSome.2 ⟨x, List.mem_reverse.2 hmem, hfits⟩)
    have hsame : x = y := honly x hmem y (List.mem_reverse.1 (List.mem_of_find?_eq_some hfound))
      hfits (List.find?_some hfound)
    exact ⟨y, hfound, hsame ▸ hx⟩

def takenPorts (edges : List Edge) : List (String × String) :=
  edges.map fun edge => (edge.source, edge.port)

/-- The edge on a port, where no two edges share one, gives the target. -/
theorem find?_port_eq_some_iff {edges : List Edge} (hports : (takenPorts edges).Nodup)
    {id port target : String} :
    (edges.reverse.find? fun edge => edge.source == id && edge.port == port).map Edge.target =
        some target ↔
      ∃ edge ∈ edges, edge.source = id ∧ edge.port = port ∧ edge.target = target := by
  rw [map_find?_reverse_eq_some_iff]
  · simp [and_assoc]
  · intro edge hedge other hother hfits hotherFits
    simp only [Bool.and_eq_true, beq_iff_eq] at hfits hotherFits
    exact List.inj_on_of_nodup_map hports hedge hother
      (Prod.ext (hfits.1.trans hotherFits.1.symm) (hfits.2.trans hotherFits.2.symm))

/-- The edge into a block, where no two edges share a target, gives the source. -/
theorem find?_input_eq_some_iff {edges : List Edge} (htargets : (edges.map Edge.target).Nodup)
    {id source : String} :
    (edges.reverse.find? fun edge => edge.target == id).map Edge.source = some source ↔
      ∃ port, ∃ edge ∈ edges, edge.source = source ∧ edge.port = port ∧ edge.target = id := by
  rw [map_find?_reverse_eq_some_iff]
  · simp [and_comm]
  · intro edge hedge other hother hfits hotherFits
    rw [beq_iff_eq] at hfits hotherFits
    exact List.inj_on_of_nodup_map htargets hedge hother (hfits.trans hotherFits.symm)

/-! ### The whole flow -/

theorem hasBlock_map {g : Block → Block} (hid : ∀ block, (g block).id = block.id) (id : String) :
    Flow.hasBlock { flow with blocks := flow.blocks.map g } id = flow.hasBlock id := by
  rw [hasBlock, block?_map hid, Option.isSome_map, hasBlock]

theorem hasBlock_modify {g : Block → Block} (hid : ∀ block, (g block).id = block.id)
    (id other : String) : (flow.modify other g).hasBlock id = flow.hasBlock id := by
  refine hasBlock_map ?_ id
  intro block
  split_ifs
  · exact hid block
  · rfl

/-- Filling slots from edges whose ends are there reaches the end of the list. -/
theorem fillSlots_eq (flow : Flow) (edges : List Edge)
    (hends : ∀ edge ∈ edges, flow.hasBlock edge.source = true ∧ flow.hasBlock edge.target = true) :
    flow.fillSlots edges = ({ flow with blocks := flow.blocks.map (Block.gainAll edges) }, none) := by
  induction edges generalizing flow with
  | nil =>
    have hblocks : flow.blocks.map (Block.gainAll []) = flow.blocks := List.map_id flow.blocks
    rw [hblocks, fillSlots]
  | cons edge rest ih =>
    obtain ⟨hsource, htarget⟩ := hends edge List.mem_cons_self
    have hgain : (flow.modify edge.source fun block =>
        block.setOutput edge.port (some edge.target)).modify edge.target (fun block =>
          { block with input := some edge.source }) =
        { flow with blocks := flow.blocks.map (Block.gain edge) } := by
      simp [modify, Block.gain, Function.comp_def]
    have hrest : ∀ other ∈ rest,
        Flow.hasBlock { flow with blocks := flow.blocks.map (Block.gain edge) } other.source = true ∧
        Flow.hasBlock { flow with blocks := flow.blocks.map (Block.gain edge) } other.target =
          true := by
      intro other hother
      rw [hasBlock_map (Block.gain_id edge), hasBlock_map (Block.gain_id edge)]
      exact hends other (List.mem_cons_of_mem _ hother)
    rw [fillSlots, if_pos hsource]
    dsimp only
    have hkept : (flow.modify edge.source fun block =>
        block.setOutput edge.port (some edge.target)).hasBlock edge.target = true :=
      by
      rw [hasBlock_modify, htarget]
      exact fun _ => rfl
    rw [if_pos hkept, hgain, ih _ hrest]
    simp [Function.comp_def, Block.gainAll]

/-- A block of a tidy flow with open slots that gains the edges of its flow is the block itself. -/
theorem Tidy.gainAll_opened (hflow : flow.Tidy) {block : Block} (hblock : block ∈ flow.blocks) :
    block.opened.gainAll flow.edges = block := by
  have hopened : Assoc.keys block.opened.outputs = block.config.ports := Block.keys_openSlots _
  have hkeys : Assoc.keys (block.opened.gainAll flow.edges).outputs = block.config.ports := by
    rw [Block.gainAll_keys, hopened]
    intro edge hedge hsource
    rw [hopened]
    exact hflow.mem_ports edge hedge block hblock hsource.symm
  ext1
  case id => exact Block.gainAll_id _ _
  case config => exact Block.gainAll_config _ _
  case x => exact (Block.gainAll_place _ _).1
  case y => exact (Block.gainAll_place _ _).2
  case input =>
    rw [Block.gainAll_input]
    refine Option.or_none.trans (Option.ext fun source => ?_)
    rw [hflow.input_iff block hblock]
    exact find?_input_eq_some_iff hflow.nodup_targets
  case outputs =>
    apply Block.outputs_eq
    · rw [hkeys, hflow.keys_outputs block hblock]
    · rw [hkeys]
      exact block.config.nodup_ports
    · intro port
      rw [Block.gainAll_targetOf, Block.opened_targetOf, Option.or_none]
      refine Option.ext fun target => ?_
      rw [hflow.targetOf_iff block hblock]
      exact find?_port_eq_some_iff hflow.nodup_ports

theorem hasBlock_of_mem {block : Block} (hblock : block ∈ flow.blocks) :
    flow.hasBlock block.id = true :=
  hasBlock_iff.2 ⟨block, hblock, rfl⟩

theorem hasBlock_openAll (id : String) : flow.openAll.hasBlock id = flow.hasBlock id :=
  hasBlock_map (g := Block.opened) (fun _ => rfl) id

/-- Opening all slots of a tidy flow and filling them from its edges gives it back. -/
theorem Tidy.fillSlots_openAll (hflow : flow.Tidy) :
    flow.openAll.fillSlots flow.edges = (flow, none) := by
  have hends : ∀ edge ∈ flow.edges, flow.openAll.hasBlock edge.source = true ∧
      flow.openAll.hasBlock edge.target = true := by
    intro edge hedge
    obtain ⟨source, hsource, target, htarget, hsourceId, htargetId, -, -⟩ := hflow.ends edge hedge
    rw [hasBlock_openAll, hasBlock_openAll, ← hsourceId, ← htargetId]
    exact ⟨hasBlock_of_mem hsource, hasBlock_of_mem htarget⟩
  rw [fillSlots_eq _ _ hends]
  have hblocks : flow.openAll.blocks.map (Block.gainAll flow.edges) = flow.blocks := by
    calc flow.openAll.blocks.map (Block.gainAll flow.edges)
        = flow.blocks.map fun block => block.opened.gainAll flow.edges := List.map_map
      _ = flow.blocks.map id := List.map_congr_left fun _ hblock => hflow.gainAll_opened hblock
      _ = flow.blocks := List.map_id flow.blocks
  rw [hblocks]
  rfl

/-- Once all slots are open, a change that is one of slots leaves no trace. -/
theorem openAll_map (flow : Flow) {g : Block → Block} (hg : ∀ block, (g block).opened = block.opened)
    (edges : List Edge) :
    Flow.openAll { flow with blocks := flow.blocks.map g, edges := edges } =
      { flow.openAll with edges := edges } := by
  rw [openAll, List.map_map]
  congr 1
  exact List.map_congr_left fun block _ => hg block

theorem openAll_attach (flow : Flow) (edge : Edge) :
    (flow.attach edge).openAll = { flow.openAll with edges := flow.edges ++ [edge] } := by
  rw [attach_eq]
  exact flow.openAll_map (fun block => block.opened_gain edge) _

theorem openAll_detachAll (flow : Flow) (edges : List Edge) :
    (flow.detachAll edges).openAll = { flow.openAll with edges := flow.edges.diff edges } := by
  rw [detachAll_eq]
  exact flow.openAll_map (Block.opened_loseAll edges) _

/-- In tidy flows the slots are told by the edges, so tidy flows that agree but for their slots are
the same. -/
theorem Tidy.eq_of_openAll_eq (hflow : flow.Tidy) {other : Flow} (hother : other.Tidy)
    (hopened : flow.openAll = other.openAll) : flow = other := by
  have hedges : flow.edges = other.edges :=
    show flow.openAll.edges = other.openAll.edges by rw [hopened]
  calc flow
      = (flow.openAll.fillSlots flow.edges).1 := by rw [hflow.fillSlots_openAll]
    _ = (other.openAll.fillSlots other.edges).1 := by rw [hopened, hedges]
    _ = other := by rw [hother.fillSlots_openAll]

theorem misfit?_eq_none_iff {ports : List (String × String)} {inputs : List String} {edge : Edge} :
    flow.misfit? ports inputs edge = none ↔
      ∃ source target, flow.block? edge.source = some source ∧
        flow.block? edge.target = some target ∧ edge.source ≠ edge.target ∧ target.kind ≠ .start ∧
          edge.port ∈ source.config.ports ∧ (edge.source, edge.port) ∉ ports ∧
            edge.target ∉ inputs := by
  rw [misfit?]
  split
  · rename_i source target hsource htarget
    simp only [hsource, htarget, Option.some.injEq]
    split_ifs <;> simp_all
  · rename_i hmissing
    constructor
    · intro h
      cases h
    · rintro ⟨source, target, hsource, htarget, -⟩
      exact absurd htarget (hmissing source target hsource)

/-- An edge that fits its blocks is no misfit as long as its port and its target are not taken. -/
theorem Tidy.misfit?_eq_none (hflow : flow.Tidy) {edge : Edge} (hedge : edge ∈ flow.edges)
    {ports : List (String × String)} {inputs : List String}
    (hport : (edge.source, edge.port) ∉ ports) (hinput : edge.target ∉ inputs) :
    flow.misfit? ports inputs edge = none := by
  obtain ⟨source, hsource, target, htarget, hsourceId, htargetId, hne, hstart⟩ :=
    hflow.ends edge hedge
  rw [misfit?_eq_none_iff]
  refine ⟨source, target, (block?_eq_some_iff hflow.nodup_blocks).2 ⟨hsource, hsourceId⟩,
    (block?_eq_some_iff hflow.nodup_blocks).2 ⟨htarget, htargetId⟩, ?_, hstart, ?_, hport, hinput⟩
  · rwa [← hsourceId, ← htargetId]
  · exact hflow.mem_ports edge hedge source hsource hsourceId

/-- No edge of a tidy flow is a misfit: the ports and targets that are taken when an edge is judged
are those of the edges before it. -/
theorem Tidy.misfits_eq_nil (hflow : flow.Tidy) {front back : List Edge}
    (hedges : flow.edges = front ++ back) :
    flow.misfits (takenPorts front.reverse) (front.reverse.map Edge.target) back = [] := by
  induction back generalizing front with
  | nil => rfl
  | cons edge rest ih =>
    have hedge : edge ∈ flow.edges := by simp [hedges]
    have hfits : flow.misfit? (takenPorts front.reverse) (front.reverse.map Edge.target) edge =
        none := by
      apply hflow.misfit?_eq_none hedge
      · rw [takenPorts, List.map_reverse, List.mem_reverse]
        exact notMem_map_front hflow.nodup_ports hedges
      · rw [List.map_reverse, List.mem_reverse]
        exact notMem_map_front hflow.nodup_targets hedges
    rw [misfits, hfits]
    have hnext := @ih (front ++ [edge]) (by rw [hedges, List.append_cons])
    simpa [takenPorts] using hnext

/-- Repairing a tidy flow removes nothing and changes nothing. -/
theorem Tidy.repair_eq (hflow : flow.Tidy) : flow.repair = ⟨flow, [], []⟩ := by
  have hmisfits : flow.misfits [] [] flow.edges = [] := hflow.misfits_eq_nil (List.nil_append _).symm
  rw [repair]
  rw [hmisfits]
  dsimp only [List.foldl_nil]
  rw [hflow.fillSlots_openAll]
  rfl

/-! ### One block -/

/-- A port whose edges are told by the list has the target that the list gives. -/
theorem get?_slotsFrom (edges : List Edge) (id port : String) (ports : List String) :
    (Assoc.get? (slotsFrom edges id ports) port).join =
      if port ∈ ports then
        (edges.reverse.find? fun edge => edge.source == id && edge.port == port).map Edge.target
      else none := by
  rw [slotsFrom, Assoc.get?_map_pair]
  split_ifs <;> rfl

/-- Filling the ports of a block anew keeps a flow consistent if no edge leaves the block by another
port. -/
theorem Consistent.refill (hflow : flow.Consistent) {id : String} {ports : List String}
    (hports : ∀ edge ∈ flow.edges, edge.source = id → edge.port ∈ ports) :
    (flow.modify id fun block =>
      { block with outputs := slotsFrom flow.edges id ports }).Consistent := by
  apply hflow.map_blocks
  · intro block
    split_ifs <;> rfl
  · intro block _
    split_ifs <;> rfl
  · intro block _
    split_ifs <;> rfl
  · intro block hblock port
    split_ifs with hid
    · subst hid
      rw [Block.targetOf, get?_slotsFrom]
      split_ifs with hport
      · refine Option.ext fun target => ?_
        rw [hflow.targetOf_iff block hblock]
        exact find?_port_eq_some_iff hflow.nodup_ports
      · -- Nothing leaves by a port that is gone, so its slot was open before.
        symm
        rw [Option.eq_none_iff_forall_ne_some]
        intro target htarget
        obtain ⟨edge, hedge, hsource, rfl, -⟩ :=
          (hflow.targetOf_iff block hblock _ _).1 htarget
        exact hport (hports edge hedge hsource)
    · rfl

/-- The edges that a block loses when it is repaired: those on ports that its settings do not give
it. -/
def strays (flow : Flow) (block : Block) : List Edge :=
  flow.edges.filter fun edge => edge.source == block.id && !block.config.ports.contains edge.port

theorem mem_strays {block : Block} {edge : Edge} :
    edge ∈ flow.strays block ↔
      edge ∈ flow.edges ∧ edge.source = block.id ∧ edge.port ∉ block.config.ports := by
  simp [strays]

/-- Repairing a block of a consistent flow detaches its strays and fills its ports anew. -/
theorem Consistent.repairBlock_eq (hflow : flow.Consistent) {block : Block}
    (hblock : block ∈ flow.blocks) :
    flow.repairBlock block.id =
      ⟨(flow.detachAll (flow.strays block)).modify block.id fun other =>
          { other with
            outputs := slotsFrom (flow.detachAll (flow.strays block)).edges block.id
              block.config.ports },
        (flow.strays block).map .disconnected, flow.strays block⟩ := by
  have hfound : flow.block? block.id = some block :=
    (block?_eq_some_iff hflow.nodup_blocks).2 ⟨hblock, rfl⟩
  have hall := hflow.disconnectAll_eq (List.filter_subset_self _ : flow.strays block ⊆ flow.edges)
    (hflow.nodup.filter _)
  rw [repairBlock]
  rw [hfound]
  dsimp only
  rw [hall]
  rfl

/-- Repairing a block of a consistent flow makes it well-formed if only the ports of that block were
out of line. -/
theorem Consistent.repairBlock (hflow : flow.Consistent) {id : String}
    (hkeys : ∀ block ∈ flow.blocks, block.id ≠ id →
      Assoc.keys block.outputs = block.config.ports) :
    (flow.repairBlock id).flow.WellFormed := by
  cases hfound : flow.block? id with
  | none =>
    have hsame : (flow.repairBlock id).flow = flow := by rw [Flow.repairBlock, hfound]
    rw [hsame]
    refine hflow.wellFormed fun block hblock => hkeys block hblock ?_
    exact block?_eq_none_iff.1 hfound block hblock
  | some block =>
    have hblock := mem_of_block? hfound
    obtain rfl := id_of_block? hfound
    rw [hflow.repairBlock_eq hblock]
    have hleft := hflow.detachAll (List.filter_subset_self _ : flow.strays block ⊆ flow.edges)
      (hflow.nodup.filter _)
    have hstays : ∀ edge ∈ (flow.detachAll (flow.strays block)).edges, edge.source = block.id →
        edge.port ∈ block.config.ports := by
      intro edge hedge hsource
      obtain ⟨hedge, hkept⟩ := hflow.mem_detachAll_iff.1 hedge
      rw [mem_strays] at hkept
      tauto
    refine (hleft.refill hstays).wellFormed ?_
    intro after hafter
    obtain ⟨left, hleftBlock, rfl⟩ := List.mem_map.1 hafter
    rw [detachAll_eq] at hleftBlock
    obtain ⟨before, hbefore, rfl⟩ := List.mem_map.1 hleftBlock
    rw [Block.loseAll_id]
    split_ifs with hid
    · rw [hflow.block_eq_of_id hbefore hblock hid, Block.loseAll_config]
      exact Assoc.keys_map_pair _ _
    · rw [Block.loseAll_keys, Block.loseAll_config, hkeys before hbefore hid]

/-- The flow once a block gets other settings; no slot and no edge changes. -/
def reconfigured (flow : Flow) (id : String) (config : Config) : Flow :=
  flow.modify id fun block => { block with config := config }

/-- A change of settings, without repair, keeps a flow consistent if the block stays of its kind. -/
theorem Consistent.configure (hflow : flow.Consistent) {block : Block} (hblock : block ∈ flow.blocks)
    {config : Config} (hkind : config.kind = block.kind) :
    (flow.reconfigured block.id config).Consistent := by
  apply hflow.map_blocks
  · intro other
    split_ifs <;> rfl
  · intro other hother
    split_ifs with hid
    · rw [hflow.block_eq_of_id hother hblock hid]
      exact hkind
    · rfl
  · intro other _
    split_ifs <;> rfl
  · intro other _ port
    split_ifs <;> rfl

/-- A change of settings and the repair of the block keep a flow well-formed. -/
theorem WellFormed.configure_repairBlock (hflow : flow.WellFormed) {block : Block}
    (hblock : block ∈ flow.blocks) {config : Config} (hkind : config.kind = block.kind) :
    ((flow.reconfigured block.id config).repairBlock block.id).flow.WellFormed := by
  refine (hflow.toConsistent.configure hblock hkind).repairBlock ?_
  intro other hother hid
  obtain ⟨before, hbefore, rfl⟩ := List.mem_map.1 hother
  split_ifs at hid ⊢ with hsame
  · exact absurd hsame hid
  · exact hflow.keys_outputs before hbefore

end Flow

theorem Config.kind_of_set? {config after : Config} {name : String} {value : Value}
    (hset : config.set? name value = some (.ok after)) : after.kind = config.kind := by
  rw [Config.set?, Option.map_eq_some_iff] at hset
  obtain ⟨field, -, hfield⟩ := hset
  cases hsettings : Settings.setField field value config.settings with
  | error problem =>
    rw [hsettings] at hfield
    cases hfield
  | ok settings =>
    rw [hsettings] at hfield
    obtain rfl := Except.ok.inj hfield
    rfl

namespace Flow

variable {flow : Flow}

/-- Setting a field of a block keeps a flow well-formed, whatever becomes of the block's ports. -/
theorem WellFormed.update (hflow : flow.WellFormed) {id field : String} {value : Value} {after : Flow}
    {events : List Event} (hafter : flow.update id field value = .ok (after, events)) :
    after.WellFormed := by
  rw [Flow.update] at hafter
  split at hafter
  · cases hafter
  · rename_i block hfound
    split at hafter
    · cases hafter
    · cases hafter
    · rename_i config hset
      obtain ⟨rfl, -⟩ := Prod.mk.inj (Except.ok.inj hafter)
      have hblock := mem_of_block? hfound
      obtain rfl := id_of_block? hfound
      exact hflow.configure_repairBlock hblock (Config.kind_of_set? hset)

end Flow

end DialogGraph
