import DialogGraph.Proofs.Block.Apart
import DialogGraph.Proofs.Flow.Choosing

/-!
# Changing the settings of a block

Other settings may give a block other ports. The edges on ports that are gone are then the only ones
in the flow that do not suit, so repairing the block and repairing the whole flow come to the same.
Of the rest of the flow nothing changes but the inputs of the blocks that those edges entered.
-/

namespace DialogGraph

namespace Flow

variable {flow : Flow} {edge : Edge} {block : Block} {config : Config}

/-! ### Edges that do not suit -/

/-- No edge leads from a block to itself. -/
theorem Consistent.source_ne_target (hflow : flow.Consistent) (hedge : edge ∈ flow.edges) :
    edge.source ≠ edge.target := by
  obtain ⟨source, -, target, -, hsource, htarget, hne, -⟩ := hflow.ends edge hedge
  rwa [hsource, htarget] at hne

/-- Whether an edge of a consistent flow suits depends on its port alone. -/
theorem Consistent.suits_iff (hflow : flow.Consistent) (hedge : edge ∈ flow.edges)
    (hblock : block ∈ flow.blocks) (hid : block.id = edge.source) :
    flow.Suits edge ↔ edge.port ∈ block.config.ports := by
  have hfound : flow.block? edge.source = some block :=
    (block?_eq_some_iff hflow.nodup_blocks).2 ⟨hblock, hid⟩
  constructor
  · rintro ⟨source, hsource, -, -, -, -, hport⟩
    obtain rfl : block = source := Option.some.inj (hfound.symm.trans hsource)
    exact hport
  · intro hport
    obtain ⟨-, -, target, htarget, -, htargetId, -, hstart⟩ := hflow.ends edge hedge
    have htargetFound : flow.block? edge.target = some target :=
      (block?_eq_some_iff hflow.nodup_blocks).2 ⟨htarget, htargetId⟩
    exact ⟨block, hfound, target, htargetFound, hflow.source_ne_target hedge, hstart, hport⟩

/-- The edges of a consistent flow do not compete, so that repair drops those that do not suit and no
others. -/
theorem Consistent.misfits_eq_filter (hflow : flow.Consistent) {front back : List Edge}
    (hedges : flow.edges = front ++ back) {ports : List (String × String)} {inputs : List String}
    (hports : ports ⊆ takenPorts front) (hinputs : inputs ⊆ front.map Edge.target) :
    (flow.misfits ports inputs back).map Prod.fst = back.filter fun edge => ¬flow.Suits edge := by
  induction back generalizing front ports inputs with
  | nil => rfl
  | cons edge rest ih =>
    obtain ⟨hport, hinput, -⟩ := hflow.notMem_front hedges
    have hfits : flow.misfit? ports inputs edge = none ↔ flow.Suits edge := by
      rw [misfit?_eq_none_iff_suits]
      exact ⟨fun h => h.1, fun h =>
        ⟨h, fun htaken => hport (hports htaken), fun htaken => hinput (hinputs htaken)⟩⟩
    have hnext : flow.edges = (front ++ [edge]) ++ rest := by rw [hedges, List.append_cons]
    rw [misfits]
    by_cases hsuits : flow.Suits edge
    · rw [hfits.2 hsuits, List.filter_cons_of_neg (by simpa using hsuits)]
      apply ih hnext
      · simpa [takenPorts] using List.subset_append_of_subset_left _ hports
      · simpa using List.subset_append_of_subset_left _ hinputs
    · obtain ⟨reason, hreason⟩ := Option.ne_none_iff_exists'.1 (mt hfits.1 hsuits)
      rw [hreason, List.filter_cons_of_pos (by simpa using hsuits)]
      refine congrArg (edge :: ·) (ih hnext ?_ ?_)
      · simpa [takenPorts] using List.subset_append_of_subset_left _ hports
      · simpa using List.subset_append_of_subset_left _ hinputs

theorem mem_reconfigured (hblock : block ∈ flow.blocks) (config : Config) :
    { block with config := config } ∈ (flow.reconfigured block.id config).blocks :=
  List.mem_map.2 ⟨block, hblock, if_pos rfl⟩

/-- Once a block has other settings, the edges that do not suit are its strays. -/
theorem WellFormed.strays_reconfigured (hflow : flow.WellFormed) (hblock : block ∈ flow.blocks)
    (hkind : config.kind = block.kind) :
    (flow.reconfigured block.id config).strays { block with config := config } =
      flow.edges.filter fun edge => ¬(flow.reconfigured block.id config).Suits edge := by
  have hchanged : (flow.reconfigured block.id config).Consistent :=
    hflow.toConsistent.configure hblock hkind
  apply List.filter_congr
  intro edge hedge
  by_cases hsource : edge.source = block.id
  · have hsuits := hchanged.suits_iff hedge (mem_reconfigured hblock config) hsource.symm
    simp [hsource, hsuits]
  · obtain ⟨source, hsourceMem, -, -, hsourceId, -, -, -⟩ := hflow.ends edge hedge
    have hother : source.id ≠ block.id := hsourceId ▸ hsource
    have hmem : source ∈ (flow.reconfigured block.id config).blocks :=
      List.mem_map.2 ⟨source, hsourceMem, if_neg hother⟩
    have hsuits : (flow.reconfigured block.id config).Suits edge :=
      (hchanged.suits_iff hedge hmem hsourceId).2
        (hflow.mem_ports edge hedge source hsourceMem hsourceId)
    simp [hsource, hsuits]

/-! ### Repairing the block or the flow -/

theorem openAll_modify_outputs (flow : Flow) (id : String) (slots : Slots) :
    (flow.modify id fun block => { block with outputs := slots }).openAll = flow.openAll := by
  apply flow.openAll_map
  intro block
  split_ifs <;> rfl

theorem openAll_rewired (flow : Flow) (edges : List Edge) :
    (flow.rewired edges).openAll = { flow.openAll with edges := edges } :=
  flow.openAll_map (fun block => block.opened.opened_gainAll edges) edges

/-- After a change of settings in a well-formed flow it does not matter whether the block is repaired
or the whole flow: both come to the same well-formed flow, remove the same edges and tell of them in
the same order. -/
theorem repairBlock_agrees_repair (hflow : flow.WellFormed) {id : String}
    (hfound : flow.block? id = some block) (hkind : config.kind = block.kind) :
    ((flow.reconfigured id config).repairBlock id).flow =
        (flow.reconfigured id config).repair.flow ∧
      ((flow.reconfigured id config).repairBlock id).result =
        (flow.reconfigured id config).repair.result.map Prod.fst ∧
      ((flow.reconfigured id config).repairBlock id).events =
        (flow.reconfigured id config).repair.events ∧
      (flow.reconfigured id config).repair.flow.WellFormed := by
  have hblock := mem_of_block? hfound
  obtain rfl := id_of_block? hfound
  have hchanged : (flow.reconfigured block.id config).Consistent :=
    hflow.toConsistent.configure hblock hkind
  have hdropped : ((flow.reconfigured block.id config).misfits [] []
        (flow.reconfigured block.id config).edges).map Prod.fst =
      (flow.reconfigured block.id config).strays { block with config := config } := by
    rw [hflow.strays_reconfigured hblock hkind]
    exact hchanged.misfits_eq_filter (List.nil_append _).symm (List.nil_subset _)
      (List.nil_subset _)
  have hlocal := hflow.configure_repairBlock hblock hkind
  have hlocalEq := hchanged.repairBlock_eq (mem_reconfigured hblock config)
  have hglobal : (flow.reconfigured block.id config).repair.flow.Tidy := by
    rw [repair_eq_rewired]
    exact (fits_survivors _).tidy_rewired hchanged.nodup_blocks
  have hsame : ((flow.reconfigured block.id config).repairBlock block.id).flow =
      (flow.reconfigured block.id config).repair.flow := by
    apply hlocal.tidy.eq_of_openAll_eq hglobal
    rw [hlocalEq, repair_eq_rewired]
    rw [openAll_modify_outputs, openAll_detachAll, openAll_rewired, survivors, hdropped]
  refine ⟨hsame, ?_, ?_, hsame ▸ hlocal⟩
  · rw [hlocalEq, repair_eq_rewired]
    exact hdropped.symm
  · rw [hlocalEq, repair_eq_rewired, ← hdropped, List.map_map]
    rfl

/-- The settings of a keyboard with buttons for some tags. -/
def keyboard (tags : List String) : Config :=
  ⟨.inlineKeyboard, ({ buttons := tags.map fun tag => ⟨tag, tag⟩ } : InlineKeyboardSettings)⟩

/-- A keyboard with two buttons and two messages, not connected. -/
def keyboardBlocks : Flow where
  blocks := [
    Block.create "block_1" (keyboard ["go", "stay"]) (.int 0) (.int 0),
    Block.create "block_2" (Config.initial .message) (.int 0) (.int 0),
    Block.create "block_3" (Config.initial .message) (.int 0) (.int 0)]
  edges := []
  blockCounter := 3
  edgeCounter := 2

/-- Each button of the keyboard leads to a message. -/
def keyboardFlow : Flow :=
  keyboardBlocks.rewired
    [⟨"conn_1", "block_1", "go", "block_2"⟩, ⟨"conn_2", "block_1", "stay", "block_3"⟩]

theorem wellFormed_keyboardFlow : keyboardFlow.WellFormed := by
  have htidy : keyboardFlow.Tidy := by
    apply Fits.tidy_rewired
    · exact fits_iff.2 (by decide)
    · decide
  exact htidy.wellFormed (by decide)

/-- `repairBlock_agrees_repair` at `keyboardFlow`: one button is exchanged, and they are put in
another order. -/
theorem repairBlock_agrees_repair_keyboardFlow :
    keyboardFlow.WellFormed ∧ (∃ block, keyboardFlow.block? "block_1" = some block) ∧
      ((keyboardFlow.reconfigured "block_1" (keyboard ["stay", "new"])).repairBlock
          "block_1").flow =
        (keyboardFlow.reconfigured "block_1" (keyboard ["stay", "new"])).repair.flow ∧
      (keyboardFlow.reconfigured "block_1" (keyboard ["stay", "new"])).repair.flow.WellFormed ∧
      ((keyboardFlow.reconfigured "block_1" (keyboard ["stay", "new"])).repairBlock
        "block_1").result = [⟨"conn_1", "block_1", "go", "block_2"⟩] := by
  obtain ⟨block, hfound⟩ := Option.isSome_iff_exists.1
    (by decide : (keyboardFlow.block? "block_1").isSome = true)
  have hkind : (keyboard ["stay", "new"]).kind = block.kind := by
    have hkinds : (keyboardFlow.block? "block_1").map Block.kind = some .inlineKeyboard := rfl
    rw [hfound] at hkinds
    exact (Option.some.inj hkinds).symm
  obtain ⟨hflow, hresult, -, hafter⟩ :=
    repairBlock_agrees_repair wellFormed_keyboardFlow hfound hkind
  refine ⟨wellFormed_keyboardFlow, ⟨block, hfound⟩, hflow, hafter, ?_⟩
  rw [hresult]
  decide

/-! ### What a change of one field does -/

/-- What is different in a flow once a block `old` has become `new` because one of its fields was
set. -/
structure Resets (flow after : Flow) (field : String) (old new : Block) : Prop where
  found : after.block? old.id = some new
  kind : new.kind = old.kind
  fields : ∀ name, name ≠ field → new.config.get? name = old.config.get? name
  place : new.x = old.x ∧ new.y = old.y ∧ new.input = old.input
  /-- Ports that stay lead where they led, new ones are open. -/
  outputs : new.outputs = new.config.ports.map fun port =>
    (port, if port ∈ old.config.ports then old.targetOf port else none)
  edges : after.edges = flow.edges.filter fun edge =>
    edge.source = old.id → edge.port ∈ new.config.ports
  /-- The blocks that were entered from ports that are gone have open inputs. -/
  blocks : after.blocks = flow.blocks.map fun block =>
    if block.id = old.id then new
    else if ∃ edge ∈ flow.edges, edge.source = old.id ∧ edge.port ∉ new.config.ports ∧
      edge.target = block.id then { block with input := none }
    else block
  counters : after.blockCounter = flow.blockCounter ∧ after.edgeCounter = flow.edgeCounter

end Flow

namespace Block

variable {edges : List Edge} {block : Block}

/-- A block that edges do not leave loses nothing to them but its input. -/
theorem loseAll_of_source_ne (hsource : ∀ edge ∈ edges, edge.source ≠ block.id) :
    block.loseAll edges =
      if ∃ edge ∈ edges, edge.target = block.id ∧ block.input = some edge.source then
        { block with input := none }
      else block := by
  induction edges generalizing block with
  | nil => simp [loseAll]
  | cons edge rest ih =>
    obtain ⟨hfirst, hrest⟩ := List.forall_mem_cons.1 hsource
    have hloses : block.loseAll (edge :: rest) = (block.lose edge).loseAll rest := rfl
    by_cases hcleared : edge.target = block.id ∧ block.input = some edge.source
    · have hlose : block.lose edge = { block with input := none } := by
        rw [lose]
        simp [hfirst.symm, hcleared.1, hcleared.2]
      have hopen : loseAll rest { block with input := none } = { block with input := none } := by
        rw [@ih { block with input := none } hrest]
        split_ifs <;> rfl
      rw [hloses, hlose, hopen, if_pos ⟨edge, List.mem_cons_self, hcleared⟩]
    · have hlose : block.lose edge = block := by
        rw [lose]
        simp only [if_neg hfirst.symm]
        split_ifs with htarget hinput
        · exact absurd ⟨htarget.symm, hinput⟩ hcleared
        · rfl
        · rfl
      rw [hloses, hlose, ih hrest]
      simp only [List.exists_mem_cons_iff, hcleared, false_or]

theorem loseAll_input_of_target_ne (htarget : ∀ edge ∈ edges, edge.target ≠ block.id) :
    (block.loseAll edges).input = block.input := by
  induction edges generalizing block with
  | nil => rfl
  | cons edge rest ih =>
    obtain ⟨hfirst, hrest⟩ := List.forall_mem_cons.1 htarget
    calc (block.lose edge |>.loseAll rest).input
        = (block.lose edge).input := ih (by simpa using hrest)
      _ = block.input := by
        rw [lose_input, if_neg fun h => hfirst h.1.symm]

/-- A block whose slots are filled anew keeps nothing of edges that it loses but does not receive. -/
theorem loseAll_refilled (htarget : ∀ edge ∈ edges, edge.target ≠ block.id) (slots : Slots) :
    { block.loseAll edges with outputs := slots } = { block with outputs := slots } := by
  obtain ⟨-, -, hx, hy, -, -⟩ := Block.ext_iff.1 (block.opened_loseAll edges)
  ext1
  case id => exact loseAll_id edges block
  case config => exact loseAll_config edges block
  case x => exact hx
  case y => exact hy
  case input => exact loseAll_input_of_target_ne htarget
  case outputs => rfl

/-- A block with other settings: ports that stay lead where they led, new ones are open. -/
def reset (config : Config) (block : Block) : Block :=
  { block with
    config := config
    outputs := config.ports.map fun port =>
      (port, if port ∈ block.config.ports then block.targetOf port else none) }

end Block

namespace Flow

variable {flow : Flow} {edge : Edge} {block : Block} {config : Config}

/-- Detaching edges that leave other blocks clears the input of a block that one of them enters. -/
theorem Consistent.loseAll_eq (hflow : flow.Consistent) {edges : List Edge}
    (hedges : edges ⊆ flow.edges) (hblock : block ∈ flow.blocks)
    (hsource : ∀ edge ∈ edges, edge.source ≠ block.id) :
    block.loseAll edges =
      if ∃ edge ∈ edges, edge.target = block.id then { block with input := none } else block := by
  rw [Block.loseAll_of_source_ne hsource]
  congr 1
  refine propext (exists_congr fun edge => and_congr_right fun hedge => ?_)
  refine ⟨fun h => h.1, fun htarget => ⟨htarget, ?_⟩⟩
  exact hflow.input_of_mem (hedges hedge) hblock htarget.symm

/-- The edges that are left once a block with other settings is repaired. -/
theorem Consistent.edges_detachAll_strays (hflow : flow.Consistent) (block : Block) :
    (flow.detachAll (flow.strays block)).edges = flow.edges.filter fun edge =>
      edge.source = block.id → edge.port ∈ block.config.ports := by
  rw [detachAll_eq]
  dsimp only
  rw [hflow.nodup.sdiff_eq_filter]
  apply List.filter_congr
  intro edge hedge
  rw [decide_eq_decide, mem_strays]
  tauto

/-- The slots that the edges left behind tell of a block with other settings. -/
theorem WellFormed.slotsFrom_eq (hflow : flow.WellFormed) (hblock : block ∈ flow.blocks)
    (config : Config) :
    slotsFrom (flow.edges.filter fun edge => edge.source = block.id → edge.port ∈ config.ports)
        block.id config.ports =
      config.ports.map fun port =>
        (port, if port ∈ block.config.ports then block.targetOf port else none) := by
  apply List.map_congr_left
  intro port hport
  refine Prod.ext rfl (Option.ext fun target => ?_)
  have hleft : (takenPorts (flow.edges.filter fun edge =>
      edge.source = block.id → edge.port ∈ config.ports)).Nodup :=
    (List.filter_sublist.map _).nodup hflow.nodup_ports
  dsimp only
  rw [find?_port_eq_some_iff hleft]
  have hjoins : (∃ edge ∈ flow.edges.filter fun edge =>
      edge.source = block.id → edge.port ∈ config.ports, edge.source = block.id ∧
        edge.port = port ∧ edge.target = target) ↔ block.targetOf port = some target := by
    rw [hflow.targetOf_iff block hblock]
    constructor
    · rintro ⟨edge, hedge, hjoins⟩
      exact ⟨edge, List.mem_of_mem_filter hedge, hjoins⟩
    · rintro ⟨edge, hedge, hsource, rfl, htarget⟩
      exact ⟨edge, List.mem_filter.2 ⟨hedge, decide_eq_true fun _ => hport⟩, hsource, rfl, htarget⟩
  rw [hjoins]
  split_ifs with hold
  · rfl
  · rw [← hflow.keys_outputs block hblock] at hold
    simp only [iff_false]
    exact fun htarget => hold (block.mem_keys_of_targetOf htarget)

/-- The blocks once the settings of one of them are changed and it is repaired. -/
theorem WellFormed.blocks_repairBlock (hflow : flow.WellFormed) (hblock : block ∈ flow.blocks)
    (hkind : config.kind = block.kind) :
    ((flow.reconfigured block.id config).repairBlock block.id).flow.blocks =
      flow.blocks.map fun other =>
        if other.id = block.id then block.reset config
        else if ∃ edge ∈ flow.edges, edge.source = block.id ∧ edge.port ∉ config.ports ∧
          edge.target = other.id then { other with input := none }
        else other := by
  have hchanged : (flow.reconfigured block.id config).Consistent :=
    hflow.toConsistent.configure hblock hkind
  let new : Block := { block with config := config }
  let strays := (flow.reconfigured block.id config).strays new
  have hstrays : ∀ edge, edge ∈ strays ↔
      edge ∈ flow.edges ∧ edge.source = block.id ∧ edge.port ∉ config.ports :=
    fun edge => mem_strays
  have hslots : slotsFrom ((flow.reconfigured block.id config).detachAll strays).edges block.id
      config.ports = (block.reset config).outputs := by
    rw [hchanged.edges_detachAll_strays new]
    exact hflow.slotsFrom_eq hblock config
  rw [hchanged.repairBlock_eq (mem_reconfigured hblock config)]
  change List.map _ ((flow.reconfigured block.id config).detachAll strays).blocks = _
  rw [hslots, detachAll_eq, reconfigured, modify]
  dsimp only
  rw [List.map_map, List.map_map]
  apply List.map_congr_left
  intro other hother
  simp only [Function.comp_apply]
  by_cases hid : other.id = block.id
  · obtain rfl := hflow.block_eq_of_id hother hblock hid
    have hentered : ∀ edge ∈ strays, edge.target ≠ new.id := by
      intro edge hedge htarget
      obtain ⟨hmem, hsource, -⟩ := (hstrays edge).1 hedge
      exact hflow.source_ne_target hmem (hsource.trans htarget.symm)
    have hnew : (if other.id = other.id then { other with config := config } else other) = new :=
      if_pos rfl
    rw [hnew, if_pos (Block.loseAll_id strays new), if_pos rfl]
    exact Block.loseAll_refilled hentered (other.reset config).outputs
  · have hsources : ∀ edge ∈ strays, edge.source ≠ other.id :=
      fun edge hedge hsource => hid (hsource.symm.trans ((hstrays edge).1 hedge).2.1)
    simp only [if_neg hid, Block.loseAll_id]
    rw [hflow.loseAll_eq (fun edge hedge => ((hstrays edge).1 hedge).1) hother hsources]
    simp only [hstrays, and_assoc]

theorem WellFormed.resets (hflow : flow.WellFormed) (hblock : block ∈ flow.blocks) {field : String}
    {value : Value} (hset : block.config.set? field value = some (.ok config)) :
    flow.Resets ((flow.reconfigured block.id config).repairBlock block.id).flow field block
      (block.reset config) := by
  have hkind := Config.kind_of_set? hset
  have hafter := hflow.configure_repairBlock hblock hkind
  have hblocks := hflow.blocks_repairBlock hblock hkind
  have hchanged : (flow.reconfigured block.id config).Consistent :=
    hflow.toConsistent.configure hblock hkind
  have heq := hchanged.repairBlock_eq (mem_reconfigured hblock config)
  constructor
  case found =>
    refine (block?_eq_some_iff hafter.nodup_blocks).2 ⟨?_, rfl⟩
    rw [hblocks]
    exact List.mem_map.2 ⟨block, hblock, if_pos rfl⟩
  case kind => exact hkind
  case fields => exact fun name hname => Config.get?_of_set? hset hname
  case place => exact ⟨rfl, rfl, rfl⟩
  case outputs => rfl
  case edges =>
    rw [heq]
    exact hchanged.edges_detachAll_strays { block with config := config }
  case blocks => exact hblocks
  case counters =>
    rw [heq, detachAll_eq]
    exact ⟨rfl, rfl⟩

/-- A block of a well-formed flow is in order: repairing it changes nothing. -/
theorem WellFormed.repairBlock_eq (hflow : flow.WellFormed) (hblock : block ∈ flow.blocks) :
    flow.repairBlock block.id = ⟨flow, [], []⟩ := by
  have hnone : flow.strays block = [] := by
    rw [strays, List.filter_eq_nil_iff]
    intro edge hedge hstray
    obtain ⟨-, hsource, hport⟩ := mem_strays.1 (List.mem_filter.2 ⟨hedge, hstray⟩)
    exact hport (hflow.mem_ports edge hedge block hblock hsource.symm)
  have heq := hflow.toConsistent.repairBlock_eq hblock
  have hafter : (flow.repairBlock block.id).flow.WellFormed :=
    hflow.toConsistent.repairBlock fun other hother _ => hflow.keys_outputs other hother
  have hsame : (flow.repairBlock block.id).flow = flow := by
    apply hafter.tidy.eq_of_openAll_eq hflow.tidy
    rw [heq, hnone, openAll_modify_outputs]
    rfl
  rw [heq, hnone] at hsame ⊢
  exact congrArg (fun left => Outcome.mk left [] []) hsame

theorem reconfigured_self (hflow : flow.Consistent) (hblock : block ∈ flow.blocks) :
    flow.reconfigured block.id block.config = flow := by
  have hblocks : flow.blocks.map (fun other =>
      if other.id = block.id then { other with config := block.config } else other) =
      flow.blocks.map id := by
    apply List.map_congr_left
    intro other hother
    split_ifs with hid
    · rw [hflow.block_eq_of_id hother hblock hid]
      rfl
    · rfl
  rw [reconfigured, modify, hblocks, List.map_id]

theorem update_eq_ok_iff {id field : String} {value : Value} {after : Flow} {events : List Event}
    (hfound : flow.block? id = some block) :
    flow.update id field value = .ok (after, events) ↔
      ∃ config, block.config.set? field value = some (.ok config) ∧
        ((flow.reconfigured id config).repairBlock id).flow = after ∧
        ((flow.reconfigured id config).repairBlock id).events ++ [.configured id field] =
          events := by
  rw [update, hfound]
  dsimp only
  cases block.config.set? field value with
  | none => simp
  | some result =>
    cases result with
    | error problem => simp
    | ok config => simp [reconfigured]

/-- Setting one field of a block in a well-formed flow changes no other field; it removes exactly the
edges from ports that are gone, and leaves everything else as it is. A field may be set to what it
holds, which changes nothing at all. -/
theorem update_resets (hflow : flow.WellFormed) {id : String} {old : Block}
    (hold : flow.block? id = some old) (field : String) :
    (∀ value after events, flow.update id field value = .ok (after, events) →
      ∃ new, old.config.set? field value = some (.ok new.config) ∧
        flow.Resets after field old new) ∧
    ∀ value, old.config.get? field = some value →
      flow.update id field value = .ok (flow, [.configured id field]) := by
  have hblock := mem_of_block? hold
  constructor
  · intro value after events hafter
    obtain ⟨config, hset, rfl, -⟩ := (update_eq_ok_iff hold).1 hafter
    obtain rfl := id_of_block? hold
    exact ⟨old.reset config, hset, hflow.resets hblock hset⟩
  · intro value hget
    have hset : old.config.set? field value = some (.ok old.config) := Config.set?_of_get? hget
    refine (update_eq_ok_iff hold).2 ⟨old.config, hset, ?_⟩
    obtain rfl := id_of_block? hold
    rw [reconfigured_self hflow.toConsistent hblock, hflow.repairBlock_eq hblock]
    exact ⟨rfl, rfl⟩

/-- `update_resets` at `keyboardFlow`: the buttons are set to a single one, and the message is set to
what it is. -/
theorem update_resets_keyboardFlow :
    keyboardFlow.WellFormed ∧
      (∃ old after events new, keyboardFlow.block? "block_1" = some old ∧
        keyboardFlow.update "block_1" "buttons"
          (.list [.record [("callback_data", .text "stay")]]) = .ok (after, events) ∧
        keyboardFlow.Resets after "buttons" old new ∧ new.config.ports = ["stay"] ∧
        after.edges = [⟨"conn_2", "block_1", "stay", "block_3"⟩]) ∧
      keyboardFlow.update "block_1" "message" (.text "") =
        .ok (keyboardFlow, [.configured "block_1" "message"]) := by
  obtain ⟨old, hold⟩ := Option.isSome_iff_exists.1
    (by decide : (keyboardFlow.block? "block_1").isSome = true)
  have hconfig : old.config = keyboard ["go", "stay"] := by
    have hconfigs : (keyboardFlow.block? "block_1").map Block.config =
      some (keyboard ["go", "stay"]) := rfl
    rw [hold] at hconfigs
    exact Option.some.inj hconfigs
  obtain ⟨config, hset, hports⟩ : ∃ config, (keyboard ["go", "stay"]).set? "buttons"
      (.list [.record [("callback_data", .text "stay")]]) = some (.ok config) ∧
      config.ports = ["stay"] := ⟨_, rfl, rfl⟩
  have hupdate := (update_eq_ok_iff hold).2 ⟨config, hconfig ▸ hset, rfl, rfl⟩
  obtain ⟨hsets, hsame⟩ := update_resets wellFormed_keyboardFlow hold "buttons"
  obtain ⟨new, hnew, hresets⟩ := hsets _ _ _ hupdate
  have hnewPorts : new.config.ports = ["stay"] := by
    rw [hconfig, hset] at hnew
    obtain rfl : config = new.config := by simpa using hnew
    exact hports
  refine ⟨wellFormed_keyboardFlow, ⟨old, _, _, new, hold, hupdate, hresets, hnewPorts, ?_⟩, ?_⟩
  · rw [hresets.edges, hnewPorts, id_of_block? hold]
    decide
  · refine (update_resets wellFormed_keyboardFlow hold "message").2 (.text "") ?_
    rw [hconfig]
    rfl

end Flow

end DialogGraph
