import DialogGraph.Proofs.Snapshot.AllOrNothing

/-!
# Flows that can be stored

A sound flow can be saved and loaded again if the numbers of its blocks are counted as those of its
edges are, and if its blocks stand at numbers. Edits keep this as long as ids are given out and not
chosen, and blocks are put at numbers; loading brings it about by itself.
-/

namespace DialogGraph

open DialogGraph.Number DialogGraph.Text

/-- Whether every block has a number that can be read and is at most the counter. Blocks without a
number in their ids have the number 0. -/
def Flow.BlocksCounted (flow : Flow) : Prop :=
  ∀ block ∈ flow.blocks, ∃ n ≤ flow.blockCounter, Snapshot.blockNumber block.id = .ok n

namespace Flow.BlocksCounted

variable {flow after : Flow}

/-- Where no block gets an id that was not there, the blocks stay counted. -/
theorem of_ids (hflow : flow.BlocksCounted) (hcounter : flow.blockCounter ≤ after.blockCounter)
    (hids : ∀ block ∈ after.blocks, ∃ old ∈ flow.blocks, old.id = block.id) :
    after.BlocksCounted := by
  intro block hblock
  obtain ⟨old, hold, hid⟩ := hids block hblock
  obtain ⟨n, hn, hread⟩ := hflow old hold
  exact ⟨n, hn.trans hcounter, hid ▸ hread⟩

theorem shrinks (hflow : flow.BlocksCounted) (hshrinks : flow.Shrinks after) :
    after.BlocksCounted := by
  refine hflow.of_ids hshrinks.blockCounter.ge ?_
  intro block hblock
  obtain ⟨old, hold, hid, -, -⟩ := hshrinks.blocks block hblock
  exact ⟨old, hold, hid⟩

theorem move (hflow : flow.BlocksCounted) {id : String} {x y : Value}
    (hafter : flow.move id x y = .ok after) : after.BlocksCounted := by
  rw [Flow.move] at hafter
  split_ifs at hafter
  obtain rfl := Except.ok.inj hafter
  refine hflow.of_ids le_rfl ?_
  intro block hblock
  obtain ⟨old, hold, rfl⟩ := List.mem_map.1 hblock
  refine ⟨old, hold, ?_⟩
  split_ifs <;> rfl

theorem mark (hflow : flow.BlocksCounted) (n : Nat) : (flow.mark n).BlocksCounted := by
  refine hflow.of_ids le_rfl ?_
  intro block hblock
  obtain ⟨old, hold, rfl⟩ := List.mem_map.1 hblock
  exact ⟨old, hold, rfl⟩

/-- Connecting leaves the blocks as they are called. -/
theorem connect (hflow : flow.BlocksCounted) (source port target : String)
    (wanted : Option String) : (flow.connect source port target wanted).flow.BlocksCounted := by
  obtain ⟨counter, -, hcounted⟩ := flow.edgeIdFor_flow wanted
  rcases flow.connect_cases source port target wanted with
    ⟨reason, -, heq⟩ | ⟨-, ⟨fault, -, heq⟩ | ⟨id, -, heq⟩⟩
  · rw [heq]
    exact hflow
  · rw [heq, hcounted]
    exact hflow
  · rw [heq, hcounted, attach_eq]
    refine hflow.of_ids le_rfl ?_
    intro block hblock
    obtain ⟨old, hold, rfl⟩ := List.mem_map.1 hblock
    exact ⟨old, hold, (Block.gain_id _ _).symm⟩

/-- The number of a new block is the one that the counter now shows. -/
theorem createNew (hflow : flow.BlocksCounted) (config : Config) (x y : Value) :
    (flow.createNew config x y).flow.BlocksCounted := by
  have hnumber : flow.blockCounter < flow.freeNumber flow.blocks.length flow.blockCounter :=
    lt_freeNumber _ _ _
  have hcounted : Flow.BlocksCounted
      { flow with blockCounter := flow.freeNumber flow.blocks.length flow.blockCounter } :=
    hflow.of_ids hnumber.le fun block hblock => ⟨block, hblock, rfl⟩
  unfold Flow.createNew
  dsimp only
  cases hid : blockId (flow.freeNumber flow.blocks.length flow.blockCounter) with
  | error fault => exact hcounted
  | ok id =>
    intro block hblock
    rcases List.mem_append.1 hblock with hold | hnew
    · exact hcounted block hold
    · obtain ⟨hshort, rfl⟩ := blockId_eq_ok_iff.1 hid
      rw [List.mem_singleton.1 hnew]
      exact ⟨_, le_rfl, Snapshot.blockNumber_blockId hshort⟩

end Flow.BlocksCounted

/-- A sound flow with counted blocks that stand at numbers. -/
structure Flow.Storable (flow : Flow) : Prop extends Sound flow where
  blocks_counted : ∀ block ∈ flow.blocks, ∃ n ≤ flow.blockCounter,
    Snapshot.blockNumber block.id = .ok n
  places_numeric : ∀ block ∈ flow.blocks,
    Snapshot.isNumber block.x = true ∧ Snapshot.isNumber block.y = true

namespace Flow.Storable

variable {flow after : Flow}

theorem empty : Flow.empty.Storable := by
  refine ⟨.empty, ?_, ?_⟩ <;> simp [Flow.empty]

theorem counted (hflow : flow.Storable) : flow.BlocksCounted := hflow.blocks_counted

/-- Taking something away keeps a flow storable. -/
theorem shrinks (hflow : flow.Storable) (hsound : after.Sound) (hshrinks : flow.Shrinks after) :
    after.Storable where
  toSound := hsound
  blocks_counted := hflow.counted.shrinks hshrinks
  places_numeric := by
    intro block hblock
    obtain ⟨old, hold, -, hx, hy⟩ := hshrinks.blocks block hblock
    rw [← hx, ← hy]
    exact hflow.places_numeric old hold

/-- Moving a block to a place given by numbers keeps a flow storable. -/
theorem move (hflow : flow.Storable) {id : String} {x y : Value}
    (hx : Snapshot.isNumber x = true) (hy : Snapshot.isNumber y = true)
    (hafter : flow.move id x y = .ok after) : after.Storable := by
  refine ⟨hflow.toSound.move hafter, hflow.counted.move hafter, ?_⟩
  rw [Flow.move] at hafter
  split_ifs at hafter
  obtain rfl := Except.ok.inj hafter
  intro block hblock
  obtain ⟨old, hold, rfl⟩ := List.mem_map.1 hblock
  split_ifs
  · exact ⟨hx, hy⟩
  · exact hflow.places_numeric old hold

theorem isNumber_mark (value : Value) (n : Nat) :
    Snapshot.isNumber (value.mark n) = Snapshot.isNumber value := by
  cases value <;> simp [Value.mark, Snapshot.isNumber]

/-- Marking what is new keeps a flow storable. -/
theorem mark (hflow : flow.Storable) (n : Nat) : (flow.mark n).Storable where
  toSound := hflow.toSound.mark n
  blocks_counted := hflow.counted.mark n
  places_numeric := by
    intro block hblock
    obtain ⟨old, hold, rfl⟩ := List.mem_map.1 hblock
    simpa [Block.mark, isNumber_mark] using hflow.places_numeric old hold

/-- A block under a new id at a place given by numbers keeps a flow storable. -/
theorem createNew (hflow : flow.Storable) (config : Config) {x y : Value}
    (hx : Snapshot.isNumber x = true) (hy : Snapshot.isNumber y = true) :
    (flow.createNew config x y).flow.Storable := by
  refine ⟨hflow.toSound.createNew config x y, hflow.counted.createNew config x y, ?_⟩
  unfold Flow.createNew
  dsimp only
  cases blockId (flow.freeNumber flow.blocks.length flow.blockCounter) with
  | error fault => exact hflow.places_numeric
  | ok id =>
    intro block hblock
    rcases List.mem_append.1 hblock with hold | hnew
    · exact hflow.places_numeric block hold
    · rw [List.mem_singleton.1 hnew]
      exact ⟨hx, hy⟩

/-- Connecting leaves the blocks where they are. -/
theorem connect (hflow : flow.Storable) (source port target : String) (wanted : Option String) :
    (flow.connect source port target wanted).flow.Storable := by
  refine ⟨hflow.toSound.connect source port target wanted,
    hflow.counted.connect source port target wanted, ?_⟩
  obtain ⟨counter, -, hcounted⟩ := flow.edgeIdFor_flow wanted
  rcases flow.connect_cases source port target wanted with
    ⟨reason, -, heq⟩ | ⟨-, ⟨fault, -, heq⟩ | ⟨id, -, heq⟩⟩
  · rw [heq]
    exact hflow.places_numeric
  · rw [heq, hcounted]
    exact hflow.places_numeric
  · rw [heq, hcounted, attach_eq]
    intro block hblock
    obtain ⟨old, hold, rfl⟩ := List.mem_map.1 hblock
    rw [(Block.gain_place _ _).1, (Block.gain_place _ _).2]
    exact hflow.places_numeric old hold

end Flow.Storable

namespace Snapshot

open DialogGraph.Flow

/-! ### Loaded flows -/

theorem check_eq_ok_iff {strict : Bool} {data : Value} {checked : Parts} :
    check strict data = .ok checked ↔
      parts data = .ok checked ∧ checked.fault? strict = none := by
  rw [check]
  cases parts data with
  | error fault => simp
  | ok found =>
    dsimp only
    cases hfault : found.fault? strict with
    | none =>
      constructor
      · intro h
        obtain rfl := Except.ok.inj h
        exact ⟨rfl, hfault⟩
      · exact fun h => h.1
    | some fault =>
      constructor
      · intro h
        cases h
      · rintro ⟨hfound, hnone⟩
        obtain rfl := Except.ok.inj hfound
        rw [hfault] at hnone
        cases hnone

theorem Parts.fault?_eq_none_iff {strict : Bool} {parts : Parts} :
    parts.fault? strict = none ↔
      (∀ entry ∈ parts.blocks, blockComplaint? strict entry.1 entry.2 = none) ∧
        connectionFault? 0 parts.connections = none := by
  rw [fault?]
  rw [Option.or_eq_none_iff, List.findSome?_eq_none_iff]
  simp only [Option.map_eq_none_iff]

/-- A coordinate that passes the check is a number, also where it is left out. -/
theorem isNumber_of_coordinateComplaint? {data : Fields} {axis : String}
    (hcomplaint : coordinateComplaint? data axis = none) :
    isNumber ((Assoc.get? data axis).getD (.int 0)) = true := by
  rw [coordinateComplaint?] at hcomplaint
  cases hvalue : Assoc.get? data axis with
  | none => rfl
  | some value =>
    rw [hvalue] at hcomplaint
    by_contra hnot
    rw [Option.getD_some] at hnot
    simp [hnot] at hcomplaint

/-- A block that passes the check stands at numbers. -/
theorem places_numeric_of_blockOf? {strict : Bool} {entry : String × Value} {block : Block}
    (hcomplaint : blockComplaint? strict entry.1 entry.2 = none)
    (hblock : blockOf? entry = some block) :
    isNumber block.x = true ∧ isNumber block.y = true := by
  obtain ⟨id, value⟩ := entry
  cases value with
  | record data =>
    have hplaces : coordinateComplaint? data "x" = none ∧ coordinateComplaint? data "y" = none := by
      rw [blockComplaint?] at hcomplaint
      dsimp only at hcomplaint
      split at hcomplaint
      · cases hcomplaint
      · simp only [Option.or_eq_none_iff] at hcomplaint
        exact ⟨hcomplaint.2.1, hcomplaint.2.2.1⟩
      · cases hcomplaint
    simp only [blockOf?, Option.map_eq_some_iff] at hblock
    obtain ⟨kind, -, rfl⟩ := hblock
    exact ⟨isNumber_of_coordinateComplaint? hplaces.1, isNumber_of_coordinateComplaint? hplaces.2⟩
  | _ => cases hblock

/-- The blocks of a snapshot that passes the check stand at numbers. -/
theorem unwired_places_numeric {strict : Bool} {data : Value} {parts : Parts}
    (hcheck : check strict data = .ok parts) :
    ∀ block ∈ (unwired parts).blocks, isNumber block.x = true ∧ isNumber block.y = true := by
  have hblocks := (Parts.fault?_eq_none_iff.1 (check_eq_ok_iff.1 hcheck).2).1
  refine unwired_forall fun entry hentry block hblock => ?_
  have hplaces := places_numeric_of_blockOf? (hblocks entry hentry) hblock
  exact hplaces

/-- A snapshot that is loaded without a fault gives a storable flow, whatever was there before. -/
theorem load_storable {flow : Flow} {strict : Bool} {data : Value}
    (hresult : (load flow strict data).outcome.result = .ok ()) :
    (load flow strict data).outcome.flow.Storable := by
  have hsound := load_sound .empty strict data
  rw [load] at hresult hsound ⊢
  cases hcheck : check strict data with
  | error fault =>
    rw [hcheck] at hresult
    cases hresult
  | ok parts =>
    rw [hcheck] at hresult hsound
    dsimp only at hresult hsound ⊢
    have hwiredFrom := wiredFrom_wired parts
    rcases loadParts_cases parts with ⟨progress, fault, -, heq⟩ |
      ⟨progress, hwired, ⟨fault, -, heq⟩ | ⟨highest, hhighest, heq⟩⟩
    · rw [heq] at hresult
      cases hresult
    · rw [heq] at hresult
      cases hresult
    · rw [heq] at hsound ⊢
      rw [hwired] at hwiredFrom
      refine ⟨hsound, ?_, ?_⟩
      · intro block hblock
        obtain ⟨n, hn, hread⟩ := (highestNumber_le_iff hhighest highest).1 le_rfl block hblock
        exact ⟨n, hn.trans (le_max_right _ _), hread⟩
      · intro block hblock
        obtain ⟨old, hold, rfl⟩ := hwiredFrom.mem_blocks_iff.1 hblock
        rw [(old.gainAll_place _).1, (old.gainAll_place _).2]
        exact unwired_places_numeric hcheck old hold

end Snapshot

end DialogGraph
