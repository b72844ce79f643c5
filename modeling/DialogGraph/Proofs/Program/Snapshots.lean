import DialogGraph.Proofs.Block.Legible
import DialogGraph.Proofs.Program.Compiling
import DialogGraph.Proofs.Snapshot.AllOrNothing
import DialogGraph.Proofs.Snapshot.Storable

/-!
# Snapshots that compile

A JSON text holds no integer beyond the digit limit, so neither do the settings of the blocks that
are loaded from one. As loading gives well-formed flows, a snapshot that can be loaded compiles
exactly if it has one beginning.
-/

namespace DialogGraph.Snapshot

open DialogGraph.Flow DialogGraph.Program

variable {strict : Bool} {data : Value} {parts : Parts}

/-! ### Checks -/

/-- A block that a strict check takes is taken by a lenient one. -/
theorem blockComplaint?_lenient {key : String} {block : Value}
    (hblock : blockComplaint? strict key block = none) : blockComplaint? false key block = none := by
  unfold blockComplaint? at hblock ⊢
  split
  next fields =>
    dsimp only at hblock ⊢
    split at hblock
    next => cases hblock
    next =>
      simp only [Option.or_eq_none_iff] at hblock ⊢
      exact ⟨hblock.1, hblock.2.1, hblock.2.2.1, hblock.2.2.2.1, rfl⟩
    next => cases hblock
  next hother =>
    split at hblock
    next fields => exact absurd rfl (hother fields)
    next => cases hblock

/-- A snapshot that a strict check takes is taken by a lenient one, with the same parts. -/
theorem check_lenient (hcheck : check strict data = .ok parts) : check false data = .ok parts := by
  obtain ⟨hparts, hfault⟩ := check_eq_ok_iff.1 hcheck
  obtain ⟨hblocks, hconnections⟩ := Parts.fault?_eq_none_iff.1 hfault
  have hlenient : ∀ entry ∈ parts.blocks, blockComplaint? false entry.1 entry.2 = none :=
    fun entry hentry => blockComplaint?_lenient (hblocks entry hentry)
  exact check_eq_ok_iff.2 ⟨hparts, Parts.fault?_eq_none_iff.2 ⟨hlenient, hconnections⟩⟩

/-- The blocks of a snapshot are a part of its data. -/
theorem legible_blocks (hdata : data.Legible) (hparts : Snapshot.parts data = .ok parts) :
    (Value.record parts.blocks).Legible := by
  unfold Snapshot.parts at hparts
  split at hparts
  next fields =>
    split at hparts
    next => cases hparts
    next blocks hblocks =>
      split at hparts
      next =>
        split at hparts
        next =>
          obtain rfl := Except.ok.inj hparts
          exact hdata.of_get? hblocks
        next => cases hparts
      next => cases hparts
    next => cases hparts
  next => cases hparts

/-! ### Blocks -/

/-- A block that is described by data with a text has settings with a text. -/
theorem legible_blockOf? {entry : String × Value} (hentry : entry.2.Legible) {block : Block}
    (hblock : blockOf? entry = some block) :
    (Value.record block.config.toFields).Legible := by
  obtain ⟨id, value⟩ := entry
  unfold blockOf? at hblock
  split at hblock
  next fields hvalue =>
    obtain ⟨kind, -, rfl⟩ := Option.map_eq_some_iff.1 hblock
    have hfields :
        (Value.record (fields.filter fun field => !reservedKeys.contains field.1)).Legible := by
      rw [hvalue] at hentry
      apply Value.Legible.record
      intro name held hheld hlong
      exact hentry (.field (List.mem_of_mem_filter hheld) hlong)
    exact Settings.legible_ofFields hfields
  next => cases hblock

theorem short_unwired (hblocks : (Value.record parts.blocks).Legible) : Short (unwired parts) := by
  refine unwired_forall fun entry hentry block hblock => ?_
  have hvalue : entry.2.Legible := fun hlong => hblocks (.field hentry hlong)
  have hlegible := legible_blockOf? hvalue hblock
  exact hlegible

/-- Connecting changes no settings. -/
theorem short_of_wiredFrom {base flow : Flow} (hflow : base.WiredFrom flow) (hbase : Short base) :
    Short flow := by
  intro block hblock
  obtain ⟨old, hold, rfl⟩ := hflow.mem_blocks_iff.1 hblock
  rw [Block.gainAll_config]
  exact hbase old hold

theorem short_loadParts (hblocks : (Value.record parts.blocks).Legible) :
    Short (loadParts parts).outcome.flow := by
  have hshort := short_of_wiredFrom (wiredFrom_wired parts) (short_unwired hblocks)
  rwa [Short, (loadParts_reached parts).1]

/-! ### Snapshots -/

/-- A flow that was loaded from a JSON text compiles if it has exactly one beginning, and is turned
down on account of the number of its beginnings otherwise. -/
theorem compiles_of_parse {text : String} {depth : Nat} (hparse : Json.parse text depth = .ok data)
    (hcheck : check strict data = .ok parts) (date name token : String) :
    Compiles date (loadParts parts).outcome.flow name token := by
  have hblocks := legible_blocks (Json.parse_legible hparse) (check_eq_ok_iff.1 hcheck).1
  exact compiles_of_wellFormed (loadParts_sound parts).toWellFormed (short_loadParts hblocks) date
    name token

end DialogGraph.Snapshot
