import DialogGraph.Editor
import DialogGraph.Proofs.Snapshot.Wiring

/-!
# When loading is all or nothing

A snapshot is checked before the flow is given up, but the numbers in the ids of its blocks and
connections are read afterwards. A row of digits may still be no number: the reader turns down styled
digits and rows that are too long. So loading is all or nothing exactly for the snapshots whose
numbers can be read and carried on, and for all others it stops half way.
-/

namespace DialogGraph.Snapshot

open DialogGraph.Flow DialogGraph.Number

/-- What a load that is all or nothing comes to: a fault leaves the flow alone, an accepted snapshot
meets no fault, and an editor that replaces its flow keeps it unless the replacement succeeds. -/
structure AllOrNothing (flow : Flow) (strict : Bool) (data : Value) : Prop where
  untouched : ∀ fault, (load flow strict data).outcome.result = .error fault →
    (load flow strict data).outcome.flow = flow
  accepted : ∀ parts, check strict data = .ok parts →
    (load flow strict data).outcome.result = .ok ()
  replaced : strict = false → ∀ fields, data = .record fields → ∀ editor : Editor,
    editor.flow = flow →
      (editor.replaceFlow fields).1.flow = flow ∨ ∃ saved, (editor.replaceFlow fields).2 = .ok saved

/-- Whether all numbers in the ids of a snapshot can be used: those of the blocks can be read, and
the connections that fit can all get an id. -/
structure Replayable (parts : Parts) : Prop where
  blocks_readable : ∀ block ∈ (unwired parts).blocks, ∃ n, blockNumber block.id = .ok n
  wires_issuable : Issuable [] 0 ((placed (unwired parts) [] [] (wires parts)).map Wire.id)

/-- The highest number can be told if the number of every block can. -/
theorem highestNumber_eq_ok_iff {blocks : List Block} :
    (∃ highest, highestNumber blocks = .ok highest) ↔
      ∀ block ∈ blocks, ∃ n, blockNumber block.id = .ok n := by
  rw [highestNumber]
  generalize 0 = start
  induction blocks generalizing start with
  | nil =>
    constructor
    · intro _ block hblock
      cases hblock
    · intro _
      exact ⟨start, rfl⟩
  | cons block rest ih =>
    rw [List.foldlM_cons, List.forall_mem_cons]
    cases hnumber : blockNumber block.id with
    | error fault =>
      constructor
      · rintro ⟨highest, hhighest⟩
        cases hhighest
      · rintro ⟨⟨n, hn⟩, -⟩
        cases hn
    | ok n =>
      rw [← ih (max start n)]
      constructor
      · intro hrest
        exact ⟨⟨n, rfl⟩, hrest⟩
      · intro hrest
        exact hrest.2

/-- The highest number is the least one that is at least the number of every block. -/
theorem highestNumber_le_iff {blocks : List Block} {highest : Nat}
    (hhighest : highestNumber blocks = .ok highest) (bound : Nat) :
    highest ≤ bound ↔ ∀ block ∈ blocks, ∃ n ≤ bound, blockNumber block.id = .ok n := by
  rw [highestNumber] at hhighest
  suffices hstart : ∀ start, blocks.foldlM (fun highest block =>
      (blockNumber block.id).map (max highest)) start = .ok highest →
        (highest ≤ bound ↔
          start ≤ bound ∧ ∀ block ∈ blocks, ∃ n ≤ bound, blockNumber block.id = .ok n) by
    rw [hstart 0 hhighest]
    simp
  clear hhighest
  induction blocks with
  | nil =>
    intro start hdone
    obtain rfl := Except.ok.inj hdone
    simp
  | cons block rest ih =>
    intro start hdone
    rw [List.foldlM_cons] at hdone
    rw [List.forall_mem_cons]
    cases hnumber : blockNumber block.id with
    | error fault =>
      rw [hnumber] at hdone
      cases hdone
    | ok n =>
      rw [hnumber] at hdone
      rw [ih (max start n) hdone, Nat.max_le, and_assoc]
      have hblock : (∃ m ≤ bound, Except.ok (ε := IntegerFault) n = .ok m) ↔ n ≤ bound := by
        simp
      rw [hblock]

/-- Connecting leaves the ids of blocks alone, hence also their numbers. -/
theorem blocks_readable_iff {base flow : Flow} (hflow : base.WiredFrom flow) :
    (∃ highest, highestNumber flow.blocks = .ok highest) ↔
      ∀ block ∈ base.blocks, ∃ n, blockNumber block.id = .ok n := by
  rw [highestNumber_eq_ok_iff, hflow.blocks_eq, List.forall_mem_map]
  simp only [Block.gainAll_id]

/-- Loading succeeds exactly for snapshots whose numbers can be used. -/
theorem loadParts_eq_ok_iff (parts : Parts) :
    (loadParts parts).outcome.result = .ok () ↔ Replayable parts := by
  have hflow := wiredFrom_wired parts
  have hwires := wired_eq_ok_iff parts
  rcases loadParts_cases parts with ⟨progress, fault, hwired, heq⟩ |
    ⟨progress, hwired, ⟨fault, hhighest, heq⟩ | ⟨highest, hhighest, heq⟩⟩
  · rw [heq]
    constructor
    · intro hok
      cases hok
    · intro hreplayable
      obtain ⟨done, hdone⟩ := hwires.2 hreplayable.wires_issuable
      rw [hwired] at hdone
      cases hdone
  · rw [heq]
    rw [hwired] at hflow
    constructor
    · intro hok
      cases hok
    · intro hreplayable
      obtain ⟨highest, hother⟩ := (blocks_readable_iff hflow).2 hreplayable.blocks_readable
      rw [reached, hhighest] at hother
      cases hother
  · rw [heq]
    rw [hwired] at hflow
    constructor
    · intro _
      exact ⟨(blocks_readable_iff hflow).1 ⟨highest, hhighest⟩, hwires.1 ⟨progress, hwired⟩⟩
    · intro _
      rfl

/-- An editor gives up its flow only where loading fails half way. -/
theorem replaceFlow_cases (editor : Editor) (fields : Fields) :
    (editor.replaceFlow fields).1.flow = editor.flow ∨
      (∃ saved, (editor.replaceFlow fields).2 = .ok saved) ∨
        ∃ fault, (load editor.flow false (.record fields)).outcome.result = .error fault ∧
          (editor.replaceFlow fields).1.flow =
            (load editor.flow false (.record fields)).outcome.flow := by
  rw [Editor.replaceFlow]
  dsimp only
  split
  · exact .inl rfl
  · rename_i fault hfault
    exact .inr (.inr ⟨_, hfault, rfl⟩)
  · exact .inr (.inl ⟨_, rfl⟩)

/-- Loading is all or nothing exactly where every snapshot that is accepted has numbers that can be
used. -/
theorem allOrNothing_iff (flow : Flow) (strict : Bool) (data : Value) :
    AllOrNothing flow strict data ↔ ∀ parts, check strict data = .ok parts → Replayable parts := by
  have hload : ∀ parts, check strict data = .ok parts →
      load flow strict data = loadParts parts := by
    intro parts hparts
    rw [load, hparts]
  constructor
  · intro hall parts hparts
    rw [← loadParts_eq_ok_iff, ← hload parts hparts]
    exact hall.accepted parts hparts
  · intro hreplayable
    have haccepted : ∀ parts, check strict data = .ok parts →
        (load flow strict data).outcome.result = .ok () := by
      intro parts hparts
      rw [hload parts hparts, loadParts_eq_ok_iff]
      exact hreplayable parts hparts
    have huntouched : ∀ fault, (load flow strict data).outcome.result = .error fault →
        (load flow strict data).outcome.flow = flow := by
      intro fault hfault
      cases hcheck : check strict data with
      | error schemaFault => rw [load, hcheck]
      | ok parts =>
        rw [haccepted parts hcheck] at hfault
        cases hfault
    refine ⟨huntouched, haccepted, ?_⟩
    rintro rfl fields rfl editor rfl
    rcases replaceFlow_cases editor fields with hsame | hok | ⟨fault, hfault, hreplaced⟩
    · exact .inl hsame
    · exact .inr hok
    · exact .inl (hreplaced.trans (huntouched fault hfault))

/-- A snapshot whose only block has a styled digit for a number. -/
def squaredBlock : Value :=
  .record [("blocks", .record [("block_²", .record [("type", .text "message")])])]

/-- The check accepts a styled digit that the reader turns down, so loading is not all or nothing. -/
theorem not_allOrNothing_squaredBlock : ¬AllOrNothing Flow.empty false squaredBlock := by
  intro hall
  have hfault : (load Flow.empty false squaredBlock).outcome.result.toOption = none := by
    decide +kernel
  have haccepted := hall.accepted
    ⟨[("block_²", .record [("type", .text "message")])], [], 0⟩ rfl
  rw [haccepted] at hfault
  cases hfault

end DialogGraph.Snapshot
