import DialogGraph.Proofs.Flow.Sound

/-!
# Loading gives sound flows

Loading starts from the empty flow, creates the blocks one by one and then replays the connections
as if a user made them. So everything that editing guarantees holds of loaded flows as well, even of
those that loading leaves behind when it meets a fault half way.
-/

namespace DialogGraph.Snapshot

open DialogGraph.Number

/-! ### Blocks -/

def Progress.start : Progress := ⟨Flow.empty, [], []⟩

/-- The flow that the blocks of a snapshot come to, before any connection is made. -/
def unwired (parts : Parts) : Flow := (parts.blocks.foldl loadBlock Progress.start).flow

/-- The block that an entry of a snapshot describes, unless it is of no known kind. -/
def blockOf? (entry : String × Value) : Option Block :=
  match entry.2 with
  | .record data =>
    (Kind.ofText? ((textOf data "type").getD "")).map fun kind =>
      Block.create entry.1
        (Config.ofFields kind (data.filter fun field => !reservedKeys.contains field.1))
        ((Assoc.get? data "x").getD (.int 0)) ((Assoc.get? data "y").getD (.int 0))
  | _ => none

/-- Loading an entry creates the block that it describes, if there is one. -/
theorem loadBlock_flow (progress : Progress) (entry : String × Value) :
    (loadBlock progress entry).flow =
      match blockOf? entry with
      | none => progress.flow
      | some block => (progress.flow.createAs block.id block.config block.x block.y).flow := by
  obtain ⟨id, value⟩ := entry
  cases value with
  | record data =>
    simp only [loadBlock, blockOf?]
    cases Kind.ofText? ((textOf data "type").getD "") with
    | none => rfl
    | some kind => rfl
  | _ => rfl

/-- What creating the blocks of a snapshot keeps holds of the flow before any connection is made. -/
theorem unwired_induction {motive : Flow → Prop} (parts : Parts) (hempty : motive Flow.empty)
    (hcreate : ∀ flow, ∀ entry ∈ parts.blocks, ∀ block, blockOf? entry = some block → motive flow →
      motive (flow.createAs block.id block.config block.x block.y).flow) :
    motive (unwired parts) := by
  rw [unwired]
  generalize hprogress : Progress.start = progress
  have hstart : motive progress.flow := hprogress ▸ hempty
  clear hprogress
  generalize parts.blocks = blocks at hcreate ⊢
  induction blocks generalizing progress with
  | nil => exact hstart
  | cons entry rest ih =>
    rw [List.foldl_cons]
    apply ih
    · rw [loadBlock_flow]
      cases hblock : blockOf? entry with
      | none => exact hstart
      | some block => exact hcreate progress.flow entry List.mem_cons_self block hblock hstart
    · exact fun flow other hother => hcreate flow other (List.mem_cons_of_mem _ hother)

/-- What holds of the blocks that the entries describe holds of all blocks of the flow. -/
theorem unwired_forall {p : Block → Prop} {parts : Parts}
    (hentries : ∀ entry ∈ parts.blocks, ∀ block, blockOf? entry = some block →
      p (Block.create block.id block.config block.x block.y)) :
    ∀ block ∈ (unwired parts).blocks, p block := by
  refine unwired_induction (motive := fun flow => ∀ block ∈ flow.blocks, p block) parts nofun ?_
  intro flow entry hentry block hblock hflow other hother
  rw [Flow.createAs] at hother
  split_ifs at hother
  · exact hflow other hother
  · rcases List.mem_append.1 hother with hold | hnew
    · exact hflow other hold
    · rw [List.mem_singleton.1 hnew]
      exact hentries entry hentry block hblock

theorem unwired_sound (parts : Parts) : (unwired parts).Sound :=
  unwired_induction parts .empty fun _ _ _ block _ hflow =>
    hflow.createAs block.id block.config block.x block.y

/-! ### Connections -/

/-- How far loading has come, whether it goes on or has stopped at a fault. -/
def reached : Except (Progress × Fault) Progress → Progress
  | .ok progress => progress
  | .error stopped => stopped.1

/-- Loading a connection is connecting, whatever is noted about it. -/
theorem reached_loadWire (progress : Progress) (wire : Wire) :
    (reached (loadWire progress wire)).flow =
      (progress.flow.connect wire.source (portOf progress.flow wire) wire.target wire.id).flow := by
  unfold loadWire
  dsimp only
  split
  · rfl
  · rfl
  · split <;> rfl

/-- What connecting keeps holds after loading connections. -/
theorem reached_loadWires {motive : Flow → Prop}
    (hconnect : ∀ flow source port target wanted, motive flow →
      motive (flow.connect source port target wanted).flow)
    (progress : Progress) (hprogress : motive progress.flow) (wires : List Wire) :
    motive (reached (loadWires progress wires)).flow := by
  induction wires generalizing progress with
  | nil => exact hprogress
  | cons wire rest ih =>
    have hstep : motive (reached (loadWire progress wire)).flow := by
      rw [reached_loadWire]
      exact hconnect _ _ _ _ _ hprogress
    rw [loadWires]
    split
    · rename_i next hnext
      rw [hnext] at hstep
      exact ih next hstep
    · rename_i stopped hstopped
      rw [hstopped] at hstep
      exact hstep

/-- How far the connections of a snapshot come. -/
def wired (parts : Parts) : Except (Progress × Fault) Progress :=
  loadWires (parts.blocks.foldl loadBlock Progress.start) (wires parts)

theorem wired_sound (parts : Parts) : (reached (wired parts)).flow.Sound :=
  reached_loadWires (fun _ source port target wanted hflow => hflow.connect source port target wanted)
    _ (unwired_sound parts) (wires parts)

/-! ### Whole snapshots -/

/-- The flow that loading comes to is the one with the connections; only the number of blocks may be
set afterwards, and the repair at the end finds nothing to do. -/
theorem loadParts_cases (parts : Parts) :
    (∃ progress fault, wired parts = .error (progress, fault) ∧
      loadParts parts =
        ⟨⟨progress.flow, progress.events, .error fault⟩, progress.notices⟩) ∨
    ∃ progress, wired parts = .ok progress ∧
      ((∃ fault, highestNumber progress.flow.blocks = .error fault ∧
        loadParts parts =
          ⟨⟨progress.flow, progress.events, .error (.integer fault)⟩, progress.notices⟩) ∨
      ∃ highest, highestNumber progress.flow.blocks = .ok highest ∧
        loadParts parts =
          ⟨⟨{ progress.flow with blockCounter := max parts.counter.toNat highest },
            progress.events, .ok ()⟩, progress.notices⟩) := by
  have hsound := wired_sound parts
  cases hwired : wired parts with
  | error stopped =>
    have hstopped := hwired
    unfold wired Progress.start at hstopped
    refine .inl ⟨stopped.1, stopped.2, rfl, ?_⟩
    simp only [loadParts, hstopped]
  | ok progress =>
    rw [hwired] at hsound
    have hdone := hwired
    unfold wired Progress.start at hdone
    refine .inr ⟨progress, rfl, ?_⟩
    cases hhighest : highestNumber progress.flow.blocks with
    | error fault =>
      refine .inl ⟨fault, rfl, ?_⟩
      simp only [loadParts, hdone, hhighest]
    | ok highest =>
      refine .inr ⟨highest, rfl, ?_⟩
      have hcounted : Flow.WellFormed
          { progress.flow with blockCounter := max parts.counter.toNat highest } :=
        hsound.toWellFormed.congr rfl rfl
      simp only [loadParts, hdone, hhighest, hcounted.tidy.repair_eq]
      simp

/-- Once the connections are made, the blocks stay as they are and nothing more is noted. -/
theorem loadParts_reached (parts : Parts) :
    (loadParts parts).outcome.flow.blocks = (reached (wired parts)).flow.blocks ∧
      (loadParts parts).notices = (reached (wired parts)).notices := by
  rcases loadParts_cases parts with ⟨progress, fault, hwired, heq⟩ |
    ⟨progress, hwired, ⟨fault, -, heq⟩ | ⟨highest, -, heq⟩⟩
  all_goals
    rw [hwired, heq]
    exact ⟨rfl, rfl⟩

theorem loadParts_sound (parts : Parts) : (loadParts parts).outcome.flow.Sound := by
  have hsound := wired_sound parts
  rcases loadParts_cases parts with ⟨progress, fault, hwired, heq⟩ | ⟨progress, hwired, hrest⟩
  · rw [hwired] at hsound
    rw [heq]
    exact hsound
  · rw [hwired] at hsound
    rcases hrest with ⟨fault, -, heq⟩ | ⟨highest, -, heq⟩
    · rw [heq]
      exact hsound
    · rw [heq]
      exact ⟨hsound.toWellFormed.congr rfl rfl, hsound.edges_counted⟩

/-- Loading any value in place of a sound flow gives a sound flow. -/
theorem load_sound {flow : Flow} (hflow : flow.Sound) (strict : Bool) (data : Value) :
    (load flow strict data).outcome.flow.Sound := by
  rw [load]
  split
  · exact hflow
  · exact loadParts_sound _

end DialogGraph.Snapshot
