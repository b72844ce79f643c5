import DialogGraph.Proofs.Snapshot.Loading

/-!
# How connections are replayed

Loading replays the connections of a snapshot on the blocks. A connection comes in or is turned down
by the same standard that repair applies to a list of edges, so which ones come in can be told from
the blocks alone, before any of them is made. What remains are the ids: they depend on those given
out before and on nothing else.
-/

namespace DialogGraph

open DialogGraph.Number

namespace Flow

variable {flow base : Flow}

/-- A flow as it is once the blocks of a snapshot are created: no connections, nothing counted. -/
structure Unwired (flow : Flow) : Prop extends Sound flow where
  edges_eq : flow.edges = []
  edgeCounter_eq : flow.edgeCounter = 0
  blockCounter_eq : flow.blockCounter = 0
  opened_eq : ∀ block ∈ flow.blocks, block.opened = block

theorem Unwired.createAs (hflow : flow.Unwired) (id : String) (config : Config) (x y : Value) :
    (flow.createAs id config x y).flow.Unwired := by
  have hsound := hflow.toSound.createAs id config x y
  by_cases htaken : flow.hasBlock id = true
  · have hsame : (flow.createAs id config x y).flow = flow := by rw [Flow.createAs, if_pos htaken]
    rwa [hsame]
  · have hadded : (flow.createAs id config x y).flow =
        flow.addBlock (Block.create id config x y) := by rw [Flow.createAs, if_neg htaken]
    rw [hadded] at hsound ⊢
    refine ⟨hsound, hflow.edges_eq, hflow.edgeCounter_eq, hflow.blockCounter_eq, ?_⟩
    intro block hblock
    rcases List.mem_append.1 hblock with hold | hnew
    · exact hflow.opened_eq block hold
    · rw [List.mem_singleton.1 hnew]
      rfl

/-- A flow that comes from an unwired one by connecting: its blocks are the old ones with the edges
on top. -/
structure WiredFrom (base flow : Flow) : Prop extends Sound flow where
  blocks_eq : flow.blocks = base.blocks.map (Block.gainAll flow.edges)
  blockCounter_eq : flow.blockCounter = base.blockCounter

theorem Unwired.wiredFrom (hbase : base.Unwired) : base.WiredFrom base where
  toSound := hbase.toSound
  blocks_eq := by
    rw [hbase.edges_eq]
    exact (List.map_id base.blocks).symm
  blockCounter_eq := rfl

namespace WiredFrom

variable (hflow : base.WiredFrom flow)

include hflow

theorem nodup_base : (base.blocks.map Block.id).Nodup := by
  have hids : flow.blocks.map Block.id = base.blocks.map Block.id := by
    rw [hflow.blocks_eq, List.map_map]
    exact List.map_congr_left fun block _ => block.gainAll_id _
  exact hids ▸ hflow.nodup_blocks

theorem block?_eq (id : String) :
    flow.block? id = (base.block? id).map (Block.gainAll flow.edges) := by
  have hblocks : flow.block? id =
      Flow.block? { base with blocks := base.blocks.map (Block.gainAll flow.edges) } id := by
    rw [block?, hflow.blocks_eq, block?]
  rw [hblocks, block?_map (Block.gainAll_id flow.edges)]

theorem mem_blocks_iff {block : Block} :
    block ∈ flow.blocks ↔ ∃ old ∈ base.blocks, old.gainAll flow.edges = block := by
  rw [hflow.blocks_eq, List.mem_map]

/-- Connecting meets an objection exactly where repair would find a misfit. -/
theorem objection_eq_none_iff {source port target id : String} :
    flow.objection source port target = none ↔
      base.misfit? (takenPorts flow.edges) (flow.edges.map Edge.target)
        ⟨id, source, port, target⟩ = none := by
  rw [hflow.toConsistent.objection_eq_none_iff, misfit?_eq_none_iff]
  constructor
  · rintro ⟨⟨sourceBlock, hsource, targetBlock, htarget, hsourceId, htargetId, hne, hstart, hkeys⟩,
      hport, hinput⟩
    rw [hsourceId, htargetId] at hne
    rw [hflow.keys_outputs sourceBlock hsource] at hkeys
    obtain ⟨oldSource, holdSource, rfl⟩ := hflow.mem_blocks_iff.1 hsource
    obtain ⟨oldTarget, holdTarget, rfl⟩ := hflow.mem_blocks_iff.1 htarget
    rw [Block.gainAll_id] at hsourceId htargetId
    rw [Block.kind, Block.gainAll_config] at hstart
    rw [Block.gainAll_config] at hkeys
    refine ⟨oldSource, oldTarget, (block?_eq_some_iff hflow.nodup_base).2 ⟨holdSource, hsourceId⟩,
      (block?_eq_some_iff hflow.nodup_base).2 ⟨holdTarget, htargetId⟩, hne, hstart, hkeys, ?_, ?_⟩
    · intro htaken
      obtain ⟨edge, hedge, hpair⟩ := List.mem_map.1 htaken
      exact hport edge hedge (Prod.mk.inj hpair).1 (Prod.mk.inj hpair).2
    · intro htaken
      obtain ⟨edge, hedge, hsame⟩ := List.mem_map.1 htaken
      exact hinput edge hedge hsame
  · rintro ⟨oldSource, oldTarget, hsource, htarget, hne, hstart, hport, hports, hinputs⟩
    have hsourceMem := hflow.mem_blocks_iff.2 ⟨oldSource, mem_of_block? hsource, rfl⟩
    have htargetMem := hflow.mem_blocks_iff.2 ⟨oldTarget, mem_of_block? htarget, rfl⟩
    have hsourceId := (oldSource.gainAll_id flow.edges).trans (id_of_block? hsource)
    have htargetId := (oldTarget.gainAll_id flow.edges).trans (id_of_block? htarget)
    refine ⟨⟨_, hsourceMem, _, htargetMem, hsourceId, htargetId, ?_, ?_, ?_⟩, ?_, ?_⟩
    · rwa [hsourceId, htargetId]
    · rwa [Block.kind, Block.gainAll_config]
    · rwa [hflow.keys_outputs _ hsourceMem, Block.gainAll_config]
    · intro edge hedge hsame hsamePort
      exact hports (List.mem_map.2 ⟨edge, hedge, Prod.ext hsame hsamePort⟩)
    · intro edge hedge hsame
      exact hinputs (List.mem_map.2 ⟨edge, hedge, hsame⟩)

end WiredFrom

/-- An edge that comes in goes on top of the others. -/
theorem WiredFrom.attach (hflow : base.WiredFrom flow) {edge : Edge} {counter : Nat}
    (hsound : (Flow.attach { flow with edgeCounter := counter } edge).Sound) :
    base.WiredFrom (Flow.attach { flow with edgeCounter := counter } edge) where
  toSound := hsound
  blocks_eq := by
    rw [attach_eq]
    dsimp only
    rw [hflow.blocks_eq, List.map_map]
    apply List.map_congr_left
    intro block _
    rw [Block.gainAll_concat, Function.comp_apply]
  blockCounter_eq := hflow.blockCounter_eq

/-- Connecting to a flow that was wired from another one. -/
theorem WiredFrom.connect (hflow : base.WiredFrom flow) (source port target : String)
    (wanted : Option String) : base.WiredFrom (flow.connect source port target wanted).flow := by
  have hsound := hflow.toSound.connect source port target wanted
  obtain ⟨counter, -, hcounted⟩ := flow.edgeIdFor_flow wanted
  rcases flow.connect_cases source port target wanted with
    ⟨reason, -, heq⟩ | ⟨-, ⟨fault, -, heq⟩ | ⟨id, -, heq⟩⟩
  · rw [heq]
    exact hflow
  · rw [heq, hcounted] at hsound ⊢
    exact ⟨hsound, hflow.blocks_eq, hflow.blockCounter_eq⟩
  · rw [heq, hcounted] at hsound ⊢
    exact hflow.attach hsound

end Flow

/-! ### Ids -/

namespace Flow

/-- Which id an edge gets that wants one, and the counter afterwards, given the ids and the counter
before: the wanted one if it is free, otherwise that of the next number. There is none if the number
in a wanted id cannot be read, or if the next number has too many digits. -/
def Issues (ids : List String) (counter : Nat) (wanted : Option String) (id : String)
    (after : Nat) : Prop :=
  match wanted.filter fun id => id ∉ ids with
  | none => counter + 1 < 10 ^ digitLimit ∧ id = edgeId (counter + 1) ∧ after = counter + 1
  | some free =>
    id = free ∧
      match edgeNumber? free with
      | none => after = counter
      | some number => ∃ n, number = .ok n ∧ after = max counter n

/-- Whether edges that want ids can all get one, one after the other. -/
def Issuable (ids : List String) (counter : Nat) : List (Option String) → Prop
  | [] => True
  | wanted :: rest =>
    ∃ id after, Issues ids counter wanted id after ∧ Issuable (ids ++ [id]) after rest

variable {flow : Flow}

/-- A wanted id that is free and has no unreadable number is given out. -/
theorem exists_issues {ids : List String} {id : String} (hfresh : id ∉ ids)
    (hnumber : ∀ number, edgeNumber? id = some number → ∃ n, number = .ok n) (counter : Nat) :
    ∃ after, Issues ids counter (some id) id after := by
  have hfree : (some id).filter (fun id => id ∉ ids) = some id := by
    simp [Option.filter, hfresh]
  unfold Issues
  rw [hfree]
  dsimp only
  cases hid : edgeNumber? id with
  | none => exact ⟨counter, rfl, rfl⟩
  | some number =>
    obtain ⟨n, hn⟩ := hnumber number hid
    exact ⟨max counter n, rfl, n, hn, rfl⟩

theorem edgeIdFor_ok_iff (flow : Flow) (wanted : Option String) (id : String) (after : Nat) :
    ((flow.edgeIdFor wanted).2 = .ok id ∧ (flow.edgeIdFor wanted).1.edgeCounter = after) ↔
      Issues (flow.edges.map Edge.id) flow.edgeCounter wanted id after := by
  have hfree : (fun id => (flow.edge? id).isNone) =
      fun id => decide (id ∉ flow.edges.map Edge.id) := by
    funext id
    rw [Bool.eq_iff_iff, Option.isNone_iff_eq_none, edge?_eq_none_iff, decide_eq_true_iff]
    simp
  unfold edgeIdFor Issues
  rw [hfree]
  dsimp only
  cases wanted.filter fun id => decide (id ∉ flow.edges.map Edge.id) with
  | none =>
    cases hdigits : integerText (flow.edgeCounter + 1 : Nat) with
    | error fault =>
      have hlong : ¬flow.edgeCounter + 1 < 10 ^ digitLimit := by
        intro hshort
        rw [integerText_natCast hshort] at hdigits
        cases hdigits
      constructor
      · rintro ⟨hid, -⟩
        cases hid
      · rintro ⟨hshort, -⟩
        exact absurd hshort hlong
    | ok digits =>
      obtain ⟨hshort, rfl⟩ := integerText_eq_ok_iff.1 hdigits
      constructor
      · rintro ⟨hid, hafter⟩
        exact ⟨hshort, (Except.ok.inj hid).symm, hafter.symm⟩
      · rintro ⟨-, rfl, rfl⟩
        exact ⟨rfl, rfl⟩
  | some free =>
    dsimp only
    cases edgeNumber? free with
    | none =>
      constructor
      · rintro ⟨hid, hafter⟩
        exact ⟨(Except.ok.inj hid).symm, hafter.symm⟩
      · rintro ⟨rfl, rfl⟩
        exact ⟨rfl, rfl⟩
    | some number =>
      cases number with
      | error fault =>
        constructor
        · rintro ⟨hid, -⟩
          cases hid
        · rintro ⟨-, n, hn, -⟩
          cases hn
      | ok n =>
        constructor
        · rintro ⟨hid, hafter⟩
          exact ⟨(Except.ok.inj hid).symm, n, rfl, hafter.symm⟩
        · rintro ⟨rfl, m, hm, rfl⟩
          obtain rfl := Except.ok.inj hm
          exact ⟨rfl, rfl⟩

/-- At most one id is given out. -/
theorem issues_unique {wanted : Option String} {id other : String} {after otherAfter : Nat}
    (hid : Issues (flow.edges.map Edge.id) flow.edgeCounter wanted id after)
    (hother : Issues (flow.edges.map Edge.id) flow.edgeCounter wanted other otherAfter) :
    id = other ∧ after = otherAfter := by
  rw [← edgeIdFor_ok_iff] at hid hother
  exact ⟨Except.ok.inj (hid.1.symm.trans hother.1), hid.2.symm.trans hother.2⟩

end Flow

namespace Snapshot

open DialogGraph.Flow

/-- Creating the blocks of a snapshot wires nothing. -/
theorem unwired_unwired (parts : Parts) : (unwired parts).Unwired := by
  have hempty : Flow.empty.Unwired := ⟨.empty, rfl, rfl, rfl, by simp [Flow.empty]⟩
  exact unwired_induction parts hempty fun _ _ _ block _ hflow =>
    hflow.createAs block.id block.config block.x block.y

/-- The edge that a connection makes on the blocks of a flow, but for its id. -/
def Wire.edge (base : Flow) (wire : Wire) : Edge :=
  ⟨"", wire.source, portOf base wire, wire.target⟩

/-- The connections that come in, in order, where some ports and inputs are taken already. -/
def placed (base : Flow) (ports : List (String × String)) (inputs : List String) :
    List Wire → List Wire
  | [] => []
  | wire :: rest =>
    if base.misfit? ports inputs (wire.edge base) = none then
      wire :: placed base (ports ++ [(wire.source, portOf base wire)]) (inputs ++ [wire.target]) rest
    else placed base ports inputs rest

variable {base flow : Flow}

theorem portOf_eq (hflow : base.WiredFrom flow) (wire : Wire) : portOf flow wire = portOf base wire := by
  unfold portOf
  rw [hflow.block?_eq]
  cases base.block? wire.source with
  | none => rfl
  | some block =>
    have hkind : (block.gainAll flow.edges).kind = block.kind :=
      congrArg Config.kind (block.gainAll_config _)
    rw [Option.map_some]
    dsimp only
    rw [hkind]

/-- What loading a connection comes to: it is turned down, or it fits but can get no id and loading
stops, or it comes in under the id that it gets. -/
theorem loadWire_cases {progress : Progress} (hflow : base.WiredFrom progress.flow) (wire : Wire) :
    (base.misfit? (takenPorts progress.flow.edges) (progress.flow.edges.map Edge.target)
        (wire.edge base) ≠ none ∧
      ∃ next, loadWire progress wire = .ok next ∧ next.flow = progress.flow) ∨
    base.misfit? (takenPorts progress.flow.edges) (progress.flow.edges.map Edge.target)
        (wire.edge base) = none ∧
      (((¬∃ id after, Issues (progress.flow.edges.map Edge.id) progress.flow.edgeCounter wire.id
          id after) ∧ ∃ stopped, loadWire progress wire = .error stopped) ∨
      ∃ id after next,
        Issues (progress.flow.edges.map Edge.id) progress.flow.edgeCounter wire.id id after ∧
          loadWire progress wire = .ok next ∧
          next.flow = Flow.attach { progress.flow with edgeCounter := after }
            ⟨id, wire.source, portOf base wire, wire.target⟩) := by
  have hfits : progress.flow.objection wire.source (portOf progress.flow wire) wire.target = none ↔
      base.misfit? (takenPorts progress.flow.edges) (progress.flow.edges.map Edge.target)
        (wire.edge base) = none := by
    rw [portOf_eq hflow, hflow.objection_eq_none_iff]
    rfl
  rw [loadWire]
  rcases progress.flow.connect_cases wire.source (portOf progress.flow wire) wire.target wire.id with
    ⟨reason, hreason, heq⟩ | ⟨hnone, ⟨fault, hfault, heq⟩ | ⟨id, hid, heq⟩⟩
  · left
    constructor
    · rw [ne_eq, ← hfits, hreason]
      exact Option.some_ne_none reason
    · rw [heq]
      dsimp only
      split
      · exact ⟨_, rfl, rfl⟩
      · exact ⟨_, rfl, rfl⟩
  · refine .inr ⟨hfits.1 hnone, .inl ⟨?_, ?_⟩⟩
    · rintro ⟨id, after, hissues⟩
      rw [← edgeIdFor_ok_iff, hfault] at hissues
      cases hissues.1
    · rw [heq]
      exact ⟨_, rfl⟩
  · obtain ⟨counter, -, hcounted⟩ := progress.flow.edgeIdFor_flow wire.id
    have hissues := (edgeIdFor_ok_iff _ _ id counter).1 ⟨hid, by rw [hcounted]⟩
    rw [heq]
    refine .inr ⟨hfits.1 hnone, .inr ⟨id, counter, _, hissues, rfl, ?_⟩⟩
    rw [hcounted, portOf_eq hflow]

/-- Loading connections reaches the end exactly if all those that fit can get an id. -/
theorem loadWires_eq_ok_iff {progress : Progress} (hflow : base.WiredFrom progress.flow)
    (wires : List Wire) :
    (∃ done, loadWires progress wires = .ok done) ↔
      Issuable (progress.flow.edges.map Edge.id) progress.flow.edgeCounter
        ((placed base (takenPorts progress.flow.edges) (progress.flow.edges.map Edge.target)
          wires).map Wire.id) := by
  induction wires generalizing progress with
  | nil =>
    constructor
    · intro _
      exact trivial
    · intro _
      exact ⟨progress, rfl⟩
  | cons wire rest ih =>
    have hnext := hflow.connect wire.source (portOf progress.flow wire) wire.target wire.id
    rw [← reached_loadWire] at hnext
    rcases loadWire_cases hflow wire with ⟨hmisfit, next, heq, hsame⟩ |
      ⟨hfits, ⟨hnoId, stopped, heq⟩ | ⟨id, after, next, hissues, heq, hattached⟩⟩
    · rw [loadWires, heq, placed, if_neg hmisfit, ← hsame]
      apply ih
      rwa [hsame]
    · rw [loadWires, heq, placed, if_pos hfits, List.map_cons]
      constructor
      · rintro ⟨done, hdone⟩
        cases hdone
      · rintro ⟨id, after, hissues, -⟩
        exact absurd ⟨id, after, hissues⟩ hnoId
    · rw [heq] at hnext
      rw [loadWires, heq, placed, if_pos hfits, List.map_cons]
      have hrest := ih hnext
      rw [reached, hattached, attach_eq] at hrest
      simp only [takenPorts, List.map_append, List.map_singleton] at hrest ⊢
      rw [hrest]
      constructor
      · intro hissuable
        exact ⟨id, after, hissues, hissuable⟩
      · rintro ⟨other, otherAfter, hother, hissuable⟩
        obtain ⟨rfl, rfl⟩ := issues_unique hissues hother
        exact hissuable

/-- However far the connections of a snapshot come, they are made on its blocks. -/
theorem wiredFrom_wired (parts : Parts) : (unwired parts).WiredFrom (reached (wired parts)).flow :=
  reached_loadWires (fun _ source port target wanted hflow => hflow.connect source port target wanted)
    _ (unwired_unwired parts).wiredFrom (wires parts)

/-- The connections of a snapshot are loaded to the end exactly if all those that fit can get an
id. -/
theorem wired_eq_ok_iff (parts : Parts) :
    (∃ done, wired parts = .ok done) ↔
      Issuable [] 0 ((placed (unwired parts) [] [] (wires parts)).map Wire.id) := by
  have hbase := unwired_unwired parts
  have hiff : (∃ done, wired parts = .ok done) ↔
      Issuable ((unwired parts).edges.map Edge.id) (unwired parts).edgeCounter
        ((placed (unwired parts) (takenPorts (unwired parts).edges)
          ((unwired parts).edges.map Edge.target) (wires parts)).map Wire.id) :=
    loadWires_eq_ok_iff hbase.wiredFrom (wires parts)
  rw [hbase.edges_eq, hbase.edgeCounter_eq] at hiff
  exact hiff

end Snapshot

end DialogGraph
