import DialogGraph.Proofs.Flow.Numbering
import DialogGraph.Proofs.Flow.Repairing

/-!
# Sound flows

A flow is sound if it is well-formed and its edge counter is up to date. Both together are kept by
every edit: a new edge needs the counter to get an id of its own, and the counter needs nothing but
that no edge comes in without being counted.
-/

namespace DialogGraph

open DialogGraph.Number

theorem Config.kind_mark (config : Config) (n : Nat) : (config.mark n).kind = config.kind := by
  unfold mark
  split <;> rfl

theorem Config.ports_mark (config : Config) (n : Nat) : (config.mark n).ports = config.ports := by
  unfold mark
  split <;> rfl

namespace Flow

/-- A well-formed flow in which every numbered edge is counted. -/
structure Sound (flow : Flow) : Prop extends WellFormed flow where
  edges_counted : flow.EdgesCounted

/-- What an edit leaves alone that only takes something away: the counters, and of what stays the
ids of the edges and blocks and the places of the blocks. -/
structure Shrinks (before after : Flow) : Prop where
  edges : after.edges ⊆ before.edges
  edgeCounter : after.edgeCounter = before.edgeCounter
  blockCounter : after.blockCounter = before.blockCounter
  blocks : ∀ block ∈ after.blocks, ∃ old ∈ before.blocks,
    old.id = block.id ∧ old.x = block.x ∧ old.y = block.y

variable {flow after : Flow}

namespace Shrinks

theorem refl (flow : Flow) : flow.Shrinks flow :=
  ⟨List.Subset.refl _, rfl, rfl, fun block hblock => ⟨block, hblock, rfl, rfl, rfl⟩⟩

theorem trans {before middle after : Flow} (hfirst : before.Shrinks middle)
    (hsecond : middle.Shrinks after) : before.Shrinks after where
  edges := fun _ hedge => hfirst.edges (hsecond.edges hedge)
  edgeCounter := hsecond.edgeCounter.trans hfirst.edgeCounter
  blockCounter := hsecond.blockCounter.trans hfirst.blockCounter
  blocks := by
    intro block hblock
    obtain ⟨middleBlock, hmiddle, hid, hx, hy⟩ := hsecond.blocks block hblock
    obtain ⟨old, hold, holdId, holdX, holdY⟩ := hfirst.blocks middleBlock hmiddle
    exact ⟨old, hold, holdId.trans hid, holdX.trans hx, holdY.trans hy⟩

theorem modify (flow : Flow) (id : String) {g : Block → Block}
    (hplace : ∀ block, (g block).id = block.id ∧ (g block).x = block.x ∧ (g block).y = block.y) :
    flow.Shrinks (flow.modify id g) where
  edges := List.Subset.refl _
  edgeCounter := rfl
  blockCounter := rfl
  blocks := by
    intro block hblock
    obtain ⟨old, hold, rfl⟩ := List.mem_map.1 hblock
    refine ⟨old, hold, ?_⟩
    split_ifs
    · obtain ⟨hid, hx, hy⟩ := hplace old
      exact ⟨hid.symm, hx.symm, hy.symm⟩
    · exact ⟨rfl, rfl, rfl⟩

theorem detach (flow : Flow) (edge : Edge) : flow.Shrinks (flow.detach edge) := by
  have hdrop : flow.Shrinks (flow.dropEdge edge) :=
    ⟨List.erase_subset, rfl, rfl, fun block hblock => ⟨block, hblock, rfl, rfl, rfl⟩⟩
  refine hdrop.trans (.trans (modify _ edge.source ?_) (modify _ edge.target ?_))
  · intro block
    split_ifs <;> exact ⟨rfl, rfl, rfl⟩
  · intro block
    split_ifs <;> exact ⟨rfl, rfl, rfl⟩

theorem detachAll (flow : Flow) (edges : List Edge) : flow.Shrinks (flow.detachAll edges) := by
  induction edges generalizing flow with
  | nil => exact refl flow
  | cons edge rest ih => exact (detach flow edge).trans (ih (flow.detach edge))

theorem disconnect {id : String} {events : List Event}
    (hafter : flow.disconnect id = .ok (after, events)) : flow.Shrinks after := by
  rw [Flow.disconnect] at hafter
  split at hafter
  · cases hafter
  · obtain ⟨rfl, -⟩ := Prod.mk.inj (Except.ok.inj hafter)
    exact detach flow _

theorem delete (hflow : flow.Consistent) {id : String} {events : List Event}
    (hafter : flow.delete id = .ok (after, events)) : flow.Shrinks after := by
  by_cases hblock : flow.hasBlock id = true
  · rw [hflow.delete_eq hblock, Except.ok.injEq, Prod.mk.injEq] at hafter
    obtain ⟨rfl, -⟩ := hafter
    refine (detachAll flow (flow.edgesTouching id)).trans ⟨List.Subset.refl _, rfl, rfl, ?_⟩
    intro block hmem
    exact ⟨block, List.mem_of_mem_filter hmem, rfl, rfl, rfl⟩
  · rw [Flow.delete] at hafter
    rw [if_neg hblock] at hafter
    cases hafter

theorem repairBlock (hflow : flow.Consistent) (id : String) :
    flow.Shrinks (flow.repairBlock id).flow := by
  cases hfound : flow.block? id with
  | none =>
    rw [Flow.repairBlock, hfound]
    exact refl flow
  | some block =>
    obtain rfl := id_of_block? hfound
    rw [hflow.repairBlock_eq (mem_of_block? hfound)]
    exact (detachAll flow (flow.strays block)).trans (modify _ _ fun _ => ⟨rfl, rfl, rfl⟩)

theorem update (hflow : flow.Consistent) {id field : String} {value : Value} {events : List Event}
    (hafter : flow.update id field value = .ok (after, events)) : flow.Shrinks after := by
  rw [Flow.update] at hafter
  split at hafter
  · cases hafter
  · rename_i block hfound
    split at hafter
    · cases hafter
    · cases hafter
    · rename_i config hset
      obtain ⟨rfl, -⟩ := Prod.mk.inj (Except.ok.inj hafter)
      obtain rfl := id_of_block? hfound
      have hconfigured := hflow.configure (mem_of_block? hfound) (Config.kind_of_set? hset)
      refine .trans ?_ (repairBlock hconfigured block.id)
      exact modify flow block.id fun _ => ⟨rfl, rfl, rfl⟩

end Shrinks

/-- Where nothing but edges and blocks goes, the edges stay counted. -/
theorem EdgesCounted.shrinks (hflow : flow.EdgesCounted) (hshrinks : flow.Shrinks after) :
    after.EdgesCounted :=
  hflow.mono hshrinks.edges hshrinks.edgeCounter.ge

namespace Sound

theorem empty : Flow.empty.Sound := ⟨wellFormed_empty, by simp [EdgesCounted, Flow.empty]⟩

theorem disconnect (hflow : flow.Sound) {id : String} {events : List Event}
    (hafter : flow.disconnect id = .ok (after, events)) : after.Sound :=
  ⟨hflow.toWellFormed.disconnect hafter, hflow.edges_counted.shrinks (.disconnect hafter)⟩

theorem delete (hflow : flow.Sound) {id : String} {events : List Event}
    (hafter : flow.delete id = .ok (after, events)) : after.Sound :=
  ⟨hflow.toWellFormed.delete hafter,
    hflow.edges_counted.shrinks (.delete hflow.toConsistent hafter)⟩

theorem update (hflow : flow.Sound) {id field : String} {value : Value} {events : List Event}
    (hafter : flow.update id field value = .ok (after, events)) : after.Sound :=
  ⟨hflow.toWellFormed.update hafter,
    hflow.edges_counted.shrinks (.update hflow.toConsistent hafter)⟩

theorem repairBlock (hflow : flow.Sound) (id : String) : (flow.repairBlock id).flow.Sound where
  toWellFormed := hflow.toConsistent.repairBlock fun block hblock _ => hflow.keys_outputs block hblock
  edges_counted := hflow.edges_counted.shrinks (.repairBlock hflow.toConsistent id)

theorem repair (hflow : flow.Sound) : flow.repair.flow.Sound := by
  rw [hflow.toWellFormed.tidy.repair_eq]
  exact hflow

end Sound

/-! ### New blocks -/

/-- A block without connections can come in under an id that no block has. -/
theorem WellFormed.addBlock (hflow : flow.WellFormed) {id : String}
    (hfresh : flow.hasBlock id = false) (config : Config) (x y : Value) :
    (flow.addBlock (Block.create id config x y)).WellFormed := by
  have hnew : ∀ block ∈ flow.blocks, block.id ≠ id := hasBlock_eq_false_iff.1 hfresh
  have hunjoined : ∀ edge ∈ flow.edges, edge.source ≠ id ∧ edge.target ≠ id := by
    intro edge hedge
    obtain ⟨source, hsource, target, htarget, hsourceId, htargetId, -, -⟩ := hflow.ends edge hedge
    exact ⟨hsourceId ▸ hnew source hsource, htargetId ▸ hnew target htarget⟩
  refine Consistent.wellFormed ?_ ?_
  · constructor
    case nodup_blocks => exact nodup_map_concat hflow.nodup_blocks hnew
    case nodup_edges => exact hflow.nodup_edges
    case ends =>
      intro edge hedge
      obtain ⟨source, hsource, target, htarget, hends⟩ := hflow.ends edge hedge
      exact ⟨source, List.mem_append_left _ hsource, target, List.mem_append_left _ htarget, hends⟩
    case nodup_ports => exact hflow.nodup_ports
    case nodup_targets => exact hflow.nodup_targets
    case targetOf_iff =>
      intro block hblock port target
      rcases List.mem_append.1 hblock with hold | hcreated
      · exact hflow.targetOf_iff block hold port target
      · obtain rfl := List.mem_singleton.1 hcreated
        have hnone : (Block.create id config x y).targetOf port = none :=
          Block.get?_openSlots_join _ _
        rw [hnone]
        constructor
        · intro hsome
          cases hsome
        · rintro ⟨edge, hedge, hsource, -, -⟩
          exact absurd hsource (hunjoined edge hedge).1
    case input_iff =>
      intro block hblock source
      rcases List.mem_append.1 hblock with hold | hcreated
      · exact hflow.input_iff block hold source
      · obtain rfl := List.mem_singleton.1 hcreated
        constructor
        · intro hsome
          cases hsome
        · rintro ⟨port, edge, hedge, -, -, htarget⟩
          exact absurd htarget (hunjoined edge hedge).2
  · intro block hblock
    rcases List.mem_append.1 hblock with hold | hcreated
    · exact hflow.keys_outputs block hold
    · obtain rfl := List.mem_singleton.1 hcreated
      exact Block.keys_openSlots _

namespace Sound

theorem createAs (hflow : flow.Sound) (id : String) (config : Config) (x y : Value) :
    (flow.createAs id config x y).flow.Sound := by
  rw [Flow.createAs]
  split_ifs with htaken
  · exact hflow
  · rw [Bool.not_eq_true] at htaken
    exact ⟨hflow.toWellFormed.addBlock htaken config x y, hflow.edges_counted⟩

theorem createNew (hflow : flow.Sound) (config : Config) (x y : Value) :
    (flow.createNew config x y).flow.Sound := by
  unfold Flow.createNew
  dsimp only
  split
  · exact ⟨hflow.toWellFormed.congr rfl rfl, hflow.edges_counted⟩
  · rename_i id hid
    have hfresh : flow.hasBlock id = false := hasBlock_freeNumber hid
    exact ⟨(hflow.toWellFormed.addBlock hfresh config x y).congr rfl rfl, hflow.edges_counted⟩

/-- Moving a block keeps a flow sound. -/
theorem move (hflow : flow.Sound) {id : String} {x y : Value} (hafter : flow.move id x y = .ok after) :
    after.Sound := by
  rw [Flow.move] at hafter
  split_ifs at hafter
  obtain rfl := Except.ok.inj hafter
  refine ⟨hflow.toWellFormed.map_blocks ?_, hflow.edges_counted⟩
  intro block
  split_ifs <;> exact ⟨rfl, rfl, rfl, rfl, rfl⟩

/-- Marking what is new keeps a flow sound. -/
theorem mark (hflow : flow.Sound) (n : Nat) : (flow.mark n).Sound := by
  refine ⟨hflow.toWellFormed.map_blocks ?_, hflow.edges_counted⟩
  intro block
  exact ⟨rfl, block.config.kind_mark n, block.config.ports_mark n, rfl, rfl⟩

/-! ### New edges -/

/-- Connecting keeps a flow sound, whether the edge comes in, is turned down or gets no id. -/
theorem connect (hflow : flow.Sound) (source port target : String) (wanted : Option String) :
    (flow.connect source port target wanted).flow.Sound := by
  obtain ⟨counter, hcounter, hcounted⟩ := flow.edgeIdFor_flow wanted
  have hflowCounted : Flow.Sound { flow with edgeCounter := counter } :=
    ⟨hflow.toWellFormed.congr rfl rfl, hflow.edges_counted.mono (List.Subset.refl _) hcounter⟩
  rcases flow.connect_cases source port target wanted with
    ⟨reason, -, heq⟩ | ⟨hobjection, ⟨fault, -, heq⟩ | ⟨id, hid, heq⟩⟩
  · rw [heq]
    exact hflow
  · rw [heq, hcounted]
    exact hflowCounted
  · obtain ⟨hfresh, hnumber⟩ := hflow.edges_counted.edgeIdFor hid
    have hadmits := hflow.toConsistent.objection_eq_none_iff.1 hobjection
    rw [heq]
    rw [hcounted] at hnumber ⊢
    constructor
    · exact hflowCounted.toWellFormed.attach ⟨hadmits.ends, hadmits.port_free, hadmits.input_free⟩
        hfresh
    · rw [attach_eq]
      intro edge hedge number hedgeNumber
      rcases List.mem_append.1 hedge with hold | hnew
      · exact hflowCounted.edges_counted edge hold number hedgeNumber
      · obtain rfl := List.mem_singleton.1 hnew
        exact hnumber number hedgeNumber

end Sound

end Flow

end DialogGraph
