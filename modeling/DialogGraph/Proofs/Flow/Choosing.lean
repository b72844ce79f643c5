import DialogGraph.Proofs.Flow.Mending
import Mathlib.Data.List.Dedup

/-!
# Which edges win

Of edges that compete the first is meant to win: going through the list from the front, an edge is
chosen if it suits the blocks and competes with none chosen before. Repair leaves the very edges
that are chosen. Their order is another matter. What repair takes off the list is an edge that
equals the one to be dropped, and of several records that are equal this is the first; so a record
that stands on the list more than once keeps its last place and not its first.
-/

namespace DialogGraph

/-- Whether two edges leave by the same port or enter the same block. -/
def Edge.Competes (edge other : Edge) : Prop :=
  edge.source = other.source ∧ edge.port = other.port ∨ edge.target = other.target

instance (edge other : Edge) : Decidable (edge.Competes other) :=
  inferInstanceAs (Decidable (_ ∨ _))

namespace Flow

/-- Whether an edge leads from a block to another one that may be entered, by a port that the
settings give. -/
def Suits (flow : Flow) (edge : Edge) : Prop :=
  ∃ source ∈ flow.block? edge.source, ∃ target ∈ flow.block? edge.target,
    edge.source ≠ edge.target ∧ target.kind ≠ .start ∧ edge.port ∈ source.config.ports

instance (flow : Flow) : DecidablePred flow.Suits := fun edge =>
  inferInstanceAs (Decidable (∃ source ∈ flow.block? edge.source,
    ∃ target ∈ flow.block? edge.target,
      edge.source ≠ edge.target ∧ target.kind ≠ .start ∧ edge.port ∈ source.config.ports))

/-- The edges of a list that are chosen, in order, judged from the front: those that suit the blocks
and compete with none chosen before. -/
def chosenFrom (flow : Flow) (kept : List Edge) : List Edge → List Edge
  | [] => []
  | edge :: rest =>
    if flow.Suits edge ∧ ∀ other ∈ kept, ¬edge.Competes other then
      edge :: chosenFrom flow (edge :: kept) rest
    else chosenFrom flow kept rest

/-- The edges of a flow that are chosen. -/
def chosen (flow : Flow) : List Edge := flow.chosenFrom [] flow.edges

variable {flow : Flow} {kept edges : List Edge} {edge : Edge}

/-! ### What is chosen is what is kept -/

theorem misfit?_eq_none_iff_suits {ports : List (String × String)} {inputs : List String} :
    flow.misfit? ports inputs edge = none ↔
      flow.Suits edge ∧ (edge.source, edge.port) ∉ ports ∧ edge.target ∉ inputs := by
  rw [misfit?_eq_none_iff]
  constructor
  · rintro ⟨source, target, hsource, htarget, hne, hstart, hport, hports, hinputs⟩
    exact ⟨⟨source, hsource, target, htarget, hne, hstart, hport⟩, hports, hinputs⟩
  · rintro ⟨⟨source, hsource, target, htarget, hne, hstart, hport⟩, hports, hinputs⟩
    exact ⟨source, target, hsource, htarget, hne, hstart, hport, hports, hinputs⟩

/-- Whether edges fit can be told edge by edge and from what they take. -/
theorem fits_iff : flow.Fits edges ↔
    (∀ edge ∈ edges, flow.Suits edge) ∧ (takenPorts edges).Nodup ∧
      (edges.map Edge.target).Nodup := by
  constructor
  · intro hedges
    refine ⟨?_, hedges.nodup_ports, hedges.nodup_targets⟩
    intro edge hedge
    obtain ⟨source, target, hsource, htarget, hends⟩ := hedges.joins edge hedge
    exact ⟨source, hsource, target, htarget, hends⟩
  · rintro ⟨hsuits, hports, htargets⟩
    refine ⟨?_, hports, htargets⟩
    intro edge hedge
    obtain ⟨source, hsource, target, htarget, hends⟩ := hsuits edge hedge
    exact ⟨source, target, hsource, htarget, hends⟩

/-- An edge takes no port and no input of others exactly if it competes with none of them. -/
theorem forall_not_competes_iff :
    (∀ other ∈ kept, ¬edge.Competes other) ↔
      (edge.source, edge.port) ∉ takenPorts kept ∧ edge.target ∉ kept.map Edge.target := by
  induction kept with
  | nil => simp [takenPorts]
  | cons other rest ih =>
    rw [List.forall_mem_cons, ih]
    simp only [takenPorts, List.map_cons, List.mem_cons, Prod.mk.injEq, Edge.Competes]
    tauto

/-- The keepers of repair are the edges that are chosen. -/
theorem keepers_eq_chosenFrom (flow : Flow) (kept edges : List Edge) :
    flow.keepers (takenPorts kept) (kept.map Edge.target) edges = flow.chosenFrom kept edges := by
  induction edges generalizing kept with
  | nil => rfl
  | cons edge rest ih =>
    have hfits : flow.misfit? (takenPorts kept) (kept.map Edge.target) edge = none ↔
        flow.Suits edge ∧ ∀ other ∈ kept, ¬edge.Competes other := by
      rw [misfit?_eq_none_iff_suits, forall_not_competes_iff]
    rw [keepers, chosenFrom]
    split_ifs with hchosen
    · rw [hfits.2 hchosen]
      exact congrArg (edge :: ·) (ih (edge :: kept))
    · obtain ⟨reason, hreason⟩ := Option.ne_none_iff_exists'.1 (mt hfits.1 hchosen)
      rw [hreason]
      exact ih kept

theorem chosenFrom_sublist (flow : Flow) (kept edges : List Edge) :
    (flow.chosenFrom kept edges).Sublist edges := by
  induction edges generalizing kept with
  | nil => exact List.Sublist.refl _
  | cons edge rest ih =>
    rw [chosenFrom]
    split_ifs
    · exact (ih (edge :: kept)).cons_cons edge
    · exact (ih kept).cons edge

theorem keepers_eq_chosen (flow : Flow) : flow.keepers [] [] flow.edges = flow.chosen :=
  flow.keepers_eq_chosenFrom [] flow.edges

/-- No two edges that are chosen compete, so no record is chosen twice. -/
theorem nodup_chosen (flow : Flow) : flow.chosen.Nodup := by
  have hfits := fits_keepers flow [] [] flow.edges
  rw [keepers_eq_chosen] at hfits
  exact List.Nodup.of_map _ hfits.nodup_ports

/-- Every edge is dropped or chosen. -/
theorem dropped_append_chosen_perm (flow : Flow) :
    ((flow.misfits [] [] flow.edges).map Prod.fst ++ flow.chosen).Perm flow.edges :=
  flow.keepers_eq_chosen ▸ misfits_append_keepers_perm flow [] [] flow.edges

/-! ### Which copy stays -/

/-- Taking edges off a list one after the other leaves of every record that is kept its last
copy. -/
theorem diff_eq_filter_dedup {dropped : List Edge} (hperm : (dropped ++ kept).Perm edges)
    (hkept : kept.Nodup) : edges.diff dropped = edges.dedup.filter (· ∈ kept) := by
  induction edges generalizing dropped kept with
  | nil => simp
  | cons edge rest ih =>
    by_cases hdropped : edge ∈ dropped
    · have hrest : (dropped.erase edge ++ kept).Perm rest := by
        have hfirst := ((List.perm_cons_erase hdropped).append_right kept).symm.trans hperm
        exact hfirst.cons_inv
      rw [List.cons_diff_of_mem hdropped, ih hrest hkept]
      by_cases hagain : edge ∈ rest
      · rw [List.dedup_cons_of_mem hagain]
      · -- This is the only copy, and it is dropped.
        have hgone : edge ∉ kept := fun hmem => hagain (hrest.subset (List.mem_append_right _ hmem))
        rw [List.dedup_cons_of_notMem hagain, List.filter_cons_of_neg (by simpa using hgone)]
    · have hmem : edge ∈ kept := by
        have hall : edge ∈ dropped ++ kept := hperm.mem_iff.2 List.mem_cons_self
        exact (List.mem_append.1 hall).resolve_left hdropped
      have hrest : (dropped ++ kept.erase edge).Perm rest := by
        have hfirst := ((List.perm_cons_erase hmem).append_left dropped).symm.trans hperm
        exact (List.perm_middle.symm.trans hfirst).cons_inv
      have hnew : edge ∉ rest := by
        rw [← hrest.mem_iff, List.mem_append, hkept.mem_erase_iff]
        tauto
      rw [List.cons_diff_of_not_mem hdropped, ih hrest (hkept.erase edge),
        List.dedup_cons_of_notMem hnew, List.filter_cons_of_pos (by simpa using hmem)]
      congr 1
      apply List.filter_congr
      intro other hother
      have hne : other ≠ edge := fun h => hnew (h ▸ List.mem_dedup.1 hother)
      simp [hkept.mem_erase_iff, hne]

/-- The edges that repair leaves are those that are chosen, but of a record that stands on the list
several times the last copy stays. So the order is that of the edges chosen exactly if their last
copies stand in the order of their first ones; in particular if no record repeats. -/
theorem edges_repair (flow : Flow) :
    flow.repair.flow.edges = flow.edges.dedup.filter (· ∈ flow.chosen) ∧
      flow.repair.flow.edges.Perm flow.chosen ∧
      (flow.repair.flow.edges = flow.chosen ↔ flow.chosen.Sublist flow.edges.dedup) ∧
      (flow.edges.Nodup → flow.repair.flow.edges = flow.chosen) := by
  have hlast : flow.repair.flow.edges = flow.edges.dedup.filter (· ∈ flow.chosen) := by
    rw [repair_eq_rewired]
    exact diff_eq_filter_dedup flow.dropped_append_chosen_perm flow.nodup_chosen
  have hperm : flow.repair.flow.edges.Perm flow.chosen := by
    rw [repair_eq_rewired, ← keepers_eq_chosen]
    exact flow.survivors_perm
  have horder : flow.repair.flow.edges = flow.chosen ↔ flow.chosen.Sublist flow.edges.dedup := by
    constructor
    · intro hsame
      rw [← hsame, hlast]
      exact List.filter_sublist
    · intro hsub
      rw [hlast] at hperm ⊢
      have hself : flow.chosen.filter (· ∈ flow.chosen) = flow.chosen :=
        List.filter_eq_self.2 fun edge hedge => decide_eq_true hedge
      have hfront := hsub.filter (· ∈ flow.chosen)
      rw [hself] at hfront
      exact (hfront.eq_of_length hperm.length_eq.symm).symm
  refine ⟨hlast, hperm, horder, ?_⟩
  intro hnodup
  rw [horder, hnodup.dedup]
  exact flow.chosenFrom_sublist [] flow.edges

/-- A flow with a record that stands on the list before and behind another one. -/
def repeatedFlow : Flow where
  blocks := [
    Block.create "block_1" (Config.initial .message) (.int 0) (.int 0),
    Block.create "block_2" (Config.initial .message) (.int 0) (.int 0),
    Block.create "block_3" (Config.initial .message) (.int 0) (.int 0)]
  edges := [
    ⟨"conn_1", "block_1", defaultPort, "block_2"⟩, ⟨"conn_2", "block_2", defaultPort, "block_3"⟩,
    ⟨"conn_1", "block_1", defaultPort, "block_2"⟩]
  blockCounter := 3
  edgeCounter := 0

/-- The record is chosen where it stands first, but repair leaves it where it stands last. -/
theorem not_first_stays_repeatedFlow :
    repeatedFlow.chosen.map Edge.id = ["conn_1", "conn_2"] ∧
      repeatedFlow.repair.flow.edges.map Edge.id = ["conn_2", "conn_1"] ∧
      repeatedFlow.repair.flow.edges ≠ repeatedFlow.chosen := by
  decide

end Flow

end DialogGraph
