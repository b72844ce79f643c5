import DialogGraph.Proofs.Flow.WellFormed
import Mathlib.Data.List.Perm.Subperm

/-!
# Trails

A trail is the list of edges by which one comes from a block to another. In a consistent flow at
most one edge enters a block and none enters a start block. So what can be reached from the start
blocks is a forest: there is one trail only from a start block to another block, and it takes no
edge twice.
-/

namespace DialogGraph

namespace Flow

/-- The edges by which one comes from a block to another, last edge first. -/
inductive Trail (flow : Flow) (origin : String) : List Edge → String → Prop
  | nil : Trail flow origin [] origin
  | cons {edge : Edge} {trail : List Edge} (hedge : edge ∈ flow.edges)
      (htrail : Trail flow origin trail edge.source) :
      Trail flow origin (edge :: trail) edge.target

/-- A block that can be reached from a start block. -/
def Rooted (flow : Flow) (id : String) : Prop :=
  ∃ origin ∈ flow.starts, ∃ trail, flow.Trail origin.id trail id

/-- Where one gets by leaving a block: nowhere, or along an edge. -/
def Leads (flow : Flow) (id : String) (next : Option String) : Prop :=
  ∀ target, next = some target → ∃ edge ∈ flow.edges, edge.source = id ∧ edge.target = target

variable {flow : Flow} {origin id : String} {trail : List Edge}

theorem leads_none : flow.Leads id none := by
  intro target htarget
  cases htarget

theorem Consistent.leads_targetOf (hflow : flow.Consistent) {block : Block}
    (hblock : block ∈ flow.blocks) (port : String) : flow.Leads block.id (block.targetOf port) := by
  intro target htarget
  obtain ⟨edge, hedge, hsource, -, rfl⟩ := (hflow.targetOf_iff block hblock port target).1 htarget
  exact ⟨edge, hedge, hsource, rfl⟩

theorem rooted_of_start {block : Block} (hblock : block ∈ flow.starts) : flow.Rooted block.id :=
  ⟨block, hblock, [], .nil⟩

theorem Rooted.leads (hrooted : flow.Rooted id) {next : Option String}
    (hleads : flow.Leads id next) : ∀ target, next = some target → flow.Rooted target := by
  intro target htarget
  obtain ⟨start, hstart, trail, htrail⟩ := hrooted
  obtain ⟨edge, hedge, rfl, rfl⟩ := hleads target htarget
  exact ⟨start, hstart, edge :: trail, .cons hedge htrail⟩

namespace Trail

theorem subset (htrail : flow.Trail origin trail id) : trail ⊆ flow.edges := by
  induction htrail with
  | nil => exact List.nil_subset _
  | cons hedge _ ih => exact List.cons_subset.2 ⟨hedge, ih⟩

/-- What stands before an edge of a trail is a trail to its source. -/
theorem before (htrail : flow.Trail origin trail id) {front rest : List Edge} {edge : Edge}
    (hsplit : trail = front ++ edge :: rest) : flow.Trail origin rest edge.source := by
  induction htrail generalizing front with
  | nil => simp at hsplit
  | cons hlast htrail ih =>
    cases front with
    | nil =>
      obtain ⟨rfl, rfl⟩ := List.cons.inj hsplit
      exact htrail
    | cons _ front => exact ih (List.cons.inj hsplit).2

/-- Only the trail without edges ends at a start block. -/
theorem eq_nil (hflow : flow.Consistent) {start : Block} (hstart : start ∈ flow.starts)
    (htrail : flow.Trail origin trail start.id) : trail = [] := by
  obtain ⟨hblock, hkind⟩ := List.mem_filter.1 hstart
  generalize hend : start.id = id at htrail
  cases htrail with
  | nil => rfl
  | cons hedge => exact absurd (beq_iff_eq.1 hkind) (hflow.target_ne_start hedge hblock hend)

/-- At most one trail leads from a start block to another block. -/
theorem unique (hflow : flow.Consistent) {start : Block} (hstart : start ∈ flow.starts)
    {other : List Edge} (htrail : flow.Trail start.id trail id)
    (hother : flow.Trail start.id other id) : trail = other := by
  induction htrail generalizing other with
  | nil => exact (eq_nil hflow hstart hother).symm
  | @cons edge trail hedge htrail ih =>
    generalize hend : edge.target = target at hother
    cases hother with
    | nil =>
      have hwhole : flow.Trail start.id (edge :: trail) edge.target := .cons hedge htrail
      rw [hend] at hwhole
      exact eq_nil hflow hstart hwhole
    | @cons last other hlast hother =>
      obtain rfl := hflow.eq_of_target hedge hlast hend
      rw [ih hother]

/-- A trail from a start block takes no edge twice. -/
theorem nodup (hflow : flow.Consistent) {start : Block} (hstart : start ∈ flow.starts)
    (htrail : flow.Trail start.id trail id) : trail.Nodup := by
  induction htrail with
  | nil => exact List.nodup_nil
  | @cons edge trail hedge htrail ih =>
    refine List.nodup_cons.2 ⟨?_, ih⟩
    intro hmem
    obtain ⟨front, rest, hsplit⟩ := List.append_of_mem hmem
    -- both the whole trail and what stands before the edge in it lead to the edge's source
    have hrest : trail = rest := unique hflow hstart htrail (before htrail hsplit)
    have hlength := congrArg List.length hsplit
    rw [← hrest, List.length_append, List.length_cons] at hlength
    omega

theorem length_le (hflow : flow.Consistent) {start : Block} (hstart : start ∈ flow.starts)
    (htrail : flow.Trail start.id trail id) : trail.length ≤ flow.edges.length :=
  (List.subperm_of_subset (htrail.nodup hflow hstart) htrail.subset).length_le

end Trail

end Flow

end DialogGraph
