import DialogGraph.Proofs.Flow.Editing
import DialogGraph.Proofs.Number.ReadBack
import Mathlib.Data.List.Perm.Subperm
import Mathlib.Order.Lattice

/-!
# New ids are new

The number of a new block is the first one behind the counter that no block has; the number of a new
edge is the next one, without a look at the edges. The first is right because only so many numbers
can be taken. The second is right because the counter never falls behind the number of an edge.
-/

namespace DialogGraph

open DialogGraph.Number DialogGraph.Text

namespace Flow

variable {flow : Flow}

/-! ### Blocks -/

theorem freeNumber_succ (flow : Flow) (steps n : Nat) :
    flow.freeNumber (steps + 1) n =
      match blockId (n + 1) with
      | .ok id => if flow.hasBlock id then freeNumber flow steps (n + 1) else n + 1
      | .error _ => n + 1 :=
  rfl

theorem lt_freeNumber (flow : Flow) (steps n : Nat) : n < flow.freeNumber steps n := by
  induction steps generalizing n with
  | zero => exact Nat.lt_succ_self n
  | succ steps ih =>
    rw [freeNumber_succ]
    cases blockId (n + 1) with
    | ok id =>
      dsimp only
      split_ifs
      · exact Nat.lt_of_succ_lt (ih (n + 1))
      · exact Nat.lt_succ_self n
    | error fault => exact Nat.lt_succ_self n

/-- If the search ends at a number that is taken, then it has only met numbers that are taken. -/
theorem hasBlock_of_freeNumber {steps n : Nat} {id : String}
    (hid : blockId (flow.freeNumber steps n) = .ok id) (htaken : flow.hasBlock id = true) :
    ∀ k, n < k → k ≤ n + steps + 1 → flow.hasBlock ("block_" ++ natText k) = true := by
  induction steps generalizing n with
  | zero =>
    intro k hlow hhigh
    obtain rfl : k = n + 1 := by omega
    obtain ⟨-, rfl⟩ := blockId_eq_ok_iff.1 hid
    exact htaken
  | succ steps ih =>
    intro k hlow hhigh
    rw [freeNumber_succ] at hid
    cases hnext : blockId (n + 1) with
    | ok other =>
      simp only [hnext] at hid
      split_ifs at hid with hother
      · obtain ⟨-, rfl⟩ := blockId_eq_ok_iff.1 hnext
        by_cases hk : k = n + 1
        · exact hk ▸ hother
        · exact ih hid k (by omega) (by omega)
      · rw [hnext, Except.ok.injEq] at hid
        exact absurd (hid ▸ htaken) hother
    | error fault =>
      simp only [hnext] at hid
      cases hid

/-- A number that is found has an id that no block has: otherwise more numbers would be taken than
there are blocks. -/
theorem hasBlock_freeNumber {n : Nat} {id : String}
    (hid : blockId (flow.freeNumber flow.blocks.length n) = .ok id) : flow.hasBlock id = false := by
  by_contra htaken
  rw [Bool.not_eq_false] at htaken
  have hall := hasBlock_of_freeNumber hid htaken
  let tried := (List.range (flow.blocks.length + 1)).map fun i => "block_" ++ natText (n + 1 + i)
  have hnodup : tried.Nodup := by
    refine List.nodup_range.map ?_
    intro i j hij
    have hnumber := natText_injective ((String.append_right_inj "block_").1 hij)
    omega
  have hsubset : tried ⊆ flow.blocks.map Block.id := by
    intro other hother
    obtain ⟨i, hi, rfl⟩ := List.mem_map.1 hother
    rw [List.mem_range] at hi
    obtain ⟨block, hblock, hblockId⟩ :=
      hasBlock_iff.1 (hall (n + 1 + i) (by omega) (by omega))
    exact hblockId ▸ List.mem_map_of_mem hblock
  have hlength := (hnodup.subperm hsubset).length_le
  simp only [tried, List.length_map, List.length_range] at hlength
  omega

/-! ### Edges -/

/-- Whether every edge whose id has a number has one that can be read and is at most the counter. -/
def EdgesCounted (flow : Flow) : Prop :=
  ∀ edge ∈ flow.edges, ∀ number, edgeNumber? edge.id = some number →
    ∃ n ≤ flow.edgeCounter, number = .ok n

theorem EdgesCounted.mono (hflow : flow.EdgesCounted) {other : Flow}
    (hedges : other.edges ⊆ flow.edges) (hcounter : flow.edgeCounter ≤ other.edgeCounter) :
    other.EdgesCounted := by
  intro edge hedge number hnumber
  obtain ⟨n, hn, rfl⟩ := hflow edge (hedges hedge) number hnumber
  exact ⟨n, hn.trans hcounter, rfl⟩

/-- Giving out an id changes nothing but the counter, which does not fall. -/
theorem edgeIdFor_flow (flow : Flow) (wanted : Option String) :
    ∃ counter, flow.edgeCounter ≤ counter ∧
      (flow.edgeIdFor wanted).1 = { flow with edgeCounter := counter } := by
  rw [edgeIdFor]
  dsimp only
  split
  · refine ⟨flow.edgeCounter + 1, Nat.le_succ _, ?_⟩
    split <;> rfl
  · split
    · exact ⟨flow.edgeCounter, le_rfl, rfl⟩
    · exact ⟨max flow.edgeCounter _, le_max_left _ _, rfl⟩
    · exact ⟨flow.edgeCounter, le_rfl, rfl⟩

/-- An id that is given out is one that no edge has, and its number is within the counter. -/
theorem EdgesCounted.edgeIdFor (hflow : flow.EdgesCounted) {wanted : Option String} {id : String}
    (hid : (flow.edgeIdFor wanted).2 = .ok id) :
    (∀ edge ∈ flow.edges, edge.id ≠ id) ∧
      ∀ number, edgeNumber? id = some number →
        ∃ n ≤ (flow.edgeIdFor wanted).1.edgeCounter, number = .ok n := by
  rw [Flow.edgeIdFor] at hid ⊢
  dsimp only at hid ⊢
  split at hid
  next hwanted =>
    split at hid
    next digits hdigits =>
      -- The id is made from the next number, which is out of reach of the edges that are there.
      obtain ⟨hn, rfl⟩ := integerText_eq_ok_iff.1 hdigits
      obtain rfl : edgeId (flow.edgeCounter + 1) = id := Except.ok.inj hid
      have hnumber := edgeNumber?_edgeId hn
      dsimp only
      constructor
      · intro edge hedge hsame
        obtain ⟨n, hle, heq⟩ := hflow edge hedge _ (hsame ▸ hnumber)
        rw [Except.ok.injEq] at heq
        omega
      · intro number hother
        rw [hnumber, Option.some.injEq] at hother
        exact ⟨flow.edgeCounter + 1, le_rfl, hother.symm⟩
    next fault hfault => cases hid
  next wantedId hwanted =>
    have hfresh : ∀ edge ∈ flow.edges, edge.id ≠ wantedId := by
      have hnone := (Option.filter_eq_some_iff.1 hwanted).2
      rw [Option.isNone_iff_eq_none] at hnone
      exact edge?_eq_none_iff.1 hnone
    split at hid
    next hnone =>
      obtain rfl : wantedId = id := Except.ok.inj hid
      refine ⟨hfresh, ?_⟩
      intro number hnumber
      rw [hnone] at hnumber
      cases hnumber
    next n hn =>
      obtain rfl : wantedId = id := Except.ok.inj hid
      refine ⟨hfresh, ?_⟩
      intro number hnumber
      rw [hn, Option.some.injEq] at hnumber
      exact ⟨n, le_max_right _ _, hnumber.symm⟩
    next fault hfault => cases hid

/-- What connecting can come to: the edge is turned down, or no id can be given to it, or it is
attached under the id that is given to it. -/
theorem connect_cases (flow : Flow) (source port target : String) (wanted : Option String) :
    (∃ reason, flow.objection source port target = some reason ∧
      flow.connect source port target wanted = ⟨flow, [], .ok (.error reason)⟩) ∨
    flow.objection source port target = none ∧
      ((∃ fault, (flow.edgeIdFor wanted).2 = .error fault ∧
        flow.connect source port target wanted =
          ⟨(flow.edgeIdFor wanted).1, [], .error fault⟩) ∨
      ∃ id, (flow.edgeIdFor wanted).2 = .ok id ∧
        flow.connect source port target wanted =
          ⟨(flow.edgeIdFor wanted).1.attach ⟨id, source, port, target⟩,
            [.connected ⟨id, source, port, target⟩], .ok (.ok id)⟩) := by
  rw [connect]
  cases hobjection : flow.objection source port target with
  | some reason => exact .inl ⟨reason, rfl, rfl⟩
  | none =>
    refine .inr ⟨rfl, ?_⟩
    obtain ⟨counted, result⟩ := flow.edgeIdFor wanted
    cases result with
    | error fault => exact .inl ⟨fault, rfl, rfl⟩
    | ok id => exact .inr ⟨id, rfl, rfl⟩

end Flow

end DialogGraph
