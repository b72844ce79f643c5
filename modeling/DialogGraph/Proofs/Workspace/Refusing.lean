import DialogGraph.Proofs.Flow.Connecting
import DialogGraph.Proofs.Workspace

/-!
# Edits that are turned down

An edit that is turned down leaves no trace: the blocks and edges, the counters and the history stay
as they are, and listeners hear nothing. The flows that edits lead to are sound, so that connecting
turns down no edge that could have come in.
-/

namespace DialogGraph.Workspace

open DialogGraph.Number

/-- What listeners hear of a change that may be turned down. -/
def heard : Except Rejection (Flow × List Event) → List Event
  | .ok (_, events) => events
  | .error _ => []

def told (workspace : Workspace) : Edit → List Event
  | .create design id x y =>
    match design.config with
    | .error _ => []
    | .ok config => (create workspace.flow config id x y).events
  | .update id field value => heard (workspace.flow.update id field value)
  | .connect source port target wanted => (workspace.flow.connect source port target wanted).events
  | .disconnect id => heard (workspace.flow.disconnect id)
  | .delete id => heard (workspace.flow.delete id)
  | .repairBlock id => (workspace.flow.repairBlock id).events
  | .repair => workspace.flow.repair.events
  | .load strict data => (Snapshot.load workspace.flow strict data).outcome.events
  | .undo => (workspace.history.undo workspace.flow).2.events
  | .redo => (workspace.history.redo workspace.flow).2.events
  | .move _ _ _ | .clear | .record | .forget => []

variable {workspace : Workspace} {reason : Rejection}

theorem edited_refused {result : Except Rejection Flow}
    (hrefused : (workspace.edited result).2 = .ok (some reason)) :
    (workspace.edited result).1 = workspace := by
  cases result with
  | ok flow => cases hrefused
  | error reason => rfl

theorem edited_map_fst_refused {result : Except Rejection (Flow × List Event)}
    (hrefused : (workspace.edited (result.map Prod.fst)).2 = .ok (some reason)) :
    (workspace.edited (result.map Prod.fst)).1 = workspace ∧ heard result = [] := by
  cases result with
  | ok changed => cases hrefused
  | error reason => exact ⟨rfl, rfl⟩

/-- An edit that ends well or in a fault is not turned down. -/
theorem map_none_ne {α : Type} (result : Except Fault α) :
    (result.map fun _ => none) ≠ .ok (some reason) := by
  cases result <;> exact nofun

theorem connect_refused {source port target : String} {wanted : Option String}
    (hrefused : (workspace.perform (.connect source port target wanted)).2 = .ok (some reason)) :
    workspace.flow.connect source port target wanted = ⟨workspace.flow, [], .ok (.error reason)⟩ := by
  rw [perform] at hrefused
  rcases workspace.flow.connect_cases source port target wanted with
    ⟨other, -, heq⟩ | ⟨-, ⟨fault, -, heq⟩ | ⟨id, -, heq⟩⟩
  · rw [heq] at hrefused
    obtain rfl : other = reason := by simpa [Except.map, reason?] using hrefused
    exact heq
  · rw [heq] at hrefused
    cases hrefused
  · rw [heq] at hrefused
    cases hrefused

/-- An edit that is turned down changes nothing, and nobody hears of it. -/
theorem perform_refused {edit : Edit} (hrefused : (workspace.perform edit).2 = .ok (some reason)) :
    (workspace.perform edit).1 = workspace ∧ workspace.told edit = [] := by
  cases edit with
  | create design id x y =>
    rw [perform, created] at hrefused
    split at hrefused
    · cases hrefused
    · exact absurd hrefused (map_none_ne _)
  | move id x y => exact ⟨edited_refused hrefused, rfl⟩
  | update id field value => exact edited_map_fst_refused hrefused
  | connect source port target wanted =>
    have heq := connect_refused hrefused
    rw [perform, told, heq]
    exact ⟨rfl, rfl⟩
  | disconnect id => exact edited_map_fst_refused hrefused
  | delete id => exact edited_map_fst_refused hrefused
  | clear => cases hrefused
  | repairBlock id => cases hrefused
  | repair => cases hrefused
  | load strict data => exact absurd hrefused (map_none_ne _)
  | record => cases hrefused
  | undo => exact absurd hrefused (map_none_ne _)
  | redo => exact absurd hrefused (map_none_ne _)
  | forget => cases hrefused

/-- Whatever is done in a workspace that starts without blocks, as long as its edges are numbered with
fewer digits than can be written: connecting is exact, and an edit that is turned down leaves no
trace. -/
theorem connectsExactly_and_refused_run (history : History) (edits : List Edit)
    (hcounter : (run ⟨Flow.empty, history⟩ edits).flow.edgeCounter < 10 ^ (digitLimit - 1)) :
    (∀ source port target,
      (run ⟨Flow.empty, history⟩ edits).flow.ConnectsExactly source port target) ∧
    ∀ edit reason, ((run ⟨Flow.empty, history⟩ edits).perform edit).2 = .ok (some reason) →
      ((run ⟨Flow.empty, history⟩ edits).perform edit).1 = run ⟨Flow.empty, history⟩ edits ∧
        (run ⟨Flow.empty, history⟩ edits).told edit = [] := by
  have hnext : (run ⟨Flow.empty, history⟩ edits).flow.edgeCounter + 1 < 10 ^ digitLimit := by
    have hroom : 10 ^ (digitLimit - 1) < 10 ^ digitLimit :=
      Nat.pow_lt_pow_right (by decide) (by decide)
    omega
  exact ⟨(run_sound .empty edits).connectsExactly hnext, fun _ _ => perform_refused⟩

def branchEdits : List Edit :=
  [.create (.named (.text "start")) none (.int 0) (.int 0),
    .create (.named (.text "message")) none (.int 1) (.int 0),
    .create (.named (.text "message")) none (.int 1) (.int 1),
    .connect "block_1" "default" "block_2" none]

/-- `connectsExactly_and_refused_run` at `branchEdits`: the other message can be reached from the
first, but not from the beginning. -/
theorem connectsExactly_and_refused_branchEdits :
    (fresh.run branchEdits).flow.edgeCounter < 10 ^ (digitLimit - 1) ∧
      (∃ id, ((fresh.run branchEdits).flow.connect "block_2" "default" "block_3" none).result =
        .ok (.ok id)) ∧
      ¬(fresh.run branchEdits).flow.Accommodates "block_1" "default" "block_3" ∧
      ((fresh.run branchEdits).perform (.connect "block_1" "default" "block_3" none)).1 =
        fresh.run branchEdits := by
  have hcounter : (fresh.run branchEdits).flow.edgeCounter < 10 ^ (digitLimit - 1) := by
    have hone : (fresh.run branchEdits).flow.edgeCounter = 1 := by decide +kernel
    rw [hone]
    exact Nat.one_lt_pow (by decide) (by decide)
  obtain ⟨hconnects, hrefused⟩ :=
    connectsExactly_and_refused_run (History.empty 50 (Nat.succ_pos 49)) branchEdits hcounter
  have htaken : ((fresh.run branchEdits).flow.connect "block_1" "default" "block_3" none).result =
      .ok (.error (.portTaken "block_1" "default")) := by decide +kernel
  refine ⟨hcounter, ?_, ?_, ?_⟩
  · apply ((hconnects "block_2" "default" "block_3").accepted.out 2 0).1
    constructor <;> decide +kernel
  · intro hroom
    obtain ⟨id, hid⟩ := ((hconnects "block_1" "default" "block_3").accepted.out 1 0).1 hroom
    cases htaken.symm.trans hid
  · refine (hrefused (.connect "block_1" "default" "block_3" none)
      (.portTaken "block_1" "default") ?_).1
    exact congrArg (Except.map reason?) htaken

end DialogGraph.Workspace
