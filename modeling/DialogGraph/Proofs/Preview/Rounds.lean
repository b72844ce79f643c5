import DialogGraph.Preview.Run
import DialogGraph.Proofs.Preview.Trail
import DialogGraph.Proofs.Result

/-!
# Rounds

Every round of a loop uses up a part of what the loop has left: its count, its items, or the
greatest number of rounds while a condition holds. A run in a consistent flow leads away from the
start blocks along edges, and comes back only by going on with a loop under way; so it ends.
-/

namespace DialogGraph

namespace Loop

/-- How many rounds a loop has left at most. -/
def remaining (plan : Plan) (frame : Frame) : Nat :=
  match plan.mode with
  | .whilst => whileLimit - frame.iteration
  | .list => frame.items.length - frame.iteration
  | .count => (plan.count.wholeOr 0 - frame.iteration).toNat

variable {plan : Plan} {frame after : Frame} {scope seen : Scope}

theorem enter_frame
    (hafter : (do return some (← enter plan frame scope)) = Except.ok (some (after, seen))) :
    after = { frame with iteration := frame.iteration + 1 } := by
  obtain ⟨entered, hentered, hsome⟩ := bind_eq_ok_iff.1 hafter
  obtain ⟨bound, -, hpure⟩ := bind_eq_ok_iff.1 hentered
  simp only [pure, Except.pure, Except.ok.injEq, Option.some.injEq] at hsome hpure
  rw [← hpure] at hsome
  exact (congrArg Prod.fst hsome).symm

/-- A next round is begun only by a loop that has one left. -/
theorem advance_frame (hafter : advance plan frame scope = .ok (some (after, seen))) :
    after = { frame with iteration := frame.iteration + 1 } ∧ 0 < remaining plan frame := by
  rw [advance] at hafter
  rw [remaining]
  cases hmode : plan.mode with
  | count =>
    simp only [hmode] at hafter ⊢
    by_cases hless : (frame.iteration : Int) < plan.count.wholeOr 0
    · rw [if_pos hless] at hafter
      exact ⟨enter_frame hafter, by omega⟩
    · simp [hless] at hafter
  | whilst =>
    simp only [hmode] at hafter ⊢
    by_cases hless : frame.iteration < whileLimit
    · rw [if_pos hless] at hafter
      obtain ⟨passed, -, hrest⟩ := bind_eq_ok_iff.1 hafter
      cases passed with
      | false => simp [pure, Except.pure] at hrest
      | true => exact ⟨enter_frame hrest, by omega⟩
    · simp [hless] at hafter
  | list =>
    simp only [hmode] at hafter ⊢
    cases hitem : frame.items[frame.iteration]? with
    | none => simp [hitem] at hafter
    | some item =>
      rw [hitem] at hafter
      obtain ⟨bound, -, hrest⟩ := bind_eq_ok_iff.1 hafter
      have hless := (List.getElem?_eq_some_iff.1 hitem).1
      exact ⟨enter_frame hrest, by omega⟩

theorem remaining_lt (hleft : 0 < remaining plan frame) :
    remaining plan { frame with iteration := frame.iteration + 1 } < remaining plan frame := by
  cases hmode : plan.mode <;> simp only [remaining, hmode] at hleft ⊢ <;> omega

end Loop

namespace Preview

/-- Where a run is: the loops under way, innermost first, and the block that it comes to next. -/
structure Place where
  frames : List Loop.Frame
  next : Option String

/-- How many rounds a loop under way has left at most. -/
def roundsLeft (flow : Flow) (frame : Loop.Frame) : Nat :=
  match flow.block? frame.block with
  | some block => Loop.remaining (loopPlan block.config) frame
  | none => 0

/-- How a run gets from one place to the next. -/
inductive Moves (flow : Flow) : Place → Place → Prop
  | leave {id : String} {frames : List Loop.Frame} {next : Option String}
      (hleads : flow.Leads id next) : Moves flow ⟨frames, some id⟩ ⟨frames, next⟩
  | enter {frame : Loop.Frame} {frames : List Loop.Frame} {next : Option String}
      (hleads : flow.Leads frame.block next) :
      Moves flow ⟨frames, some frame.block⟩ ⟨frame :: frames, next⟩
  | round {frame after : Loop.Frame} {frames : List Loop.Frame} {next : Option String}
      (hleads : flow.Leads frame.block next) (hblock : after.block = frame.block)
      (hless : roundsLeft flow after < roundsLeft flow frame) :
      Moves flow ⟨frame :: frames, none⟩ ⟨after :: frames, next⟩
  | finish {frame : Loop.Frame} {frames : List Loop.Frame} {next : Option String}
      (hleads : flow.Leads frame.block next) :
      Moves flow ⟨frame :: frames, none⟩ ⟨frames, next⟩

/-- A place among blocks that can be reached from the start blocks. -/
structure Place.Rooted (flow : Flow) (place : Place) : Prop where
  frames : ∀ frame ∈ place.frames, flow.Rooted frame.block
  next : ∀ target, place.next = some target → flow.Rooted target

/-- No run goes on for ever from a place. -/
def Halting (flow : Flow) (place : Place) : Prop :=
  Acc (fun after before => Moves flow before after) place

/-- A run that comes to the block ends, if it ends when the loops under way go on instead. -/
def Passable (flow : Flow) (id : String) : Prop :=
  ∀ frames, Halting flow ⟨frames, none⟩ → Halting flow ⟨frames, some id⟩

variable {flow : Flow} {frame : Loop.Frame} {frames : List Loop.Frame}

theorem Halting.lead {next : Option String} (hhalting : Halting flow ⟨frames, none⟩)
    (hpassable : ∀ target, next = some target → Passable flow target) :
    Halting flow ⟨frames, next⟩ := by
  cases next with
  | none => exact hhalting
  | some target => exact hpassable target rfl frames hhalting

/-- A loop under way ends, if all that its block leads to can be passed. -/
theorem Halting.cons (hhalting : Halting flow ⟨frames, none⟩)
    (hpassable : ∀ next, flow.Leads frame.block next →
      ∀ target, next = some target → Passable flow target) :
    Halting flow ⟨frame :: frames, none⟩ := by
  -- on the rounds left: what a round leads to is passed before the next one is decided on
  induction hleft : roundsLeft flow frame using Nat.strongRecOn generalizing frame with
  | _ left ih =>
    constructor
    intro place hmoves
    cases hmoves with
    | @round _ after _ next hleads hblock hless =>
      rw [hleft] at hless
      rw [← hblock] at hpassable
      have hafter : Halting flow ⟨after :: frames, none⟩ := ih _ hless hpassable rfl
      exact hafter.lead (hpassable next (hblock ▸ hleads))
    | finish hleads => exact hhalting.lead (hpassable _ hleads)

/-- Every edge away from a start block leaves fewer edges for the rest of the trail. -/
theorem passable (hflow : flow.Consistent) {id : String} (hrooted : flow.Rooted id) :
    Passable flow id := by
  obtain ⟨start, hstart, trail, htrail⟩ := hrooted
  -- on the edges that the trail has not taken: it takes none twice, so one fewer is left below
  induction hroom : flow.edges.length - trail.length using Nat.strongRecOn
    generalizing id trail with
  | _ room ih =>
    have hpassable : ∀ next, flow.Leads id next →
        ∀ target, next = some target → Passable flow target := by
      intro next hleads target htarget
      obtain ⟨edge, hedge, rfl, rfl⟩ := hleads target htarget
      have hlonger : flow.Trail start.id (edge :: trail) edge.target := .cons hedge htrail
      have hlength := hlonger.length_le hflow hstart
      rw [List.length_cons] at hlength
      exact ih _ (by rw [List.length_cons]; omega) _ hlonger rfl
    intro frames hhalting
    constructor
    intro place hmoves
    cases hmoves with
    | leave hleads => exact hhalting.lead (hpassable _ hleads)
    | enter hleads => exact (hhalting.cons hpassable).lead (hpassable _ hleads)

theorem halting_frames (hflow : flow.Consistent)
    (hframes : ∀ frame ∈ frames, flow.Rooted frame.block) : Halting flow ⟨frames, none⟩ := by
  induction frames with
  | nil =>
    constructor
    intro place hmoves
    cases hmoves
  | cons frame frames ih =>
    obtain ⟨hframe, hframes⟩ := List.forall_mem_cons.1 hframes
    exact (ih hframes).cons fun next hleads target htarget =>
      passable hflow (hframe.leads hleads target htarget)

/-- A run ends wherever it is among blocks that can be reached from the start blocks. -/
theorem halting (hflow : flow.Consistent) {place : Place} (hplace : place.Rooted flow) :
    Halting flow place :=
  (halting_frames hflow hplace.frames).lead fun target htarget =>
    passable hflow (hplace.next target htarget)

/-- A run never leaves the blocks that can be reached from the start blocks. -/
theorem Moves.rooted {place after : Place} (hmoves : Moves flow place after)
    (hplace : place.Rooted flow) : after.Rooted flow := by
  cases hmoves with
  | leave hleads => exact ⟨hplace.frames, (hplace.next _ rfl).leads hleads⟩
  | enter hleads =>
    have hblock := hplace.next _ rfl
    exact ⟨List.forall_mem_cons.2 ⟨hblock, hplace.frames⟩, hblock.leads hleads⟩
  | round hleads hafter hless =>
    obtain ⟨hframe, hframes⟩ := List.forall_mem_cons.1 hplace.frames
    exact ⟨List.forall_mem_cons.2 ⟨hafter ▸ hframe, hframes⟩, hframe.leads hleads⟩
  | finish hleads =>
    obtain ⟨hframe, hframes⟩ := List.forall_mem_cons.1 hplace.frames
    exact ⟨hframes, hframe.leads hleads⟩

end Preview

end DialogGraph
