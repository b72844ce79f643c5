import DialogGraph.Proofs.Preview.Steps
import DialogGraph.Proofs.Workspace

/-!
# The course of a conversation

An event is what the user does and all that the preview does about it, step after step, until the
conversation ends there, waits, or breaks off. `Proceeds` tells how far an event may have come. A run
may be held up before any of its visits and be released later.

`Rests` tells which conversations there are between two events. It is told how an event may stop, as
some properties of conversations survive an event that breaks off, and some do not.
-/

namespace DialogGraph.Preview

variable (world : Journal → World) (flow : Flow)

/-- How far an event may have come that begins as told. -/
inductive Proceeds (begun : Session × Progress) : Session × Progress → Prop
  | refl : Proceeds begun begun
  | step {session : Session} {next : Option String} (gated : Bool)
      (hbefore : Proceeds begun (session, .going next)) :
      Proceeds begun (step ⟨world, flow, gated⟩ session next)
  | release {session : Session} {held : Held} {block : Block}
      (hbefore : Proceeds begun (session, .held held)) (hblock : held.block? flow = some block) :
      Proceeds begun (visitBlock (world session.journal) session block)

def Progress.Ended : Progress → Prop
  | .ended => True
  | _ => False

/-- An event that has come to its end, in good order or not. -/
def Progress.Over : Progress → Prop
  | .ended | .broken _ => True
  | _ => False

instance : DecidablePred Progress.Ended
  | .ended => isTrue trivial
  | .going _ | .held _ | .broken _ => isFalse id

instance : DecidablePred Progress.Over
  | .ended | .broken _ => isTrue trivial
  | .going _ | .held _ => isFalse id

/-- The conversations between two events, when every event since the beginning has stopped as
told. -/
inductive Rests (stopped : Progress → Prop) : Session → Prop
  | fresh (session : Session) : Rests stopped session.restart
  | event {session after : Session} {progress : Progress} (occasion : Occasion)
      (hrests : Rests stopped session)
      (hproceeds : Proceeds world flow (occasion.begin flow session) (after, progress))
      (hstopped : stopped progress) : Rests stopped after

variable {world flow}

/-- A run is a part of an event. -/
theorem proceeds_run {setting : Setting} {begun : Session × Progress} (steps : Nat)
    {session : Session} {progress : Progress}
    (hbefore : Proceeds setting.world setting.flow begun (session, progress)) :
    Proceeds setting.world setting.flow begun (run setting steps session progress) := by
  induction steps generalizing session progress with
  | zero => exact hbefore
  | succ steps ih =>
    cases progress with
    | going next => exact ih (hbefore.step setting.gated)
    | _ => exact hbefore

/-- What holds when an event begins, and is kept by steps and releases, holds all through it. -/
theorem Proceeds.induct {invariant : Session × Progress → Prop} {begun outcome : Session × Progress}
    (hproceeds : Proceeds world flow begun outcome) (hbegun : invariant begun)
    (hstep : ∀ {session : Session} {next : Option String} {gated : Bool}
      {outcome : Session × Progress}, invariant (session, .going next) →
      Stepped ⟨world, flow, gated⟩ session next outcome → invariant outcome)
    (hrelease : ∀ {session : Session} {held : Held} {block : Block}, invariant (session, .held held) →
      held.block? flow = some block →
      invariant (visitBlock (world session.journal) session block)) :
    invariant outcome := by
  induction hproceeds with
  | refl => exact hbegun
  | step gated _ ih => exact hstep ih (stepped_step _ _ _)
  | release _ hblock ih => exact hrelease ih hblock

/-- The preview of a flow that is made by edits, in a world where nothing happens. -/
def quietSetting (edits : List Edit) : Setting where
  world := fun _ => { complete := fun _ => .ok "", sleep := fun _ => .ok () }
  flow := (Workspace.run ⟨Flow.empty, History.empty 50 (by decide)⟩ edits).flow

/-- A flow that is made by edits is well-formed. -/
theorem wellFormed_quietSetting (edits : List Edit) : (quietSetting edits).flow.WellFormed :=
  (Workspace.run_sound .empty edits).toWellFormed

end DialogGraph.Preview
