import DialogGraph.Proofs.Preview.Visits

/-!
# What visits tell

Those who watch a preview are told of its steps by the run, never by a visit to a block or by an
answer: whatever these do, and whether they fail or not, the trace is the same after them.
-/

namespace DialogGraph.Preview

variable {α : Type} {trace : Array Trace}

/-- An action, begun with the given trace, that leaves the trace as it is. -/
abbrev Silent (trace : Array Trace) (act : Act α) : Prop := Keeps Aspect.trace trace act

/-- Waiting does not show in the trace. -/
theorem silent_of_settles {awaited : Option Waiting} {visit : Visit}
    (hsettles : Settles Aspect.trace awaited trace visit) : Silent trace visit := by
  intro session htrace
  have hafter := hsettles session htrace
  rcases hran : visit session with ⟨failure | _ | port, after⟩ <;> rw [hran] at hafter
  · exact hafter
  · exact hafter.2
  · exact hafter

theorem loopPort_silent (plan : Loop.Plan) (frame : Loop.Frame) :
    Silent trace (Visit.loopPort plan frame) := by
  simp only [Visit.loopPort]
  apply Ends.look
  intro session htrace
  apply Keeps.bind (Keeps.liftLoop _)
  rintro (_ | ⟨next, scope⟩)
  · exact fun _ _ => htrace
  · exact fun _ _ => htrace

theorem loop_silent (id : String) (settings : LoopSettings) :
    Silent trace (Visit.loop id settings) := by
  simp only [Visit.loop]
  apply Ends.look
  intro session htrace
  apply Keeps.bind (Keeps.liftText _)
  intro frame
  have hport : Silent trace (Visit.loopPort (Loop.planOf settings) frame >>= leave) :=
    Keeps.bind (loopPort_silent _ _) fun _ => Keeps.pure _
  exact fun _ _ => hport _ htrace

/-- No visit tells anything. -/
theorem visit_silent {world : World} {id : String} {config : Config} {visit : Visit}
    (hvisit : visit? world id config = some visit) : Silent trace visit := by
  by_cases hloop : config.kind = .loop
  · obtain ⟨kind, settings⟩ := config
    obtain rfl : kind = .loop := hloop
    obtain rfl := Option.some.inj hvisit
    exact loop_silent id settings
  · exact silent_of_settles (visit_settles hvisit hloop)

/-- No answer to a text tells anything. -/
theorem answer_silent {config : Config} {answer : String → Visit}
    (hanswer : answer? config = some answer) (text : String) : Silent trace (answer text) :=
  silent_of_settles (answer_settles hanswer rfl text).2

/-- No answer to a press tells anything. -/
theorem press_silent {id : String} {config : Config} {press : String → Visit}
    (hpress : press? id config = some press) (tag : String) : Silent trace (press tag) :=
  silent_of_settles (press_settles hpress rfl tag).2

end DialogGraph.Preview
