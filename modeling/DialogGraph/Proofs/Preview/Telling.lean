import DialogGraph.Proofs.Preview.Course
import DialogGraph.Proofs.Preview.Silence

/-!
# What an event tells

Between two events nobody is told anything, so what an event tells is what it adds to the trace.
Here this is said of each part of an event: of how it begins, of a visit to a block, and of going on
with a loop.
-/

namespace DialogGraph.Preview

def Session.told (session : Session) : List Trace := session.journal.trace.toList

/-- What is told when a block is left: that an edge is followed, if there is one at the port. -/
def crossing (block : Block) (port : String) : List Trace :=
  (block.targetOf port).toList.map fun target => .followed block.id port target

variable {flow : Flow} {world : World} {session : Session} {block : Block} {visit : Visit}

@[simp]
theorem Session.told_tell (session : Session) (event : Trace) :
    (session.tell event).told = session.told ++ [event] := by
  simp [told, tell]

theorem follow_told (session : Session) (block : Block) (port : String) :
    (follow session block port).1.told = session.told ++ crossing block port := by
  rw [follow, crossing]
  cases block.targetOf port <;> simp

theorem told_of_silent {after : Session} {result : Except Failure (Option String)}
    (hsilent : ∀ {trace}, Silent trace visit) (hran : visit session = (result, after)) :
    after.told = session.told := by
  have htrace := hsilent session rfl
  rw [hran] at htrace
  exact congrArg Array.toList htrace

/-- A failure at a block is told, and the conversation waits for nothing. -/
theorem guarded_told {failure : Failure} {failed : Session} (id : String)
    (hsilent : ∀ {trace}, Silent trace visit) (hran : visit session = (.error failure, failed)) :
    ∃ after, guarded id visit session = (after, none) ∧ after.waiting = none ∧
      after.told = session.told ++ [.failed id failure.message] := by
  rw [← told_of_silent hsilent hran, guarded, hran]
  exact ⟨_, rfl, rfl, Session.told_tell failed _⟩

/-! ### Visits -/

/-- A visit that succeeds leaves the conversation where it is: waiting, if the visit stays. -/
def Sits (session : Session) : Except Failure (Option String) × Session → Prop
  | (.error _, _) => True
  | (.ok none, after) => after.current = session.current ∧ after.waiting.isSome
  | (.ok (some _), after) => after.waiting = session.waiting

theorem visit_sits (hvisit : visit? world block.id block.config = some visit) (session : Session) :
    Sits session (visit session) := by
  by_cases hloop : block.kind = .loop
  · rcases block with ⟨id, ⟨kind, settings⟩, x, y, input, outputs⟩
    obtain rfl : kind = .loop := hloop
    obtain rfl := Option.some.inj hvisit
    have hlooped := loop_looped id settings session rfl
    rcases hran : Visit.loop id settings session with ⟨failure | _ | port, after⟩ <;>
      rw [hran] at hlooped
    · trivial
    · exact hlooped.elim
    · rcases hlooped with ⟨-, hseat⟩ | ⟨-, frame, -, hseat⟩
      · exact congrArg Seat.waiting hseat
      · exact congrArg Seat.waiting hseat
  · have hsettled : Settled Aspect.seat block.kind.awaited session.seat _ _ :=
      visit_settles hvisit hloop session rfl
    rcases hran : visit session with ⟨failure | _ | port, after⟩ <;> rw [hran] at hsettled
    · trivial
    · obtain ⟨hawaited, hseat⟩ := hsettled
      have hwaiting : after.waiting = block.config.kind.awaited := congrArg Seat.waiting hseat
      exact ⟨congrArg Seat.current hseat, hwaiting ▸ hawaited⟩
    · exact congrArg Seat.waiting hsettled

/-- What a visit to a block comes to, and what it tells. -/
inductive Reports (world : World) (block : Block) (session : Session) :
    Session × Progress → Prop
  | failed {after : Session} {visit : Visit} {failure : Failure}
      (hvisit : visit? world block.id block.config = some visit)
      (hfails : (visit session).1 = .error failure) (hwaiting : after.waiting = none)
      (htold : after.told = session.told ++ [.failed block.id failure.message]) :
      Reports world block session (after, .ended)
  | parked {after : Session} {waiting : Waiting} (hcurrent : after.current = session.current)
      (hwaiting : after.waiting = some waiting)
      (htold : after.told = session.told ++ [.suspended block.id waiting]) :
      Reports world block session (after, .ended)
  | passed {after : Session} {port : String} (hwaiting : after.waiting = session.waiting)
      (htold : after.told = session.told ++ crossing block port) :
      Reports world block session (after, .going (block.targetOf port))

theorem reports_visitBlock (world : World) (session : Session) (hkind : block.kind ≠ .start) :
    Reports world block session (visitBlock world session block) := by
  cases hvisit : visit? world block.id block.config with
  | none => exact absurd ((visit?_eq_none_iff ..).1 hvisit) hkind
  | some visit =>
    have hsits := visit_sits hvisit session
    rw [visitBlock, hvisit]
    rcases hran : visit session with ⟨failure | _ | port, after⟩ <;> rw [hran] at hsits
    · obtain ⟨excused, hguarded, hwaiting, htold⟩ :=
        guarded_told block.id (visit_silent hvisit) hran
      simp only [hguarded, hwaiting]
      exact .failed hvisit (congrArg Prod.fst hran) hwaiting htold
    · obtain ⟨hcurrent, hparked⟩ := hsits
      obtain ⟨waiting, hwaiting⟩ := Option.isSome_iff_exists.1 hparked
      simp only [guarded_of_ok block.id hran, hwaiting]
      refine .parked hcurrent hwaiting ?_
      rw [Session.told_tell, told_of_silent (visit_silent hvisit) hran]
    · simp only [guarded_of_ok block.id hran]
      rw [(follow_eq after block port).2]
      refine .passed ?_ ?_
      · exact (congrArg Seat.waiting (follow_eq after block port).1).trans hsits
      · rw [follow_told, told_of_silent (visit_silent hvisit) hran]

/-! ### Loops under way -/

/-- What going on with the innermost loop comes to, and what it tells. -/
inductive Resumes (flow : Flow) (session : Session) : Session × Progress → Prop
  | idle {after : Session} (hframes : session.frames = [])
      (hwaiting : after.waiting = session.waiting) (htold : after.told = session.told ++ [.idle]) :
      Resumes flow session (after, .ended)
  | lost {after : Session} (hframes : session.frames ≠ [])
      (hwaiting : after.waiting = session.waiting) (htold : after.told = session.told) :
      Resumes flow session (after, .going none)
  | broken {after : Session} {breakdown : Breakdown} (htold : after.told = session.told) :
      Resumes flow session (after, .broken breakdown)
  | went {after : Session} {block : Block} {port : String} (hframes : session.frames ≠ [])
      (hblock : flow.block? block.id = some block) (hwaiting : after.waiting = session.waiting)
      (htold : after.told = session.told ++ crossing block port) :
      Resumes flow session (after, .going (block.targetOf port))

theorem resumes_continueLoop (flow : Flow) (session : Session) :
    Resumes flow session (continueLoop flow session) := by
  have hwent {after : Session} {block : Block} (port : String) (hframes : session.frames ≠ [])
      (hblock : flow.block? block.id = some block) (hwaiting : after.waiting = session.waiting)
      (htold : after.told = session.told) : Resumes flow session
        ((follow after block port).1, .going (follow after block port).2) := by
    rw [(follow_eq after block port).2]
    refine .went hframes hblock ?_ (by rw [follow_told, htold])
    exact (congrArg Seat.waiting (follow_eq after block port).1).trans hwaiting
  cases hframes : session.frames with
  | nil =>
    rw [continueLoop, hframes]
    exact .idle hframes rfl (Session.told_tell _ _)
  | cons frame rest =>
    have hsome : session.frames ≠ [] := hframes ▸ List.cons_ne_nil frame rest
    cases hblock : flow.block? frame.block with
    | none =>
      simp only [continueLoop, hframes, hblock]
      exact .lost hsome rfl rfl
    | some block =>
      have hthere : flow.block? block.id = some block := Flow.id_of_block? hblock ▸ hblock
      rcases loopPort_cases (loopPlan block.config) session hframes with
        ⟨fault, -, hport⟩ | hport | ⟨next, bindings, -, -, hport⟩
      all_goals simp only [continueLoop, hframes, hblock, hport]
      · exact .broken rfl
      · exact hwent _ hsome hthere rfl rfl
      · exact hwent _ hsome hthere rfl rfl

/-! ### Occasions -/

/-- The answer of a block on an occasion, if it gives one. -/
def Occasion.answer? (block : Block) : Occasion → Option Visit
  | .start => none
  | .text said => (Preview.answer? block.config).map fun answer => answer said
  | .press tag => (press? block.id block.config).map fun press => press tag

/-- The conversation when the user has been heard. -/
def Occasion.heard (session : Session) : Occasion → Session
  | .start => session
  | .text said => session.enter { sender := .user, text := said }
  | .press tag => session.enter { sender := .user, text := "[" ++ tag ++ "]" }

/-- What an occasion begins with, and what it tells. -/
inductive Opens (flow : Flow) (session : Session) (occasion : Occasion) :
    Session × Progress → Prop
  | quiet {after : Session} (htold : after.told = session.told) :
      Opens flow session occasion (after, .ended)
  | anew {after : Session} {start : Block} {rest : List Block} (hstarts : flow.starts = start :: rest)
      (hseat : after.seat = .empty) (htold : after.told = session.told ++ [.started start.id]) :
      Opens flow session occasion (after, .going (start.targetOf defaultPort))
  | left {after : Session} {block : Block} {port : String}
      (hblock : currentBlock? flow session = some block) (hwaiting : after.waiting = none)
      (htold : after.told = session.told ++ crossing block port) :
      Opens flow session occasion (after, .going (block.targetOf port))
  | failed {after : Session} {block : Block} {answer : Visit} {failure : Failure}
      (hblock : currentBlock? flow session = some block)
      (hanswer : occasion.answer? block = some answer)
      (hfails : (answer (occasion.heard session)).1 = .error failure)
      (hwaiting : after.waiting = none)
      (htold : after.told = session.told ++ [.failed block.id failure.message]) :
      Opens flow session occasion (after, .ended)

theorem told_begin (flow : Flow) (session : Session) :
    (begin flow session).1.told =
      session.told ++ (flow.starts.head?.map fun start => Trace.started start.id).toList := by
  rw [begin]
  cases flow.starts with
  | nil => exact (List.append_nil _).symm
  | cons start rest =>
    have htold : (session.restart.tell (.started start.id)).told =
        session.told ++ [.started start.id] := Session.told_tell _ _
    rcases start with ⟨id, ⟨kind, settings⟩, x, y, input, outputs⟩
    cases kind
    case start =>
      by_cases hempty : (StartSettings.message settings).isEmpty
      · simp only [hempty, if_true]
        exact htold
      · simp only [hempty, Bool.false_eq_true, if_false]
        exact htold
    all_goals exact htold

theorem opens_begin (flow : Flow) (session : Session) (occasion : Occasion) :
    Opens flow session occasion (begin flow session) := by
  have htold := told_begin flow session
  have hprogress := begin_progress flow session
  rw [← Prod.eta (begin flow session)]
  cases hstarts : flow.starts with
  | nil =>
    simp only [hstarts, List.head?_nil, Option.map_none, Option.toList_none,
      List.append_nil] at htold hprogress
    rw [hprogress]
    exact .quiet htold
  | cons start rest =>
    simp only [hstarts, List.head?_cons, Option.map_some, Option.toList_some] at htold hprogress
    rw [hprogress]
    exact .anew hstarts (begin_seat flow session) htold

theorem opens_answerAt {occasion : Occasion} {answer : Visit}
    (hblock : currentBlock? flow session = some block)
    (hanswer : occasion.answer? block = some answer) (hsilent : ∀ {trace}, Silent trace answer) :
    Opens flow session occasion (answerAt block answer (occasion.heard session)) := by
  have hheard : (occasion.heard session).told = session.told := by
    cases occasion <;> rfl
  rw [answerAt]
  rcases hran : answer (occasion.heard session) with ⟨failure | _ | port, after⟩
  · obtain ⟨excused, hguarded, hwaiting, htold⟩ := guarded_told block.id hsilent hran
    rw [hguarded]
    exact .failed hblock hanswer (congrArg Prod.fst hran) hwaiting (hheard ▸ htold)
  · rw [guarded_of_ok block.id hran]
    exact .quiet ((told_of_silent hsilent hran).trans hheard)
  · rw [guarded_of_ok block.id hran]
    obtain ⟨hseat, htarget⟩ := follow_eq { after with waiting := none } block port
    simp only [leaveBlock, htarget]
    refine .left hblock (congrArg Seat.waiting hseat) ?_
    rw [follow_told, ← hheard, ← told_of_silent hsilent hran]
    rfl

theorem opens_takeText (flow : Flow) (session : Session) (said : String) :
    Opens flow session (.text said) (takeText flow session said) := by
  rw [takeText]
  by_cases hstart : Text.trim said = "/start"
  · rw [if_pos hstart]
    exact opens_begin flow session _
  · rw [if_neg hstart]
    simp only
    split
    next block visit hwaiting hanswered =>
      obtain ⟨found, hblock, hmap⟩ := Option.bind_eq_some_iff.1 hanswered
      obtain ⟨answer, hanswer, hpair⟩ := Option.map_eq_some_iff.1 hmap
      obtain ⟨rfl, rfl⟩ := Prod.mk.inj hpair
      have hheard : Occasion.answer? found (.text said) = some (answer said) := by
        rw [Occasion.answer?, hanswer]
        rfl
      exact opens_answerAt hblock hheard (answer_silent hanswer said)
    next => exact .quiet rfl

theorem opens_takePress (flow : Flow) (session : Session) (tag : String) :
    Opens flow session (.press tag) (takePress flow session tag) := by
  rw [takePress]
  split
  next block visit hwaiting hpressed =>
    obtain ⟨found, hblock, hmap⟩ := Option.bind_eq_some_iff.1 hpressed
    obtain ⟨press, hpress, hpair⟩ := Option.map_eq_some_iff.1 hmap
    obtain ⟨rfl, rfl⟩ := Prod.mk.inj hpair
    have hheard : Occasion.answer? found (.press tag) = some (press tag) := by
      rw [Occasion.answer?, hpress]
      rfl
    exact opens_answerAt hblock hheard (press_silent hpress tag)
  next => exact .quiet rfl

theorem opens_occasion (flow : Flow) (session : Session) (occasion : Occasion) :
    Opens flow session occasion (occasion.begin flow session) := by
  cases occasion with
  | start => exact opens_begin flow session _
  | text said => exact opens_takeText flow session said
  | press tag => exact opens_takePress flow session tag

end DialogGraph.Preview
