import DialogGraph.Proofs.Preview.Course

/-!
# Previews come back

In a well-formed flow a run stops after finitely many steps, whatever the user sends and however
the world outside answers. The invariant is that a conversation remembers only blocks that can be
reached from a start block: the block where it is and the blocks of the loops under way. Every step
keeps to it and moves the run as `Moves` tells; and there are no endless runs of such moves.
-/

namespace DialogGraph.Preview

/-- The conversation after some occasions, one after the other, if the given number of steps is
enough for each of the runs. -/
def playThrough (setting : Setting) (steps : Nat) : Session → List Occasion → Option Session
  | session, [] => some session
  | session, occasion :: rest =>
    let begun := occasion.begin setting.flow session
    match run setting steps begun.1 begun.2 with
    | (_, .going _) => none
    | (session, _) => playThrough setting steps session rest

/-- Every run of a conversation stops by itself: from some number of steps on, more steps make no
difference. -/
def ComesBack (setting : Setting) (session : Session) (occasions : List Occasion) : Prop :=
  ∃ steps after, ∀ more, steps ≤ more → playThrough setting more session occasions = some after

/-- All that a conversation remembers of its flow can be reached from the start blocks. -/
structure Grounded (flow : Flow) (session : Session) : Prop where
  current : ∀ id, session.current = some id → flow.Rooted id
  frames : ∀ frame ∈ session.frames, flow.Rooted frame.block

/-- What comes of a step from a place: the conversation is grounded, and the run has moved, if it
goes on. -/
structure Onward (flow : Flow) (place : Place) (outcome : Session × Progress) : Prop where
  grounded : Grounded flow outcome.1
  moves : ∀ next, outcome.2 = .going next → Moves flow place ⟨outcome.1.frames, next⟩

def Progress.Stopped (progress : Progress) : Prop := ∀ next, progress ≠ .going next

variable {flow : Flow} {setting : Setting} {session : Session} {block : Block}

/-! ### Steps -/

theorem grounded_of_seat {seat : Seat} (hseat : session.seat = seat)
    (hcurrent : ∀ id, seat.current = some id → flow.Rooted id)
    (hframes : ∀ frame ∈ seat.frames, flow.Rooted frame.block) : Grounded flow session := by
  obtain rfl := hseat
  exact ⟨hcurrent, hframes⟩

theorem roundsLeft_eq {frame : Loop.Frame} (hblock : flow.block? frame.block = some block) :
    roundsLeft flow frame = Loop.remaining (loopPlan block.config) frame := by
  rw [roundsLeft, hblock]

/-- What going on with the innermost loop comes to is grounded, and leads away from the loop. -/
theorem Continued.onward {outcome : Session × Progress} (hflow : flow.Consistent)
    (hsession : Grounded flow session) (hcontinued : Continued flow session outcome) :
    Onward flow ⟨session.frames, none⟩ outcome := by
  have hleads {frame : Loop.Frame} {block : Block} (hblock : flow.block? frame.block = some block)
      (port : String) : flow.Leads frame.block (block.targetOf port) := by
    rw [← Flow.id_of_block? hblock]
    exact hflow.leads_targetOf (Flow.mem_of_block? hblock) port
  cases hcontinued with
  | idle hframes hseat => exact ⟨grounded_of_seat hseat nofun nofun, nofun⟩
  | @lost frame rest hframes hblock =>
    obtain ⟨hframe, hrest⟩ := List.forall_mem_cons.1 (hframes ▸ hsession.frames)
    refine ⟨⟨hsession.current, hrest⟩, ?_⟩
    rintro next ⟨rfl⟩
    rw [hframes]
    exact .finish Flow.leads_none
  | broken => exact ⟨hsession, nofun⟩
  | @finished frame rest block after hframes hblock hseat =>
    obtain ⟨hframe, hrest⟩ := List.forall_mem_cons.1 (hframes ▸ hsession.frames)
    refine ⟨grounded_of_seat hseat hsession.current hrest, ?_⟩
    rintro next ⟨rfl⟩
    rw [hframes, show after.frames = rest from congrArg Seat.frames hseat]
    exact .finish (hleads hblock _)
  | @again frame next rest block after hframes hblock hnext hless hseat =>
    obtain ⟨hframe, hrest⟩ := List.forall_mem_cons.1 (hframes ▸ hsession.frames)
    refine ⟨grounded_of_seat hseat hsession.current
      (List.forall_mem_cons.2 ⟨hnext ▸ hframe, hrest⟩), ?_⟩
    rintro target ⟨rfl⟩
    rw [hframes, show after.frames = next :: rest from congrArg Seat.frames hseat]
    apply Moves.round (hleads hblock _) hnext
    rwa [roundsLeft_eq hblock, roundsLeft_eq (hnext ▸ hblock)]

/-- What a visit comes to is grounded, and leads away from the block. -/
theorem Visited.onward {seat : Seat} {outcome : Session × Progress} (hflow : flow.Consistent)
    (hblock : block ∈ flow.blocks) (hrooted : flow.Rooted block.id)
    (hcurrent : ∀ id, seat.current = some id → flow.Rooted id)
    (hframes : ∀ frame ∈ seat.frames, flow.Rooted frame.block)
    (hvisited : Visited block seat outcome) : Onward flow ⟨seat.frames, some block.id⟩ outcome := by
  cases hvisited with
  | failed hexcused hopens =>
    refine ⟨⟨?_, ?_⟩, nofun⟩
    · intro id hid
      rw [hexcused.current] at hid
      cases hid
    · rcases hopens with hsame | ⟨frame, hframe, hmore⟩
      · rwa [hsame]
      · rw [hmore]
        exact List.forall_mem_cons.2 ⟨hframe ▸ hrooted, hframes⟩
  | parked hawaited hseat => exact ⟨grounded_of_seat hseat hcurrent hframes, nofun⟩
  | @passed after port hport hseat =>
    refine ⟨grounded_of_seat hseat hcurrent hframes, ?_⟩
    rintro next ⟨rfl⟩
    rw [show after.frames = seat.frames from congrArg Seat.frames hseat]
    exact .leave (hflow.leads_targetOf hblock port)
  | @looped after frame hkind hframe hseat =>
    refine ⟨grounded_of_seat hseat hcurrent
      (List.forall_mem_cons.2 ⟨hframe ▸ hrooted, hframes⟩), ?_⟩
    rintro next ⟨rfl⟩
    rw [show after.frames = frame :: seat.frames from congrArg Seat.frames hseat, ← hframe]
    apply Moves.enter
    rw [hframe]
    exact hflow.leads_targetOf hblock bodyPort

/-- What a step comes to is grounded, and moves the run if it goes on. -/
theorem Stepped.onward {next : Option String} {outcome : Session × Progress}
    (hflow : setting.flow.Consistent) (hsession : Grounded setting.flow session)
    (hnext : ∀ target, next = some target → setting.flow.Rooted target)
    (hstepped : Stepped setting session next outcome) :
    Onward setting.flow ⟨session.frames, next⟩ outcome := by
  have hcome {id : String} (hid : setting.flow.Rooted id) :
      ∀ other, some id = some other → setting.flow.Rooted other := by
    rintro other ⟨rfl⟩
    exact hid
  cases hstepped with
  | continued hcontinued => exact hcontinued.onward hflow hsession
  | missing hblock hseat => exact ⟨grounded_of_seat hseat nofun hsession.frames, nofun⟩
  | held hblock => exact ⟨⟨hcome (hnext _ rfl), hsession.frames⟩, nofun⟩
  | entersStart hblock hkind => exact ⟨⟨hcome (hnext _ rfl), hsession.frames⟩, nofun⟩
  | visited hblock hvisited =>
    have hrooted := hnext _ rfl
    exact hvisited.onward hflow (Flow.mem_of_block? hblock) hrooted (hcome hrooted) hsession.frames

/-! ### Runs -/

theorem run_of_stopped (setting : Setting) (steps : Nat) (session : Session) {progress : Progress}
    (hstopped : progress.Stopped) :
    run setting steps session progress = (session, progress) := by
  cases steps with
  | zero => rfl
  | succ steps =>
    cases progress with
    | going next => exact absurd rfl (hstopped next)
    | _ => rfl

theorem run_succ (setting : Setting) (steps : Nat) (session : Session) (next : Option String) :
    run setting (steps + 1) session (.going next) =
      run setting steps (step setting session next).1 (step setting session next).2 := rfl

/-- More steps than enough make no difference. -/
theorem run_of_le {steps more : Nat} {session : Session} {progress : Progress}
    (hstopped : (run setting steps session progress).2.Stopped) (hle : steps ≤ more) :
    run setting more session progress = run setting steps session progress := by
  induction steps generalizing more session progress with
  | zero => exact run_of_stopped setting more session hstopped
  | succ steps ih =>
    obtain ⟨extra, rfl⟩ := Nat.exists_eq_add_of_lt hle
    cases progress with
    | going next =>
      rw [run_succ] at hstopped
      rw [run_succ, run_succ]
      exact ih hstopped (Nat.le_add_right steps extra)
    | _ => rfl

/-- A run stops if no run goes on for ever from its place. -/
theorem run_stops (hflow : setting.flow.Consistent) {place : Place}
    (hhalting : Halting setting.flow place) (hplace : place.Rooted setting.flow)
    (hsession : Grounded setting.flow session) (hframes : session.frames = place.frames) :
    ∃ steps, (run setting steps session (.going place.next)).2.Stopped ∧
      Grounded setting.flow (run setting steps session (.going place.next)).1 := by
  induction hhalting generalizing session with
  | intro place _ ih =>
    obtain ⟨hafter, hmoves⟩ :=
      (stepped_step setting session place.next).onward hflow hsession hplace.next
    by_cases hstopped : (step setting session place.next).2.Stopped
    · exact ⟨1, hstopped, hafter⟩
    · simp only [Progress.Stopped, ne_eq, not_forall, not_not] at hstopped
      obtain ⟨onward, honward⟩ := hstopped
      have hmove := hmoves onward honward
      rw [hframes] at hmove
      obtain ⟨steps, hsteps⟩ := ih _ hmove (hmove.rooted hplace) hafter rfl
      refine ⟨steps + 1, ?_⟩
      rw [run_succ, honward]
      exact hsteps

/-! ### Occasions -/

/-- What a run has to begin with so that it stops. -/
structure Ready (flow : Flow) (begun : Session × Progress) : Prop where
  session : Grounded flow begun.1
  next : ∀ next, begun.2 = .going next → ∀ target, next = some target → flow.Rooted target

theorem ready_begin (hflow : flow.Consistent) (session : Session) :
    Ready flow (begin flow session) := by
  constructor
  · exact grounded_of_seat (begin_seat flow session) nofun nofun
  · intro next hnext
    rw [begin_progress] at hnext
    cases hstarts : flow.starts with
    | nil =>
      rw [hstarts] at hnext
      cases hnext
    | cons start rest =>
      rw [hstarts] at hnext
      cases hnext
      have hstart : start ∈ flow.starts := hstarts ▸ List.mem_cons_self
      exact (Flow.rooted_of_start hstart).leads
        (hflow.leads_targetOf (List.mem_filter.1 hstart).1 defaultPort)

/-- What comes of a step from a place among blocks that can be reached lets the run go on. -/
theorem Onward.ready {place : Place} {outcome : Session × Progress} (hplace : place.Rooted flow)
    (honward : Onward flow place outcome) : Ready flow outcome :=
  ⟨honward.grounded, fun next hnext => ((honward.moves next hnext).rooted hplace).next⟩

theorem Begun.ready {begun : Session × Progress} (hflow : flow.Consistent)
    (hsession : Grounded flow session) (hbegun : Begun flow session begun) : Ready flow begun := by
  cases hbegun with
  | anew => exact ready_begin hflow session
  | unheeded hseat => exact ⟨grounded_of_seat hseat hsession.current hsession.frames, nofun⟩
  | answered hcurrent hawaited hwaiting hvisited =>
    obtain ⟨id, hid, hfound⟩ := Option.bind_eq_some_iff.1 hcurrent
    obtain rfl := Flow.id_of_block? hfound
    have hrooted := hsession.current _ (Option.filter_eq_some_iff.1 hid).1
    have honward := hvisited.onward hflow (Flow.mem_of_block? hfound) hrooted hsession.current
      hsession.frames
    refine honward.ready ⟨hsession.frames, ?_⟩
    rintro target ⟨rfl⟩
    exact hrooted

theorem run_occasion (hflow : setting.flow.Consistent) {begun : Session × Progress}
    (hready : Ready setting.flow begun) :
    ∃ steps, (run setting steps begun.1 begun.2).2.Stopped ∧
      Grounded setting.flow (run setting steps begun.1 begun.2).1 := by
  obtain ⟨session, progress⟩ := begun
  cases progress with
  | going next =>
    have hplace : Place.Rooted setting.flow ⟨session.frames, next⟩ :=
      ⟨hready.session.frames, hready.next next rfl⟩
    exact run_stops hflow (halting hflow hplace) hplace hready.session rfl
  | _ => exact ⟨0, nofun, hready.session⟩

theorem playThrough_cons {steps : Nat} (occasion : Occasion) (rest : List Occasion)
    (hstopped : (run setting steps (occasion.begin setting.flow session).1
      (occasion.begin setting.flow session).2).2.Stopped) :
    playThrough setting steps session (occasion :: rest) =
      playThrough setting steps (run setting steps (occasion.begin setting.flow session).1
        (occasion.begin setting.flow session).2).1 rest := by
  rw [playThrough]
  rcases hran : run setting steps (occasion.begin setting.flow session).1
    (occasion.begin setting.flow session).2 with ⟨after, progress⟩
  rw [hran] at hstopped
  cases progress with
  | going next => exact absurd rfl (hstopped next)
  | _ => rfl

/-- An occasion that is over as soon as it has begun. -/
theorem playThrough_of_ended {steps : Nat} (occasion : Occasion) {after : Session}
    (hended : occasion.begin setting.flow session = (after, .ended)) (rest : List Occasion) :
    playThrough setting steps session (occasion :: rest) =
      playThrough setting steps after rest := by
  have hran : run setting steps after .ended = (after, .ended) :=
    run_of_stopped setting steps after nofun
  rw [playThrough, hended, hran]

theorem comesBack_cons (hflow : setting.flow.Consistent) {occasion : Occasion}
    {rest : List Occasion} (hready : Ready setting.flow (occasion.begin setting.flow session))
    (hrest : ∀ {after : Session}, Grounded setting.flow after → ComesBack setting after rest) :
    ComesBack setting session (occasion :: rest) := by
  obtain ⟨first, hstopped, hgrounded⟩ := run_occasion hflow hready
  obtain ⟨later, after, hafter⟩ := hrest hgrounded
  refine ⟨max first later, after, ?_⟩
  intro more hmore
  have hran := run_of_le hstopped (le_trans (le_max_left _ _) hmore)
  rw [← hran] at hstopped
  rw [playThrough_cons occasion rest hstopped, hran]
  exact hafter more (le_trans (le_max_right _ _) hmore)

theorem comesBack_of_grounded (hflow : setting.flow.Consistent)
    (hsession : Grounded setting.flow session) (occasions : List Occasion) :
    ComesBack setting session occasions := by
  induction occasions generalizing session with
  | nil => exact ⟨0, session, fun _ _ => rfl⟩
  | cons occasion rest ih =>
    have hready := (begun_begin setting.flow session occasion).ready hflow hsession
    exact comesBack_cons hflow hready ih

/-- A preview of a well-formed flow always comes back: once the conversation is begun anew, every
run stops after finitely many steps, whatever the user does and however the world outside answers. -/
theorem comesBack_start (setting : Setting) (hflow : setting.flow.WellFormed) (session : Session)
    (occasions : List Occasion) : ComesBack setting session (.start :: occasions) :=
  comesBack_cons hflow.toConsistent (ready_begin hflow.toConsistent session) fun hgrounded =>
    comesBack_of_grounded hflow.toConsistent hgrounded occasions

/-- A loop of two rounds around a message, and a question after it. -/
def loopEdits : List Edit :=
  [.create (.named (.text "start")) none (.int 0) (.int 0),
    .create (.named (.text "loop")) none (.int 1) (.int 0), .update "block_2" "count" (.int 2),
    .create (.named (.text "message")) none (.int 2) (.int 0), .update "block_3" "text" (.text "Hi"),
    .create (.named (.text "question")) none (.int 2) (.int 1),
    .update "block_4" "question" (.text "Why?"),
    .connect "block_1" "default" "block_2" none, .connect "block_2" "loop_body" "block_3" none,
    .connect "block_2" "default" "block_4" none]

theorem comesBack_loopEdits :
    ComesBack (quietSetting loopEdits) {} [.start, .text "So."] ∧
      (playThrough (quietSetting loopEdits) 9 {} [.start, .text "So."]).map Session.botTexts =
        some ["Hi", "Hi", "Why?"] := by
  constructor
  · exact comesBack_start _ (wellFormed_quietSetting loopEdits) {} [.text "So."]
  · decide +kernel

end DialogGraph.Preview
