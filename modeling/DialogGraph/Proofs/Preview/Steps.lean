import DialogGraph.Preview.Run
import DialogGraph.Proofs.Flow.Lookup
import DialogGraph.Proofs.Preview.Visits

/-!
# Steps of a preview

What a preview does at each turn is told here once and for all: what a visit to a block comes to,
what going on with the innermost loop comes to, and what an occasion, that is something that the
user does, begins with. Each is a relation between the conversation before and what comes of it, one
constructor for each way it can go; what holds of whole conversations is read off these.
-/

namespace DialogGraph.Preview

inductive Occasion where
  | start
  | text (said : String)
  | press (tag : String)

/-- What the conversation begins with on an occasion. -/
def Occasion.begin (flow : Flow) (session : Session) : Occasion → Session × Progress
  | .start => Preview.begin flow session
  | .text said => takeText flow session said
  | .press tag => takePress flow session tag

variable {flow : Flow} {session : Session} {block : Block} {seat : Seat}

/-! ### Visits -/

/-- A failure at a block is told, the user reads a note of it, and the conversation is nowhere. -/
structure Excused (id : String) (failure : Failure) (session : Session) : Prop where
  current : session.current = none
  waiting : session.waiting = none
  note : session.transcript.back? =
    some { sender := .system, text := "Error in " ++ id ++ ": " ++ failure.message }
  told : session.journal.trace.back? = some (.failed id failure.message)

/-- What a visit to a block comes to, begun in a seat where nothing is waited for. -/
inductive Visited (block : Block) (seat : Seat) : Session × Progress → Prop
  | failed {after : Session} {failure : Failure} (hexcused : Excused block.id failure after)
      (hframes : OpensAt block.id seat.frames after.frames) : Visited block seat (after, .ended)
  | parked {after : Session} {waiting : Waiting} (hawaited : block.kind.awaited = some waiting)
      (hseat : after.seat = { seat with waiting := some waiting }) :
      Visited block seat (after, .ended)
  | passed {after : Session} {port : String} (hport : block.kind = .loop → port ≠ bodyPort)
      (hseat : after.seat = seat) : Visited block seat (after, .going (block.targetOf port))
  | looped {after : Session} {frame : Loop.Frame} (hkind : block.kind = .loop)
      (hframe : frame.block = block.id)
      (hseat : after.seat = { seat with frames := frame :: seat.frames }) :
      Visited block seat (after, .going (block.targetOf bodyPort))

theorem follow_eq (session : Session) (block : Block) (port : String) :
    (follow session block port).1.seat = session.seat ∧
      (follow session block port).2 = block.targetOf port := by
  rw [follow]
  cases block.targetOf port with
  | none => exact ⟨rfl, rfl⟩
  | some target => exact ⟨rfl, rfl⟩

theorem guarded_of_error {visit : Visit} {failure : Failure} {failed : Session} (id : String)
    (hran : visit session = (.error failure, failed)) :
    ∃ excused, guarded id visit session = (excused, none) ∧ Excused id failure excused ∧
      excused.frames = failed.frames := by
  rw [guarded, hran]
  exact ⟨_, rfl, ⟨rfl, rfl, Array.back?_push, Array.back?_push⟩, rfl⟩

theorem guarded_of_ok {visit : Visit} {port : Option String} {after : Session} (id : String)
    (hran : visit session = (.ok port, after)) : guarded id visit session = (after, port) := by
  rw [guarded, hran]

theorem visit?_eq_none_iff (world : World) (id : String) (config : Config) :
    visit? world id config = none ↔ config.kind = .start := by
  obtain ⟨kind, settings⟩ := config
  cases kind <;> simp [visit?]

/-- Going on through a port is passing the block or entering its body. -/
theorem visited_follow {after : Session} {port : String}
    (hport : block.kind = .loop → port ≠ bodyPort) (hseat : after.seat = seat) :
    Visited block seat ((follow after block port).1, .going (follow after block port).2) := by
  obtain ⟨hfollow, htarget⟩ := follow_eq after block port
  rw [htarget]
  exact .passed hport (hfollow.trans hseat)

/-- A visit to any block but a start block. -/
theorem visited_visitBlock (world : World) (session : Session) (hkind : block.kind ≠ .start) :
    Visited block session.seat (visitBlock world session block) := by
  cases hvisit : visit? world block.id block.config with
  | none => exact absurd ((visit?_eq_none_iff ..).1 hvisit) hkind
  | some visit =>
    have hloop : block.kind = .loop →
        Ends Aspect.seat session.seat (Looped block.id session.seat) visit := by
      intro hloop
      rcases block with ⟨id, ⟨kind, settings⟩, x, y, input, outputs⟩
      obtain rfl : kind = .loop := hloop
      obtain rfl := Option.some.inj hvisit
      exact loop_looped id settings
    have hother : block.kind ≠ .loop →
        Settles Aspect.seat block.kind.awaited session.seat visit :=
      visit_settles hvisit
    rw [visitBlock, hvisit]
    rcases hran : visit session with ⟨failure | _ | port, after⟩
    · obtain ⟨excused, hguarded, hexcused, hframes⟩ := guarded_of_error block.id hran
      simp only [hguarded, hexcused.waiting]
      refine .failed hexcused ?_
      rw [hframes]
      by_cases hkind : block.kind = .loop
      · have hlooped := hloop hkind session rfl
        rw [hran] at hlooped
        exact hlooped
      · have hsettled := hother hkind session rfl
        rw [hran] at hsettled
        exact .inl (congrArg Seat.frames hsettled)
    · simp only [guarded_of_ok block.id hran]
      by_cases hkind : block.kind = .loop
      · have hlooped := hloop hkind session rfl
        rw [hran] at hlooped
        exact hlooped.elim
      · have hsettled := hother hkind session rfl
        rw [hran] at hsettled
        obtain ⟨hawaited, hseat⟩ := hsettled
        obtain ⟨waiting, hwaiting⟩ := Option.isSome_iff_exists.1 hawaited
        rw [hwaiting] at hseat
        have hafter : after.waiting = some waiting := congrArg Seat.waiting hseat
        simp only [hafter]
        exact .parked hwaiting hseat
    · simp only [guarded_of_ok block.id hran]
      by_cases hkind : block.kind = .loop
      · have hlooped := hloop hkind session rfl
        rw [hran] at hlooped
        rcases hlooped with ⟨rfl, hseat⟩ | ⟨rfl, frame, hframe, hseat⟩
        · exact visited_follow (fun _ => by decide) hseat
        · obtain ⟨hfollow, htarget⟩ := follow_eq after block bodyPort
          rw [htarget]
          exact .looped hkind hframe (hfollow.trans hseat)
      · have hsettled := hother hkind session rfl
        rw [hran] at hsettled
        exact visited_follow (fun hloop => absurd hloop hkind) hsettled

/-! ### Loops under way -/

/-- What going on with the innermost loop comes to. -/
inductive Continued (flow : Flow) (session : Session) : Session × Progress → Prop
  | idle {after : Session} (hframes : session.frames = [])
      (hseat : after.seat = ⟨none, session.waiting, []⟩) : Continued flow session (after, .ended)
  | lost {frame : Loop.Frame} {rest : List Loop.Frame} (hframes : session.frames = frame :: rest)
      (hblock : flow.block? frame.block = none) :
      Continued flow session ({ session with frames := rest }, .going none)
  | broken {frame : Loop.Frame} {rest : List Loop.Frame} {block : Block} {fault : Loop.Fault}
      (hframes : session.frames = frame :: rest) (hblock : flow.block? frame.block = some block)
      (hadvance : Loop.advance (loopPlan block.config) frame { bindings := session.bindings } =
        .error fault) :
      Continued flow session (session, .broken (.loop fault))
  | finished {frame : Loop.Frame} {rest : List Loop.Frame} {block : Block} {after : Session}
      (hframes : session.frames = frame :: rest) (hblock : flow.block? frame.block = some block)
      (hseat : after.seat = { session.seat with frames := rest }) :
      Continued flow session (after, .going (block.targetOf defaultPort))
  | again {frame next : Loop.Frame} {rest : List Loop.Frame} {block : Block} {after : Session}
      (hframes : session.frames = frame :: rest) (hblock : flow.block? frame.block = some block)
      (hnext : next.block = frame.block)
      (hless : Loop.remaining (loopPlan block.config) next <
        Loop.remaining (loopPlan block.config) frame)
      (hseat : after.seat = { session.seat with frames := next :: rest }) :
      Continued flow session (after, .going (block.targetOf bodyPort))

theorem continued_continueLoop (flow : Flow) (session : Session) :
    Continued flow session (continueLoop flow session) := by
  cases hframes : session.frames with
  | nil =>
    rw [continueLoop, hframes]
    exact .idle hframes rfl
  | cons frame rest =>
    cases hblock : flow.block? frame.block with
    | none =>
      simp only [continueLoop, hframes, hblock]
      exact .lost hframes hblock
    | some block =>
      rcases loopPort_cases (loopPlan block.config) session hframes with
        ⟨fault, hadvance, hport⟩ | hport | ⟨next, bindings, hnext, hless, hport⟩
      all_goals simp only [continueLoop, hframes, hblock, hport]
      · exact .broken hframes hblock hadvance
      · obtain ⟨hfollow, htarget⟩ := follow_eq { session with frames := rest } block defaultPort
        rw [htarget]
        exact .finished hframes hblock hfollow
      · obtain ⟨hfollow, htarget⟩ := follow_eq
          { session with frames := next :: rest, bindings := bindings } block bodyPort
        rw [htarget]
        exact .again hframes hblock hnext hless hfollow

/-! ### Steps -/

/-- The conversation at the block that a run comes to, before the visit. -/
def Session.comeTo (session : Session) (id : String) : Session :=
  Session.tell { session with current := some id } (.running id)

/-- What a step comes to: it goes on with a loop, comes to a block and visits it, or stops before
the visit at a gate. -/
inductive Stepped (setting : Setting) (session : Session) :
    Option String → Session × Progress → Prop
  | continued {outcome : Session × Progress}
      (hcontinued : Continued setting.flow session outcome) : Stepped setting session none outcome
  | missing {id : String} {after : Session} (hblock : setting.flow.block? id = none)
      (hseat : after.seat = { session.seat with current := none }) :
      Stepped setting session (some id) (after, .ended)
  | held {block : Block} (hblock : setting.flow.block? block.id = some block) :
      Stepped setting session (some block.id) (session.comeTo block.id, .held (.inFlow block.id))
  | entersStart {block : Block} (hblock : setting.flow.block? block.id = some block)
      (hkind : block.kind = .start) :
      Stepped setting session (some block.id) (session.comeTo block.id, .broken .entersStart)
  | visited {block : Block} {outcome : Session × Progress}
      (hblock : setting.flow.block? block.id = some block)
      (hvisited : Visited block { session.seat with current := some block.id } outcome) :
      Stepped setting session (some block.id) outcome

/-- A start block that a run comes to breaks the run off. -/
theorem visitBlock_start (world : World) (session : Session) (hkind : block.kind = .start) :
    visitBlock world session block = (session, .broken .entersStart) := by
  rw [visitBlock, (visit?_eq_none_iff ..).2 hkind]

theorem stepped_step (setting : Setting) (session : Session) (next : Option String) :
    Stepped setting session next (step setting session next) := by
  cases next with
  | none => exact .continued (continued_continueLoop setting.flow session)
  | some id =>
    cases hfound : setting.flow.block? id with
    | none =>
      simp only [step, hfound]
      exact .missing hfound rfl
    | some block =>
      obtain rfl : block.id = id := Flow.id_of_block? hfound
      cases hgated : setting.gated with
      | true =>
        simp only [step, hfound, hgated, if_true]
        exact .held hfound
      | false =>
        simp only [step, hfound, hgated, Bool.false_eq_true, if_false]
        by_cases hkind : block.kind = .start
        · rw [visitBlock_start _ _ hkind]
          exact .entersStart hfound hkind
        · exact .visited hfound (visited_visitBlock _ (session.comeTo block.id) hkind)

/-! ### Occasions -/

def Seat.empty : Seat := ⟨none, none, []⟩

theorem begin_seat (flow : Flow) (session : Session) : (begin flow session).1.seat = .empty := by
  rw [begin]
  cases flow.starts with
  | nil => rfl
  | cons block rest =>
    rcases block with ⟨id, ⟨kind, settings⟩, x, y, input, outputs⟩
    cases kind
    case start =>
      by_cases hempty : (StartSettings.message settings).isEmpty
      · simp only [hempty, if_true]
        rfl
      · simp only [hempty, Bool.false_eq_true, if_false]
        rfl
    all_goals rfl

theorem begin_progress (flow : Flow) (session : Session) :
    (begin flow session).2 = match flow.starts with
      | [] => .ended
      | start :: _ => .going (start.targetOf defaultPort) := by
  rw [begin]
  cases flow.starts <;> rfl

/-- A conversation begins nowhere, and goes on from the first start block if there is any. -/
theorem begin_cases (flow : Flow) (session : Session) :
    ∃ begun : Session, begun.seat = .empty ∧
      (flow.starts = [] ∧ begin flow session = (begun, .ended) ∨
        ∃ start rest, flow.starts = start :: rest ∧
          begin flow session = (begun, .going (start.targetOf defaultPort))) := by
  refine ⟨_, begin_seat flow session, ?_⟩
  have hprogress := begin_progress flow session
  cases hstarts : flow.starts with
  | nil =>
    rw [hstarts] at hprogress
    exact .inl ⟨rfl, Prod.ext rfl hprogress⟩
  | cons start rest =>
    rw [hstarts] at hprogress
    exact .inr ⟨start, rest, rfl, Prod.ext rfl hprogress⟩

/-- A conversation is at a block if it has come to its id, unless that is empty. -/
theorem currentBlock?_eq_some_iff :
    currentBlock? flow session = some block ↔
      flow.block? block.id = some block ∧ session.current = some block.id ∧ block.id ≠ "" := by
  rw [currentBlock?, Option.bind_eq_some_iff]
  constructor
  · rintro ⟨id, hid, hfound⟩
    obtain rfl := Flow.id_of_block? hfound
    obtain ⟨hcurrent, hnamed⟩ := Option.filter_eq_some_iff.1 hid
    exact ⟨hfound, hcurrent, by simpa using hnamed⟩
  · rintro ⟨hfound, hcurrent, hnamed⟩
    exact ⟨block.id, Option.filter_eq_some_iff.2 ⟨hcurrent, by simpa using hnamed⟩, hfound⟩

/-- What an occasion begins with: the conversation begins anew, or nothing waits for what the user
does, or the block where the conversation waits answers it. -/
inductive Begun (flow : Flow) (session : Session) : Session × Progress → Prop
  | anew : Begun flow session (begin flow session)
  | unheeded {after : Session} (hseat : after.seat = session.seat)
      (hjournal : after.journal = session.journal) : Begun flow session (after, .ended)
  | answered {block : Block} {waiting : Waiting} {outcome : Session × Progress}
      (hblock : currentBlock? flow session = some block)
      (hawaited : block.kind.awaited = some waiting) (hwaiting : session.waiting = some waiting)
      (hvisited : Visited block { session.seat with waiting := none } outcome) :
      Begun flow session outcome

def answerAt (block : Block) (answer : Visit) (session : Session) : Session × Progress :=
  match guarded block.id answer session with
  | (after, some port) => leaveBlock after block port
  | (after, none) => (after, .ended)

theorem takeText_eq {answer : String → Visit} {said : String} (hstart : Text.trim said ≠ "/start")
    (hwaiting : session.waiting = some .input) (hblock : currentBlock? flow session = some block)
    (hanswer : answer? block.config = some answer) :
    takeText flow session said =
      answerAt block (answer said) (session.enter { sender := .user, text := said }) := by
  have hheard : (session.enter { sender := .user, text := said }).waiting = some .input := hwaiting
  have hthere : currentBlock? flow (session.enter { sender := .user, text := said }) =
    some block := hblock
  simp only [takeText, if_neg hstart, hheard, hthere, Option.bind_some, hanswer, Option.map_some]
  rfl

theorem takePress_eq {press : String → Visit} (hwaiting : session.waiting = some .callback)
    (hblock : currentBlock? flow session = some block)
    (hpress : press? block.id block.config = some press) (tag : String) :
    takePress flow session tag =
      answerAt block (press tag) (session.enter { sender := .user, text := "[" ++ tag ++ "]" }) := by
  simp only [takePress, hwaiting, hblock, Option.bind_some, hpress, Option.map_some]
  rfl

/-- The answer at a block where the conversation waits goes on like a visit. -/
theorem visited_answer {visit : Visit} {waiting : Waiting}
    (hawaited : block.kind.awaited = some waiting)
    (hsettles : Settles Aspect.seat block.kind.awaited session.seat visit) :
    Visited block { session.seat with waiting := none } (answerAt block visit session) := by
  have hsettled := hsettles session rfl
  rw [answerAt]
  rcases hran : visit session with ⟨failure | _ | port, after⟩ <;> rw [hran] at hsettled
  · obtain ⟨excused, hguarded, hexcused, hframes⟩ := guarded_of_error block.id hran
    rw [hguarded]
    refine .failed hexcused (.inl ?_)
    rw [hframes]
    exact congrArg Seat.frames hsettled
  · rw [guarded_of_ok block.id hran]
    refine .parked hawaited (hsettled.2.trans ?_)
    rw [hawaited]
    rfl
  · rw [guarded_of_ok block.id hran]
    have hkind : block.kind ≠ .loop := by
      intro hloop
      rw [hloop] at hawaited
      cases hawaited
    apply visited_follow (fun hloop => absurd hloop hkind)
    exact congrArg (fun seat : Seat => { seat with waiting := none }) hsettled

theorem begun_takeText (flow : Flow) (session : Session) (said : String) :
    Begun flow session (takeText flow session said) := by
  rw [takeText]
  by_cases hstart : Text.trim said = "/start"
  · rw [if_pos hstart]
    exact .anew
  · rw [if_neg hstart]
    simp only
    split
    next block visit hwaiting hanswered =>
      obtain ⟨found, hblock, hmap⟩ := Option.bind_eq_some_iff.1 hanswered
      obtain ⟨answer, hanswer, hpair⟩ := Option.map_eq_some_iff.1 hmap
      obtain ⟨rfl, rfl⟩ := Prod.mk.inj hpair
      have hheard : (session.enter { sender := .user, text := said }).seat.waiting = some .input :=
        hwaiting
      obtain ⟨hawaited, hsettles⟩ := answer_settles hanswer (Aspect.seat_wait hheard) said
      exact .answered hblock hawaited hwaiting (visited_answer hawaited hsettles)
    next => exact .unheeded rfl rfl

theorem begun_takePress (flow : Flow) (session : Session) (tag : String) :
    Begun flow session (takePress flow session tag) := by
  rw [takePress]
  split
  next block visit hwaiting hpressed =>
    obtain ⟨found, hblock, hmap⟩ := Option.bind_eq_some_iff.1 hpressed
    obtain ⟨press, hpress, hpair⟩ := Option.map_eq_some_iff.1 hmap
    obtain ⟨rfl, rfl⟩ := Prod.mk.inj hpair
    have hheard : (session.enter { sender := .user, text := "[" ++ tag ++ "]" }).seat.waiting =
      some .callback := hwaiting
    obtain ⟨hawaited, hsettles⟩ := press_settles hpress (Aspect.seat_wait hheard) tag
    exact .answered hblock hawaited hwaiting (visited_answer hawaited hsettles)
  next => exact .unheeded rfl rfl

theorem begun_begin (flow : Flow) (session : Session) (occasion : Occasion) :
    Begun flow session (occasion.begin flow session) := by
  cases occasion with
  | start => exact .anew
  | text said => exact begun_takeText flow session said
  | press tag => exact begun_takePress flow session tag

end DialogGraph.Preview
