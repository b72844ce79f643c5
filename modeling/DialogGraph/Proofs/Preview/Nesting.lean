import DialogGraph.Proofs.Preview.Course
import DialogGraph.Proofs.Preview.Trail

/-!
# Loops under way are nested

Where a conversation is in a well-formed flow tells which loops are under way: those whose bodies
have been entered on the way from the start block. For there is one trail only to a block, and a
loop that ends has all that its body leads to behind it.

The invariant is told of the block that a run comes to. When a run goes on with the innermost loop
there is no such block; then it is the block of that loop, and its own loops are those further out.
-/

namespace DialogGraph

namespace Flow

/-- Whether an edge leads into the body of a loop. A button may be named like the port of a body. -/
def entersBody (flow : Flow) (edge : Edge) : Bool :=
  edge.port == bodyPort && (flow.block? edge.source).any fun block => block.kind == .loop

/-- The loops whose bodies a trail enters, innermost first as the last edge is. -/
def loopsOn (flow : Flow) (trail : List Edge) : List String :=
  (trail.filter flow.entersBody).map Edge.source

variable {flow : Flow} {edge : Edge} {trail : List Edge} {block : Block}

theorem loopsOn_cons (hbody : flow.entersBody edge) :
    flow.loopsOn (edge :: trail) = edge.source :: flow.loopsOn trail := by
  rw [loopsOn, List.filter_cons_of_pos hbody, List.map_cons, loopsOn]

theorem loopsOn_cons_of_not (hbody : ¬flow.entersBody edge) :
    flow.loopsOn (edge :: trail) = flow.loopsOn trail := by
  rw [loopsOn, List.filter_cons_of_neg hbody, loopsOn]

theorem entersBody_iff (hblock : flow.block? edge.source = some block) :
    flow.entersBody edge ↔ edge.port = bodyPort ∧ block.kind = .loop := by
  simp [entersBody, hblock]

/-- A trail enters the body of each loop at most once. -/
theorem nodup_loopsOn (hflow : flow.Consistent) {start : Block} {id : String}
    (hstart : start ∈ flow.starts) (htrail : flow.Trail start.id trail id) :
    (flow.loopsOn trail).Nodup := by
  apply List.Nodup.map_on _ ((htrail.nodup hflow hstart).filter _)
  intro edge hedge other hother hsource
  obtain ⟨hedge, hbody⟩ := List.mem_filter.1 hedge
  obtain ⟨hother, hotherBody⟩ := List.mem_filter.1 hother
  simp only [entersBody, Bool.and_eq_true, beq_iff_eq] at hbody hotherBody
  exact hflow.eq_of_port (htrail.subset hedge) (htrail.subset hother) hsource
    (hbody.1.trans hotherBody.1.symm)

end Flow

namespace Preview

/-- The loops under way are those whose bodies are entered on a trail from the first start block. -/
def Mirrors (flow : Flow) (frames : List Loop.Frame) (id : String) : Prop :=
  ∃ start trail, flow.starts.head? = some start ∧ flow.Trail start.id trail id ∧
    frames.map Loop.Frame.block = flow.loopsOn trail

/-- The innermost loop is a loop, and those further out are those of its block. -/
def Stacked (flow : Flow) : List Loop.Frame → Prop
  | [] => True
  | frame :: rest =>
    ∃ block, flow.block? frame.block = some block ∧ block.kind = .loop ∧ Mirrors flow rest block.id

/-- The loops under way fit the block that a run comes to next, or, if there is none, each other. -/
def Heads (flow : Flow) (frames : List Loop.Frame) : Option String → Prop
  | some id => Mirrors flow frames id
  | none => Stacked flow frames

variable {world : Journal → World} {flow : Flow} {session : Session} {block : Block} {seat : Seat}
  {frames : List Loop.Frame}

/-! ### Along an edge -/

theorem source_block? (hflow : flow.Consistent) {edge : Edge} (hedge : edge ∈ flow.edges) :
    ∃ block, flow.block? edge.source = some block ∧ block.id = edge.source := by
  obtain ⟨source, hsource, -, -, hid, -⟩ := hflow.ends edge hedge
  exact ⟨source, (Flow.block?_eq_some_iff hflow.nodup_blocks).2 ⟨hsource, hid⟩, hid⟩

/-- The loops under way at a block fit each other: the innermost is the last one on the trail. -/
theorem Mirrors.stacked (hflow : flow.Consistent) {id : String}
    (hmirrors : Mirrors flow frames id) : Stacked flow frames := by
  obtain ⟨start, trail, hstart, htrail, hframes⟩ := hmirrors
  induction htrail with
  | nil =>
    obtain rfl := List.map_eq_nil_iff.1 hframes
    trivial
  | @cons edge trail hedge htrail ih =>
    obtain ⟨block, hblock, hid⟩ := source_block? hflow hedge
    by_cases hbody : flow.entersBody edge
    · rw [Flow.loopsOn_cons hbody] at hframes
      obtain ⟨frame, rest, rfl, hframe, hrest⟩ := List.map_eq_cons_iff.1 hframes
      have hloop := ((Flow.entersBody_iff hblock).1 hbody).2
      exact ⟨block, hframe ▸ hblock, hloop, start, trail, hstart, hid ▸ htrail, hrest⟩
    · exact ih ((Flow.loopsOn_cons_of_not hbody) ▸ hframes)

/-- The edge by which a block is left. -/
theorem edge_of_targetOf (hflow : flow.Consistent) (hblock : flow.block? block.id = some block)
    {port target : String} (htarget : block.targetOf port = some target) :
    ∃ edge ∈ flow.edges, edge.source = block.id ∧ edge.target = target ∧
      (flow.entersBody edge ↔ port = bodyPort ∧ block.kind = .loop) := by
  obtain ⟨edge, hedge, hsource, rfl, rfl⟩ :=
    (hflow.targetOf_iff block (Flow.mem_of_block? hblock) port target).1 htarget
  exact ⟨edge, hedge, hsource, rfl, Flow.entersBody_iff (hsource ▸ hblock)⟩

/-- The loops under way stay the same when a block is left, except into the body of a loop. -/
theorem Mirrors.leave (hflow : flow.Consistent) (hblock : flow.block? block.id = some block)
    (hmirrors : Mirrors flow frames block.id) {port : String}
    (hport : block.kind = .loop → port ≠ bodyPort) :
    Heads flow frames (block.targetOf port) := by
  cases htarget : block.targetOf port with
  | none => exact hmirrors.stacked hflow
  | some target =>
    obtain ⟨edge, hedge, hsource, rfl, hbody⟩ := edge_of_targetOf hflow hblock htarget
    obtain ⟨start, trail, hstart, htrail, hframes⟩ := hmirrors
    refine ⟨start, edge :: trail, hstart, .cons hedge (hsource ▸ htrail), ?_⟩
    rw [Flow.loopsOn_cons_of_not, hframes]
    exact fun henters => hport (hbody.1 henters).2 (hbody.1 henters).1

/-- The loop at a block is one more under way when its body is entered. -/
theorem Mirrors.enter (hflow : flow.Consistent) (hblock : flow.block? block.id = some block)
    (hkind : block.kind = .loop) (hmirrors : Mirrors flow frames block.id) {frame : Loop.Frame}
    (hframe : frame.block = block.id) :
    Heads flow (frame :: frames) (block.targetOf bodyPort) := by
  cases htarget : block.targetOf bodyPort with
  | none => exact ⟨block, hframe ▸ hblock, hkind, hmirrors⟩
  | some target =>
    obtain ⟨edge, hedge, hsource, rfl, hbody⟩ := edge_of_targetOf hflow hblock htarget
    obtain ⟨start, trail, hstart, htrail, hframes⟩ := hmirrors
    refine ⟨start, edge :: trail, hstart, .cons hedge (hsource ▸ htrail), ?_⟩
    rw [Flow.loopsOn_cons (hbody.2 ⟨rfl, hkind⟩), List.map_cons, hframe, hsource, hframes]

/-! ### Through an event -/

/-- Between two events: the loops under way fit the block where the conversation waits. A
conversation that is nowhere has none, unless a failure brought it there. -/
def Nested (flow : Flow) (session : Session) : Prop :=
  match session.waiting with
  | some _ => ∃ id, session.current = some id ∧ Mirrors flow session.frames id
  | none => session.current = none →
    session.frames = [] ∨ ∃ id message, session.journal.trace.back? = some (.failed id message)

/-- All through an event the loops under way fit the block where it is. -/
def Nests (flow : Flow) : Session × Progress → Prop
  | (session, .going next) => session.waiting = none ∧ Heads flow session.frames next ∧
    (session.current = none → session.frames = [])
  | (session, .held held) => ∃ id, held = .inFlow id ∧ session.seat = ⟨some id, none, session.frames⟩ ∧
    Mirrors flow session.frames id
  | (session, .ended) => Nested flow session
  | (session, .broken _) => session.waiting = none ∧ session.current ≠ none

/-- Every block at the end of a trail is in the flow. -/
theorem Mirrors.exists_block (hflow : flow.Consistent) {id : String}
    (hmirrors : Mirrors flow frames id) : ∃ block, flow.block? id = some block := by
  obtain ⟨start, trail, hstart, htrail, -⟩ := hmirrors
  cases htrail with
  | nil =>
    have hmem := (List.mem_filter.1 (List.mem_of_head? hstart)).1
    exact ⟨start, (Flow.block?_eq_some_iff hflow.nodup_blocks).2 ⟨hmem, rfl⟩⟩
  | cons hedge =>
    obtain ⟨-, -, target, htarget, -, hid, -⟩ := hflow.ends _ hedge
    exact ⟨target, (Flow.block?_eq_some_iff hflow.nodup_blocks).2 ⟨htarget, hid⟩⟩

theorem Continued.nests {outcome : Session × Progress} (hflow : flow.Consistent)
    (hsession : Nests flow (session, .going none)) (hcontinued : Continued flow session outcome) :
    Nests flow outcome := by
  obtain ⟨hwaiting, hstacked, hidle⟩ := hsession
  have hpresent {frame : Loop.Frame} {rest : List Loop.Frame}
      (hframes : session.frames = frame :: rest) : session.current ≠ none := by
    intro hnone
    rw [hidle hnone] at hframes
    cases hframes
  have hloop {frame : Loop.Frame} {rest : List Loop.Frame} {block : Block}
      (hframes : session.frames = frame :: rest) (hblock : flow.block? frame.block = some block) :
      flow.block? block.id = some block ∧ block.kind = .loop ∧ Mirrors flow rest block.id := by
    rw [hframes] at hstacked
    obtain ⟨found, hfound, hkind, hmirrors⟩ := hstacked
    obtain rfl := Option.some.inj (hblock.symm.trans hfound)
    exact ⟨(Flow.id_of_block? hblock) ▸ hblock, hkind, hmirrors⟩
  -- The innermost loop is the block that the run has come from; the loops around it are the rest.
  cases hcontinued with
  | idle _ hseat =>
    obtain ⟨-, hafter, hframes⟩ := Session.seat_eq_iff.1 hseat
    simp [Nests, Nested, hafter, hwaiting, hframes]
  | lost hframes hblock =>
    rw [hframes] at hstacked
    obtain ⟨found, hfound, -⟩ := hstacked
    rw [hblock] at hfound
    cases hfound
  | broken hframes => exact ⟨hwaiting, hpresent hframes⟩
  | finished hframes hblock hseat =>
    obtain ⟨hfound, hkind, hmirrors⟩ := hloop hframes hblock
    obtain ⟨hcurrent, hafter, hrest⟩ := Session.seat_eq_iff.1 hseat
    refine ⟨hafter.trans hwaiting, ?_, ?_⟩
    · rw [hrest]
      exact hmirrors.leave hflow hfound fun _ => by decide
    · exact fun hnone => absurd (hcurrent.symm.trans hnone) (hpresent hframes)
  | again hframes hblock hnext _ hseat =>
    obtain ⟨hfound, hkind, hmirrors⟩ := hloop hframes hblock
    obtain ⟨hcurrent, hafter, hrest⟩ := Session.seat_eq_iff.1 hseat
    refine ⟨hafter.trans hwaiting, ?_, ?_⟩
    · rw [hrest]
      exact hmirrors.enter hflow hfound hkind (hnext.trans (Flow.id_of_block? hblock).symm)
    · exact fun hnone => absurd (hcurrent.symm.trans hnone) (hpresent hframes)

theorem Visited.nests {outcome : Session × Progress} (hvisited : Visited block seat outcome)
    (hflow : flow.Consistent) (hblock : flow.block? block.id = some block)
    (hcurrent : seat.current = some block.id) (hwaiting : seat.waiting = none)
    (hmirrors : Mirrors flow seat.frames block.id) : Nests flow outcome := by
  obtain ⟨current, waiting, frames⟩ := seat
  obtain rfl : current = some block.id := hcurrent
  obtain rfl : waiting = none := hwaiting
  cases hvisited with
  | failed hexcused =>
    simp only [Nests, Nested, hexcused.waiting]
    exact fun _ => .inr ⟨_, _, hexcused.told⟩
  | parked _ hseat =>
    obtain ⟨hcurrent, hwaiting, hframes⟩ := Session.seat_eq_iff.1 hseat
    simp only [Nests, Nested, hwaiting]
    exact ⟨block.id, hcurrent, hframes ▸ hmirrors⟩
  | passed hport hseat =>
    obtain ⟨hcurrent, hwaiting, hframes⟩ := Session.seat_eq_iff.1 hseat
    refine ⟨hwaiting, ?_, by simp [hcurrent]⟩
    rw [hframes]
    exact hmirrors.leave hflow hblock hport
  | looped hkind hframe hseat =>
    obtain ⟨hcurrent, hwaiting, hframes⟩ := Session.seat_eq_iff.1 hseat
    refine ⟨hwaiting, ?_, by simp [hcurrent]⟩
    rw [hframes]
    exact hmirrors.enter hflow hblock hkind hframe

theorem Stepped.nests {gated : Bool} {next : Option String} {outcome : Session × Progress}
    (hflow : flow.Consistent) (hsession : Nests flow (session, .going next))
    (hstepped : Stepped ⟨world, flow, gated⟩ session next outcome) : Nests flow outcome := by
  obtain ⟨hwaiting, hheads, -⟩ := id hsession
  cases hstepped with
  | continued hcontinued => exact hcontinued.nests hflow hsession
  | missing hblock =>
    obtain ⟨block, hfound⟩ := hheads.exists_block hflow
    rw [hfound] at hblock
    cases hblock
  | held => exact ⟨_, rfl, Session.seat_eq_iff.2 ⟨rfl, hwaiting, rfl⟩, hheads⟩
  | entersStart => exact ⟨hwaiting, nofun⟩
  | visited hblock hvisited => exact hvisited.nests hflow hblock rfl hwaiting hheads

theorem nests_begin (hflow : flow.Consistent) (session : Session) :
    Nests flow (begin flow session) := by
  obtain ⟨begun, hseat, ⟨-, heq⟩ | ⟨start, rest, hstarts, heq⟩⟩ := begin_cases flow session
  all_goals
    rw [heq]
    obtain ⟨-, hwaiting, hframes⟩ := Session.seat_eq_iff.1 hseat
  · simp [Nests, Nested, hwaiting, hframes]
  · obtain ⟨hmem, hkind⟩ := List.mem_filter.1 (hstarts ▸ List.mem_cons_self : start ∈ flow.starts)
    have hblock := (Flow.block?_eq_some_iff hflow.nodup_blocks).2 ⟨hmem, rfl⟩
    have hmirrors : Mirrors flow [] start.id :=
      ⟨start, [], congrArg List.head? hstarts, .nil, rfl⟩
    refine ⟨hwaiting, ?_, fun _ => hframes⟩
    rw [hframes]
    exact hmirrors.leave hflow hblock fun _ => by decide

theorem Begun.nests {begun : Session × Progress} (hflow : flow.Consistent)
    (hsession : Nested flow session) (hbegun : Begun flow session begun) : Nests flow begun := by
  cases hbegun with
  | anew => exact nests_begin hflow session
  | unheeded hseat hjournal =>
    obtain ⟨hcurrent, hwaiting, hframes⟩ := Session.seat_eq_iff.1 hseat
    simpa only [Nests, Nested, hcurrent, hwaiting, hframes, hjournal] using hsession
  | answered hblock _ hwaiting hvisited =>
    obtain ⟨hfound, hhere, -⟩ := currentBlock?_eq_some_iff.1 hblock
    simp only [Nested, hwaiting] at hsession
    obtain ⟨id, hcurrent, hmirrors⟩ := hsession
    obtain rfl := Option.some.inj (hhere.symm.trans hcurrent)
    exact hvisited.nests hflow hfound hhere rfl hmirrors

theorem nests_of_proceeds (hflow : flow.Consistent) (hsession : Nested flow session)
    {occasion : Occasion} {outcome : Session × Progress}
    (hproceeds : Proceeds world flow (occasion.begin flow session) outcome) :
    Nests flow outcome := by
  -- `Nested` is too weak for a run on its way: it says nothing of the block that comes next.
  apply hproceeds.induct ((begun_begin flow session occasion).nests hflow hsession)
  · exact fun hbefore hstepped => hstepped.nests hflow hbefore
  · rintro session held block ⟨id, rfl, hseat, hmirrors⟩ hblock
    obtain rfl := Flow.id_of_block? hblock
    obtain ⟨hcurrent, hwaiting, -⟩ := Session.seat_eq_iff.1 hseat
    by_cases hkind : block.kind = .start
    · rw [visitBlock_start _ _ hkind]
      exact ⟨hwaiting, by simp [hcurrent]⟩
    · exact (visited_visitBlock _ session hkind).nests hflow hblock hcurrent hwaiting hmirrors

theorem nested_of_rests (hflow : flow.Consistent)
    (hrests : Rests world flow Progress.Over session) : Nested flow session := by
  induction hrests with
  | fresh session => exact fun _ => .inl rfl
  | @event _ after progress occasion _ hproceeds hover ih =>
    have hnests := nests_of_proceeds hflow ih hproceeds
    cases progress with
    | ended => exact hnests
    | broken =>
      simp only [Nested, hnests.1]
      exact fun hnone => absurd hnone hnests.2
    | _ => exact hover.elim

/-! ### The loops around a block -/

/-- The loops under way, innermost first, are those whose bodies are entered on the only trail from
the first start block to a block, each once. -/
def Encloses (flow : Flow) (frames : List Loop.Frame) (id : String) : Prop :=
  ∃ start trail, flow.starts.head? = some start ∧ flow.Trail start.id trail id ∧
    (∀ other, flow.Trail start.id other id → other = trail) ∧
    frames.map Loop.Frame.block = flow.loopsOn trail ∧ (frames.map Loop.Frame.block).Nodup

theorem Mirrors.encloses (hflow : flow.Consistent) {id : String}
    (hmirrors : Mirrors flow frames id) : Encloses flow frames id := by
  obtain ⟨start, trail, hhead, htrail, hframes⟩ := hmirrors
  have hstart := List.mem_of_head? hhead
  refine ⟨start, trail, hhead, htrail, ?_, hframes, ?_⟩
  · exact fun other hother => hother.unique hflow hstart htrail
  · rw [hframes]
    exact Flow.nodup_loopsOn hflow hstart htrail

/-- Whenever a conversation comes to a block or waits there, the loops under way are those around
the block. A conversation that ends is in no loop, unless it ends with a failure. -/
theorem encloses_of_proceeds (hflow : flow.WellFormed)
    (hrests : Rests world flow Progress.Over session) (occasion : Occasion) {after : Session}
    {progress : Progress}
    (hproceeds : Proceeds world flow (occasion.begin flow session) (after, progress)) :
    (∀ id, progress = .going (some id) ∨ progress = .held (.inFlow id) →
        Encloses flow after.frames id) ∧
      (after.waiting ≠ none → ∃ id, after.current = some id ∧ Encloses flow after.frames id) ∧
      (progress = .ended → after.current = none → after.frames = [] ∨
        ∃ id message, after.journal.trace.back? = some (.failed id message)) := by
  have hconsistent := hflow.toConsistent
  have hnests := nests_of_proceeds hconsistent (nested_of_rests hconsistent hrests) hproceeds
  refine ⟨?_, ?_, ?_⟩
  · rintro id (rfl | rfl)
    · exact hnests.2.1.encloses hconsistent
    · obtain ⟨_, hheld, -, hmirrors⟩ := hnests
      obtain rfl := Held.inFlow.inj hheld
      exact hmirrors.encloses hconsistent
  · intro hwaiting
    cases progress with
    | ended =>
      cases hparked : after.waiting with
      | none => exact absurd hparked hwaiting
      | some waiting =>
        simp only [Nests, Nested, hparked] at hnests
        obtain ⟨id, hcurrent, hmirrors⟩ := hnests
        exact ⟨id, hcurrent, hmirrors.encloses hconsistent⟩
    | going => exact absurd hnests.1 hwaiting
    | held =>
      obtain ⟨id, -, hseat, -⟩ := hnests
      exact absurd (congrArg Seat.waiting hseat) hwaiting
    | broken => exact absurd hnests.1 hwaiting
  · rintro rfl hcurrent
    cases hparked : after.waiting with
    | none =>
      simp only [Nests, Nested, hparked] at hnests
      exact hnests hcurrent
    | some waiting =>
      simp only [Nests, Nested, hparked] at hnests
      obtain ⟨id, hsome, -⟩ := hnests
      rw [hcurrent] at hsome
      cases hsome

/-- A question in a loop of two rounds, itself in such a loop. -/
def nestedEdits : List Edit :=
  [.create (.named (.text "start")) none (.int 0) (.int 0),
    .create (.named (.text "loop")) none (.int 1) (.int 0), .update "block_2" "count" (.int 2),
    .create (.named (.text "loop")) none (.int 2) (.int 0), .update "block_3" "count" (.int 2),
    .create (.named (.text "question")) none (.int 3) (.int 0),
    .connect "block_1" "default" "block_2" none, .connect "block_2" "loop_body" "block_3" none,
    .connect "block_3" "loop_body" "block_4" none]

theorem encloses_nestedEdits :
    let setting := quietSetting nestedEdits
    let asked := run setting 9 (begin setting.flow {}).1 (begin setting.flow {}).2
    let answered := takeText setting.flow asked.1 "So."
    let again := run setting 9 answered.1 answered.2
    again.1.frames = [⟨"block_3", 2, []⟩, ⟨"block_2", 1, []⟩] ∧
      Encloses setting.flow again.1.frames "block_4" := by
  intro setting asked answered again
  have hparked : again.1.current = some "block_4" ∧ again.1.waiting = some .input := by
    decide +kernel
  have hrests : Rests setting.world setting.flow Progress.Over asked.1 :=
    .event .start (.fresh {}) (proceeds_run 9 .refl) (show asked.2.Over by decide +kernel)
  obtain ⟨-, hwaits, -⟩ := encloses_of_proceeds (wellFormed_quietSetting nestedEdits) hrests
    (.text "So.") (proceeds_run 9 .refl)
  obtain ⟨id, hcurrent, hencloses⟩ := hwaits (hparked.2 ▸ nofun)
  obtain rfl := Option.some.inj (hparked.1.symm.trans hcurrent)
  exact ⟨by decide +kernel, hencloses⟩

end Preview

end DialogGraph
