import DialogGraph.Proofs.Preview.Breakdown
import DialogGraph.Proofs.Preview.Termination

/-!
# Conversations at rest

A conversation that is at rest after an event either is nowhere, or it waits at a block of the flow
that takes what it waits for. So what the user sends comes to that block.

This is told of conversations of which every event has ended. One that breaks off leaves its
conversation at a block where nothing is waited for, and it stays there until it begins anew.
-/

namespace DialogGraph

theorem Kind.awaited_eq_input_iff (kind : Kind) :
    kind.awaited = some .input ↔ kind = .question ∨ kind = .choice ∨ kind = .intakeForm := by
  cases kind <;> simp [Kind.awaited]

theorem Kind.awaited_eq_callback_iff (kind : Kind) :
    kind.awaited = some .callback ↔
      kind = .inlineKeyboard ∨ kind = .orderConfirm ∨ kind = .catalog := by
  cases kind <;> simp [Kind.awaited]

namespace Preview

/-- Nowhere, or waiting at a block of the flow for what that block takes. -/
def Resumable (flow : Flow) (session : Session) : Prop :=
  match session.waiting with
  | none => session.current = none
  | some waiting => ∃ block, flow.block? block.id = some block ∧
    session.current = some block.id ∧ block.kind.awaited = some waiting

/-- All through an event nothing is waited for. It ends at rest. -/
def Settling (flow : Flow) : Session × Progress → Prop
  | (session, .ended) => Resumable flow session
  | (session, .held held) =>
    session.waiting = none ∧ ∃ id, held = .inFlow id ∧ session.current = some id
  | (session, _) => session.waiting = none

variable {world : Journal → World} {flow : Flow} {session : Session} {block : Block} {seat : Seat}

theorem resumable_of_nowhere (hcurrent : session.current = none) (hwaiting : session.waiting = none) :
    Resumable flow session := by
  simp only [Resumable, hwaiting, hcurrent]

theorem Continued.settling {outcome : Session × Progress} (hwaiting : session.waiting = none)
    (hcontinued : Continued flow session outcome) : Settling flow outcome := by
  cases hcontinued with
  | idle _ hseat =>
    obtain ⟨hcurrent, hafter, -⟩ := Session.seat_eq_iff.1 hseat
    exact resumable_of_nowhere hcurrent (hafter.trans hwaiting)
  | lost => exact hwaiting
  | broken => exact hwaiting
  | finished _ _ hseat => exact (Session.seat_eq_iff.1 hseat).2.1.trans hwaiting
  | again _ _ _ _ hseat => exact (Session.seat_eq_iff.1 hseat).2.1.trans hwaiting

theorem Visited.settling {outcome : Session × Progress} (hvisited : Visited block seat outcome)
    (hblock : flow.block? block.id = some block) (hcurrent : seat.current = some block.id)
    (hwaiting : seat.waiting = none) : Settling flow outcome := by
  obtain ⟨current, waiting, frames⟩ := seat
  obtain rfl : current = some block.id := hcurrent
  obtain rfl : waiting = none := hwaiting
  cases hvisited with
  | failed hexcused => exact resumable_of_nowhere hexcused.current hexcused.waiting
  | parked hawaited hseat =>
    obtain ⟨hcurrent, hwaiting, -⟩ := Session.seat_eq_iff.1 hseat
    simp only [Settling, Resumable, hwaiting]
    exact ⟨block, hblock, hcurrent, hawaited⟩
  | passed _ hseat => exact (Session.seat_eq_iff.1 hseat).2.1
  | looped _ _ hseat => exact (Session.seat_eq_iff.1 hseat).2.1

theorem Stepped.settling {gated : Bool} {next : Option String} {outcome : Session × Progress}
    (hwaiting : session.waiting = none)
    (hstepped : Stepped ⟨world, flow, gated⟩ session next outcome) : Settling flow outcome := by
  cases hstepped with
  | continued hcontinued => exact hcontinued.settling hwaiting
  | missing _ hseat =>
    obtain ⟨hcurrent, hafter, -⟩ := Session.seat_eq_iff.1 hseat
    exact resumable_of_nowhere hcurrent (hafter.trans hwaiting)
  | held => exact ⟨hwaiting, _, rfl, rfl⟩
  | entersStart => exact hwaiting
  | visited hblock hvisited => exact hvisited.settling hblock rfl hwaiting

theorem Begun.settling {begun : Session × Progress} (hsession : Resumable flow session)
    (hbegun : Begun flow session begun) : Settling flow begun := by
  cases hbegun with
  | anew =>
    obtain ⟨begun, hseat, ⟨-, heq⟩ | ⟨start, rest, -, heq⟩⟩ := begin_cases flow session
    all_goals
      rw [heq]
      obtain ⟨hcurrent, hwaiting, -⟩ := Session.seat_eq_iff.1 hseat
    · exact resumable_of_nowhere hcurrent hwaiting
    · exact hwaiting
  | unheeded hseat =>
    obtain ⟨hcurrent, hwaiting, -⟩ := Session.seat_eq_iff.1 hseat
    simpa only [Settling, Resumable, hcurrent, hwaiting] using hsession
  | answered hblock _ _ hvisited =>
    obtain ⟨hfound, hcurrent, -⟩ := currentBlock?_eq_some_iff.1 hblock
    exact hvisited.settling hfound hcurrent rfl

theorem settling_of_proceeds (hsession : Resumable flow session) {occasion : Occasion}
    {outcome : Session × Progress}
    (hproceeds : Proceeds world flow (occasion.begin flow session) outcome) :
    Settling flow outcome := by
  apply hproceeds.induct ((begun_begin flow session occasion).settling hsession)
  · exact fun hwaiting hstepped => hstepped.settling hwaiting
  · rintro session held block ⟨hwaiting, id, rfl, hcurrent⟩ hblock
    obtain rfl := Flow.id_of_block? hblock
    by_cases hkind : block.kind = .start
    · rw [visitBlock_start _ _ hkind]
      exact hwaiting
    · exact (visited_visitBlock _ session hkind).settling hblock hcurrent hwaiting

theorem resumable_of_rests (hrests : Rests world flow Progress.Ended session) :
    Resumable flow session := by
  induction hrests with
  | fresh session => exact resumable_of_nowhere rfl rfl
  | @event _ _ progress occasion _ hproceeds hended ih =>
    cases progress with
    | ended => exact settling_of_proceeds ih hproceeds
    | _ => exact hended.elim

/-! ### Answers -/

theorem answer?_of_awaited {config : Config} (hawaited : config.kind.awaited = some .input) :
    ∃ answer, answer? config = some answer := by
  obtain ⟨kind, settings⟩ := config
  rcases (Kind.awaited_eq_input_iff kind).1 hawaited with rfl | rfl | rfl <;> exact ⟨_, rfl⟩

theorem press?_of_awaited (id : String) {config : Config}
    (hawaited : config.kind.awaited = some .callback) : ∃ press, press? id config = some press := by
  obtain ⟨kind, settings⟩ := config
  rcases (Kind.awaited_eq_callback_iff kind).1 hawaited with rfl | rfl | rfl <;> exact ⟨_, rfl⟩

/-- Whatever the user says, except to begin anew, is answered at the block where the conversation
is. -/
def HearsTexts (flow : Flow) (session : Session) : Prop :=
  ∀ said, Text.trim said ≠ "/start" → ∃ block answer, session.current = some block.id ∧
    answer? block.config = some answer ∧
    takeText flow session said =
      answerAt block (answer said) (session.enter { sender := .user, text := said })

/-- Whatever button the user presses is answered at the block where the conversation is. -/
def HearsPresses (flow : Flow) (session : Session) : Prop :=
  ∀ tag, ∃ block press, session.current = some block.id ∧
    press? block.id block.config = some press ∧
    takePress flow session tag =
      answerAt block (press tag) (session.enter { sender := .user, text := "[" ++ tag ++ "]" })

theorem Resumable.hears (hresumable : Resumable flow session)
    (hids : ∀ block ∈ flow.blocks, block.id ≠ "") :
    (session.waiting = some .input → HearsTexts flow session) ∧
      (session.waiting = some .callback → HearsPresses flow session) := by
  have hhere {waiting : Waiting} (hwaiting : session.waiting = some waiting) :
      ∃ block, session.current = some block.id ∧ currentBlock? flow session = some block ∧
        block.kind.awaited = some waiting := by
    simp only [Resumable, hwaiting] at hresumable
    obtain ⟨block, hblock, hcurrent, hawaited⟩ := hresumable
    have hid := hids block (Flow.mem_of_block? hblock)
    exact ⟨block, hcurrent, currentBlock?_eq_some_iff.2 ⟨hblock, hcurrent, hid⟩, hawaited⟩
  constructor
  · intro hwaiting said hstart
    obtain ⟨block, hcurrent, hblock, hawaited⟩ := hhere hwaiting
    obtain ⟨answer, hanswer⟩ := answer?_of_awaited hawaited
    exact ⟨block, answer, hcurrent, hanswer, takeText_eq hstart hwaiting hblock hanswer⟩
  · intro hwaiting tag
    obtain ⟨block, hcurrent, hblock, hawaited⟩ := hhere hwaiting
    obtain ⟨press, hpress⟩ := press?_of_awaited block.id hawaited
    exact ⟨block, press, hcurrent, hpress, takePress_eq hwaiting hblock hpress tag⟩

/-- A conversation all of whose events have ended is nowhere, or it waits at a block of the flow
that takes what it waits for; the next text or press comes to that block. An event that breaks off
leaves a conversation that waits for nothing. -/
theorem nowhere_or_waiting_of_rests (hrests : Rests world flow Progress.Ended session) :
    (session.waiting = none ∧ session.current = none ∨
      ∃ block, flow.block? block.id = some block ∧ session.current = some block.id ∧
        (session.waiting = some .input ∧
            (block.kind = .question ∨ block.kind = .choice ∨ block.kind = .intakeForm) ∨
          session.waiting = some .callback ∧
            (block.kind = .inlineKeyboard ∨ block.kind = .orderConfirm ∨
              block.kind = .catalog))) ∧
      ((∀ block ∈ flow.blocks, block.id ≠ "") →
        (session.waiting = some .input → HearsTexts flow session) ∧
          (session.waiting = some .callback → HearsPresses flow session)) ∧
      ∀ (occasion : Occasion) (after : Session) (breakdown : Breakdown),
        Proceeds world flow (occasion.begin flow session) (after, .broken breakdown) →
          after.waiting = none := by
  have hresumable := resumable_of_rests hrests
  refine ⟨?_, hresumable.hears, ?_⟩
  · cases hwaiting : session.waiting with
    | none =>
      simp only [Resumable, hwaiting] at hresumable
      exact .inl ⟨rfl, hresumable⟩
    | some waiting =>
      simp only [Resumable, hwaiting] at hresumable
      obtain ⟨block, hblock, hcurrent, hawaited⟩ := hresumable
      refine .inr ⟨block, hblock, hcurrent, ?_⟩
      cases waiting with
      | input => exact .inl ⟨rfl, (Kind.awaited_eq_input_iff _).1 hawaited⟩
      | callback => exact .inr ⟨rfl, (Kind.awaited_eq_callback_iff _).1 hawaited⟩
  · intro occasion after breakdown hproceeds
    exact settling_of_proceeds hresumable hproceeds

theorem nowhere_or_waiting_loopEdits :
    let setting := quietSetting loopEdits
    let asked := run setting 9 (begin setting.flow {}).1 (begin setting.flow {}).2
    asked.1.waiting = some .input ∧ HearsTexts setting.flow asked.1 := by
  intro setting asked
  have hrests : Rests setting.world setting.flow Progress.Ended asked.1 :=
    .event .start (.fresh {}) (proceeds_run 9 .refl) (show asked.2.Ended by decide +kernel)
  have hwaiting : asked.1.waiting = some .input := by decide +kernel
  have hids : ∀ block ∈ setting.flow.blocks, block.id ≠ "" := by decide +kernel
  obtain ⟨-, hhears, -⟩ := nowhere_or_waiting_of_rests hrests
  exact ⟨hwaiting, (hhears hids).1 hwaiting⟩

/-- There are events that end in good order after one that has broken off, and leave a conversation
that waits for nothing at a block. -/
theorem waiting_none_squareFormula :
    (computingFlow (squareFormula 2200)).WellFormed ∧
      ∃ broken after breakdown,
        Proceeds (quietSetting []).world (computingFlow (squareFormula 2200))
          (begin (computingFlow (squareFormula 2200)) {}) (broken, .broken breakdown) ∧
        Proceeds (quietSetting []).world (computingFlow (squareFormula 2200))
          (takeText (computingFlow (squareFormula 2200)) broken "Hello") (after, .ended) ∧
        after.waiting = none ∧ after.current = some "block_3" := by
  obtain ⟨value, hproceeds, hstuck⟩ := stuck_squareFormula (quietSetting []).world fun _ => rfl
  exact ⟨wellFormed_computingFlow _, computed value, _, _, hstuck.proceeds hproceeds, .refl, rfl, rfl⟩

end Preview

end DialogGraph
