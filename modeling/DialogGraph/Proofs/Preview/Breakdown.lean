import DialogGraph.Proofs.Block.ReadBack
import DialogGraph.Proofs.Preview.Course
import DialogGraph.Proofs.Script.Overlong

/-!
# Events that break off

What fails at a block is told to the user, and the conversation ends in good order. What fails when a
loop goes on is not: the event breaks off. In a well-formed flow that happens in one way only, when
the condition of a loop looks at a value without a text.

Between two events the flow may have become any other, so nothing is said here of the loops under way
or of the block where the conversation is.
-/

namespace DialogGraph

/-- Of the fields of a loop that say how long it runs, the other kinds have none. -/
theorem Kind.notMem_fields {kind : Kind} (hkind : kind ≠ .loop) {name : String}
    (hname : name = "loop_type" ∨ name = "count") :
    name ∉ (Settings.fields : List (Field kind.SettingsOf)).map Field.name := by
  rcases hname with rfl | rfl <;> cases kind <;> revert hkind <;> decide

theorem Config.get?_toFields_eq_none {config : Config} (hkind : config.kind ≠ .loop) {name : String}
    (hname : name = "loop_type" ∨ name = "count") : Assoc.get? config.toFields name = none := by
  rw [Assoc.get?_eq_none_iff, Config.toFields, Settings.keys_toFields]
  exact Kind.notMem_fields hkind hname

theorem Config.eq_loop {config : Config} (hkind : config.kind = .loop) :
    ∃ settings, config = ⟨.loop, settings⟩ := by
  obtain ⟨kind, settings⟩ := config
  obtain rfl : kind = .loop := hkind
  exact ⟨settings, rfl⟩

namespace Preview

variable {world : Journal → World} {flow : Flow} {session : Session} {block : Block} {seat : Seat}

/-! ### Loops that cannot go on -/

/-- A block that is no loop, or no longer one, never stands in the way of going on. -/
theorem advance_ne_error {config : Config} (hkind : config.kind ≠ .loop) (frame : Loop.Frame)
    (scope : Loop.Scope) (fault : Loop.Fault) :
    Loop.advance (loopPlan config) frame scope ≠ .error fault := by
  have hplan : loopPlan config = Loop.planOfFields config.toFields := by
    obtain ⟨kind, settings⟩ := config
    cases kind <;> first | rfl | exact absurd rfl hkind
  have hmode : (Loop.planOfFields config.toFields).mode = .count := by
    simp only [Loop.planOfFields, Loop.textField, Config.get?_toFields_eq_none hkind (.inl rfl)]
    decide
  have hcount : (Loop.planOfFields config.toFields).count = .int 0 := by
    simp only [Loop.planOfFields, Config.get?_toFields_eq_none hkind (.inr rfl), Option.getD_none]
  have hzero : (Value.int 0).wholeOr 0 = 0 := by decide +kernel
  have hdone : ¬(frame.iteration : Int) < 0 := by omega
  simp [hplan, Loop.advance, hmode, hcount, hzero, hdone]

/-- The innermost loop cannot go on: it has a round left, and its condition looks at a value
without a text. -/
def Stuck (flow : Flow) (session : Session) : Prop :=
  ∃ frame rest block settings, session.frames = frame :: rest ∧
    flow.block? frame.block = some block ∧ block.config = ⟨.loop, settings⟩ ∧
    LoopSettings.mode settings = .whilst ∧ frame.iteration < Loop.whileLimit ∧
    Loop.Unreadable settings session.bindings

theorem Stuck.continueLoop (hstuck : Stuck flow session) :
    continueLoop flow session = (session, .broken (.loop (.text .tooManyDigits))) := by
  obtain ⟨frame, rest, block, settings, hframes, hblock, hconfig, hmode, hleft, hunreadable⟩ := hstuck
  have hadvance : Loop.advance (loopPlan block.config) frame { bindings := session.bindings } =
      .error (.text .tooManyDigits) := by
    rw [hconfig]
    exact Loop.advance_eq_error_iff.2 ⟨rfl, hmode, hleft, hunreadable⟩
  have hport : Visit.loopPort (loopPlan block.config) frame session =
      (.error (.loop (.text .tooManyDigits)), session) := by
    simp only [Visit.loopPort, Act.bind_apply, Act.get_apply, Act.liftM_loop, hadvance,
      Except.mapError]
  simp only [Preview.continueLoop, hframes, hblock, hport]

/-- An event that comes to a loop that cannot go on breaks off there. -/
theorem Stuck.proceeds {begun : Session × Progress} (hstuck : Stuck flow session)
    (hproceeds : Proceeds world flow begun (session, .going none)) :
    Proceeds world flow begun (session, .broken (.loop (.text .tooManyDigits))) := by
  rw [← hstuck.continueLoop]
  exact hproceeds.step false

theorem Continued.stuck {outcome : Session × Progress} {breakdown : Breakdown}
    (hcontinued : Continued flow session outcome) (hbroken : outcome.2 = .broken breakdown) :
    breakdown = .loop (.text .tooManyDigits) ∧ Stuck flow session := by
  cases hcontinued with
  | @broken frame rest block fault hframes hblock hadvance =>
    obtain rfl := Progress.broken.inj hbroken
    by_cases hkind : block.config.kind = .loop
    · obtain ⟨settings, hconfig⟩ := Config.eq_loop hkind
      rw [hconfig] at hadvance
      obtain ⟨rfl, hmode, hleft, hunreadable⟩ := Loop.advance_eq_error_iff.1 hadvance
      exact ⟨rfl, frame, rest, block, settings, hframes, hblock, hconfig, hmode, hleft, hunreadable⟩
    · exact absurd hadvance (advance_ne_error hkind frame _ fault)
  | _ => cases hbroken

theorem Visited.ne_broken {outcome : Session × Progress} (hvisited : Visited block seat outcome)
    (breakdown : Breakdown) : outcome.2 ≠ .broken breakdown := by
  cases hvisited <;> nofun

theorem Begun.ne_broken {begun : Session × Progress} (hbegun : Begun flow session begun)
    (breakdown : Breakdown) : begun.2 ≠ .broken breakdown := by
  cases hbegun with
  | anew =>
    rw [begin_progress]
    cases flow.starts <;> nofun
  | unheeded => nofun
  | answered _ _ _ hvisited => exact hvisited.ne_broken breakdown

/-! ### Start blocks -/

/-- No start block is before a run: none is entered by an edge. -/
def Clear (flow : Flow) : Session × Progress → Prop
  | (_, .going (some id)) | (_, .held (.inFlow id)) =>
    ∀ block, flow.block? id = some block → block.kind ≠ .start
  | (_, .held (.removed _)) => False
  | _ => True

theorem clear_targetOf (hflow : flow.Consistent) (hblock : block ∈ flow.blocks) (port : String)
    (session : Session) : Clear flow (session, .going (block.targetOf port)) := by
  cases htarget : block.targetOf port with
  | none => trivial
  | some id =>
    obtain ⟨edge, hedge, -, hid⟩ := hflow.leads_targetOf hblock port id htarget
    intro target hfound
    exact hflow.target_ne_start hedge (Flow.mem_of_block? hfound)
      ((Flow.id_of_block? hfound).trans hid.symm)

theorem Visited.clear {outcome : Session × Progress} (hflow : flow.Consistent)
    (hblock : block ∈ flow.blocks) (hvisited : Visited block seat outcome) :
    Clear flow outcome := by
  cases hvisited with
  | failed => trivial
  | parked => trivial
  | passed => exact clear_targetOf hflow hblock _ _
  | looped => exact clear_targetOf hflow hblock _ _

theorem Stepped.clear {gated : Bool} {next : Option String} {outcome : Session × Progress}
    (hflow : flow.Consistent) (hclear : Clear flow (session, .going next))
    (hstepped : Stepped ⟨world, flow, gated⟩ session next outcome) : Clear flow outcome := by
  cases hstepped with
  | continued hcontinued =>
    cases hcontinued with
    | idle => trivial
    | lost => trivial
    | broken => trivial
    | finished _ hblock => exact clear_targetOf hflow (Flow.mem_of_block? hblock) _ _
    | again _ hblock => exact clear_targetOf hflow (Flow.mem_of_block? hblock) _ _
  | missing => trivial
  | held => exact hclear
  | entersStart => trivial
  | visited hblock hvisited => exact hvisited.clear hflow (Flow.mem_of_block? hblock)

theorem Begun.clear {begun : Session × Progress} (hflow : flow.Consistent)
    (hbegun : Begun flow session begun) : Clear flow begun := by
  cases hbegun with
  | anew =>
    obtain ⟨begun, -, ⟨-, heq⟩ | ⟨start, rest, hstarts, heq⟩⟩ := begin_cases flow session
    · rw [heq]
      trivial
    · rw [heq]
      have hmem : start ∈ flow.starts := hstarts ▸ List.mem_cons_self
      exact clear_targetOf hflow (List.mem_filter.1 hmem).1 _ _
  | unheeded => trivial
  | answered hblock _ _ hvisited =>
    exact hvisited.clear hflow (Flow.mem_of_block? (currentBlock?_eq_some_iff.1 hblock).1)

theorem clear_of_proceeds (hflow : flow.Consistent) {occasion : Occasion}
    {outcome : Session × Progress}
    (hproceeds : Proceeds world flow (occasion.begin flow session) outcome) :
    Clear flow outcome := by
  apply hproceeds.induct ((begun_begin flow session occasion).clear hflow)
  · exact fun hclear hstepped => hstepped.clear hflow hclear
  · rintro session (id | removed) block hclear hblock
    · have hkind := hclear block hblock
      exact (visited_visitBlock _ session hkind).clear hflow (Flow.mem_of_block? hblock)
    · exact hclear.elim

/-! ### Failures at a block -/

/-- What fails at a block is excused, be it a visit or the answer to what the user does. -/
structure Excuses (world : Journal → World) (flow : Flow) : Prop where
  visit : ∀ {session failed : Session} {block : Block} {visit : Visit} {failure : Failure},
    visit? (world session.journal) block.id block.config = some visit →
    visit session = (.error failure, failed) →
    ∃ after, visitBlock (world session.journal) session block = (after, .ended) ∧
      Excused block.id failure after
  text : ∀ {session failed : Session} {block : Block} {answer : String → Visit}
    {failure : Failure} {said : String}, Text.trim said ≠ "/start" →
    session.waiting = some .input → currentBlock? flow session = some block →
    answer? block.config = some answer →
    answer said (session.enter { sender := .user, text := said }) = (.error failure, failed) →
    ∃ after, takeText flow session said = (after, .ended) ∧ Excused block.id failure after
  press : ∀ {session failed : Session} {block : Block} {press : String → Visit}
    {failure : Failure} {tag : String}, session.waiting = some .callback →
    currentBlock? flow session = some block → press? block.id block.config = some press →
    press tag (session.enter { sender := .user, text := "[" ++ tag ++ "]" }) =
      (.error failure, failed) →
    ∃ after, takePress flow session tag = (after, .ended) ∧ Excused block.id failure after

theorem excuses (world : Journal → World) (flow : Flow) : Excuses world flow where
  visit := by
    intro session failed block visit failure hvisit hran
    obtain ⟨excused, hguarded, hexcused, -⟩ := guarded_of_error block.id hran
    refine ⟨excused, ?_, hexcused⟩
    simp only [visitBlock, hvisit, hguarded, hexcused.waiting]
  text := by
    intro session failed block answer failure said hstart hwaiting hblock hanswer hran
    obtain ⟨excused, hguarded, hexcused, -⟩ := guarded_of_error block.id hran
    refine ⟨excused, ?_, hexcused⟩
    rw [takeText_eq hstart hwaiting hblock hanswer, answerAt, hguarded]
  press := by
    intro session failed block press failure tag hwaiting hblock hpress hran
    obtain ⟨excused, hguarded, hexcused, -⟩ := guarded_of_error block.id hran
    refine ⟨excused, ?_, hexcused⟩
    rw [takePress_eq hwaiting hblock hpress, answerAt, hguarded]

/-- An event breaks off exactly when it comes to a loop that cannot go on, and then for the want of
a text. What fails at a block never breaks it off. -/
theorem breaksOff_iff (world : Journal → World) (hflow : flow.WellFormed) (session : Session)
    (occasion : Occasion) (breakdown : Breakdown) :
    ((∃ after, Proceeds world flow (occasion.begin flow session) (after, .broken breakdown)) ↔
        breakdown = .loop (.text .tooManyDigits) ∧
          ∃ after, Proceeds world flow (occasion.begin flow session) (after, .going none) ∧
            Stuck flow after) ∧
      Excuses world flow := by
  refine ⟨⟨?_, ?_⟩, excuses world flow⟩
  · rintro ⟨after, hproceeds⟩
    generalize hbroken : (after, Progress.broken breakdown) = outcome at hproceeds
    have hprogress : outcome.2 = .broken breakdown := hbroken ▸ rfl
    cases hproceeds with
    | refl => exact absurd hprogress ((begun_begin flow session occasion).ne_broken breakdown)
    | @step before next gated hbefore =>
      have hstepped := stepped_step ⟨world, flow, gated⟩ before next
      -- Of the ways a step breaks off, only a loop is left: no edge leads to a start block.
      have hclear := clear_of_proceeds hflow.toConsistent hbefore
      generalize step ⟨world, flow, gated⟩ before next = outcome at hprogress hstepped
      cases hstepped with
      | continued hcontinued =>
        obtain ⟨rfl, hstuck⟩ := hcontinued.stuck hprogress
        exact ⟨rfl, before, hbefore, hstuck⟩
      | missing => cases hprogress
      | held => cases hprogress
      | entersStart hblock hkind => exact absurd hkind (hclear _ hblock)
      | visited _ hvisited => exact absurd hprogress (hvisited.ne_broken breakdown)
    | @release before held block hbefore hblock =>
      have hclear := clear_of_proceeds hflow.toConsistent hbefore
      cases held with
      | inFlow id =>
        have hvisited := visited_visitBlock (world before.journal) before (hclear block hblock)
        exact absurd hprogress (hvisited.ne_broken breakdown)
      | removed => exact hclear.elim
  · rintro ⟨rfl, after, hproceeds, hstuck⟩
    exact ⟨after, hstuck.proceeds hproceeds⟩

/-! ### A loop that computes what it cannot look at -/

/-- A loop that runs until a formula has been computed. -/
def computingFlow (formula : String) : Flow where
  blocks :=
    [⟨"block_1", ⟨.start, ({} : StartSettings)⟩, .int 0, .int 0, none,
      [("default", some "block_2")]⟩,
    ⟨"block_2", ⟨.loop, ({ mode := .whilst, whileVariable := "x" } : LoopSettings)⟩, .int 1,
      .int 0, some "block_1", [("default", none), ("loop_body", some "block_3")]⟩,
    ⟨"block_3", ⟨.compute, ({ formula := formula, resultVariable := "x" } : ComputeSettings)⟩,
      .int 2, .int 0, some "block_2", [("default", none)]⟩]
  edges :=
    [⟨"conn_1", "block_1", "default", "block_2"⟩, ⟨"conn_2", "block_2", "loop_body", "block_3"⟩]
  blockCounter := 3
  edgeCounter := 2

theorem wellFormed_computingFlow (formula : String) : (computingFlow formula).WellFormed := by
  apply Flow.Consistent.wellFormed
  · constructor
    case targetOf_iff =>
      intro block hblock port target
      have hjoins (source : String) : (computingFlow formula).Joins source port target ↔
          source = "block_1" ∧ port = "default" ∧ target = "block_2" ∨
            source = "block_2" ∧ port = "loop_body" ∧ target = "block_3" := by
        simp [Flow.Joins, computingFlow, eq_comm]
      simp only [computingFlow, List.mem_cons, List.not_mem_nil, or_false] at hblock
      rcases hblock with rfl | rfl | rfl
      all_goals grind [Block.targetOf, Assoc.get?]
    all_goals simp [computingFlow, Block.kind, Flow.Joins]
  · simp [computingFlow, Assoc.keys, Config.ports, defaultPort, bodyPort]

theorem compute_apply {world : World} {settings : ComputeSettings} {value : Value}
    (hname : settings.resultVariable.isEmpty = false)
    (hvalue : world.room.calculate (.text settings.formula) session.bindings = .ok value) :
    Visit.compute world settings session =
      (.ok (some defaultPort), session.bind settings.resultVariable value) := by
  simp only [Visit.compute, hname, Bool.not_false, if_true, Act.bind_apply, Act.get_apply,
    Act.liftM_formula, hvalue, Except.mapError]
  have hbind : Act.bindNamed settings.resultVariable value session =
      (.ok ⟨⟩, session.bind settings.resultVariable value) := by
    change (_, _) = _
    rw [hname]
    rfl
  rw [hbind]
  rfl

def entered : Session where
  current := some "block_2"
  frames := [⟨"block_2", 1, []⟩]
  journal :=
    { trace := #[.started "block_1", .running "block_2", .followed "block_2" "loop_body" "block_3"] }

def computed (value : Value) : Session :=
  (entered.comeTo "block_3").bind "x" value

theorem proceeds_computed {formula : String} {value : Value}
    (hvalue : ∀ journal, (world journal).room.calculate (.text formula) [] = .ok value) :
    Proceeds world (computingFlow formula) (begin (computingFlow formula) {})
      (computed value, .going none) := by
  have hentered : Proceeds world (computingFlow formula) (begin (computingFlow formula) {})
      (entered, .going (some "block_3")) := Proceeds.refl.step false
  have hvisit (journal : Journal) : Visit.compute (world journal)
      { formula := formula, resultVariable := "x" } (entered.comeTo "block_3") =
        (.ok (some defaultPort), computed value) :=
    compute_apply rfl (hvalue journal)
  obtain ⟨block, hblock, hconfig, htarget⟩ : ∃ block,
      (computingFlow formula).block? "block_3" = some block ∧
      block.config = ⟨.compute, ({ formula := formula, resultVariable := "x" } : ComputeSettings)⟩ ∧
      block.targetOf defaultPort = none := ⟨_, rfl, rfl, rfl⟩
  have hstep : step ⟨world, computingFlow formula, false⟩ entered (some "block_3") =
      (computed value, .going none) := by
    simp only [step, hblock, Bool.false_eq_true, if_false, visitBlock, hconfig, visit?]
    simp only [guarded, Session.comeTo] at hvisit ⊢
    simp only [hvisit, follow, htarget]
  rw [← hstep]
  exact hentered.step false

theorem stuck_computed (formula : String) {value : Value} (hlong : value.Overlong) :
    Stuck (computingFlow formula) (computed value) :=
  ⟨_, _, _, _, rfl, rfl, rfl, rfl, by decide, "x", value, .inl rfl, rfl, hlong⟩

def powerDigits (n : Nat) : List Char := '1' :: List.replicate n '0'

def squareFormula (n : Nat) : String := String.ofList (powerDigits n ++ '*' :: powerDigits n)

theorem written_powerDigits {n : Nat} (hn : n < Number.digitLimit) :
    Formula.Written (powerDigits n) where
  digits := by simp [powerDigits, List.mem_replicate, Char.isDigit]
  ne_nil := List.cons_ne_nil _ _
  head := by simp [powerDigits]
  short := by simpa [powerDigits, Nat.succ_le_iff] using hn

theorem ofDigitChars_powerDigits (n : Nat) : Nat.ofDigitChars 10 (powerDigits n) 0 = 10 ^ n := by
  simp [powerDigits, Nat.ofDigitChars_cons, Nat.ofDigitChars_replicate_zero]

/-- There is room for the square on a usual machine. -/
theorem runsOut_squareFormula (n : Nat) :
    Formula.Room.usual.runsOut (powerDigits n ++ '*' :: powerDigits n) = false := by
  have hdigits : ∀ c ∈ powerDigits n, Formula.Room.isSign c = false ∧ c ≠ '(' := by
    simp [powerDigits, List.mem_replicate, Formula.Room.isSign]
  have hchars : ∀ c ∈ powerDigits n ++ '*' :: powerDigits n,
      Formula.Room.isSign c = false ∧ c ≠ '(' := by
    intro c hc
    rcases List.mem_append.1 hc with hc | hc
    · exact hdigits c hc
    · rcases List.mem_cons.1 hc with rfl | hc
      · decide
      · exact hdigits c hc
  have hpeak := Formula.Room.peak_le [] 0 false (powerDigits n ++ '*' :: powerDigits n)
  rw [List.countP_eq_zero.2 fun c hc => Bool.eq_false_iff.1 (hchars c hc).1,
    List.count_eq_zero.2 fun hmem => (hchars _ hmem).2 rfl] at hpeak
  have hlevels : ¬Formula.Room.usualLevels <
      Formula.Room.peak [] 0 false (powerDigits n ++ '*' :: powerDigits n) :=
    Nat.not_lt.2 (hpeak.trans (by decide))
  simp [Formula.Room.runsOut, Formula.Room.usual, hlevels]

/-- The square of a number within the digit limit may be beyond it. -/
theorem calculate_squareFormula {n : Nat} (hn : n < Number.digitLimit)
    (hlong : Number.digitLimit ≤ n + n) (bindings : Fields) :
    ∃ value, Formula.Room.usual.calculate (.text (squareFormula n)) bindings = .ok value ∧
      value.Overlong := by
  have hwritten := written_powerDigits hn
  refine ⟨_, Formula.calculate_product hwritten hwritten (by decide) (runsOut_squareFormula n)
    bindings, .int ?_⟩
  rw [Int.natAbs_natCast, ofDigitChars_powerDigits, ← Nat.pow_add]
  exact Nat.pow_le_pow_right (by decide) hlong

theorem stuck_squareFormula (world : Journal → World)
    (hroom : ∀ journal, (world journal).room = .usual) :
    ∃ value, Proceeds world (computingFlow (squareFormula 2200))
      (begin (computingFlow (squareFormula 2200)) {}) (computed value, .going none) ∧
      Stuck (computingFlow (squareFormula 2200)) (computed value) := by
  obtain ⟨value, hvalue, hlong⟩ := calculate_squareFormula (show 2200 < 4300 by decide)
    (by decide) []
  have hvalue (journal : Journal) :
      (world journal).room.calculate (.text (squareFormula 2200)) [] = .ok value := by
    rw [hroom, hvalue]
  exact ⟨value, proceeds_computed hvalue, stuck_computed _ hlong⟩

theorem breaksOff_iff_squareFormula :
    (∃ after, Proceeds (quietSetting []).world (computingFlow (squareFormula 2200))
      (begin (computingFlow (squareFormula 2200)) {})
      (after, .broken (.loop (.text .tooManyDigits)))) ∧
      Excuses (quietSetting []).world (computingFlow (squareFormula 2200)) := by
  obtain ⟨value, hstuck⟩ := stuck_squareFormula (quietSetting []).world fun _ => rfl
  obtain ⟨hiff, hexcuses⟩ := breaksOff_iff (quietSetting []).world
    (wellFormed_computingFlow (squareFormula 2200)) {} .start (.loop (.text .tooManyDigits))
  exact ⟨hiff.2 ⟨rfl, computed value, hstuck⟩, hexcuses⟩

/-- There are events that break off. Nothing is told to the user, and the conversation is still at
the last block. -/
theorem breaksOff_squareFormula :
    (computingFlow (squareFormula 2200)).WellFormed ∧
      ∃ after, Proceeds (quietSetting []).world (computingFlow (squareFormula 2200))
        (begin (computingFlow (squareFormula 2200)) {})
        (after, .broken (.loop (.text .tooManyDigits))) ∧
        after.transcript = #[] ∧ after.current = some "block_3" := by
  obtain ⟨value, hproceeds, hstuck⟩ :=
    stuck_squareFormula (quietSetting []).world fun _ => rfl
  exact ⟨wellFormed_computingFlow _, computed value, hstuck.proceeds hproceeds, rfl, rfl⟩

end Preview

end DialogGraph
