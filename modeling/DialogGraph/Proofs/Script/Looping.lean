import DialogGraph.Proofs.Block.ReadBack
import DialogGraph.Proofs.Script.Binding
import DialogGraph.Proofs.Script.Overlong

/-!
# How often a loop begins a round

A loop is asked for its next round again and again, each time with the variables as its body left
them. Whatever they are, its frame counts the rounds begun so far, and decides with the plan alone
when a loop that counts or runs over a list has done its last one.
-/

namespace DialogGraph

open DialogGraph.Text

namespace Text

theorem splitAtCommas_eq_splitOn (cs : List Char) : splitAtCommas cs = cs.splitOn ',' := by
  induction cs with
  | nil => rfl
  | cons c rest ih =>
    obtain ⟨part, parts, hparts⟩ :=
      List.exists_cons_of_ne_nil (List.splitOnP_ne_nil (fun c => c == ',') rest)
    rw [splitAtCommas, ih, List.splitOn, List.splitOn, List.splitOnP_cons_eq_if_modifyHead, hparts]
    by_cases hc : c = ',' <;> simp [hc]

/-- What stands between commas, trimmed, where it is not blank. -/
def partsOf (s : String) : List String :=
  (((s.toList.splitOn ',').map (trimWith isBlank)).filter fun part => part ≠ []).map String.ofList

theorem itemsOf_eq_partsOf (s : String) : itemsOf s = partsOf s := by
  have hempty (cs : List Char) : (!(String.ofList cs).isEmpty) = decide (cs ≠ []) := by
    cases cs <;> simp
  simp only [itemsOf, partsOf, splitAtCommas_eq_splitOn, List.filter_map, List.map_map,
    Function.comp_def, hempty]

end Text

namespace Template

/-- A template is filled in where all that it may look at has a text. -/
theorem exists_fillValue {value : Value} {bindings : Fields} (hvalue : ¬value.Overlong)
    (hbindings : ∀ name value, Assoc.get? bindings name = some value → ¬value.Overlong) :
    ∃ text, fillValue value bindings = .ok text := by
  cases hfilled : fillValue value bindings with
  | ok text => exact ⟨text, rfl⟩
  | error fault =>
    exfalso
    cases fault
    rw [fillValue] at hfilled
    by_cases htruthy : value.isTruthy = true
    · rw [if_pos htruthy, bind_eq_error_iff, Value.display_eq_error_iff] at hfilled
      rcases hfilled with hlong | ⟨text, -, hfill⟩
      · exact hvalue hlong
      · obtain ⟨name, found, -, hfound, hlong⟩ := fill_eq_error_iff.1 hfill
        exact hbindings _ _ hfound hlong
    · rw [if_neg htruthy] at hfilled
      cases hfilled

end Template

namespace Loop

/-- Every value in sight has a text. -/
def Scope.Legible (scope : Scope) : Prop :=
  ∀ name value, scope.get? name = .ok (some value) → ¬value.Overlong

theorem Scope.legible_of_bindings {bindings : Fields}
    (hbindings : ∀ entry ∈ bindings, ¬entry.2.Overlong) : Scope.Legible ⟨bindings, []⟩ := by
  intro name value hvalue
  cases name with
  | list | record => cases hvalue
  | text s => exact hbindings _ (Assoc.mem_of_get? (Except.ok.inj hvalue))
  | _ => cases hvalue

theorem Scope.Legible.bindings {scope : Scope} (hlegible : scope.Legible) (name : String)
    (value : Value) (hvalue : Assoc.get? scope.bindings name = some value) : ¬value.Overlong :=
  hlegible (.text name) value (by simp [Scope.get?, Value.keyFault?, hvalue])

/-- Every name in a plan can be a key, and what it compares with or runs over has a text. -/
structure Plan.Sound (plan : Plan) : Prop where
  counter : plan.counterVariable.keyFault? = none
  watched : plan.whileVariable.keyFault? = none
  item : plan.listVariable.keyFault? = none
  expected : ¬plan.whileValue.Overlong
  items : ¬plan.listItems.Overlong

/-- The condition of a loop holds of the variables. -/
def Satisfied (plan : Plan) (scope : Scope) : Prop :=
  ∃ found expected, scope.get? plan.whileVariable = .ok found ∧
    Template.fillValue plan.whileValue scope.bindings = .ok expected ∧
    compareValues plan.whileCondition (found.getD (.text "")) (.text expected) = .ok true

/-! ### One call -/

/-- The answer to a call: whether a round begins, and the frame and the variables after it. -/
structure Call where
  begins : Bool
  frame : Frame
  scope : Scope

/-- Asks for the next round. A finished loop leaves its frame and the variables as they are. -/
def call (plan : Plan) (frame : Frame) (scope : Scope) : Except Fault Call := do
  match ← advance plan frame scope with
  | some (frame, scope) => return ⟨true, frame, scope⟩
  | none => return ⟨false, frame, scope⟩

/-- What the variables are when the item of a round is bound. -/
def ItemBound (plan : Plan) (frame : Frame) (before between : Scope) : Prop :=
  match plan.mode with
  | .list => ∃ item, frame.items[frame.iteration]? = some item ∧
      Scope.Binds plan.listVariable (.text item) before between
  | _ => between = before

/-- A frame has a round left, with these variables. -/
def Due (plan : Plan) (frame : Frame) (scope : Scope) : Prop :=
  match plan.mode with
  | .whilst => frame.iteration < whileLimit ∧ Satisfied plan scope
  | .list => frame.iteration < frame.items.length
  | .count => (frame.iteration : Int) < plan.count.wholeOr 0

/-- All that a call does. -/
structure Answers (plan : Plan) (frame : Frame) (scope : Scope) (result : Call) : Prop where
  begins : result.begins = true ↔ Due plan frame scope
  entered : result.begins = true →
    result.frame = { frame with iteration := frame.iteration + 1 } ∧
      ∃ between, ItemBound plan frame scope between ∧
        Scope.Binds plan.counterVariable (.int (frame.iteration + 1)) between result.scope
  finished : result.begins = false → result.frame = frame ∧ result.scope = scope

variable {plan : Plan} {frame : Frame} {scope between : Scope}

/-- A condition on variables that can be read is decided. -/
theorem holds_spec (hsound : plan.Sound) (hlegible : scope.Legible) :
    ∃ passed, holds plan scope = .ok passed ∧ (passed = true ↔ Satisfied plan scope) := by
  obtain ⟨found, hfound⟩ : ∃ found, scope.get? plan.whileVariable = .ok found :=
    Scope.exists_get? hsound.watched
  obtain ⟨expected, hexpected⟩ :=
    Template.exists_fillValue hsound.expected hlegible.bindings
  obtain ⟨passed, hpassed⟩ : ∃ passed, compareValues plan.whileCondition
      (found.getD (.text "")) (.text expected) = .ok passed := by
    cases hcompared : compareValues plan.whileCondition (found.getD (.text "")) (.text expected) with
    | ok passed => exact ⟨passed, rfl⟩
    | error fault =>
      cases fault
      rw [compareValues_eq_error_iff] at hcompared
      cases found with
      | none => cases hcompared
      | some value => exact absurd hcompared (hlegible _ value hfound)
  refine ⟨passed, by simp [holds, hfound, hexpected, hpassed, bind, Except.bind, Except.mapError], ?_⟩
  simp [Satisfied, hfound, hexpected, hpassed]

/-- A call that begins a round binds the counter last. -/
theorem answers_enter (hsound : plan.Sound) (hdue : Due plan frame scope)
    (hitem : ItemBound plan frame scope between) :
    ∃ result, (enter plan frame between).map (fun entered => Call.mk true entered.1 entered.2) =
        .ok result ∧ Answers plan frame scope result := by
  obtain ⟨after, hafter, hbinds⟩ :=
    Scope.bind_spec hsound.counter (.int (frame.iteration + 1)) between
  refine ⟨⟨true, { frame with iteration := frame.iteration + 1 }, after⟩, ?_, ?_⟩
  · simp [enter, hafter, bind, Except.bind, Except.map, pure, Except.pure]
  · refine ⟨iff_of_true rfl hdue, fun _ => ⟨rfl, between, hitem, hbinds⟩, fun hfinished => ?_⟩
    cases hfinished

theorem answers_finished (hdue : ¬Due plan frame scope) :
    Answers plan frame scope ⟨false, frame, scope⟩ :=
  ⟨iff_of_false nofun hdue, nofun, fun _ => ⟨rfl, rfl⟩⟩

theorem call_eq_of_advance_none (hadvance : advance plan frame scope = .ok none) :
    call plan frame scope = .ok ⟨false, frame, scope⟩ := by
  rw [call, hadvance]
  rfl

theorem call_eq_of_advance_enter
    (hadvance : advance plan frame scope = (enter plan frame between).map some) :
    call plan frame scope =
      (enter plan frame between).map fun entered => ⟨true, entered.1, entered.2⟩ := by
  rw [call, hadvance]
  cases enter plan frame between <;> rfl

/-- With variables that can be read, a loop always answers. -/
theorem call_spec (hsound : plan.Sound) (hlegible : scope.Legible) (frame : Frame) :
    ∃ result, call plan frame scope = .ok result ∧ Answers plan frame scope result := by
  -- either nothing is due, or the item is bound and the round is entered
  suffices h : (¬Due plan frame scope ∧ advance plan frame scope = .ok none) ∨
      Due plan frame scope ∧ ∃ between, ItemBound plan frame scope between ∧
        advance plan frame scope = (enter plan frame between).map some by
    rcases h with ⟨hdue, hadvance⟩ | ⟨hdue, between, hitem, hadvance⟩
    · exact ⟨_, call_eq_of_advance_none hadvance, answers_finished hdue⟩
    · rw [call_eq_of_advance_enter hadvance]
      exact answers_enter hsound hdue hitem
  cases hmode : plan.mode with
  | count =>
    simp only [Due, ItemBound, advance, hmode]
    by_cases hless : (frame.iteration : Int) < plan.count.wholeOr 0
    · rw [if_pos hless]
      exact .inr ⟨hless, scope, rfl, rfl⟩
    · rw [if_neg hless]
      exact .inl ⟨hless, rfl⟩
  | list =>
    simp only [Due, ItemBound, advance, hmode]
    cases hitem : frame.items[frame.iteration]? with
    | none => exact .inl ⟨by simpa using hitem, rfl⟩
    | some item =>
      obtain ⟨between, hbetween, hbinds⟩ := Scope.bind_spec hsound.item (.text item) scope
      refine .inr ⟨(List.getElem?_eq_some_iff.1 hitem).1, between, ⟨item, rfl, hbinds⟩, ?_⟩
      simp only [hbetween]
      rfl
  | whilst =>
    simp only [Due, ItemBound, advance, hmode]
    by_cases hless : frame.iteration < whileLimit
    · obtain ⟨passed, hholds, hpassed⟩ := holds_spec hsound hlegible
      rw [if_pos hless, hholds]
      cases passed with
      | true => exact .inr ⟨⟨hless, hpassed.1 rfl⟩, scope, rfl, rfl⟩
      | false => exact .inl ⟨fun hdue => by simpa using hpassed.2 hdue.2, rfl⟩
    · rw [if_neg hless]
      exact .inl ⟨fun hdue => hless hdue.1, rfl⟩

/-! ### Many calls -/

/-- Asks for one round after another, each time with whatever variables there are by then. -/
def calls (plan : Plan) (frame : Frame) : List Scope → Except Fault (List Call)
  | [] => .ok []
  | scope :: rest => do
    let first ← call plan frame scope
    let others ← calls plan first.frame rest
    return first :: others

def rounds (made : List Call) (n : Nat) : Nat := (made.take n).countP Call.begins

theorem rounds_succ {made : List Call} {n : Nat} {result : Call} (hresult : made[n]? = some result) :
    rounds made (n + 1) = rounds made n + result.begins.toNat := by
  rw [rounds, rounds, List.take_add_one, hresult, Option.toList_some, List.countP_append]
  cases hbegins : result.begins <;> simp [hbegins]

theorem rounds_cons (first : Call) (others : List Call) (n : Nat) :
    rounds (first :: others) (n + 1) = first.begins.toNat + rounds others n := by
  rw [rounds, rounds, List.take_succ_cons, List.countP_cons, Nat.add_comm]
  cases first.begins <;> rfl

/-- The frame of a loop that has begun a number of rounds. -/
def Frame.after (frame : Frame) (count : Nat) : Frame :=
  { frame with iteration := frame.iteration + count }

/-- Every call finds the frame that counts the rounds begun before it. -/
theorem calls_spec (hsound : plan.Sound) {scopes : List Scope}
    (hlegible : ∀ scope ∈ scopes, scope.Legible) (frame : Frame) :
    ∃ made, calls plan frame scopes = .ok made ∧ made.length = scopes.length ∧
      ∀ n scope result, scopes[n]? = some scope → made[n]? = some result →
        Answers plan (frame.after (rounds made n)) scope result := by
  induction scopes generalizing frame with
  | nil => exact ⟨[], rfl, rfl, by simp⟩
  | cons scope rest ih =>
    obtain ⟨hscope, hrest⟩ := List.forall_mem_cons.1 hlegible
    obtain ⟨first, hcall, hfirst⟩ := call_spec hsound hscope frame
    obtain ⟨others, hothers, hlength, hanswers⟩ := ih hrest first.frame
    have hframe (count : Nat) :
        first.frame.after count = frame.after (first.begins.toNat + count) := by
      cases hbegins : first.begins with
      | true =>
        rw [(hfirst.entered hbegins).1, Bool.toNat_true, Frame.after, Frame.after, Nat.add_assoc]
      | false => rw [(hfirst.finished hbegins).1, Bool.toNat_false, Nat.zero_add]
    refine ⟨first :: others, ?_, congrArg (· + 1) hlength, ?_⟩
    · simp [calls, hcall, hothers, bind, Except.bind, pure, Except.pure]
    · rintro (_ | n) found result hfound hresult
      · cases hfound
        cases hresult
        exact hfirst
      · rw [rounds_cons, ← hframe]
        exact hanswers n found result hfound hresult

/-- A loop that begins a round whenever it has begun fewer than `most` begins its first `most`
rounds one after the other. -/
theorem rounds_eq_min {made : List Call} {most : Nat}
    (hbegins : ∀ n result, made[n]? = some result →
      (result.begins = true ↔ rounds made n < most))
    {n : Nat} (hn : n ≤ made.length) : rounds made n = min n most := by
  induction n with
  | zero => simp [rounds]
  | succ n ih =>
    have hresult := List.getElem?_eq_getElem (Nat.lt_of_succ_le hn)
    have hdecided := hbegins n _ hresult
    rw [ih (Nat.le_of_succ_le hn)] at hdecided
    rw [rounds_succ hresult, ih (Nat.le_of_succ_le hn)]
    cases hvalue : made[n].begins with
    | true =>
      have := hdecided.1 hvalue
      simp only [Bool.toNat_true]
      omega
    | false =>
      have : ¬min n most < most := fun hless => by simpa [hvalue] using hdecided.2 hless
      simp only [Bool.toNat_false]
      omega

/-! ### Loose data -/

/-- What loose data says about the mode of a loop: an unknown mode counts. -/
theorem mode_planOfFields (data : Fields) :
    (planOfFields data).mode =
      match Assoc.get? data "loop_type" with
      | some (.text "while") => .whilst
      | some (.text "list") => .list
      | _ => .count := by
  have htext (s : String) : (Tagged.ofTag? s).getD LoopMode.count =
      match some (Value.text s) with
      | some (.text "while") => .whilst
      | some (.text "list") => .list
      | _ => .count := by
    by_cases hwhile : s = "while"
    · subst hwhile
      rfl
    · by_cases hlist : s = "list"
      · subst hlist
        rfl
      · by_cases hcount : s = "count"
        · subst hcount
          rfl
        · simp [Tagged.ofTag?, Tagged.all, Tagged.tag, Ne.symm hwhile, Ne.symm hlist,
            Ne.symm hcount, hwhile, hlist]
  rw [planOfFields]
  cases hvalue : Assoc.get? data "loop_type" with
  | none => simp only [textField, hvalue]; rfl
  | some value =>
    cases value with
    | text s => simpa only [textField, hvalue] using htext s
    | _ => simp only [textField, hvalue]; rfl

/-- The plan in the settings of a block whose mode was put to any value. -/
theorem planOfFields_insert (settings : LoopSettings) (mode : Value) :
    planOfFields (Assoc.insert (Settings.toFields settings) "loop_type" mode) =
      { planOf settings with
        mode := (planOfFields [("loop_type", mode)]).mode } := by
  have hcondition : Tagged.ofTag? (Tagged.tag settings.whileCondition) =
      some settings.whileCondition := Tagged.ReadBack.ofTag?_tag _
  simp [planOfFields, planOf, textField, Assoc.contains, Assoc.insert, Assoc.get?,
    Settings.toFields, Settings.fields, Field.option, Field.integer, Field.text, Field.make,
    hcondition]

/-- The settings of a loop block make a sound plan, whatever its mode is put to. -/
theorem sound_of_settings (settings : LoopSettings) (mode : Value) :
    (planOfFields (Assoc.insert (Settings.toFields settings) "loop_type" mode)).Sound := by
  rw [planOfFields_insert]
  exact ⟨rfl, rfl, rfl, nofun, nofun⟩

/-- A loop starts with no round begun; where it runs over a list, the items are fixed then. -/
theorem start_spec (hsound : plan.Sound) (block : String) {bindings : Fields}
    (hbindings : Scope.Legible ⟨bindings, []⟩) :
    ∃ text, Template.fillValue plan.listItems bindings = .ok text ∧
      start block plan bindings =
        .ok ⟨block, 0, if plan.mode = .list then partsOf text else []⟩ := by
  obtain ⟨text, htext⟩ := Template.exists_fillValue hsound.items hbindings.bindings
  refine ⟨text, htext, ?_⟩
  rw [start, htext, ← itemsOf_eq_partsOf]
  split <;> rfl

theorem begins_iff_lt {made : List Call} {most : Nat}
    (hbegins : ∀ n result, made[n]? = some result →
      (result.begins = true ↔ rounds made n < most))
    {n : Nat} {result : Call} (hresult : made[n]? = some result) :
    result.begins = true ↔ n < most := by
  have hlength := (List.getElem?_eq_some_iff.1 hresult).1
  rw [hbegins n result hresult, rounds_eq_min hbegins (Nat.le_of_lt hlength)]
  omega

/-! ### The rounds of a loop -/

/-- What the `n`-th of the calls made, counted from 0, does with the variables it finds, if the loop
was started with the frame `first` and the items `items`. -/
structure Fulfils (plan : Plan) (items : List String) (first : Frame) (made : List Call) (n : Nat)
    (scope : Scope) (result : Call) : Prop where
  /-- A round begins while the condition holds, at most 100 times; or on the first calls, as many as
  there are items, or as the count says. -/
  begins : result.begins = true ↔
    match plan.mode with
    | .whilst => rounds made n < 100 ∧ Satisfied plan scope
    | .list => n < items.length
    | .count => (n : Int) < max 0 (plan.count.wholeOr 0)
  /-- The round binds the item and then its number; no other variable changes. -/
  entered : result.begins = true →
    result.frame = { first with iteration := rounds made n + 1 } ∧
      ∃ between,
        (match plan.mode with
          | .list => ∃ item, items[rounds made n]? = some item ∧
              Scope.Binds plan.listVariable (.text item) scope between
          | _ => between = scope) ∧
        Scope.Binds plan.counterVariable (.int (rounds made n + 1)) between result.scope
  finished : result.begins = false →
    result.frame = { first with iteration := rounds made n } ∧ result.scope = scope

/-- What each call does with the frame it finds says how often the loop begins its body. -/
theorem fulfils_of_answers {items : List String} {first : Frame} {made : List Call}
    (hiteration : first.iteration = 0) (hitems : plan.mode = .list → first.items = items)
    (hanswers : ∀ n result, made[n]? = some result →
      ∃ scope, Answers plan (first.after (rounds made n)) scope result)
    {n : Nat} {result : Call} (hresult : made[n]? = some result)
    (hanswer : Answers plan (first.after (rounds made n)) scope result) :
    Fulfils plan items first made n scope result := by
  have hafter (count : Nat) : first.after count = { first with iteration := count } := by
    rw [Frame.after, hiteration, Nat.zero_add]
  simp only [hafter] at hanswer hanswers
  refine ⟨?_, fun hbegins => ?_, hanswer.finished⟩
  · cases hmode : plan.mode with
    | whilst => simpa only [Due, hmode, whileLimit] using hanswer.begins
    | list =>
      refine begins_iff_lt (fun n result hresult => ?_) hresult
      obtain ⟨scope, hscope⟩ := hanswers n result hresult
      rw [hscope.begins, ← hitems hmode]
      simp only [Due, hmode]
    | count =>
      have hmost (count : Nat) : (count : Int) < plan.count.wholeOr 0 ↔
          count < (plan.count.wholeOr 0).toNat := Int.lt_toNat.symm
      have hbegin (n : Nat) (result : Call) (hresult : made[n]? = some result) :
          result.begins = true ↔ rounds made n < (plan.count.wholeOr 0).toNat := by
        obtain ⟨scope, hscope⟩ := hanswers n result hresult
        rw [hscope.begins, ← hmost]
        simp only [Due, hmode]
      rw [begins_iff_lt hbegin hresult]
      omega
  · obtain ⟨hframe, between, hitem, hbinds⟩ := hanswer.entered hbegins
    refine ⟨hframe, between, ?_, hbinds⟩
    cases hmode : plan.mode with
    | list => simpa only [ItemBound, hmode, hitems hmode] using hitem
    | whilst | count => simpa only [ItemBound, hmode] using hitem

/-- A loop starts, answers every call, and begins its body as often as its mode says. -/
theorem rounds_of_loop :
    (∀ data : Fields, (planOfFields data).mode =
      match Assoc.get? data "loop_type" with
      | some (.text "while") => .whilst
      | some (.text "list") => .list
      | _ => .count) ∧
    (∀ (settings : LoopSettings) (mode : Value),
      (planOfFields (Assoc.insert (Settings.toFields settings) "loop_type" mode)).Sound) ∧
    ∀ ⦃plan : Plan⦄, plan.Sound → ∀ (block : String) ⦃bindings : Fields⦄,
      Scope.Legible ⟨bindings, []⟩ →
      ∃ text first, Template.fillValue plan.listItems bindings = .ok text ∧
        start block plan bindings = .ok first ∧
        ∀ scopes : List Scope, (∀ scope ∈ scopes, scope.Legible) →
          ∃ made, calls plan first scopes = .ok made ∧ made.length = scopes.length ∧
            ∀ n scope result, scopes[n]? = some scope → made[n]? = some result →
              Fulfils plan (partsOf text) first made n scope result := by
  refine ⟨mode_planOfFields, sound_of_settings, fun plan hsound block bindings hbindings => ?_⟩
  obtain ⟨text, htext, hstart⟩ := start_spec hsound block hbindings
  refine ⟨text, _, htext, hstart, fun scopes hscopes => ?_⟩
  obtain ⟨made, hmade, hlength, hanswers⟩ := calls_spec hsound hscopes
    ⟨block, 0, if plan.mode = .list then partsOf text else []⟩
  refine ⟨made, hmade, hlength, fun n scope result hscope hresult => ?_⟩
  refine fulfils_of_answers rfl (fun hlist => if_pos hlist) (fun n result hresult => ?_) hresult
    (hanswers n scope result hscope hresult)
  have hless := (List.getElem?_eq_some_iff.1 hresult).1
  have hfound := List.getElem?_eq_getElem (hlength ▸ hless)
  exact ⟨_, hanswers n _ result hfound hresult⟩

/-- A loop over three items, each of which its number overwrites. -/
def listing : Fields :=
  [("loop_type", .text "list"), ("list_items", .text "\x7ba\x7d, b,, c"),
    ("list_variable", .text "x"), ("counter_variable", .text "x")]

theorem rounds_of_listing :
    (planOfFields listing).Sound ∧ Scope.Legible ⟨[("a", .text "first")], []⟩ ∧
    ∃ first, start "block_1" (planOfFields listing) [("a", .text "first")] = .ok first ∧
      ∀ scopes : List Scope, (∀ scope ∈ scopes, scope.Legible) →
        ∃ made, calls (planOfFields listing) first scopes = .ok made ∧
          made.length = scopes.length ∧
          ∀ n scope result, scopes[n]? = some scope → made[n]? = some result →
            Fulfils (planOfFields listing) ["first", "b", "c"] first made n scope result := by
  have hsound : (planOfFields listing).Sound := ⟨rfl, rfl, rfl, nofun, nofun⟩
  have hlegible : Scope.Legible ⟨[("a", .text "first")], []⟩ :=
    Scope.legible_of_bindings (by simpa using nofun)
  obtain ⟨text, first, htext, hstart, hcalls⟩ := rounds_of_loop.2.2 hsound "block_1" hlegible
  have hfilled : Template.fillValue (planOfFields listing).listItems [("a", .text "first")] =
      .ok "first, b,, c" := by decide +kernel
  rw [hfilled] at htext
  cases htext
  have hparts : partsOf "first, b,, c" = ["first", "b", "c"] := by decide +kernel
  rw [hparts] at hcalls
  exact ⟨hsound, hlegible, first, hstart, hcalls⟩

end Loop

end DialogGraph
