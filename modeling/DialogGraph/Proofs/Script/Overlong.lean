import DialogGraph.Proofs.Number.ReadBack
import DialogGraph.Proofs.Result
import DialogGraph.Script.Formula
import DialogGraph.Script.Loop
import Mathlib.Data.List.TakeWhile

/-!
# Values without a text

An integer beyond the digit limit has no text, nor has a value that holds one. These lemmas follow
the fault from the value through whatever reads it: a template that has it in a slot, and a loop
whose condition looks at it. No other fault can stop a loop.

Formulas can make such values, as they compute exactly what they read.
-/

namespace DialogGraph

open DialogGraph.Number DialogGraph.Text

theorem mapM_eq_error_iff {α β : Type} {f : α → Except TextFault β} {items : List α} :
    items.mapM f = .error .tooManyDigits ↔ ∃ a ∈ items, f a = .error .tooManyDigits := by
  induction items with
  | nil => simp [pure, Except.pure]
  | cons a rest ih =>
    rw [List.mapM_cons, bind_eq_error_iff]
    cases hfirst : f a with
    | error fault =>
      cases fault
      simp [hfirst]
    | ok b => simp [hfirst, bind_eq_error_iff, ih, pure, Except.pure]

/-! ### Values -/

/-- A value with an integer beyond the digit limit somewhere in it. -/
inductive Value.Overlong : Value → Prop
  | int {n : Int} (hlong : 10 ^ digitLimit ≤ n.natAbs) : Overlong (.int n)
  | item {items : List Value} {value : Value} (hmem : value ∈ items) (hlong : Overlong value) :
      Overlong (.list items)
  | field {fields : Fields} {name : String} {value : Value} (hmem : (name, value) ∈ fields)
      (hlong : Overlong value) : Overlong (.record fields)

theorem integerText_eq_error_iff {n : Int} :
    integerText n = .error .tooManyDigits ↔ 10 ^ digitLimit ≤ n.natAbs := by
  unfold integerText
  rw [Nat.pow_eq]
  by_cases hlong : 10 ^ digitLimit ≤ n.natAbs
  · rw [if_pos hlong]
    exact iff_of_true rfl hlong
  · rw [if_neg hlong]
    exact iff_of_false nofun hlong

namespace Value

mutual

/-- A value stands inside others as a text unless it is too long. -/
theorem quoted_eq_error_iff : ∀ value : Value,
    value.quoted = .error .tooManyDigits ↔ value.Overlong
  | .null => ⟨nofun, nofun⟩
  | .bool true => ⟨nofun, nofun⟩
  | .bool false => ⟨nofun, nofun⟩
  | .int n => by
    rw [quoted, integerText_eq_error_iff]
    exact ⟨.int, fun | .int hlong => hlong⟩
  | .real _ => ⟨nofun, nofun⟩
  | .text _ => ⟨nofun, nofun⟩
  | .list items => by
    simp only [quoted, bind_eq_error_iff, quotedItems_eq_error_iff items, pure, Except.pure,
      reduceCtorEq, and_false, exists_false, or_false]
    exact ⟨fun ⟨_, hmem, hlong⟩ => .item hmem hlong, fun | .item hmem hlong => ⟨_, hmem, hlong⟩⟩
  | .record fields => by
    simp only [quoted, bind_eq_error_iff, quotedFields_eq_error_iff fields, pure, Except.pure,
      reduceCtorEq, and_false, exists_false, or_false]
    exact ⟨fun ⟨_, _, hmem, hlong⟩ => .field hmem hlong,
      fun | .field hmem hlong => ⟨_, _, hmem, hlong⟩⟩

theorem quotedItems_eq_error_iff : ∀ items : List Value,
    quotedItems items = .error .tooManyDigits ↔ ∃ value ∈ items, value.Overlong
  | [] => by simp [quotedItems]
  | item :: rest => by
    have hitem := quoted_eq_error_iff item
    have hrest := quotedItems_eq_error_iff rest
    cases hfirst : quoted item with
    | error fault =>
      cases fault
      simp [quotedItems, hfirst, hitem.1 hfirst, bind_eq_error_iff]
    | ok first =>
      have hshort : ¬item.Overlong := by simp [← hitem, hfirst]
      simp [quotedItems, hfirst, hshort, hrest, bind_eq_error_iff, pure, Except.pure]

theorem quotedFields_eq_error_iff : ∀ fields : Fields,
    quotedFields fields = .error .tooManyDigits ↔
      ∃ name value, (name, value) ∈ fields ∧ value.Overlong
  | [] => by simp [quotedFields]
  | (name, value) :: rest => by
    have hvalue := quoted_eq_error_iff value
    have hrest := quotedFields_eq_error_iff rest
    cases hfirst : quoted value with
    | error fault =>
      cases fault
      simp only [quotedFields, hfirst, bind_eq_error_iff, true_or, true_iff]
      exact ⟨name, value, List.mem_cons_self, hvalue.1 hfirst⟩
    | ok first =>
      have hshort : ¬value.Overlong := by simp [← hvalue, hfirst]
      simp only [quotedFields, hfirst, bind_eq_error_iff, hrest, List.mem_cons, Prod.mk.injEq]
      constructor
      · rintro (hnone | ⟨_, -, ⟨other, long, hmem, hlong⟩ | ⟨_, -, hnone⟩⟩)
        · cases hnone
        · exact ⟨other, long, .inr hmem, hlong⟩
        · cases hnone
      · rintro ⟨other, long, ⟨rfl, rfl⟩ | hmem, hlong⟩
        · exact absurd hlong hshort
        · exact .inr ⟨first, rfl, .inl ⟨other, long, hmem, hlong⟩⟩

end

theorem display_eq_error_iff (value : Value) :
    value.display = .error .tooManyDigits ↔ value.Overlong := by
  cases value with
  | text s => exact ⟨nofun, nofun⟩
  | _ => exact quoted_eq_error_iff _

theorem comparand_eq_error_iff (value : Value) :
    value.comparand = .error .tooManyDigits ↔ value.Overlong := by
  cases value with
  | null => exact ⟨nofun, nofun⟩
  | _ => simp only [comparand, display_eq_error_iff]

end Value

/-- A comparison with a text fails only on account of the other value. -/
theorem compareValues_eq_error_iff (comparison : Option Comparison) (actual : Value)
    (expected : String) :
    compareValues comparison actual (.text expected) = .error .tooManyDigits ↔
      actual.Overlong := by
  have hexpected : (Value.text expected).comparand = .ok expected := rfl
  rw [← Value.comparand_eq_error_iff, compareValues, bind_eq_error_iff]
  simp [hexpected, bind, Except.bind, pure, Except.pure]

/-! ### Templates -/

namespace Template

theorem Piece.fill_eq_error_iff {bindings : Fields} {piece : Piece} :
    piece.fill bindings = .error .tooManyDigits ↔
      ∃ name value, piece = .slot name ∧ Assoc.get? bindings (String.ofList name) = some value ∧
        value.Overlong := by
  cases piece with
  | plain c => exact ⟨nofun, nofun⟩
  | slot name =>
    cases hvalue : Assoc.get? bindings (String.ofList name) with
    | none => simp [fill, hvalue]
    | some value =>
      have hdisplay := value.display_eq_error_iff
      cases hshown : value.display <;> simp_all [fill, Except.map]

/-- A template cannot be filled in if a name in a slot is bound to a value without a text. -/
theorem fill_eq_error_iff {text : String} {bindings : Fields} :
    fill text bindings = .error .tooManyDigits ↔
      ∃ name value, Piece.slot name ∈ pieces text.toList ∧
        Assoc.get? bindings (String.ofList name) = some value ∧ value.Overlong := by
  simp only [fill, bind_eq_error_iff, mapM_eq_error_iff, Piece.fill_eq_error_iff, pure,
    Except.pure, reduceCtorEq, and_false, exists_false, or_false]
  constructor
  · rintro ⟨_, hmem, name, value, rfl, hvalue, hlong⟩
    exact ⟨name, value, hmem, hvalue, hlong⟩
  · rintro ⟨name, value, hmem, hvalue, hlong⟩
    exact ⟨_, hmem, name, value, rfl, hvalue, hlong⟩

theorem fillValue_text (text : String) (bindings : Fields) :
    fillValue (.text text) bindings = fill text bindings := by
  by_cases hempty : text = ""
  · subst hempty
    rfl
  · simp [fillValue, Value.isTruthy, hempty, Value.display, bind, Except.bind]

end Template

/-! ### Loops -/

namespace Loop

/-- The variables that the condition of a loop looks at: its own, and those in the slots of the
text that it is compared with. -/
def Reads (settings : LoopSettings) (name : String) : Prop :=
  name = settings.whileVariable ∨
    Template.Piece.slot name.toList ∈ Template.pieces settings.whileValue.toList

/-- The condition of a loop looks at a value without a text. -/
def Unreadable (settings : LoopSettings) (bindings : Fields) : Prop :=
  ∃ name value, Reads settings name ∧ Assoc.get? bindings name = some value ∧ value.Overlong

theorem unreadable_iff {settings : LoopSettings} {bindings : Fields} :
    Unreadable settings bindings ↔
      ((Assoc.get? bindings settings.whileVariable).getD (.text "")).Overlong ∨
        Template.fill settings.whileValue bindings = .error .tooManyDigits := by
  rw [Template.fill_eq_error_iff]
  constructor
  · rintro ⟨name, value, rfl | hslot, hvalue, hlong⟩
    · left
      rwa [hvalue, Option.getD_some]
    · exact .inr ⟨name.toList, value, hslot, by rwa [String.ofList_toList], hlong⟩
  · rintro (hlong | ⟨name, value, hslot, hvalue, hlong⟩)
    · cases hvalue : Assoc.get? bindings settings.whileVariable with
      | none =>
        rw [hvalue] at hlong
        cases hlong
      | some value =>
        rw [hvalue] at hlong
        exact ⟨_, value, .inl rfl, hvalue, hlong⟩
    · exact ⟨String.ofList name, value, .inr (by rwa [String.toList_ofList]), hvalue, hlong⟩

theorem holds_eq_error_iff {settings : LoopSettings} {scope : Scope} {fault : Fault} :
    holds (planOf settings) scope = .error fault ↔
      fault = .text .tooManyDigits ∧ Unreadable settings scope.bindings := by
  have hholds : holds (planOf settings) scope =
      (do
        let expected ← Template.fill settings.whileValue scope.bindings
        compareValues settings.whileCondition
          ((Assoc.get? scope.bindings settings.whileVariable).getD (.text ""))
          (.text expected)).mapError .text := by
    rw [← Template.fillValue_text]
    rfl
  rw [hholds, unreadable_iff]
  cases hfilled : Template.fill settings.whileValue scope.bindings with
  | error found =>
    cases found
    simp [bind, Except.bind, Except.mapError, eq_comm]
  | ok expected =>
    simp only [bind, Except.bind, reduceCtorEq, or_false,
      ← compareValues_eq_error_iff settings.whileCondition _ expected]
    rcases compareValues _ _ _ with ⟨⟨⟩⟩ | passed
    · simp [Except.mapError, eq_comm]
    · simp [Except.mapError]

/-- A text can always name a variable. -/
theorem Scope.bind_text_ne_error (scope : Scope) (name : String) (value : Value) (fault : Fault) :
    scope.bind (.text name) value ≠ .error fault := by
  by_cases hname : (Value.text name).isTruthy <;> simp [Scope.bind, hname, Value.keyFault?]

theorem enter_ne_error (settings : LoopSettings) (frame : Frame) (scope : Scope) (fault : Fault) :
    (do return some (← enter (planOf settings) frame scope)) ≠ Except.error fault := by
  have hbind := Scope.bind_text_ne_error scope settings.counterVariable (.int (frame.iteration + 1))
  simp [enter, bind_eq_error_iff, pure, Except.pure, planOf, hbind]

/-- What stops a loop from going on is always its condition. -/
theorem advance_eq_error_iff {settings : LoopSettings} {frame : Frame} {scope : Scope}
    {fault : Fault} :
    advance (planOf settings) frame scope = .error fault ↔
      fault = .text .tooManyDigits ∧ settings.mode = .whilst ∧ frame.iteration < whileLimit ∧
        Unreadable settings scope.bindings := by
  have hplan : (planOf settings).mode = settings.mode := rfl
  rw [advance]
  cases hmode : settings.mode with
  | whilst =>
    simp only [hplan, hmode]
    by_cases hless : frame.iteration < whileLimit
    · rw [if_pos hless, bind_eq_error_iff, holds_eq_error_iff]
      simp only [hless, true_and]
      constructor
      · rintro (hunreadable | ⟨passed, -, hrest⟩)
        · exact hunreadable
        · cases passed with
          | false => cases hrest
          | true => exact absurd hrest (enter_ne_error settings frame scope fault)
      · exact .inl
    · simp [hless]
  | list =>
    simp only [hplan, hmode]
    cases frame.items[frame.iteration]? with
    | none => simp
    | some item =>
      rw [bind_eq_error_iff]
      simp only [reduceCtorEq, false_and, and_false, iff_false]
      rintro (hitem | ⟨bound, -, hrest⟩)
      · exact Scope.bind_text_ne_error scope settings.listVariable (.text item) fault hitem
      · exact enter_ne_error settings frame bound fault hrest
  | count =>
    simp only [hplan, hmode]
    by_cases hless : (frame.iteration : Int) < (planOf settings).count.wholeOr 0
    · rw [if_pos hless]
      simp only [enter_ne_error, reduceCtorEq, false_and, and_false]
    · simp [hless]

end Loop

/-! ### Formulas -/

namespace Template

/-- Characters that open no slot are cut off one by one. -/
theorem piecesFrom_plain {cs : List Char} (hplain : ∀ c ∈ cs, c ≠ '\x7b') (done : List Piece)
    (rest : List Char) :
    piecesFrom done none (cs ++ rest) =
      piecesFrom ((cs.map Piece.plain).reverse ++ done) none rest := by
  induction cs generalizing done with
  | nil => rfl
  | cons c cs ih =>
    obtain ⟨hc, hrest⟩ := List.forall_mem_cons.1 hplain
    simp [piecesFrom, hc, ih hrest]

/-- A text without slots stays as it is. -/
theorem fill_of_plain {text : String} (hplain : ∀ c ∈ text.toList, c ≠ '\x7b')
    (bindings : Fields) : fill text bindings = .ok text := by
  have hcut : pieces text.toList = text.toList.map Piece.plain := by
    have hpieces := piecesFrom_plain hplain [] []
    rw [List.append_nil, List.append_nil] at hpieces
    rw [pieces, hpieces, piecesFrom, List.reverse_reverse]
  have hfilled : (pieces text.toList).mapM (Piece.fill bindings) =
      .ok (text.toList.map fun c => [c]) := by
    rw [hcut, List.mapM_map]
    exact List.mapM_pure
  rw [fill, hfilled]
  simp [bind, Except.bind, pure, Except.pure, ← List.flatMap_def, String.ofList_toList]

end Template

namespace Formula

/-- The digits of an integer as it stands in a formula. -/
structure Written (cs : List Char) : Prop where
  digits : ∀ c ∈ cs, c.isDigit = true
  ne_nil : cs ≠ []
  head : cs.head? ≠ some '0'
  short : cs.length ≤ digitLimit

variable {cs ds : List Char}

theorem operand?_of_written (hcs : Written cs) :
    operand? cs = some (.int (Nat.ofDigitChars 10 cs 0 : Nat)) := by
  have hwhole : cs.takeWhile Char.isDigit = cs := List.takeWhile_eq_self_iff.2 hcs.digits
  obtain ⟨c, rest, rfl⟩ := List.exists_cons_of_ne_nil hcs.ne_nil
  have hc : c ≠ '0' := by simpa using hcs.head
  have hshort : ¬digitLimit < (c :: rest).length := Nat.not_lt.2 hcs.short
  rw [operand?, hwhole, List.drop_length]
  simp only [List.isEmpty_cons, List.all_cons, List.head?_cons, hc, hshort,
    Option.some.injEq, Bool.false_eq_true, Bool.false_and, if_false, decide_false, Bool.or_false,
    beq_eq_false_iff_ne.2 hc, digitsValue_map_toNat]

theorem tokensFrom_append (hcs : ∀ c ∈ cs, c.isDigit = true) (done : List Token)
    (held rest : List Char) :
    tokensFrom done held (cs ++ rest) = tokensFrom done (cs.reverse ++ held) rest := by
  induction cs generalizing held with
  | nil => rfl
  | cons c cs ih =>
    obtain ⟨hc, hcs⟩ := List.forall_mem_cons.1 hcs
    simp [tokensFrom, isNumberChar, hc, ih hcs]

theorem tokens?_product (hcs : Written cs) (hds : Written ds) :
    tokens? (cs ++ '*' :: ds) =
      some [.number (.int (Nat.ofDigitChars 10 cs 0 : Nat)), .times,
        .number (.int (Nat.ofDigitChars 10 ds 0 : Nat))] := by
  have htimes : isNumberChar '*' = false := by decide
  have hlast := tokensFrom_append hds.digits
    [.times, .number (.int (Nat.ofDigitChars 10 cs 0 : Nat))] [] []
  rw [List.append_nil, List.append_nil] at hlast
  rw [tokens?, tokensFrom_append hcs.digits, List.append_nil, tokensFrom, htimes]
  simp [operator?, hcs.ne_nil, operand?_of_written hcs, hlast, tokensFrom, hds.ne_nil,
    operand?_of_written hds]

theorem isBlank_of_isDigit {c : Char} (hc : c.isDigit = true) : isBlank c = false := by
  have hbounds := toNat_bounds_of_isDigit hc
  simp [isBlank]
  omega

variable {room : Room} {formula text : String} {bindings : Fields}

namespace Room

theorem calculate_of_fill_error {fault : TextFault}
    (hfill : Template.fill formula bindings = .error fault) :
    room.calculate (.text formula) bindings = .error (.text fault) := by
  rw [calculate, Template.fillValue_text, hfill]
  rfl

theorem calculate_of_runsOut (hfill : Template.fill formula bindings = .ok text)
    (hroom : room.runsOut (squeeze text) = true) :
    room.calculate (.text formula) bindings = .error .memory := by
  rw [calculate, Template.fillValue_text, hfill]
  exact if_pos hroom

theorem calculate_of_fill (hfill : Template.fill formula bindings = .ok text)
    (hroom : room.runsOut (squeeze text) = false) :
    room.calculate (.text formula) bindings = .ok (resultOf room.depth (squeeze text)) := by
  rw [calculate, Template.fillValue_text, hfill]
  exact if_neg (Bool.eq_false_iff.1 hroom)

end Room

/-- The product of two integers is exact, however long it is. -/
theorem calculate_product (hcs : Written cs) (hds : Written ds) (hdepth : 2 ≤ room.depth)
    (hroom : room.runsOut (cs ++ '*' :: ds) = false) (bindings : Fields) :
    room.calculate (.text (String.ofList (cs ++ '*' :: ds))) bindings =
      .ok (.int (Nat.ofDigitChars 10 cs 0 * Nat.ofDigitChars 10 ds 0 : Nat)) := by
  have hchars : ∀ c ∈ cs ++ '*' :: ds, c ≠ '\x7b' ∧ isBlank c = false := by
    have hdigit {c : Char} (hc : c.isDigit = true) : c ≠ '\x7b' ∧ isBlank c = false :=
      ⟨fun hbrace => by simp [hbrace, Char.isDigit] at hc, isBlank_of_isDigit hc⟩
    intro c hc
    rcases List.mem_append.1 hc with hc | hc
    · exact hdigit (hcs.digits c hc)
    · rcases List.mem_cons.1 hc with rfl | hc
      · decide
      · exact hdigit (hds.digits c hc)
  have hfilled : Template.fill (String.ofList (cs ++ '*' :: ds)) bindings =
      .ok (String.ofList (cs ++ '*' :: ds)) :=
    Template.fill_of_plain (by rw [String.toList_ofList]; exact fun c hc => (hchars c hc).1) bindings
  have hsqueezed : squeeze (String.ofList (cs ++ '*' :: ds)) = cs ++ '*' :: ds := by
    rw [squeeze, String.toList_ofList, List.filter_eq_self]
    exact fun c hc => by simp [(hchars c hc).2]
  rw [Room.calculate_of_fill hfilled (by rwa [hsqueezed]), hsqueezed]
  have hparse (m n : Operand) : parse? [.number m, .times, .number n] =
      some (.binary .multiply (.number m) (.number n)) := rfl
  have hshallow (m n : Operand) :
      (Expr.binary .multiply (.number m) (.number n)).depth ≤ room.depth := hdepth
  simp only [resultOf, compute?, tokens?_product hcs hds, hparse, evaluate?, hshallow,
    Option.bind_eq_bind, Option.bind_some, if_true]
  rfl

/-! ### Room on a usual machine -/

/-- No more levels are in use than the signs and the parentheses of a text may ask for. -/
theorem Room.peak_le (outer : List Nat) (signs : Nat) (ended : Bool) (cs : List Char) :
    peak outer signs ended cs ≤
      levels outer + signs + cs.countP isSign + parenthesisLevels * cs.count '(' := by
  induction cs generalizing outer signs ended with
  | nil => exact Nat.zero_le _
  | cons c rest ih =>
    have htail : levels outer.tail ≤ levels outer := by
      cases outer with
      | nil => exact Nat.le_refl _
      | cons => simp [levels]
    have hmore : rest.countP isSign ≤ (c :: rest).countP isSign :=
      (List.sublist_cons_self c rest).countP_le
    rw [peak]
    by_cases hopening : c = '('
    · have hinner : levels (signs :: outer) = levels outer + signs + parenthesisLevels := by
        rw [levels]
        omega
      have hopened := ih (signs :: outer) 0 false
      subst hopening
      rw [if_pos (by decide), List.count_cons_self, Nat.mul_succ]
      split_ifs
      · exact Nat.zero_le _
      · exact max_le (by omega) (by omega)
    · rw [if_neg (by simpa using hopening), List.count_cons_of_ne hopening]
      split_ifs with hclosing hended hsign
      · have hclosed := ih outer.tail 0 true
        omega
      · exact Nat.zero_le _
      · have hsigned := ih outer (signs + 1) false
        rw [List.countP_cons_of_pos (Bool.and_eq_true_iff.1 hsign).1]
        exact max_le (by omega) (by omega)
      · have hother := ih outer 0 (isNumberChar c)
        omega

end Formula

end DialogGraph
