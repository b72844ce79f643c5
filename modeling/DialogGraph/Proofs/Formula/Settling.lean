import DialogGraph.Proofs.Formula.Integers
import DialogGraph.Proofs.Number.Largest

/-!
# What becomes of a formula

A formula has the value of the phrase that its text spells, and is 0 where there is no such phrase
or its evaluation fails. A result that is a double is never an integer. Two things keep a formula
from a result. A variable in it may have no text: that is found out before there is anything to
evaluate. And the reader of expressions may run out of memory. All of this holds in every room.
-/

namespace DialogGraph.Formula

open DialogGraph.Number DialogGraph.Text

/-! ### Operations that fail -/

/-- The operations that have no result for a zero divisor. -/
def Operation.Divides : Operation → Prop
  | divide => True
  | remainder => True
  | _ => False

/-- The operands for which an operation has no result: divisors that are zero, quotients beyond the
range of doubles, and integers beyond it that meet a double. -/
inductive Operation.Fails : Operation → Operand → Operand → Prop
  | zeroInteger {operation : Operation} {m : Int} (hdivides : operation.Divides) :
      Fails operation (.int m) (.int 0)
  | largeQuotient {m n : Int} (hlarge : realLimit * n.natAbs ≤ m.natAbs) :
      Fails .divide (.int m) (.int n)
  | largeLeft {operation : Operation} {m : Int} {y : Float}
      (hlarge : realLimit ≤ m.natAbs) : Fails operation (.int m) (.real y)
  | largeRight {operation : Operation} {x : Float} {n : Int}
      (hlarge : realLimit ≤ n.natAbs) : Fails operation (.real x) (.int n)
  | zeroReal {operation : Operation} {a b : Operand} {y : Float} (hdivides : operation.Divides)
      (hreal : (∃ x, a = .real x) ∨ b = .real y) (hright : b.toReal? = some y)
      (hzero : isZero y = true) : Fails operation a b

theorem remainder?_eq_none_iff {x y : Float} : remainder? x y = none ↔ isZero y = true := by
  rw [remainder?, isZero]
  cases decode y with
  | nan => cases decode x <;> simp
  | infinite negative =>
    cases decode x with
    | finite a =>
      simp only [Bool.false_eq_true, iff_false]
      split_ifs <;> simp
    | _ => simp
  | finite b =>
    cases decode x with
    | finite a =>
      simp only [Dyadic.remainder?, beq_iff_eq]
      split_ifs <;> simp [*]
    | _ => simp

theorem quotient?_eq_none_iff {m n : Int} :
    quotient? m n = none ↔ realLimit * n.natAbs ≤ m.natAbs := by
  rw [quotient?]
  split_ifs with hzero
  · simp [hzero]
  · have hfinite : (∃ d, decode (ofRatio ((m < 0) != (n < 0)) m.natAbs n.natAbs) = .finite d) ↔
        m.natAbs < realLimit * n.natAbs := decode_ofRatio_iff (Int.natAbs_ne_zero.2 hzero) _
    rw [← not_lt, ← hfinite]
    dsimp only
    cases decode (ofRatio ((m < 0) != (n < 0)) m.natAbs n.natAbs) <;> simp

namespace Operation

variable {operation : Operation}

theorem onInts_eq_none_iff {m n : Int} :
    operation.onInts m n = none ↔ operation.Fails (.int m) (.int n) := by
  have hfails : operation.Fails (.int m) (.int n) ↔ operation.Divides ∧ n = 0 ∨
      operation = .divide ∧ realLimit * n.natAbs ≤ m.natAbs := by
    constructor
    · intro hfails
      cases hfails with
      | zeroInteger hdivides => exact .inl ⟨hdivides, rfl⟩
      | largeQuotient hlarge => exact .inr ⟨rfl, hlarge⟩
      | zeroReal _ hreal =>
        rcases hreal with ⟨_, hreal⟩ | hreal <;> cases hreal
    · rintro (⟨hdivides, rfl⟩ | ⟨rfl, hlarge⟩)
      · exact .zeroInteger hdivides
      · exact .largeQuotient hlarge
  rw [hfails]
  cases operation with
  | divide =>
    simp only [onInts, Option.map_eq_none_iff, quotient?_eq_none_iff, Divides, true_and]
    refine ⟨.inr, ?_⟩
    rintro (rfl | hlarge)
    · simp
    · exact hlarge
  | remainder => simp [onInts, Divides]
  | _ => simp [onInts, Divides]

theorem onReals_eq_none_iff {x y : Float} :
    operation.onReals x y = none ↔ operation.Divides ∧ isZero y = true := by
  cases operation <;> simp [onReals, Divides, remainder?_eq_none_iff]

/-- An operation on two numbers of which one is a double. -/
theorem apply_eq_none_iff_of_real {a b : Operand} (hreal : (∃ x, a = .real x) ∨ ∃ y, b = .real y) :
    operation.apply a b = none ↔ a.toReal? = none ∨ b.toReal? = none ∨
      operation.Divides ∧ ∃ y, b.toReal? = some y ∧ isZero y = true := by
  have happly : operation.apply a b = (do
      let x ← a.toReal?
      let y ← b.toReal?
      operation.onReals x y) := by
    cases a <;> cases b <;> first | rfl | simp at hreal
  rw [happly]
  cases a.toReal? with
  | none => simp
  | some x =>
    cases b.toReal? with
    | none => simp
    | some y => simp [onReals_eq_none_iff]

/-- These are all the operands for which an operation has no result. -/
theorem apply_eq_none_iff {a b : Operand} : operation.apply a b = none ↔ operation.Fails a b := by
  have htoReal? {n : Int} : (Operand.int n).toReal? = none ↔ realLimit ≤ n.natAbs :=
    ofInt?_eq_none_iff
  match a, b with
  | .int m, .int n => exact onInts_eq_none_iff
  | .int m, .real y =>
    rw [apply_eq_none_iff_of_real (.inr ⟨y, rfl⟩), htoReal?]
    constructor
    · rintro (hlarge | hnone | ⟨hdivides, y, hright, hzero⟩)
      · exact .largeLeft hlarge
      · cases hnone
      · exact .zeroReal hdivides (.inr (by cases hright; rfl)) hright hzero
    · intro hfails
      cases hfails with
      | largeLeft hlarge => exact .inl hlarge
      | zeroReal hdivides _ hright hzero => exact .inr (.inr ⟨hdivides, _, hright, hzero⟩)
  | .real x, b =>
    rw [apply_eq_none_iff_of_real (.inl ⟨x, rfl⟩)]
    constructor
    · rintro (hnone | hlarge | ⟨hdivides, y, hright, hzero⟩)
      · cases hnone
      · match b with
        | .int n => exact .largeRight (htoReal?.1 hlarge)
        | .real y => cases hlarge
      · exact .zeroReal hdivides (.inl ⟨x, rfl⟩) hright hzero
    · intro hfails
      cases hfails with
      | largeRight hlarge => exact .inr (.inl (htoReal?.2 hlarge))
      | zeroReal hdivides _ hright hzero => exact .inr (.inr ⟨hdivides, _, hright, hzero⟩)

end Operation

/-- An operation somewhere in an expression fails. -/
inductive Expr.Fails : Expr → Prop
  | keep {e : Expr} (he : Fails e) : Fails (.keep e)
  | negate {e : Expr} (he : Fails e) : Fails (.negate e)
  | left {operation : Operation} {left right : Expr} (hleft : Fails left) :
      Fails (.binary operation left right)
  | right {operation : Operation} {left right : Expr} (hright : Fails right) :
      Fails (.binary operation left right)
  | here {operation : Operation} {left right : Expr} {a b : Operand} (hleft : left.value? = some a)
      (hright : right.value? = some b) (hfails : operation.Fails a b) :
      Fails (.binary operation left right)

theorem Expr.value?_eq_none_iff {e : Expr} : e.value? = none ↔ e.Fails := by
  induction e with
  | number operand => exact iff_of_false (Option.some_ne_none operand) (by rintro ⟨⟩)
  | keep e ih =>
    rw [value?, ih]
    refine ⟨.keep, fun hfails => ?_⟩
    cases hfails with
    | keep he => exact he
  | negate e ih =>
    rw [value?, Option.map_eq_none_iff, ih]
    refine ⟨.negate, fun hfails => ?_⟩
    cases hfails with
    | negate he => exact he
  | binary operation left right ihleft ihright =>
    constructor
    · intro hnone
      cases hleft : left.value? with
      | none => exact .left (ihleft.1 hleft)
      | some a =>
        cases hright : right.value? with
        | none => exact .right (ihright.1 hright)
        | some b =>
          simp only [value?, hleft, hright, Option.bind_eq_bind, Option.bind_some] at hnone
          exact .here hleft hright (Operation.apply_eq_none_iff.1 hnone)
    · intro hfails
      cases hfails with
      | left hfails => simp [value?, ihleft.2 hfails]
      | right hfails => simp [value?, ihright.2 hfails]
      | here hleft hright hfails =>
        simp [value?, hleft, hright, Operation.apply_eq_none_iff.2 hfails]

/-! ### Texts without a value -/

/-- A text without a value: an empty one, one with a character that no formula has, one that spells
no phrase, and one whose phrase is nested too deeply or fails. -/
inductive Valueless (depth : Nat) (cs : List Char) : Prop
  | empty (hempty : cs = [])
  | foreign {c : Char} (hmem : c ∈ cs) (hforeign : c ∉ alphabet)
  | unread (hnone : ∀ p : Phrase .sum, ¬Spelled cs p.symbols)
  | nested {p : Phrase .sum} (hspelled : Spelled cs p.symbols)
      (hdeep : parenthesisLimit < p.nesting)
  | deep {p : Phrase .sum} (hspelled : Spelled cs p.symbols) (hdeep : depth < p.expr.depth)
  | failing {p : Phrase .sum} (hspelled : Spelled cs p.symbols) (hfails : p.expr.Fails)

theorem compute?_eq_none_iff {depth : Nat} {cs : List Char} :
    compute? depth cs = none ↔ Valueless depth cs := by
  constructor
  · intro hnone
    by_cases hread : ∃ p : Phrase .sum, Spelled cs p.symbols
    · obtain ⟨p, hspelled⟩ := hread
      by_cases hnesting : p.nesting ≤ parenthesisLimit
      · by_cases hdepth : p.expr.depth ≤ depth
        · cases hvalue : p.expr.value? with
          | none => exact .failing hspelled (Expr.value?_eq_none_iff.1 hvalue)
          | some a =>
            rw [compute?_eq_some_iff.2 ⟨p, hspelled, hnesting, hdepth, a, hvalue, rfl⟩] at hnone
            cases hnone
        · exact .deep hspelled (Nat.lt_of_not_le hdepth)
      · exact .nested hspelled (Nat.lt_of_not_le hnesting)
    · exact .unread (not_exists.1 hread)
  · rw [Option.eq_none_iff_forall_ne_some]
    intro hvalueless result hresult
    obtain ⟨p, hspelled, hnesting, hdepth, a, hvalue, -⟩ := compute?_eq_some_iff.1 hresult
    cases hvalueless with
    | empty hempty =>
      subst hempty
      have hlength := p.joins_lt_length
      rw [hspelled.eq_nil] at hlength
      cases hlength
    | foreign hmem hforeign => exact hforeign (hspelled.mem_alphabet hmem)
    | unread hnone => exact hnone p hspelled
    | @nested q hq hdeep =>
      have hwithin := (withinParentheses_symbols_iff p).2 hnesting
      rw [symbols_eq_of_spelled hspelled hq, withinParentheses_symbols_iff] at hwithin
      omega
    | deep hq hdeep =>
      rw [expr_eq_of_spelled hspelled hq] at hdepth
      omega
    | failing hq hfails =>
      rw [expr_eq_of_spelled hspelled hq, Expr.value?_eq_none_iff.2 hfails] at hvalue
      cases hvalue

/-! ### Results -/

/-- A double that is left as a result is not an integer. -/
theorem Operand.settle_eq_real {a : Operand} {x : Float} (hsettle : a.settle = .real x)
    {d : Number.Dyadic} (hdecode : decode x = .finite d) (n : Int) : d.value ≠ n := by
  cases a with
  | int m => cases hsettle
  | real y =>
    intro hvalue
    rw [settle] at hsettle
    split at hsettle
    next => cases hsettle
    next hnone =>
      cases hsettle
      rw [exactInt?_eq_some_iff.2 ⟨d, hdecode, hvalue⟩] at hnone
      cases hnone

/-- Unless the reader runs out of memory, the room only tells how deeply a formula may be nested. -/
theorem Room.calculate_eq_or (room : Room) (formula : Value) (bindings : Fields) :
    room.calculate formula bindings = .error .memory ∨
      room.calculate formula bindings =
        (Formula.calculate formula bindings room.depth).mapError .text := by
  rw [calculate, Formula.calculate]
  cases Template.fillValue formula bindings with
  | error fault => exact .inr rfl
  | ok text =>
    cases hroom : room.runsOut (squeeze text) with
    | true => exact .inl (if_pos hroom)
    | false => exact .inr (if_neg (Bool.eq_false_iff.1 hroom))

theorem Room.runsOut_eq_true_iff {room : Room} {cs : List Char} :
    room.runsOut cs = true ↔ cs ≠ [] ∧ (∀ c ∈ cs, c ∈ alphabet) ∧ room.exhausts cs = true := by
  simp [runsOut, and_assoc]

theorem Room.le_peak_signs (n signs : Nat) (cs : List Char) (hn : 0 < n) :
    signs + n ≤ peak [] signs false (List.replicate n '-' ++ cs) := by
  induction n generalizing signs with
  | zero => cases hn
  | succ n ih =>
    have hfirst : peak [] signs false (List.replicate (n + 1) '-' ++ cs) =
        max (signs + 1) (peak [] (signs + 1) false (List.replicate n '-' ++ cs)) := by
      rw [List.replicate_succ, List.cons_append, peak]
      simp [levels, isSign]
    rw [hfirst]
    rcases Nat.eq_zero_or_pos n with rfl | hpos
    · exact le_max_left _ _
    · have hrest := ih (signs + 1) hpos
      exact le_max_of_le_right (by omega)

/-- The usual reader runs out of memory at a number behind more signs than it has levels, though
such a formula has a value. -/
theorem Room.runsOut_usual_signs {n : Nat} (hn : usualLevels < n) :
    usual.runsOut (List.replicate n '-' ++ ['1']) = true := by
  have hpeak := le_peak_signs n 0 ['1'] (Nat.zero_lt_of_lt hn)
  refine runsOut_eq_true_iff.2 ⟨by simp, ?_, decide_eq_true (by omega)⟩
  have hall : '-' ∈ alphabet ∧ '1' ∈ alphabet := by decide
  intro c hc
  rcases List.mem_append.1 hc with hsign | hone
  · exact List.eq_of_mem_replicate hsign ▸ hall.1
  · exact List.mem_singleton.1 hone ▸ hall.2

end DialogGraph.Formula
