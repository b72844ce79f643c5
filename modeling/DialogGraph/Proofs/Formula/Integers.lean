import DialogGraph.Proofs.Formula.Spelling
import DialogGraph.Proofs.Literal.Spelling
import DialogGraph.Proofs.Script.Filling

/-!
# Formulas over integers

An expression over integers, written in any of the ways that there are, is computed exactly. It may
be written with blanks between its words, and any part of the text may come out of a variable. A
zero to the right of a `%` makes all of it 0. So does what is written like an expression and is
none: a power, a quotient rounded down, a call or a tuple.
-/

namespace DialogGraph.Formula

open DialogGraph.Number DialogGraph.Text

/-- An expression over integers as it stands in a formula, without quotients. -/
inductive Arithmetic : Rank → Type where
  | literal (n : Nat) : Arithmetic .factor
  | signed (sign : Additive) (e : Arithmetic .factor) : Arithmetic .factor
  | group (e : Arithmetic .sum) : Arithmetic .factor
  | factor (e : Arithmetic .factor) : Arithmetic .product
  | times (left : Arithmetic .product) (right : Arithmetic .factor) : Arithmetic .product
  | percent (left : Arithmetic .product) (right : Arithmetic .factor) : Arithmetic .product
  | term (e : Arithmetic .product) : Arithmetic .sum
  | sum (operator : Additive) (left : Arithmetic .sum) (right : Arithmetic .product) :
      Arithmetic .sum

def Additive.char : Additive → Char
  | plus => '+'
  | minus => '-'

namespace Arithmetic

variable {rank : Rank}

/-- The words that an expression is written with: decimal numbers, operators and parentheses. -/
def words : {rank : Rank} → Arithmetic rank → List (List Char)
  | _, literal n => [(natText n).toList]
  | _, signed sign e => [sign.char] :: e.words
  | _, group e => ['('] :: (e.words ++ [[')']])
  | _, factor e => e.words
  | _, times left right => left.words ++ ['*'] :: right.words
  | _, percent left right => left.words ++ ['%'] :: right.words
  | _, term e => e.words
  | _, sum operator left right => left.words ++ [operator.char] :: right.words

def value : {rank : Rank} → Arithmetic rank → Int
  | _, literal n => n
  | _, signed .plus e => e.value
  | _, signed .minus e => -e.value
  | _, group e => e.value
  | _, factor e => e.value
  | _, times left right => left.value * right.value
  | _, percent left right => Int.fmod left.value right.value
  | _, term e => e.value
  | _, sum .plus left right => left.value + right.value
  | _, sum .minus left right => left.value - right.value

/-- Whether a remainder by zero is taken anywhere in an expression. -/
def dividesByZero : {rank : Rank} → Arithmetic rank → Bool
  | _, literal _ => false
  | _, signed _ e => e.dividesByZero
  | _, group e => e.dividesByZero
  | _, factor e => e.dividesByZero
  | _, times left right => left.dividesByZero || right.dividesByZero
  | _, percent left right => left.dividesByZero || right.dividesByZero || right.value == 0
  | _, term e => e.dividesByZero
  | _, sum _ left right => left.dividesByZero || right.dividesByZero

/-- How many operators and signs there are in an expression. -/
def operators : {rank : Rank} → Arithmetic rank → Nat
  | _, literal _ => 0
  | _, signed _ e => e.operators + 1
  | _, group e => e.operators
  | _, factor e => e.operators
  | _, times left right => left.operators + right.operators + 1
  | _, percent left right => left.operators + right.operators + 1
  | _, term e => e.operators
  | _, sum _ left right => left.operators + right.operators + 1

/-- Whether no literal of an expression has more digits than may be read. -/
def short : {rank : Rank} → Arithmetic rank → Bool
  | _, literal n => (natText n).length ≤ digitLimit
  | _, signed _ e => e.short
  | _, group e => e.short
  | _, factor e => e.short
  | _, times left right => left.short && right.short
  | _, percent left right => left.short && right.short
  | _, term e => e.short
  | _, sum _ left right => left.short && right.short

def phrase : {rank : Rank} → Arithmetic rank → Phrase rank
  | _, literal n => .number (.int n)
  | _, signed sign e => .signed sign e.phrase
  | _, group e => .group e.phrase
  | _, factor e => .factor e.phrase
  | _, times left right => .product .times left.phrase right.phrase
  | _, percent left right => .product .percent left.phrase right.phrase
  | _, term e => .term e.phrase
  | _, sum operator left right => .sum operator left.phrase right.phrase

/-- Each level of an expression takes an operator or a sign. -/
theorem depth_phrase_le (e : Arithmetic rank) : e.phrase.expr.depth ≤ e.operators + 1 := by
  induction e with
  | literal n => exact le_refl 1
  | signed sign e ih => cases sign <;> exact Nat.succ_le_succ ih
  | group e ih | factor e ih | term e ih => exact ih
  | times left right ihleft ihright | percent left right ihleft ihright
  | sum operator left right ihleft ihright =>
    simp only [phrase, Phrase.expr, Expr.depth, operators]
    omega

/-- An expression is evaluated to its integer, unless it takes a remainder by zero. -/
theorem value?_phrase (e : Arithmetic rank) :
    e.phrase.expr.value? = if e.dividesByZero then none else some (.int e.value) := by
  induction e with
  | literal n => rfl
  | signed sign e ih =>
    cases sign <;> cases hzero : e.dividesByZero <;>
      simp [phrase, Phrase.expr, Expr.value?, dividesByZero, value, ih, hzero, Operand.negate]
  | group e ih | factor e ih | term e ih => exact ih
  | times left right ihleft ihright =>
    cases hleft : left.dividesByZero <;> cases hright : right.dividesByZero <;>
      simp [phrase, Phrase.expr, Expr.value?, dividesByZero, value, ihleft, ihright, hleft, hright,
        Multiplicative.operation, Operation.apply, Operation.onInts]
  | percent left right ihleft ihright =>
    cases hleft : left.dividesByZero <;> cases hright : right.dividesByZero <;>
      simp [phrase, Phrase.expr, Expr.value?, dividesByZero, value, ihleft, ihright, hleft, hright,
        Multiplicative.operation, Operation.apply, Operation.onInts]
  | sum operator left right ihleft ihright =>
    cases operator <;> cases hleft : left.dividesByZero <;> cases hright : right.dividesByZero <;>
      simp [phrase, Phrase.expr, Expr.value?, dividesByZero, value, ihleft, ihright, hleft, hright,
        Additive.operation, Operation.apply, Operation.onInts]

end Arithmetic

/-! ### Words -/

/-- The text of a number is read as the number. -/
theorem operand?_natText {n : Nat} (hshort : (natText n).length ≤ digitLimit) :
    operand? (natText n).toList = some (.int n) := by
  rcases Nat.eq_zero_or_pos n with rfl | hpos
  · rfl
  · have hwritten : Written (natText n).toList := by
      refine ⟨fun c hc => isDigit_of_mem_natText hc, ?_, fun hhead => ?_, ?_⟩
      · rw [toList_natText]
        exact Nat.toDigits_ne_nil
      · have hzero : (digitsOf n).head? = some 0 := by
          rw [digitsOf, List.head?_map, hhead]
          rfl
        exact hpos.ne' (Literal.eq_zero_of_head?_digitsOf hzero)
      · rwa [String.length_toList]
    rw [operand?_of_written hwritten, toList_natText, Nat.ofDigitChars_ten_toDigits]

theorem Additive.spells (operator : Additive) : Spells [operator.char] operator.token := by
  cases operator <;> exact .operator rfl

namespace Arithmetic

variable {rank : Rank}

/-- The words of an expression spell the symbols of its phrase. -/
theorem spelled_words (e : Arithmetic rank) (hshort : e.short = true) :
    Spelled e.words.flatten e.phrase.symbols := by
  induction e with
  | literal n =>
    refine .cons (.number (fun c hc => ?_) (operand?_natText (of_decide_eq_true hshort))) .nil
    rw [isNumberChar, isDigit_of_mem_natText hc, Bool.true_or]
  | signed sign e ih => exact .cons sign.spells (ih hshort)
  | group e ih =>
    rw [words, List.flatten_cons, List.flatten_append]
    exact .cons (.operator rfl) ((ih hshort).append (.cons (.operator rfl) .nil))
  | factor e ih | term e ih => exact ih hshort
  | times left right ihleft ihright | percent left right ihleft ihright =>
    obtain ⟨hleft, hright⟩ := Bool.and_eq_true_iff.1 hshort
    rw [words, List.flatten_append]
    exact (ihleft hleft).append (.cons (.operator rfl) (ihright hright))
  | sum operator left right ihleft ihright =>
    obtain ⟨hleft, hright⟩ := Bool.and_eq_true_iff.1 hshort
    rw [words, List.flatten_append]
    exact (ihleft hleft).append (.cons operator.spells (ihright hright))

theorem not_isBlank_of_mem_words (e : Arithmetic rank) :
    ∀ word ∈ e.words, ∀ c ∈ word, isBlank c = false := by
  have hadditive (operator : Additive) : isBlank operator.char = false := by
    cases operator <;> decide
  have hother : isBlank '(' = false ∧ isBlank ')' = false ∧ isBlank '*' = false ∧
      isBlank '%' = false := by decide
  induction e with
  | literal n =>
    simp only [words, List.forall_mem_singleton]
    exact fun c hc => isBlank_of_isDigit (isDigit_of_mem_natText hc)
  | signed sign e ih =>
    simp only [words, List.forall_mem_cons, List.not_mem_nil, false_implies, implies_true, and_true]
    exact ⟨hadditive sign, ih⟩
  | group e ih =>
    simp only [words, List.forall_mem_cons, List.forall_mem_append, List.not_mem_nil,
      false_implies, implies_true, and_true, hother]
    exact ⟨trivial, ih⟩
  | factor e ih | term e ih => exact ih
  | times left right ihleft ihright | percent left right ihleft ihright =>
    simp only [words, List.forall_mem_append, List.forall_mem_cons, List.not_mem_nil,
      false_implies, implies_true, and_true, hother]
    exact ⟨ihleft, trivial, ihright⟩
  | sum operator left right ihleft ihright =>
    simp only [words, List.forall_mem_append, List.forall_mem_cons, List.not_mem_nil,
      false_implies, implies_true, and_true]
    exact ⟨ihleft, hadditive operator, ihright⟩

end Arithmetic

/-- Words that are written one behind another, with any blanks around them. -/
inductive Spaced : List (List Char) → List Char → Prop
  | nil {blanks : List Char} (hblanks : ∀ c ∈ blanks, isBlank c = true) : Spaced [] blanks
  | cons (blanks : List Char) {word cs : List Char} {words : List (List Char)}
      (hblanks : ∀ c ∈ blanks, isBlank c = true) (hrest : Spaced words cs) :
      Spaced (word :: words) (blanks ++ word ++ cs)

/-- Without the blanks only the words are left. -/
theorem squeeze_of_spaced {words : List (List Char)} {cs : List Char} (hspaced : Spaced words cs)
    (hwords : ∀ word ∈ words, ∀ c ∈ word, isBlank c = false) :
    squeeze (String.ofList cs) = words.flatten := by
  rw [squeeze, String.toList_ofList]
  induction hspaced with
  | nil hblanks =>
    rw [List.flatten_nil, List.filter_eq_nil_iff]
    exact fun c hc => by simp [hblanks c hc]
  | @cons blanks word cs words hblanks _ ih =>
    obtain ⟨hword, hwords⟩ := List.forall_mem_cons.1 hwords
    have hgone : blanks.filter (fun c => !isBlank c) = [] :=
      List.filter_eq_nil_iff.2 fun c hc => by simp [hblanks c hc]
    have hkept : word.filter (fun c => !isBlank c) = word :=
      List.filter_eq_self.2 fun c hc => by simp [hword c hc]
    rw [List.filter_append, List.filter_append, hgone, hkept, ih hwords, List.nil_append,
      List.flatten_cons]

/-! ### Expressions that are none here -/

/-- A text with something in it that an expression may have elsewhere and not in a formula: a power,
a quotient rounded down, a call or a tuple. -/
inductive Foreign (cs : List Char) : Prop
  | power (hmem : ['*', '*'] <:+: cs)
  | floor (hmem : ['/', '/'] <:+: cs)
  | call (callee : Char) (hcallee : callee ∉ ['+', '-', '*', '/', '%', '('])
      (hmem : [callee, '('] <:+: cs)
  | tuple (hmem : ',' ∈ cs)
  | emptyTuple (hmem : ['(', ')'] <:+: cs)

variable {depth : Nat}

/-- A text has no value if an operator stands in it behind a character that it cannot follow. -/
theorem compute?_eq_none_of_infix {before c : Char} {token : Token} {cs : List Char}
    (hmem : [before, c] <:+: cs) (hread : operator? c = some token)
    (hnumber : isNumberChar before = true → token.mayFollow true = false)
    (hoperator : ∀ a, operator? before = some a → token.mayFollow a.endsOperand = false) :
    compute? depth cs = none := by
  obtain ⟨front, rest, rfl⟩ := hmem
  rw [Option.eq_none_iff_forall_ne_some]
  intro result hresult
  obtain ⟨p, hspelled, -⟩ := compute?_eq_some_iff.1 hresult
  rw [List.append_assoc, List.cons_append, List.singleton_append] at hspelled
  rcases hspelled.mayFollow (inPlace_phrase p) rfl hread with
    ⟨hbefore, hfollows⟩ | ⟨a, hbefore, hfollows⟩
  · rw [hnumber hbefore] at hfollows
    cases hfollows
  · rw [hoperator a hbefore] at hfollows
    cases hfollows

theorem Foreign.compute? {cs : List Char} (hforeign : Foreign cs) : compute? depth cs = none := by
  cases hforeign with
  | power hmem => exact compute?_eq_none_of_infix hmem rfl nofun (by rintro a ⟨⟩; rfl)
  | floor hmem => exact compute?_eq_none_of_infix hmem rfl nofun (by rintro a ⟨⟩; rfl)
  | call callee hcallee hmem =>
    refine compute?_eq_none_of_infix hmem rfl (fun _ => rfl) fun a hbefore => ?_
    have hends : ∀ entry ∈ Formula.operators, entry.1 ∉ ['+', '-', '*', '/', '%', '('] →
        Token.mayFollow entry.2.endsOperand .opening = false := by decide
    exact hends _ (operator?_eq_some_iff.1 hbefore) hcallee
  | tuple hmem =>
    rw [Option.eq_none_iff_forall_ne_some]
    intro result hresult
    obtain ⟨p, hspelled, -⟩ := compute?_eq_some_iff.1 hresult
    exact absurd (hspelled.mem_alphabet hmem) (by decide)
  | emptyTuple hmem => exact compute?_eq_none_of_infix hmem rfl nofun (by rintro a ⟨⟩; rfl)

/-! ### Values -/

/-- What the words of an expression stand for. -/
theorem compute?_words {e : Arithmetic .sum} (hshort : e.short = true)
    (hnesting : e.phrase.nesting ≤ parenthesisLimit) (hoperators : e.operators < depth) :
    compute? depth e.words.flatten = if e.dividesByZero then none else some (.int e.value) := by
  have hspelled := e.spelled_words hshort
  have hdepth : e.phrase.expr.depth ≤ depth := e.depth_phrase_le.trans hoperators
  have hvalue := e.value?_phrase
  split
  next hzero =>
    rw [if_pos hzero] at hvalue
    rw [Option.eq_none_iff_forall_ne_some]
    intro result hresult
    obtain ⟨p, hp, -, -, a, ha, -⟩ := compute?_eq_some_iff.1 hresult
    rw [expr_eq_of_spelled hp hspelled, hvalue] at ha
    cases ha
  next hzero =>
    rw [if_neg hzero] at hvalue
    exact compute?_eq_some_iff.2 ⟨_, hspelled, hnesting, hdepth, _, hvalue, rfl⟩

theorem calculate_of_fill {formula text : String} {bindings : Fields}
    (hfill : Template.fill formula bindings = .ok text) :
    calculate (.text formula) bindings depth = .ok (resultOf depth (squeeze text)) := by
  simp only [calculate, Template.fillValue_text, hfill, bind, Except.bind]
  rfl

/-- An expression over integers is computed exactly, however it is written and whatever parts of it
come out of variables; what only looks like one is 0. So it is wherever the depth left for an
evaluation allows for the operators. -/
theorem calculate_integers (hdepth : 300 < depth) (bindings : Fields) :
    (∀ (e : Arithmetic .sum) (formula written : List Char), e.short = true →
      e.phrase.nesting ≤ 200 → e.operators ≤ 300 → Spaced e.words written →
        Template.Supplied bindings formula written →
          calculate (.text (String.ofList formula)) bindings depth =
            .ok (.int (if e.dividesByZero then 0 else e.value))) ∧
    ∀ formula text : String, Template.fill formula bindings = .ok text → Foreign (squeeze text) →
      calculate (.text formula) bindings depth = .ok (.int 0) := by
  constructor
  · intro e formula written hshort hnesting hoperators hspaced hsupplied
    rw [calculate_of_fill (Template.fill_of_supplied hsupplied),
      squeeze_of_spaced hspaced e.not_isBlank_of_mem_words, resultOf,
      compute?_words hshort hnesting (hoperators.trans_lt hdepth)]
    cases e.dividesByZero <;> rfl
  · intro formula text hfill hforeign
    rw [calculate_of_fill hfill, resultOf, hforeign.compute?]

theorem calculate_integers_slot_and_signs :
    calculate (.text "\x7ba\x7d % -7") [("a", .text "2*-12")] = .ok (.int (-3)) ∧
      calculate (.text "7(2)") [("a", .text "2*-12")] = .ok (.int 0) := by
  obtain ⟨hexact, hforeign⟩ := calculate_integers (show 300 < usualDepth by decide)
    [("a", .text "2*-12")]
  have hnone : ∀ c ∈ [], isBlank c = true := List.forall_mem_nil _
  have hblank : ∀ c ∈ [' '], isBlank c = true := by simp [isBlank]
  have hspaced : Spaced [['2'], ['*'], ['-'], ['1', '2'], ['%'], ['-'], ['7']]
      ['2', '*', '-', '1', '2', ' ', '%', ' ', '-', '7'] :=
    .cons [] hnone <| .cons [] hnone <| .cons [] hnone <| .cons [] hnone <|
      .cons [' '] hblank <| .cons [' '] hblank <| .cons [] hnone <| .nil hnone
  have hsupplied : Template.Supplied [("a", .text "2*-12")]
      ['\x7b', 'a', '\x7d', ' ', '%', ' ', '-', '7']
      ['2', '*', '-', '1', '2', ' ', '%', ' ', '-', '7'] :=
    .slot ['a'] "2*-12" (List.cons_ne_nil _ _) (by simp) rfl rfl <|
      .plain ' ' (by simp) (by simp) <| .plain '%' (by simp) (by simp) <|
      .plain ' ' (by simp) (by simp) <| .plain '-' (by simp) (by simp) <|
      .plain '7' (by simp) (by simp) .nil
  constructor
  · exact hexact (.term (.percent (.times (.factor (.literal 2)) (.signed .minus (.literal 12)))
      (.signed .minus (.literal 7)))) _ _ (by decide) (by decide) (by decide) hspaced hsupplied
  · exact hforeign _ "7(2)" rfl (.call '7' (by decide) ⟨[], ['2', ')'], by decide⟩)

end DialogGraph.Formula
