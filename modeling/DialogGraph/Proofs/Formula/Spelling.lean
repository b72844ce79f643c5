import DialogGraph.Proofs.Formula.Grammar
import DialogGraph.Proofs.Number.ReadBack
import Mathlib.Tactic.IntervalCases

/-!
# The spelling of formulas

A formula is cut into symbols at its operators and parentheses; what stands between them is a
number. A phrase never has two numbers side by side, so its symbols are found again in any text
that spells them one behind the other. With the grammar this says when a text has a value, and
which one (`compute?_eq_some_iff`).
-/

namespace DialogGraph.Formula

open DialogGraph.Number

variable {cs rest : List Char} {token : Token} {tokens done : List Token} {c : Char}

/-- The characters that spell a symbol: those of a number, or that of an operator or parenthesis. -/
inductive Spells : List Char → Token → Prop
  | number {cs : List Char} {operand : Operand} (hchars : ∀ c ∈ cs, isNumberChar c = true)
      (hread : operand? cs = some operand) : Spells cs (.number operand)
  | operator {c : Char} {token : Token} (hread : operator? c = some token) : Spells [c] token

/-- The characters that spell a row of symbols. -/
inductive Spelled : List Char → List Token → Prop
  | nil : Spelled [] []
  | cons {cs rest : List Char} {token : Token} {tokens : List Token} (hfirst : Spells cs token)
      (hrest : Spelled rest tokens) : Spelled (cs ++ rest) (token :: tokens)

theorem Spelled.append {ds : List Char} {others : List Token} (hcs : Spelled cs tokens)
    (hds : Spelled ds others) : Spelled (cs ++ ds) (tokens ++ others) := by
  induction hcs with
  | nil => exact hds
  | cons hfirst _ ih =>
    rw [List.append_assoc]
    exact .cons hfirst ih

/-- The operators and parentheses, each with its symbol. -/
def operators : List (Char × Token) := [('+', .plus), ('-', .minus), ('*', .times), ('/', .over),
  ('%', .percent), ('(', .opening), (')', .closing)]

theorem operator?_eq_some_iff : operator? c = some token ↔ (c, token) ∈ operators := by
  simp only [operator?, beq_iff_eq, operators, List.mem_cons, List.not_mem_nil, or_false,
    Prod.mk.injEq]
  constructor
  · intro hfound
    split_ifs at hfound <;> cases hfound <;> simp [*]
  · intro hmem
    rcases hmem with ⟨rfl, rfl⟩ | ⟨rfl, rfl⟩ | ⟨rfl, rfl⟩ | ⟨rfl, rfl⟩ | ⟨rfl, rfl⟩ | ⟨rfl, rfl⟩ |
      ⟨rfl, rfl⟩ <;> rfl

/-- No operator can be part of a number. -/
theorem isNumberChar_of_operator? (hread : operator? c = some token) : isNumberChar c = false := by
  have hall : ∀ entry ∈ operators, isNumberChar entry.1 = false := by decide
  exact hall _ (operator?_eq_some_iff.1 hread)

theorem Spells.ne_nil (hspells : Spells cs token) : cs ≠ [] := by
  rintro rfl
  cases hspells with
  | number _ hread => cases hread

/-! ### Which symbol may follow which -/

/-- Whether an operand ends with a symbol. -/
def Token.endsOperand : Token → Bool
  | .number _ => true
  | .closing => true
  | _ => false

/-- Whether a symbol may follow; `ended` says whether an operand has just ended. -/
def Token.mayFollow (ended : Bool) : Token → Bool
  | .number _ => !ended
  | .opening => !ended
  | .plus => true
  | .minus => true
  | .times => ended
  | .over => ended
  | .percent => ended
  | .closing => ended

/-- Whether each symbol of a row may follow the one before it. -/
def inPlace (ended : Bool) : List Token → Bool
  | [] => true
  | token :: rest => token.mayFollow ended && inPlace token.endsOperand rest

/-- A phrase may stand wherever an operand is still to come, and ends one. -/
theorem inPlace_symbols {rank : Rank} (p : Phrase rank) (rest : List Token) :
    inPlace false (p.symbols ++ rest) = inPlace true rest := by
  induction p generalizing rest with
  | number operand => rfl
  | signed sign e ih =>
    rw [← ih rest]
    cases sign <;> rfl
  | group e ih =>
    have hsymbols : (Phrase.group e).symbols ++ rest =
        .opening :: (e.symbols ++ .closing :: rest) := by simp [Phrase.symbols]
    rw [hsymbols]
    exact ih (.closing :: rest)
  | factor e ih | term e ih => exact ih rest
  | product operator left right ihleft ihright | sum operator left right ihleft ihright =>
    rw [Phrase.symbols, List.append_assoc, List.cons_append, ihleft, ← ihright rest]
    cases operator <;> rfl

theorem inPlace_phrase {rank : Rank} (p : Phrase rank) : inPlace false p.symbols = true := by
  have hplace := inPlace_symbols p []
  rwa [List.append_nil] at hplace

/-! ### Cutting a text into symbols -/

theorem tokensFrom_number (hcs : ∀ c ∈ cs, isNumberChar c = true) (held : List Char) :
    tokensFrom done held (cs ++ rest) = tokensFrom done (cs.reverse ++ held) rest := by
  induction cs generalizing held with
  | nil => rfl
  | cons c cs ih =>
    obtain ⟨hc, hcs⟩ := List.forall_mem_cons.1 hcs
    simp [tokensFrom, hc, ih hcs]

theorem tokensFrom_operator (hread : operator? c = some token) :
    tokensFrom done [] (c :: rest) = tokensFrom (token :: done) [] rest := by
  simp [tokensFrom, isNumberChar_of_operator? hread, hread]

/-- A number that is complete is cut off. -/
theorem tokensFrom_cut {operand : Operand} {held : List Char} (hheld : held ≠ [])
    (hread : operand? held.reverse = some operand)
    (hrest : ∀ c, rest.head? = some c → isNumberChar c = false) :
    tokensFrom done held rest = tokensFrom (.number operand :: done) [] rest := by
  cases rest with
  | nil => simp [tokensFrom, hheld, hread]
  | cons c rest => simp [tokensFrom, hrest c rfl, hheld, hread]

/-- Behind an operand there is no number. -/
theorem Spelled.head?_of_inPlace (hspelled : Spelled cs tokens)
    (hplace : inPlace true tokens = true) :
    ∀ c, cs.head? = some c → isNumberChar c = false := by
  intro c hhead
  cases hspelled with
  | nil => cases hhead
  | cons hfirst _ =>
    cases hfirst with
    | number => cases hplace
    | operator hread =>
      cases hhead
      exact isNumberChar_of_operator? hread

/-- Symbols that may follow each other are found in any text that spells them. -/
theorem tokensFrom_of_spelled (hspelled : Spelled cs tokens) {ended : Bool}
    (hplace : inPlace ended tokens = true) (done : List Token) :
    tokensFrom done [] cs = some (done.reverse ++ tokens) := by
  induction hspelled generalizing ended done with
  | nil => simp [tokensFrom]
  | cons hfirst hrest ih =>
    obtain ⟨-, hafter⟩ := Bool.and_eq_true_iff.1 hplace
    cases hfirst with
    | number hchars hread =>
      have hne := (Spells.number hchars hread).ne_nil
      rw [tokensFrom_number hchars, List.append_nil, tokensFrom_cut (by simpa using hne)
        (by simpa using hread) (hrest.head?_of_inPlace hafter), ih hafter]
      simp
    | operator hread =>
      rw [List.singleton_append, tokensFrom_operator hread, ih hafter]
      simp

/-- Whatever is cut into symbols spells them. -/
theorem spelled_of_tokensFrom {held : List Char} (hheld : ∀ c ∈ held, isNumberChar c = true)
    (hcut : tokensFrom done held cs = some tokens) :
    ∃ found, tokens = done.reverse ++ found ∧ Spelled (held.reverse ++ cs) found := by
  have hnumber {held : List Char} {operand : Operand} (hheld : ∀ c ∈ held, isNumberChar c = true)
      (hread : operand? held.reverse = some operand) : Spells held.reverse (.number operand) :=
    .number (fun c hc => hheld c (List.mem_reverse.1 hc)) hread
  fun_induction tokensFrom done held cs with
  | case1 done held hempty =>
    cases hcut
    rw [List.isEmpty_iff.1 hempty]
    exact ⟨[], by simp, .nil⟩
  | case2 done held hempty =>
    obtain ⟨operand, hread, rfl⟩ := Option.map_eq_some_iff.1 hcut
    exact ⟨[.number operand], by simp, .cons (hnumber hheld hread) .nil⟩
  | case3 done held c rest hc ih =>
    obtain ⟨found, rfl, hspelled⟩ := ih (List.forall_mem_cons.2 ⟨hc, hheld⟩) hcut
    exact ⟨found, rfl, by simpa using hspelled⟩
  | case4 done held c rest hc ihdone ihheld =>
    obtain ⟨token, hread, hrest⟩ := Option.bind_eq_some_iff.1 hcut
    split at hrest
    next hempty =>
      obtain ⟨found, rfl, hspelled⟩ := ihdone token nofun hrest
      refine ⟨token :: found, by simp, ?_⟩
      obtain rfl := List.isEmpty_iff.1 hempty
      change Spelled ([c] ++ rest) (token :: found)
      exact .cons (.operator hread) hspelled
    next =>
      obtain ⟨operand, hoperand, hrest⟩ := Option.bind_eq_some_iff.1 hrest
      obtain ⟨found, rfl, hspelled⟩ := ihheld token operand nofun hrest
      refine ⟨.number operand :: token :: found, by simp, ?_⟩
      exact .cons (hnumber hheld hoperand) (.cons (.operator hread) hspelled)

/-- A text is cut into the symbols of a phrase when it spells them. -/
theorem tokens?_eq_symbols_iff {rank : Rank} {p : Phrase rank} :
    tokens? cs = some p.symbols ↔ Spelled cs p.symbols := by
  constructor
  · intro hcut
    have hnone : ∀ c ∈ ([] : List Char), isNumberChar c = true := nofun
    obtain ⟨found, hfound, hspelled⟩ := spelled_of_tokensFrom hnone hcut
    rwa [hfound]
  · exact fun hspelled => tokensFrom_of_spelled hspelled (inPlace_phrase p) []

/-- What a text stands for is the value of the phrase that it spells, if that one is nested no deeper
than is allowed. -/
theorem compute?_eq_some_iff {depth : Nat} {result : Operand} :
    compute? depth cs = some result ↔
      ∃ p : Phrase .sum, Spelled cs p.symbols ∧ p.nesting ≤ parenthesisLimit ∧
        p.expr.depth ≤ depth ∧ ∃ a, p.expr.value? = some a ∧ a.settle = result := by
  constructor
  · intro hcompute
    obtain ⟨symbols, hcut, hcompute⟩ := Option.bind_eq_some_iff.1 hcompute
    obtain ⟨e, hparse, hcompute⟩ := Option.bind_eq_some_iff.1 hcompute
    obtain ⟨a, hvalue, hsettle⟩ := Option.bind_eq_some_iff.1 hcompute
    obtain ⟨p, rfl, rfl, hnesting⟩ := parse?_eq_some_iff.1 hparse
    rw [evaluate?] at hvalue
    split at hvalue
    next hdepth =>
      exact ⟨p, tokens?_eq_symbols_iff.1 hcut, hnesting, hdepth, a, hvalue, Option.some.inj hsettle⟩
    next => cases hvalue
  · rintro ⟨p, hspelled, hnesting, hdepth, a, hvalue, rfl⟩
    have hcut := tokens?_eq_symbols_iff.2 hspelled
    have hparse := parse?_eq_some_iff.2 ⟨p, rfl, rfl, hnesting⟩
    simp [compute?, hcut, hparse, evaluate?, hdepth, hvalue]

theorem symbols_eq_of_spelled {p q : Phrase .sum} (hp : Spelled cs p.symbols)
    (hq : Spelled cs q.symbols) : p.symbols = q.symbols := by
  have hcut := tokens?_eq_symbols_iff.2 hp
  rw [tokens?_eq_symbols_iff.2 hq] at hcut
  exact (Option.some.inj hcut).symm

/-- Two phrases that one text spells stand for one expression. -/
theorem expr_eq_of_spelled {p q : Phrase .sum} (hp : Spelled cs p.symbols)
    (hq : Spelled cs q.symbols) : p.expr = q.expr := by
  have hread := p.sum?_symbols
  rw [symbols_eq_of_spelled hp hq, q.sum?_symbols] at hread
  exact (congrArg Prod.fst (Option.some.inj hread)).symm

/-! ### Texts that spell no phrase -/

theorem mem_alphabet_of_isNumberChar (hc : isNumberChar c = true) : c ∈ alphabet := by
  rcases Bool.or_eq_true_iff.1 hc with hdigit | hpoint
  · obtain ⟨hlow, hhigh⟩ := toNat_bounds_of_isDigit hdigit
    rw [← Char.ofNat_toNat c]
    generalize c.toNat = n at hlow hhigh
    interval_cases n <;> decide
  · rw [beq_iff_eq.1 hpoint]
    decide

theorem Spelled.mem_alphabet (hspelled : Spelled cs tokens) (hc : c ∈ cs) : c ∈ alphabet := by
  induction hspelled with
  | nil => cases hc
  | cons hfirst _ ih =>
    rcases List.mem_append.1 hc with hc | hc
    · cases hfirst with
      | number hchars => exact mem_alphabet_of_isNumberChar (hchars c hc)
      | operator hread =>
        have hall : ∀ entry ∈ operators, entry.1 ∈ alphabet := by decide
        rw [List.mem_singleton.1 hc]
        exact hall _ (operator?_eq_some_iff.1 hread)
    · exact ih hc

theorem Spelled.eq_nil (hspelled : Spelled [] tokens) : tokens = [] := by
  generalize hcs : [] = cs at hspelled
  cases hspelled with
  | nil => rfl
  | cons hfirst _ => exact absurd (List.append_eq_nil_iff.1 hcs.symm).1 hfirst.ne_nil

theorem Spelled.eq_cons (hspelled : Spelled (c :: rest) tokens) (hread : operator? c = some token) :
    ∃ others, tokens = token :: others := by
  generalize hcs : c :: rest = cs at hspelled
  cases hspelled with
  | nil => cases hcs
  | cons hfirst _ =>
    cases hfirst with
    | @number ds operand hchars hoperand =>
      obtain ⟨d, ds, rfl⟩ := List.exists_cons_of_ne_nil (Spells.number hchars hoperand).ne_nil
      cases hcs
      have hnumber := hchars c List.mem_cons_self
      rw [isNumberChar_of_operator? hread] at hnumber
      cases hnumber
    | operator hother =>
      cases hcs
      cases hread.symm.trans hother
      exact ⟨_, rfl⟩

/-- An operator stands in a phrase only behind a character that it may follow. -/
theorem Spelled.mayFollow (hspelled : Spelled cs tokens) {ended : Bool}
    (hplace : inPlace ended tokens = true) {front : List Char} {before : Char}
    (hcs : cs = front ++ before :: c :: rest) (hread : operator? c = some token) :
    (isNumberChar before = true ∧ token.mayFollow true = true) ∨
      ∃ a, operator? before = some a ∧ token.mayFollow a.endsOperand = true := by
  induction hspelled generalizing ended front with
  | nil => exact absurd hcs.symm (by simp)
  | @cons first behind a others hfirst hbehind ih =>
    obtain ⟨-, hothers⟩ := Bool.and_eq_true_iff.1 hplace
    -- the pair stands behind the first symbol, across its end, or inside it
    rcases List.append_eq_append_iff.1 hcs with ⟨front, -, hbehind'⟩ | ⟨inside, hinside, hrest⟩
    · exact ih hothers hbehind'
    · match inside, hrest with
      | [], hrest =>
        have hwhole : behind = [] ++ before :: c :: rest := hrest.symm
        exact ih hothers hwhole
      | [x], hrest =>
        obtain ⟨rfl, rfl⟩ : before = x ∧ c :: rest = behind := by simpa using hrest
        obtain ⟨others, rfl⟩ := hbehind.eq_cons hread
        have hfollows := (Bool.and_eq_true_iff.1 hothers).1
        cases hfirst with
        | number hchars =>
          refine .inl ⟨hchars before ?_, hfollows⟩
          rw [hinside]
          exact List.mem_append_right _ List.mem_cons_self
        | @operator d _ ha =>
          obtain rfl : d = before := by simpa using congrArg List.getLast? hinside
          exact .inr ⟨a, ha, hfollows⟩
      | x :: y :: inside, hrest =>
        obtain ⟨rfl, rfl, -⟩ : before = x ∧ c = y ∧ rest = inside ++ behind := by simpa using hrest
        cases hfirst with
        | number hchars =>
          have hnumber := hchars c (hinside ▸ by simp)
          rw [isNumberChar_of_operator? hread] at hnumber
          cases hnumber
        | operator =>
          have hlength := congrArg List.length hinside
          simp only [List.length_append, List.length_cons, List.length_nil] at hlength
          omega

end DialogGraph.Formula
