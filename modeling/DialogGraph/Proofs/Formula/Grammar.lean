import DialogGraph.Script.Formula

/-!
# The grammar of formulas

A phrase is an expression as it stands in a formula, with its signs, operators and parentheses. It
has a rank, and each place in a phrase asks for one: a sign binds tighter than an operator of a
product, that one tighter than an operator of a sum, and operators of one rank are joined from the
left. Parentheses make a factor of any sum.

The reader takes the rows of symbols that phrases are made of and no others
(`parse?_eq_some_iff`).
-/

namespace DialogGraph.Formula

/-- How tightly a phrase holds together. -/
inductive Rank where
  | sum
  | product
  | factor

/-- The operators of a sum, which are also the signs. -/
inductive Additive where
  | plus
  | minus

inductive Multiplicative where
  | times
  | over
  | percent

def Additive.token : Additive → Token
  | .plus => .plus
  | .minus => .minus

def Additive.operation : Additive → Operation
  | .plus => .add
  | .minus => .subtract

def Multiplicative.token : Multiplicative → Token
  | .times => .times
  | .over => .over
  | .percent => .percent

def Multiplicative.operation : Multiplicative → Operation
  | .times => .multiply
  | .over => .divide
  | .percent => .remainder

theorem sumOperation?_eq_some_iff {token : Token} {operation : Operation} :
    sumOperation? token = some operation ↔
      ∃ operator : Additive, token = operator.token ∧ operation = operator.operation := by
  constructor
  · intro hfound
    match token, hfound with
    | .plus, rfl => exact ⟨.plus, rfl, rfl⟩
    | .minus, rfl => exact ⟨.minus, rfl, rfl⟩
  · rintro ⟨operator, rfl, rfl⟩
    cases operator <;> rfl

theorem productOperation?_eq_some_iff {token : Token} {operation : Operation} :
    productOperation? token = some operation ↔
      ∃ operator : Multiplicative, token = operator.token ∧ operation = operator.operation := by
  constructor
  · intro hfound
    match token, hfound with
    | .times, rfl => exact ⟨.times, rfl, rfl⟩
    | .over, rfl => exact ⟨.over, rfl, rfl⟩
    | .percent, rfl => exact ⟨.percent, rfl, rfl⟩
  · rintro ⟨operator, rfl, rfl⟩
    cases operator <;> rfl

/-- An expression as it stands in a formula. -/
inductive Phrase : Rank → Type where
  | number (operand : Operand) : Phrase .factor
  | signed (sign : Additive) (e : Phrase .factor) : Phrase .factor
  | group (e : Phrase .sum) : Phrase .factor
  | factor (e : Phrase .factor) : Phrase .product
  | product (operator : Multiplicative) (left : Phrase .product) (right : Phrase .factor) :
      Phrase .product
  | term (e : Phrase .product) : Phrase .sum
  | sum (operator : Additive) (left : Phrase .sum) (right : Phrase .product) : Phrase .sum

namespace Phrase

variable {rank : Rank}

/-- The expression that a phrase stands for. -/
def expr : {rank : Rank} → Phrase rank → Expr
  | _, number operand => .number operand
  | _, signed .plus e => .keep e.expr
  | _, signed .minus e => .negate e.expr
  | _, group e => e.expr
  | _, factor e => e.expr
  | _, product operator left right => .binary operator.operation left.expr right.expr
  | _, term e => e.expr
  | _, sum operator left right => .binary operator.operation left.expr right.expr

def symbols : {rank : Rank} → Phrase rank → List Token
  | _, number operand => [.number operand]
  | _, signed sign e => sign.token :: e.symbols
  | _, group e => .opening :: (e.symbols ++ [.closing])
  | _, factor e => e.symbols
  | _, product operator left right => left.symbols ++ operator.token :: right.symbols
  | _, term e => e.symbols
  | _, sum operator left right => left.symbols ++ operator.token :: right.symbols

/-- How many parentheses are open at once in a phrase. -/
def nesting : {rank : Rank} → Phrase rank → Nat
  | _, number _ => 0
  | _, signed _ e => e.nesting
  | _, group e => e.nesting + 1
  | _, factor e => e.nesting
  | _, product _ left right => max left.nesting right.nesting
  | _, term e => e.nesting
  | _, sum _ left right => max left.nesting right.nesting

/-- How many operators of its own rank a phrase is joined by. -/
def joins : {rank : Rank} → Phrase rank → Nat
  | _, number _ => 0
  | _, signed _ _ => 0
  | _, group _ => 0
  | _, factor _ => 0
  | _, product _ left _ => left.joins + 1
  | _, term _ => 0
  | _, sum _ left _ => left.joins + 1

theorem joins_lt_length (p : Phrase rank) : p.joins < p.symbols.length := by
  induction p with
  | number | signed | group => simp [joins, symbols]
  | factor e ih | term e ih => exact Nat.zero_lt_of_lt ih
  | product _ left right ih | sum _ left right ih =>
    simp only [joins, symbols, List.length_append, List.length_cons]
    omega

end Phrase

/-! ### What is written is read -/

theorem sumTail?_of_stop {steps : Nat} (left : Expr) {rest : List Token}
    (hrest : ∀ token, rest.head? = some token → sumOperation? token = none) :
    sumTail? (steps + 1) left rest = some (left, rest) := by
  cases rest with
  | nil => rfl
  | cons token rest => simp only [sumTail?, hrest token rfl]

theorem productTail?_of_stop {steps : Nat} (left : Expr) {rest : List Token}
    (hrest : ∀ token, rest.head? = some token → productOperation? token = none) :
    productTail? (steps + 1) left rest = some (left, rest) := by
  cases rest with
  | nil => rfl
  | cons token rest => simp only [productTail?, hrest token rfl]

theorem sumTail?_token (steps : Nat) (left : Expr) (operator : Additive) (rest : List Token) :
    sumTail? (steps + 1) left (operator.token :: rest) = (do
      let (right, rest) ← product? steps rest
      sumTail? steps (.binary operator.operation left right) rest) := by
  cases operator <;> rfl

theorem productTail?_token (steps : Nat) (left : Expr) (operator : Multiplicative)
    (rest : List Token) :
    productTail? (steps + 1) left (operator.token :: rest) = (do
      let (right, rest) ← factor? steps rest
      productTail? steps (.binary operator.operation left right) rest) := by
  cases operator <;> rfl

namespace Phrase

/-- The reader of a rank reads a phrase off the front of any row of symbols: a factor to its end, a
product or a sum up to its last operator. -/
def Reads : {rank : Rank} → Phrase rank → Prop
  | .factor, p => ∀ (steps : Nat) (rest : List Token), 4 * p.symbols.length ≤ steps + 3 →
      factor? steps (p.symbols ++ rest) = some (p.expr, rest)
  | .product, p => ∀ (steps : Nat) (rest : List Token),
      4 * p.symbols.length ≤ steps + p.joins + 3 →
        product? (steps + p.joins + 1) (p.symbols ++ rest) = productTail? steps p.expr rest
  | .sum, p => ∀ (steps : Nat) (rest : List Token),
      4 * p.symbols.length ≤ steps + p.joins + 2 →
        (∀ token, rest.head? = some token → productOperation? token = none) →
          sum? (steps + p.joins + 1) (p.symbols ++ rest) = sumTail? steps p.expr rest

/-- A product is read to its end where no operator of a product follows. -/
theorem Reads.product_whole {p : Phrase .product} (hp : p.Reads) {steps : Nat} {rest : List Token}
    (hsteps : 4 * p.symbols.length ≤ steps + 2)
    (hrest : ∀ token, rest.head? = some token → productOperation? token = none) :
    product? steps (p.symbols ++ rest) = some (p.expr, rest) := by
  have hjoins := p.joins_lt_length
  obtain ⟨left, rfl⟩ : ∃ left, steps = left + 1 + p.joins + 1 :=
    ⟨steps - p.joins - 2, by omega⟩
  rw [hp (left + 1) rest (by omega), productTail?_of_stop p.expr hrest]

/-- A sum is read to its end where no operator follows. -/
theorem Reads.sum_whole {p : Phrase .sum} (hp : p.Reads) {steps : Nat} {rest : List Token}
    (hsteps : 4 * p.symbols.length ≤ steps + 1)
    (hproduct : ∀ token, rest.head? = some token → productOperation? token = none)
    (hsum : ∀ token, rest.head? = some token → sumOperation? token = none) :
    sum? steps (p.symbols ++ rest) = some (p.expr, rest) := by
  have hjoins := p.joins_lt_length
  obtain ⟨left, rfl⟩ : ∃ left, steps = left + 1 + p.joins + 1 :=
    ⟨steps - p.joins - 2, by omega⟩
  rw [hp (left + 1) rest (by omega) hproduct, sumTail?_of_stop p.expr hsum]

theorem reads_number (operand : Operand) : (number operand).Reads := by
  intro steps rest hsteps
  obtain ⟨steps, rfl⟩ : ∃ left, steps = left + 1 := by
    refine ⟨steps - 1, ?_⟩
    simp only [symbols, List.length_singleton] at hsteps
    omega
  rfl

theorem reads_signed (sign : Additive) {e : Phrase .factor} (he : e.Reads) :
    (signed sign e).Reads := by
  intro steps rest hsteps
  simp only [symbols, List.length_cons] at hsteps
  obtain ⟨steps, rfl⟩ : ∃ left, steps = left + 1 := ⟨steps - 1, by omega⟩
  have hinner := he steps rest (by omega)
  cases sign <;> simp [symbols, Additive.token, factor?, hinner, expr]

theorem reads_group {e : Phrase .sum} (he : e.Reads) : (group e).Reads := by
  intro steps rest hsteps
  simp only [symbols, List.length_cons, List.length_append, List.length_nil] at hsteps
  obtain ⟨steps, rfl⟩ : ∃ left, steps = left + 1 := ⟨steps - 1, by omega⟩
  have hinner : sum? steps (e.symbols ++ .closing :: rest) = some (e.expr, .closing :: rest) := by
    apply he.sum_whole (by omega) <;>
    · rintro token hhead
      cases hhead
      rfl
  simp [symbols, factor?, hinner, expr]

theorem reads_factor {e : Phrase .factor} (he : e.Reads) : (factor e).Reads := by
  intro steps rest hsteps
  have hfirst : factor? steps (e.symbols ++ rest) = some (e.expr, rest) := he steps rest hsteps
  simp [symbols, joins, product?, hfirst, expr]

theorem reads_product (operator : Multiplicative) {left : Phrase .product}
    {right : Phrase .factor} (hleft : left.Reads) (hright : right.Reads) :
    (product operator left right).Reads := by
  intro steps rest hsteps
  have hjoins := left.joins_lt_length
  simp only [symbols, joins, List.length_append, List.length_cons] at hsteps ⊢
  rw [List.append_assoc, List.cons_append, show steps + (left.joins + 1) + 1 =
    steps + 1 + left.joins + 1 by omega, hleft (steps + 1) _ (by omega), productTail?_token,
    hright steps rest (by omega)]
  rfl

theorem reads_term {e : Phrase .product} (he : e.Reads) : (term e).Reads := by
  intro steps rest hsteps hrest
  have hfirst : product? steps (e.symbols ++ rest) = some (e.expr, rest) :=
    he.product_whole hsteps hrest
  simp [symbols, joins, sum?, hfirst, expr]

theorem reads_sum (operator : Additive) {left : Phrase .sum} {right : Phrase .product}
    (hleft : left.Reads) (hright : right.Reads) : (sum operator left right).Reads := by
  intro steps rest hsteps hrest
  have hjoins := left.joins_lt_length
  have hoperator : ∀ token, (operator.token :: (right.symbols ++ rest)).head? = some token →
      productOperation? token = none := by
    rintro token hhead
    cases hhead
    cases operator <;> rfl
  simp only [symbols, joins, List.length_append, List.length_cons] at hsteps ⊢
  rw [List.append_assoc, List.cons_append, show steps + (left.joins + 1) + 1 =
    steps + 1 + left.joins + 1 by omega, hleft (steps + 1) _ (by omega) hoperator, sumTail?_token,
    hright.product_whole (by omega) hrest]
  rfl

/-- Every phrase is read. -/
theorem reads (p : Phrase rank) : p.Reads := by
  induction p with
  | number operand => exact reads_number operand
  | signed sign e ih => exact reads_signed sign ih
  | group e ih => exact reads_group ih
  | factor e ih => exact reads_factor ih
  | product operator left right ihleft ihright => exact reads_product operator ihleft ihright
  | term e ih => exact reads_term ih
  | sum operator left right ihleft ihright => exact reads_sum operator ihleft ihright

/-- The steps that the reader of formulas allows itself are enough. -/
theorem sum?_symbols (p : Phrase .sum) :
    sum? (4 * p.symbols.length + 4) p.symbols = some (p.expr, []) := by
  have hread : sum? (4 * p.symbols.length + 4) (p.symbols ++ []) = some (p.expr, []) :=
    (reads p).sum_whole (by omega) nofun nofun
  rwa [List.append_nil] at hread

end Phrase

/-! ### What is read was written -/

/-- A row of symbols begins with a phrase of a rank, which stands for an expression, and ends with
the symbols left. -/
def Begins (rank : Rank) (symbols : List Token) (e : Expr) (rest : List Token) : Prop :=
  ∃ p : Phrase rank, p.expr = e ∧ p.symbols ++ rest = symbols

/-- What the readers take off a row of symbols is a phrase of their rank. -/
structure Sound (steps : Nat) : Prop where
  factor : ∀ {symbols e rest}, factor? steps symbols = some (e, rest) →
    Begins .factor symbols e rest
  product : ∀ {symbols e rest}, product? steps symbols = some (e, rest) →
    Begins .product symbols e rest
  productTail : ∀ (left : Phrase .product) {symbols e rest},
    productTail? steps left.expr symbols = some (e, rest) →
      Begins .product (left.symbols ++ symbols) e rest
  sum : ∀ {symbols e rest}, sum? steps symbols = some (e, rest) → Begins .sum symbols e rest
  sumTail : ∀ (left : Phrase .sum) {symbols e rest},
    sumTail? steps left.expr symbols = some (e, rest) →
      Begins .sum (left.symbols ++ symbols) e rest

namespace Sound

variable {steps : Nat} {symbols rest : List Token} {e : Expr}

theorem factor_succ (hsound : Sound steps) (hread : factor? (steps + 1) symbols = some (e, rest)) :
    Begins .factor symbols e rest := by
  rw [factor?.eq_def] at hread
  split at hread
  next after hsteps =>
    cases hsteps
    obtain ⟨⟨inner, left⟩, hinner, hdone⟩ := Option.bind_eq_some_iff.1 hread
    cases hdone
    obtain ⟨p, rfl, rfl⟩ := hsound.factor hinner
    exact ⟨.signed .plus p, rfl, rfl⟩
  next after hsteps =>
    cases hsteps
    obtain ⟨⟨inner, left⟩, hinner, hdone⟩ := Option.bind_eq_some_iff.1 hread
    cases hdone
    obtain ⟨p, rfl, rfl⟩ := hsound.factor hinner
    exact ⟨.signed .minus p, rfl, rfl⟩
  next _ operand after hsteps =>
    cases hread
    exact ⟨.number operand, rfl, rfl⟩
  next after hsteps =>
    cases hsteps
    obtain ⟨⟨inner, left⟩, hinner, hdone⟩ := Option.bind_eq_some_iff.1 hread
    obtain ⟨p, rfl, rfl⟩ := hsound.sum hinner
    split at hdone
    next he =>
      cases he
      cases hdone
      exact ⟨.group p, rfl, by simp [Phrase.symbols]⟩
    next => cases hdone
  next => cases hread

theorem productTail_succ (hsound : Sound steps) (left : Phrase .product)
    (hread : productTail? (steps + 1) left.expr symbols = some (e, rest)) :
    Begins .product (left.symbols ++ symbols) e rest := by
  cases symbols with
  | nil =>
    cases hread
    exact ⟨left, rfl, rfl⟩
  | cons token symbols =>
    cases hoperation : productOperation? token with
    | none =>
      simp only [productTail?, hoperation] at hread
      cases hread
      exact ⟨left, rfl, rfl⟩
    | some operation =>
      obtain ⟨operator, rfl, rfl⟩ := productOperation?_eq_some_iff.1 hoperation
      rw [productTail?_token] at hread
      obtain ⟨⟨right, after⟩, hright, htail⟩ := Option.bind_eq_some_iff.1 hread
      obtain ⟨p, rfl, rfl⟩ := hsound.factor hright
      obtain ⟨q, hq, hsymbols⟩ := hsound.productTail (.product operator left p) htail
      exact ⟨q, hq, by simpa [Phrase.symbols] using hsymbols⟩

theorem product_succ (hsound : Sound steps) (hread : product? (steps + 1) symbols = some (e, rest)) :
    Begins .product symbols e rest := by
  rw [product?] at hread
  obtain ⟨⟨first, after⟩, hfirst, htail⟩ := Option.bind_eq_some_iff.1 hread
  obtain ⟨p, rfl, rfl⟩ := hsound.factor hfirst
  exact hsound.productTail (.factor p) htail

theorem sumTail_succ (hsound : Sound steps) (left : Phrase .sum)
    (hread : sumTail? (steps + 1) left.expr symbols = some (e, rest)) :
    Begins .sum (left.symbols ++ symbols) e rest := by
  cases symbols with
  | nil =>
    cases hread
    exact ⟨left, rfl, rfl⟩
  | cons token symbols =>
    cases hoperation : sumOperation? token with
    | none =>
      simp only [sumTail?, hoperation] at hread
      cases hread
      exact ⟨left, rfl, rfl⟩
    | some operation =>
      obtain ⟨operator, rfl, rfl⟩ := sumOperation?_eq_some_iff.1 hoperation
      rw [sumTail?_token] at hread
      obtain ⟨⟨right, after⟩, hright, htail⟩ := Option.bind_eq_some_iff.1 hread
      obtain ⟨p, rfl, rfl⟩ := hsound.product hright
      obtain ⟨q, hq, hsymbols⟩ := hsound.sumTail (.sum operator left p) htail
      exact ⟨q, hq, by simpa [Phrase.symbols] using hsymbols⟩

theorem sum_succ (hsound : Sound steps) (hread : sum? (steps + 1) symbols = some (e, rest)) :
    Begins .sum symbols e rest := by
  rw [sum?] at hread
  obtain ⟨⟨first, after⟩, hfirst, htail⟩ := Option.bind_eq_some_iff.1 hread
  obtain ⟨p, rfl, rfl⟩ := hsound.product hfirst
  exact hsound.sumTail (.term p) htail

end Sound

/-- The readers are sound, however many steps they take. -/
theorem sound (steps : Nat) : Sound steps := by
  induction steps with
  | zero =>
    constructor <;>
    · intros
      simp_all [factor?, product?, productTail?, sum?, sumTail?]
  | succ steps ih =>
    exact ⟨ih.factor_succ, ih.product_succ, fun left => ih.productTail_succ left, ih.sum_succ,
      fun left => ih.sumTail_succ left⟩

/-! ### Parentheses -/

/-- The parentheses of a phrase are within the limit when they are nested no deeper than it. -/
theorem withinParentheses_symbols {rank : Rank} (p : Phrase rank) {opened : Nat}
    (rest : List Token) (hopened : opened ≤ parenthesisLimit) :
    withinParentheses opened (p.symbols ++ rest) = true ↔
      opened + p.nesting ≤ parenthesisLimit ∧ withinParentheses opened rest = true := by
  induction p generalizing opened rest with
  | number operand => simp [Phrase.symbols, Phrase.nesting, withinParentheses, hopened]
  | signed sign e ih =>
    rw [Phrase.nesting, ← ih rest hopened]
    cases sign <;> rfl
  | group e ih =>
    have hinner : (Phrase.group e).symbols ++ rest = .opening :: (e.symbols ++ .closing :: rest) := by
      simp [Phrase.symbols]
    rw [hinner, withinParentheses, Bool.and_eq_true, decide_eq_true_iff, Phrase.nesting]
    constructor
    · rintro ⟨hless, hwithin⟩
      obtain ⟨hnesting, hrest⟩ := (ih (.closing :: rest) hless).1 hwithin
      exact ⟨by omega, hrest⟩
    · rintro ⟨hnesting, hrest⟩
      exact ⟨by omega, (ih (.closing :: rest) (by omega)).2 ⟨by omega, hrest⟩⟩
  | factor e ih | term e ih => exact ih rest hopened
  | product operator left right ihleft ihright | sum operator left right ihleft ihright =>
    have hskip : withinParentheses opened (operator.token :: (right.symbols ++ rest)) =
        withinParentheses opened (right.symbols ++ rest) := by cases operator <;> rfl
    have hboth : opened + max left.nesting right.nesting ≤ parenthesisLimit ↔
        opened + left.nesting ≤ parenthesisLimit ∧ opened + right.nesting ≤ parenthesisLimit := by
      omega
    rw [Phrase.symbols, List.append_assoc, List.cons_append, ihleft _ hopened, hskip,
      ihright rest hopened, Phrase.nesting, hboth, and_assoc]

theorem withinParentheses_symbols_iff (p : Phrase .sum) :
    withinParentheses 0 p.symbols = true ↔ p.nesting ≤ parenthesisLimit := by
  have hwithin : withinParentheses 0 (p.symbols ++ []) = true ↔ _ :=
    withinParentheses_symbols p [] (Nat.zero_le _)
  simpa [withinParentheses] using hwithin

/-- The reader takes exactly the rows of symbols of phrases, and gives their expressions. -/
theorem parse?_eq_some_iff {symbols : List Token} {e : Expr} :
    parse? symbols = some e ↔
      ∃ p : Phrase .sum, p.symbols = symbols ∧ p.expr = e ∧ p.nesting ≤ parenthesisLimit := by
  rw [parse?]
  constructor
  · intro hparse
    split at hparse
    next hwithin =>
      split at hparse
      next found hread =>
        cases hparse
        obtain ⟨p, rfl, rfl⟩ := (sound _).sum hread
        rw [List.append_nil] at hwithin ⊢
        exact ⟨p, rfl, rfl, (withinParentheses_symbols_iff p).1 hwithin⟩
      next => cases hparse
    next => cases hparse
  · rintro ⟨p, rfl, rfl, hnesting⟩
    rw [if_pos ((withinParentheses_symbols_iff p).2 hnesting), p.sum?_symbols]

end DialogGraph.Formula
