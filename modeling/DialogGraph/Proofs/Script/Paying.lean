import DialogGraph.Proofs.Number.Largest
import DialogGraph.Proofs.Number.Product
import DialogGraph.Proofs.Number.Whole
import DialogGraph.Proofs.Script.Selecting

/-!
# Values as numbers and amounts

Where a number is wanted, a value is taken as the number that it is read as, and gives way to a
default if there is none. An amount is a natural number of hundredths, and none at all unless the
value is read as a positive number. A double is refused for one sort of value only, an integer beyond
the range of doubles, and then so is an amount.
-/

namespace DialogGraph

open DialogGraph.Number

namespace Value

variable {value : Value} {q : ℚ}

/-- The finite number that a value is read as. -/
def Reads (value : Value) (q : ℚ) : Prop :=
  ∃ x d, value.asReal? = .ok (some x) ∧ decode x = .finite d ∧ d.value = q

theorem wholeOr_of_reads (hreads : value.Reads q) (default : Int) :
    value.wholeOr default = withoutFraction q := by
  obtain ⟨x, d, hreal, hdecode, hvalue⟩ := hreads
  simp only [wholeOr, hreal, truncate?, hdecode, Option.getD_some]
  rw [d.truncate_eq, hvalue]

theorem wholeOr_of_unread (hunread : ∀ q, ¬value.Reads q) (default : Int) :
    value.wholeOr default = default := by
  rw [wholeOr]
  split
  next x hreal =>
    rw [truncate?]
    split
    next d hdecode => exact absurd ⟨x, d, hreal, hdecode, rfl⟩ (hunread d.value)
    next => rfl
  next => rfl

/-- A double is refused for an integer beyond their range, and found or replaced otherwise. -/
theorem realOr_cases (value : Value) (default : Float) :
    (Catalog.Unpayable value ∧ value.realOr default = .error .tooLarge) ∨
      ¬Catalog.Unpayable value ∧ ∃ found, value.asReal? = .ok found ∧
        value.realOr default = .ok (found.getD default) := by
  cases hreal : value.asReal? with
  | ok found =>
    have hok : value.realOr default = .ok (found.getD default) := by rw [realOr, hreal]; rfl
    refine .inr ⟨fun hrange => ?_, found, rfl, hok⟩
    have herror : value.realOr default = .error .tooLarge := Catalog.realOr_eq_error_iff.2 hrange
    rw [hok] at herror
    cases herror
  | error fault =>
    cases fault
    have herror : value.realOr default = .error .tooLarge := by rw [realOr, hreal]; rfl
    exact .inl ⟨Catalog.realOr_eq_error_iff.1 herror, herror⟩

end Value

/-! ### Hundredths -/

section Hundredths

variable {x : Float} {d : Number.Dyadic}

theorem decode_hundred : decode 100 = .finite ⟨false, 100 * 2 ^ 46, -46⟩ := by
  decide +kernel

theorem decode_zero : decode 0 = .finite ⟨false, 0, -1074⟩ := by
  decide +kernel

theorem positiveRounded_of_infinite {negative : Bool} (hdecode : decode x = .infinite negative) :
    positiveRounded x = 0 := by
  rw [positiveRounded, hdecode]

theorem positiveRounded_of_negative (hdecode : decode x = .finite d)
    (hnegative : d.negative = true) : positiveRounded x = 0 := by
  simp only [positiveRounded, hdecode, if_pos hnegative]

theorem positiveRounded_of_positive (hdecode : decode x = .finite d)
    (hpositive : d.negative = false) : (positiveRounded x : Int) = d.round := by
  have hround : 0 ≤ d.round := by simp [Dyadic.round, signed, hpositive]
  simp only [positiveRounded, hdecode, hpositive, Bool.false_eq_true, if_false]
  exact Int.natAbs_of_nonneg hround

theorem round_of_zero (hzero : d.mantissa = 0) : d.round = 0 := by
  have hden : 0 < 2 ^ (-d.exponent).toNat := Nat.two_pow_pos _
  simp [Dyadic.round, signed, roundDiv, hzero, hden]

/-- A product with a hundred has the sign of the other factor. -/
theorem decode_mul_hundred (hdecode : decode x = .finite d) :
    decode (x * 100) = .infinite d.negative ∨
      ∃ p, decode (x * 100) = .finite p ∧ p.negative = d.negative := by
  simpa using decode_mul_of_finite hdecode decode_hundred

/-- What is no positive number has no hundredths. -/
theorem hundredths_of_nonpos (hnonpos : ∀ d, decode x = .finite d → d.value ≤ 0) :
    positiveRounded (x * 100) = 0 := by
  cases hdecode : decode x with
  | nan => rw [positiveRounded, decode_mul_of_nan hdecode]
  | infinite negative =>
    exact positiveRounded_of_infinite
      (decode_mul_of_infinite hdecode decode_hundred (by decide))
  | finite d =>
    have hvalue := hnonpos d hdecode
    cases hsign : d.negative with
    | true =>
      rcases decode_mul_hundred hdecode with hproduct | ⟨p, hproduct, hp⟩
      · exact positiveRounded_of_infinite hproduct
      · exact positiveRounded_of_negative hproduct (hp.trans hsign)
    | false =>
      rw [Dyadic.value, hsign, if_neg Bool.false_ne_true] at hvalue
      have hzero : d.mantissa = 0 :=
        Dyadic.magnitude_eq_zero_iff.1 (le_antisymm hvalue d.magnitude_nonneg)
      have hproduct := decode_mul_of_zero hdecode decode_hundred (.inl hzero)
      rw [hsign] at hproduct
      have hround := positiveRounded_of_positive hproduct rfl
      rw [round_of_zero rfl] at hround
      exact Int.natCast_eq_zero.1 hround

/-- The hundredths of a positive number, unless there are more of them than a double can tell. -/
theorem hundredths_of_pos (hdecode : decode x = .finite d) (hpos : 0 < d.value) :
    decode (x * 100) = .infinite false ∧ positiveRounded (x * 100) = 0 ∨
      ∃ p, decode (x * 100) = .finite p ∧ IsNearest p.value (positiveRounded (x * 100)) := by
  have hsign : d.negative = false := by
    cases hminus : d.negative with
    | false => rfl
    | true =>
      rw [Dyadic.value, hminus, if_pos rfl] at hpos
      exact absurd d.magnitude_nonneg (not_le.2 (neg_pos.1 hpos))
  rcases decode_mul_hundred hdecode with hproduct | ⟨p, hproduct, hp⟩
  · rw [hsign] at hproduct
    exact .inl ⟨hproduct, positiveRounded_of_infinite hproduct⟩
  · have hpositive := hp.trans hsign
    have hnearest := p.isNearest_round hpositive
    rw [← positiveRounded_of_positive hproduct hpositive] at hnearest
    exact .inr ⟨p, hproduct, hnearest⟩

end Hundredths

/-! ### Amounts -/

/-- What becomes of a value where a number or an amount is wanted. As an integer it is what it is
read as without the fraction, or the default. As a double it is refused for an integer beyond the
range of doubles alone, and then so is an amount. Any other amount is a natural number: the nearest
one to the hundredfold of a positive number, and 0 of what is read as no such number. -/
theorem minorUnits_cases (value : Value) (whole : Int) (default : Float) :
    ((∃ q, value.Reads q ∧ value.wholeOr whole = withoutFraction q) ∨
      (∀ q, ¬value.Reads q) ∧ value.wholeOr whole = whole) ∧
    ((Catalog.Unpayable value ∧ value.realOr default = .error .tooLarge ∧
        minorUnits value = .error .tooLarge) ∨
      ¬Catalog.Unpayable value ∧ ∃ found units, value.asReal? = .ok found ∧
        value.realOr default = .ok (found.getD default) ∧ minorUnits value = .ok units ∧
        ((∀ q, value.Reads q → q ≤ 0) → units = 0) ∧
        ∀ x d, found = some x → decode x = .finite d → 0 < d.value →
          decode (x * 100) = .infinite false ∧ units = 0 ∨
            ∃ p, decode (x * 100) = .finite p ∧ IsNearest p.value units) := by
  constructor
  · by_cases hread : ∃ q, value.Reads q
    · obtain ⟨q, hreads⟩ := hread
      exact .inl ⟨q, hreads, Value.wholeOr_of_reads hreads whole⟩
    · have hunread := not_exists.1 hread
      exact .inr ⟨hunread, Value.wholeOr_of_unread hunread whole⟩
  · rcases value.realOr_cases 0 with ⟨hrange, hfault⟩ | ⟨hrange, found, hfound, hreal⟩
    · have hunits : minorUnits value = .error .tooLarge := by rw [minorUnits, hfault]; rfl
      exact .inl ⟨hrange, Catalog.realOr_eq_error_iff.2 hrange, hunits⟩
    · have hunits : minorUnits value = .ok (positiveRounded (found.getD 0 * 100)) := by
        rw [minorUnits, hreal]
        rfl
      have hdouble : value.realOr default = .ok (found.getD default) := by
        rw [Value.realOr, hfound]
        rfl
      refine .inr ⟨hrange, found, _, hfound, hdouble, hunits, fun hnone => ?_, ?_⟩
      · apply hundredths_of_nonpos
        intro d hdecode
        cases found with
        | none =>
          rw [Option.getD_none, decode_zero] at hdecode
          cases hdecode
          exact (Dyadic.value_eq_zero_iff.2 rfl).le
        | some x => exact hnone d.value ⟨x, d, hfound, hdecode, rfl⟩
      · intro x d hsome hdecode hpos
        rw [hsome, Option.getD_some]
        exact hundredths_of_pos hdecode hpos

/-- An integer of 310 digits has no double, so it is no amount either. -/
theorem minorUnits_of_vast :
    (Value.int (10 ^ 309)).realOr 0 = .error .tooLarge ∧
      minorUnits (.int (10 ^ 309)) = .error .tooLarge := by
  have hrange : Catalog.Unpayable (.int (10 ^ 309)) := by decide +kernel
  have hfault : (Value.int (10 ^ 309)).realOr 0 = .error .tooLarge :=
    Catalog.realOr_eq_error_iff.2 hrange
  exact ⟨hfault, by rw [minorUnits, hfault]; rfl⟩

end DialogGraph
