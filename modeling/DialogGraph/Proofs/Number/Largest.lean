import DialogGraph.Proofs.Number.Integers

/-!
# The largest double

A ratio is rounded to a finite double as long as it is nearer to the largest one than to the power
of two behind it. An integer that is not has no double at all.
-/

namespace DialogGraph.Number

variable {num den m : Nat}

/-- The least natural number beyond the range of doubles, halfway between the largest double and the
power of two behind it. -/
def realLimit : Nat := 2 ^ 1024 - 2 ^ 970

/-! ### Rounding to a bound -/

theorem roundDiv_le (hden : 0 < den) (hle : (num : ℚ) / den ≤ m) : roundDiv num den ≤ m := by
  have hpos : (0 : ℚ) < den := by exact_mod_cast hden
  have hnum : num ≤ m * den := by
    rw [div_le_iff₀ hpos] at hle
    exact_mod_cast hle
  have hsum := Nat.div_add_mod num den
  rw [mul_comm den] at hsum
  rw [roundDiv]
  generalize num / den = q at *
  generalize num % den = r at *
  rcases Nat.lt_or_ge q m with hlt | hge
  · split_ifs <;> omega
  · have hscaled := Nat.mul_le_mul_right den hge
    obtain rfl : r = 0 := by omega
    obtain rfl : q = m := Nat.eq_of_mul_eq_mul_right hden (by omega)
    rw [if_pos (by omega)]

/-- An even number is reached from half below it. -/
theorem le_roundDiv_iff (hden : 0 < den) (heven : m % 2 = 0) :
    m ≤ roundDiv num den ↔ (m : ℚ) - 1 / 2 ≤ num / den := by
  have hpos : (0 : ℚ) < den := by exact_mod_cast hden
  have hwhole : (m : ℚ) - 1 / 2 ≤ num / den ↔ 2 * (m * den) ≤ 2 * num + den := by
    rw [le_div_iff₀ hpos, ← Nat.cast_le (α := ℚ)]
    push_cast
    constructor <;> intro hle <;> linarith
  have hsum := Nat.div_add_mod num den
  have hmod := Nat.mod_lt num hden
  rw [mul_comm den] at hsum
  rw [hwhole, roundDiv]
  generalize num / den = q at *
  generalize num % den = r at *
  rcases Nat.lt_trichotomy m (q + 1) with hlt | rfl | hgt
  · have hscaled := Nat.mul_le_mul_right den (Nat.lt_succ_iff.1 hlt)
    refine iff_of_true ?_ (by omega)
    split_ifs <;> omega
  · rw [add_mul, one_mul]
    split_ifs <;> omega
  · have hscaled := Nat.mul_le_mul_right den (show q + 2 ≤ m from hgt)
    rw [add_mul] at hscaled
    refine iff_of_false ?_ (by omega)
    split_ifs <;> omega

/-- A ratio in units of a power of two. -/
theorem scaled_ratio (num den : Nat) (exponent : Int) :
    ((num * 2 ^ (-exponent).toNat : Nat) : ℚ) / (den * 2 ^ exponent.toNat : Nat) =
      num / den / 2 ^ exponent := by
  have hpow := zpow_eq_div (b := 2) (by decide) exponent
  rw [Nat.cast_ofNat] at hpow
  rw [hpow]
  push_cast
  rw [div_div_eq_mul_div, div_mul_eq_mul_div, div_div]

/-! ### Mantissas -/

/-- A mantissa makes a finite double unless its exponent is too high. -/
theorem isFinite_ofMantissa {exponent : Int} (hm : m < 2 ^ 53) (hlow : -1074 ≤ exponent)
    (hhigh : exponent ≤ 971) (hfull : m < 2 ^ 52 → exponent = -1074) (negative : Bool) :
    ∃ d, decode (ofMantissa negative m exponent) = .finite d := by
  have hd : Dyadic.Canonical ⟨negative, m, exponent⟩ := ⟨hm, hlow, hhigh, hfull⟩
  exact ⟨_, ofMantissa_eq hd negative ▸ decode_ofFields hd⟩

theorem decode_infinity (negative : Bool) : decode (infinity negative) = .infinite negative := by
  cases negative <;> rfl

theorem ofMantissa_eq_infinity {exponent : Int} (hm : 2 ^ 52 ≤ m) (hhigh : 972 ≤ exponent)
    (negative : Bool) : ofMantissa negative m exponent = infinity negative := by
  have hbiased : 2047 ≤ (exponent + 1075).toNat ∧ 2047 ≤ (exponent + 1 + 1075).toNat := by omega
  simp only [ofMantissa, Nat.pow_eq]
  by_cases hcarry : m = 2 ^ 53
  · simp only [if_pos hcarry, lt_irrefl, if_false, if_pos hbiased.2]
  · simp only [if_neg hcarry, if_neg (Nat.not_lt.2 hm), if_pos hbiased.1]

/-- A mantissa that fills its place makes a finite double unless it is beyond the largest one. -/
theorem decode_ofMantissa_iff {exponent : Int} (hle : m ≤ 2 ^ 53) (hlow : -1074 ≤ exponent)
    (hfull : -1074 < exponent → 2 ^ 52 ≤ m) (negative : Bool) :
    (∃ d, decode (ofMantissa negative m exponent) = .finite d) ↔
      exponent < 971 ∨ exponent = 971 ∧ m < 2 ^ 53 := by
  rcases hle.lt_or_eq with hlt | rfl
  · by_cases hhigh : exponent ≤ 971
    · exact iff_of_true (isFinite_ofMantissa hlt hlow hhigh (by omega) negative) (by omega)
    · refine iff_of_false ?_ (by omega)
      rw [ofMantissa_eq_infinity (hfull (by omega)) (by omega), decode_infinity]
      exact nofun
  · rw [ofMantissa_carry]
    by_cases hhigh : exponent + 1 ≤ 971
    · exact iff_of_true (isFinite_ofMantissa (by decide) (by omega) hhigh
        (fun hsmall => absurd hsmall (lt_irrefl _)) negative) (by omega)
    · refine iff_of_false ?_ (by omega)
      rw [ofMantissa_eq_infinity (le_refl _) (by omega), decode_infinity]
      exact nofun

/-! ### Ratios -/

/-- The mantissa and the exponent that a ratio is rounded to. -/
theorem ofRatio_spec (hnum : num ≠ 0) (hden : den ≠ 0) (negative : Bool) :
    ∃ (m : Nat) (exponent : Int), ofRatio negative num den = ofMantissa negative m exponent ∧
      m ≤ 2 ^ 53 ∧ -1074 ≤ exponent ∧ (-1074 < exponent → 2 ^ 52 ≤ m) ∧
      (-1074 < exponent → (2 : ℚ) ^ (exponent + 52) ≤ num / den) ∧
      (num : ℚ) / den < 2 ^ (exponent + 53) ∧
      (2 ^ 53 ≤ m ↔ ((2 : ℚ) ^ 53 - 1 / 2) * 2 ^ exponent ≤ num / den) := by
  obtain ⟨hlow, hhigh⟩ := ratioLog2_spec hnum hden
  generalize hexponent : max (ratioLog2 num den - 52) (-1074) = exponent
  have hunit : (0 : ℚ) < 2 ^ exponent := zpow_pos zero_lt_two _
  have hden' : 0 < den * 2 ^ exponent.toNat := by positivity
  have hratio := scaled_ratio num den exponent
  have hbelow : -1074 < exponent → (2 : ℚ) ^ (exponent + 52) ≤ num / den := fun habove =>
    (zpow_le_zpow_right₀ one_le_two (by omega)).trans hlow
  have habove : (num : ℚ) / den < 2 ^ (exponent + 53) :=
    hhigh.trans_le (zpow_le_zpow_right₀ one_le_two (by omega))
  have hreach (k : Nat) (heven : k % 2 = 0) :
      k ≤ roundDiv (num * 2 ^ (-exponent).toNat) (den * 2 ^ exponent.toNat) ↔
        ((k : ℚ) - 1 / 2) * 2 ^ exponent ≤ num / den := by
    rw [le_roundDiv_iff hden' heven, hratio, le_div_iff₀ hunit]
  refine ⟨_, exponent, ofRatio_eq_ofMantissa hnum hexponent negative, ?_, by omega, ?_, hbelow,
    habove, ?_⟩
  · apply roundDiv_le hden'
    rw [hratio, div_le_iff₀ hunit]
    rw [zpow_add₀ two_ne_zero, mul_comm] at habove
    exact_mod_cast habove.le
  · intro hfull
    rw [hreach _ (by decide)]
    refine le_trans ?_ (hbelow hfull)
    rw [zpow_add₀ two_ne_zero, mul_comm ((2 : ℚ) ^ exponent)]
    refine mul_le_mul_of_nonneg_right ?_ hunit.le
    norm_num
  · rw [hreach _ (by decide)]
    norm_num

theorem decode_ofRatio_iff_scaled (hden : den ≠ 0) (negative : Bool) :
    (∃ d, decode (ofRatio negative num den) = .finite d) ↔
      (num : ℚ) / den < (2 ^ 53 - 1 / 2) * 2 ^ (971 : Int) := by
  have hscale (k : Int) : (2 : ℚ) ^ (971 + k) = 2 ^ (971 : Int) * 2 ^ k := zpow_add₀ two_ne_zero _ _
  have hunit : (0 : ℚ) < 2 ^ (971 : Int) := zpow_pos zero_lt_two _
  have hlow : (2 : ℚ) ^ (971 + 52 : Int) ≤ (2 ^ 53 - 1 / 2) * 2 ^ (971 : Int) := by
    rw [hscale, mul_comm]
    refine mul_le_mul_of_nonneg_right ?_ hunit.le
    norm_num
  have hhigh : (2 ^ 53 - 1 / 2) * 2 ^ (971 : Int) ≤ (2 : ℚ) ^ (971 + 53 : Int) := by
    rw [hscale, mul_comm ((2 : ℚ) ^ (971 : Int))]
    refine mul_le_mul_of_nonneg_right ?_ hunit.le
    norm_num
  rcases eq_or_ne num 0 with rfl | hnum
  · have hzero : ofRatio negative 0 den = ofFields negative 0 := by simp [ofRatio]
    rw [hzero]
    refine iff_of_true ⟨_, decode_ofFields_zero negative⟩ ?_
    rw [Nat.cast_zero, zero_div]
    exact (zpow_pos zero_lt_two _).trans_le hlow
  · obtain ⟨m, exponent, hround, hle, hleast, hfull, hbelow, habove, hcarry⟩ :=
      ofRatio_spec hnum hden negative
    rw [hround, decode_ofMantissa_iff hle hleast hfull]
    rcases lt_trichotomy exponent 971 with hlt | rfl | hgt
    · refine iff_of_true (.inl hlt) (habove.trans_le (le_trans ?_ hlow))
      exact zpow_le_zpow_right₀ one_le_two (by omega)
    · rw [← not_le, ← not_le (b := (num : ℚ) / den), ← hcarry]
      simp
    · refine iff_of_false (by omega) (not_lt.2 (hhigh.trans (le_trans ?_ (hbelow (by omega)))))
      exact zpow_le_zpow_right₀ one_le_two (by omega)

/-- A ratio is rounded to a finite double unless it is as near to the power of two behind the
largest one, or beyond. -/
theorem decode_ofRatio_iff (hden : den ≠ 0) (negative : Bool) :
    (∃ d, decode (ofRatio negative num den) = .finite d) ↔
      num < realLimit * den := by
  have hbound : (2 ^ 53 - 1 / 2) * 2 ^ (971 : Int) = (realLimit : ℚ) := by
    have hsplit : (2 : ℚ) ^ 1024 = 2 ^ 54 * 2 ^ 970 := by rw [← pow_add]
    have hnext : (2 : ℚ) ^ (971 : Int) = 2 ^ 970 * 2 := by
      rw [← pow_succ]
      exact zpow_natCast 2 971
    have hle : 2 ^ 970 ≤ 2 ^ 1024 := pow_le_pow_right₀ one_le_two (by omega)
    rw [realLimit, Nat.cast_sub hle, Nat.cast_pow, Nat.cast_pow, Nat.cast_ofNat, hsplit, hnext]
    generalize (2 : ℚ) ^ 970 = unit
    ring
  have hpos : (0 : ℚ) < den := by exact_mod_cast Nat.pos_of_ne_zero hden
  rw [decode_ofRatio_iff_scaled hden, hbound, div_lt_iff₀ hpos, ← Nat.cast_mul, Nat.cast_lt]

/-! ### Integers -/

/-- An integer has a double unless it is as near to the power of two behind the largest one, or
beyond. -/
theorem ofInt?_eq_none_iff {n : Int} : ofInt? n = none ↔ realLimit ≤ n.natAbs := by
  have hnone : ofInt? n = none ↔ ¬∃ d, decode (ofRatio (n < 0) n.natAbs 1) = .finite d := by
    rw [ofInt?]
    cases decode (ofRatio (n < 0) n.natAbs 1) <;> simp
  rw [hnone, decode_ofRatio_iff one_ne_zero, mul_one, not_lt]

end DialogGraph.Number
