import DialogGraph.Proofs.Number.Shortest
import DialogGraph.Script.Quantity

/-!
# Integers as doubles

An integer of at most 53 bits is a double. Taken as a double and cut back to an integer it is the
same integer.
-/

namespace DialogGraph.Number

open DialogGraph.Text
open Float.Model (Format)
open Float.Model.UnpackedFloat

variable {d : Dyadic}

/-- The first bit is the sign. -/
theorem sign_bit (negative : Bool) {rest : Nat} (hrest : rest < 2 ^ 63) :
    (((if negative then 2 ^ 63 else 0) + rest) / 2 ^ 63 == 1) = negative := by
  cases negative with
  | false =>
    simp only [Bool.false_eq_true, if_false, beq_eq_false_iff_ne]
    omega
  | true =>
    simp only [if_true, beq_iff_eq]
    omega

/-- The fields of a finite double are read back from its bits. -/
theorem decodeBits_bits (hd : d.Canonical) : decodeBits d.bits = .finite d := by
  obtain ⟨negative, mantissa, exponent⟩ := d
  have hmantissa : mantissa < 2 ^ 53 := hd.mantissa_lt
  have hlow : -1074 ≤ exponent := hd.neg_le_exponent
  have hhigh : exponent ≤ 971 := hd.exponent_le
  have hsmall : mantissa < 2 ^ 52 → exponent = -1074 := hd.exponent_eq
  by_cases hsubnormal : mantissa < 2 ^ 52
  · obtain rfl := hsmall hsubnormal
    have hbits : Dyadic.bits ⟨negative, mantissa, -1074⟩ =
        (if negative then 2 ^ 63 else 0) + mantissa := by
      rw [Dyadic.bits, Dyadic.rest, if_pos hsubnormal]
    have hexponent : ((if negative then 2 ^ 63 else 0) + mantissa) / 2 ^ 52 % 2048 = 0 := by
      split <;> omega
    have hfraction : ((if negative then 2 ^ 63 else 0) + mantissa) % 2 ^ 52 = mantissa := by
      split <;> omega
    rw [hbits, decodeBits, hexponent, hfraction, sign_bit negative (by omega)]
    rfl
  · obtain ⟨biased, hbiased⟩ := Int.eq_ofNat_of_zero_le (by omega : 0 ≤ exponent + 1075)
    have hbits : Dyadic.bits ⟨negative, mantissa, exponent⟩ =
        (if negative then 2 ^ 63 else 0) + (biased * 2 ^ 52 + (mantissa - 2 ^ 52)) := by
      rw [Dyadic.bits, Dyadic.rest, if_neg hsubnormal]
      simp only [hbiased, Int.toNat_natCast]
    have hexponent : ((if negative then 2 ^ 63 else 0) +
        (biased * 2 ^ 52 + (mantissa - 2 ^ 52))) / 2 ^ 52 % 2048 = biased := by
      split <;> omega
    have hfraction : ((if negative then 2 ^ 63 else 0) +
        (biased * 2 ^ 52 + (mantissa - 2 ^ 52))) % 2 ^ 52 = mantissa - 2 ^ 52 := by
      split <;> omega
    rw [hbits, decodeBits, hexponent, hfraction, sign_bit negative (by omega), if_neg (by omega),
      if_neg (by omega), Nat.add_sub_of_le (Nat.not_lt.1 hsubnormal), ← hbiased,
      Int.add_sub_cancel]

/-- A finite double is read back from what it is put together from. -/
theorem decode_ofFields (hd : d.Canonical) : decode (ofFields d.negative d.rest) = .finite d := by
  have hlt : d.bits < 2 ^ 64 := by
    have hmantissa := hd.mantissa_lt
    have hexponent := hd.exponent_le
    rw [Dyadic.bits, Dyadic.rest]
    split <;> split <;> omega
  let word : UInt64 := UInt64.ofNat d.bits
  have hword : word.toNat = d.bits := UInt64.toNat_ofNat_of_lt hlt
  have hdecode := decodeBits_bits hd
  -- the bits are valid, as the exponent is not that of an infinity or of what is no number
  have hvalid : Format.binary64.Valid word.toBitVec := by
    constructor
    intro hall
    have hexponent := toNat_unpackExponent word.toBitVec
    have hbits : word.toBitVec.toNat = d.bits := hword
    have hones : (-BitVec.ofNat Format.binary64.exponentBits 1).toNat = 2047 := rfl
    rw [hall, hbits, hones] at hexponent
    rw [decodeBits, if_pos hexponent.symm] at hdecode
    split at hdecode <;> cases hdecode
  have hfields : ofFields d.negative d.rest = ⟨⟨word, hvalid⟩⟩ :=
    Float.ofBits_toBits ⟨⟨word, hvalid⟩⟩
  rw [hfields, decode_eq]
  exact hword ▸ hdecode

theorem decode_ofFields_zero (negative : Bool) :
    decode (ofFields negative 0) = .finite ⟨negative, 0, -1074⟩ := by
  have hd : Dyadic.Canonical ⟨negative, 0, -1074⟩ :=
    ⟨by norm_num, le_refl _, by norm_num, fun _ => rfl⟩
  have hdecode := decode_ofFields hd
  have hrest : Dyadic.rest ⟨negative, 0, -1074⟩ = 0 := by simp [Dyadic.rest]
  rwa [hrest] at hdecode

/-- A positive integer of at most 53 bits has a canonical form, with either sign. -/
theorem exists_canonical {n : Nat} (hpos : 0 < n) (hn : n ≤ 2 ^ 53) (negative : Bool) :
    ∃ d : Dyadic, d.Canonical ∧ 0 < d.mantissa ∧ d.negative = negative ∧ d.magnitude = n := by
  rcases Nat.lt_or_eq_of_le hn with hless | rfl
  · have hlog : Nat.log2 n ≤ 52 := by
      have := (Nat.log2_lt hpos.ne').2 hless
      omega
    have hlow : 2 ^ Nat.log2 n ≤ n := Nat.log2_self_le hpos.ne'
    have hhigh : n < 2 ^ (Nat.log2 n + 1) := Nat.lt_log2_self
    have hpow (k : Nat) : 2 ^ (Nat.log2 n + k) * 2 ^ (52 - Nat.log2 n) = 2 ^ (52 + k) := by
      rw [← Nat.pow_add]
      congr 1
      omega
    have hfull : 2 ^ 52 ≤ n * 2 ^ (52 - Nat.log2 n) := by
      rw [← hpow 0]
      exact Nat.mul_le_mul_right _ hlow
    have hfits : n * 2 ^ (52 - Nat.log2 n) < 2 ^ 53 := by
      rw [← hpow 1]
      exact Nat.mul_lt_mul_of_pos_right hhigh (Nat.two_pow_pos _)
    refine ⟨⟨negative, n * 2 ^ (52 - Nat.log2 n), -(52 - Nat.log2 n : Nat)⟩, ⟨hfits, ?_, ?_, ?_⟩,
      lt_of_lt_of_le (by decide) hfull, rfl, ?_⟩
    · dsimp only
      omega
    · dsimp only
      omega
    · intro hsmall
      exact absurd hsmall (Nat.not_lt.2 hfull)
    · have hne : (2 : ℚ) ^ (52 - Nat.log2 n) ≠ 0 := pow_ne_zero _ two_ne_zero
      rw [Dyadic.magnitude]
      push_cast
      rw [zpow_neg, zpow_natCast, mul_assoc, mul_inv_cancel₀ hne, mul_one]
  · have hcanonical : Dyadic.Canonical ⟨negative, 2 ^ 52, 1⟩ :=
      ⟨by norm_num, by norm_num, by norm_num, by norm_num⟩
    refine ⟨⟨negative, 2 ^ 52, 1⟩, hcanonical, Nat.two_pow_pos 52, rfl, ?_⟩
    rw [Dyadic.magnitude]
    norm_num

/-- An integer of at most 53 bits is found again in the double made from it. -/
theorem ofInt?_eq_some {n : Int} (hn : n.natAbs ≤ 2 ^ 53) :
    ∃ x d, ofInt? n = some x ∧ decode x = .finite d ∧ d.value = n := by
  suffices h : ∃ d : Dyadic, decode (ofRatio (n < 0) n.natAbs 1) = .finite d ∧ d.value = n by
    obtain ⟨d, hdecode, hvalue⟩ := h
    exact ⟨_, d, by simp only [ofInt?, hdecode], hdecode, hvalue⟩
  rcases Nat.eq_zero_or_pos n.natAbs with hzero | hpos
  · obtain rfl := Int.natAbs_eq_zero.1 hzero
    have hratio : ofRatio (decide ((0 : Int) < 0)) (Int.natAbs 0) 1 = ofFields false 0 := by
      simp [ofRatio]
    exact ⟨_, hratio ▸ decode_ofFields_zero false, by simp [Dyadic.value, Dyadic.magnitude]⟩
  · obtain ⟨d, hd, hmantissa, hnegative, hmagnitude⟩ := exists_canonical hpos hn (decide (n < 0))
    have hcovers : d.Covers ((n.natAbs : Nat) / (1 : Nat)) := by
      rw [Nat.cast_one, div_one, ← hmagnitude]
      exact d.covers_magnitude
    refine ⟨d, ?_, ?_⟩
    · rw [ofRatio_eq hd hmantissa Nat.one_pos hcovers, ← hnegative]
      exact decode_ofFields hd
    · rw [Dyadic.value, hnegative, hmagnitude, Nat.cast_natAbs, Int.cast_abs]
      by_cases hless : n < 0
      · simp [hless, abs_of_neg (Int.cast_lt_zero.2 hless : (n : ℚ) < 0)]
      · simp [hless, abs_of_nonneg (Int.cast_nonneg (Int.not_lt.1 hless) : (0 : ℚ) ≤ n)]

/-! ### The text of an integer -/

theorem withoutUnderscores_map_digit (ds : List Nat) (afterDigit : Bool) :
    withoutUnderscores afterDigit (ds.map Symbol.digit) = some (ds.map Symbol.digit) := by
  induction ds generalizing afterDigit with
  | nil => rfl
  | cons d ds ih => rw [List.map_cons, withoutUnderscores, ih, Option.map_some]

/-- Digits alone are read as a number without a fraction and an exponent. -/
theorem readReal?_natText (n : Nat) : readReal? (natText n) = some (ofDecimal false n 0) := by
  have htrim : trimWith isNumberBlank (natText n).toList = (natText n).toList :=
    trimWith_eq_self fun c hc => isNumberBlank_of_isDigit (isDigit_of_mem_natText hc)
  have hword : word? ((digitsOf n).map Symbol.digit) = none := by
    obtain ⟨d, ds, hds⟩ := List.exists_cons_of_ne_nil (digitsOf_ne_nil n)
    rw [hds, List.map_cons, word?]
  have hmagnitude : magnitude? false (realSymbols (digitsOf n) [] []) = _ :=
    magnitude?_realSymbols (digitsOf_ne_nil n) .none false
  simp only [realSymbols, List.isEmpty_nil, if_true, List.append_nil, digitsValue_digitsOf,
    List.length_nil, Nat.cast_zero, sub_zero] at hmagnitude
  rw [readReal?, htrim, symbols_natText, withoutUnderscores_map_digit, Option.bind_some,
    realOfSymbols?, takeSign_map_digit]
  simp only [hword, hmagnitude]

/-- An integer of at most 53 bits is found again in the double read from its text. -/
theorem decode_ofDecimal_natCast {n : Nat} (hn : n ≤ 2 ^ 53) :
    ∃ d, decode (ofDecimal false n 0) = .finite d ∧ d.value = n := by
  rcases Nat.eq_zero_or_pos n with rfl | hpos
  · rw [ofDecimal_zero]
    exact ⟨_, decode_ofFields_zero false, by simp [Dyadic.value, Dyadic.magnitude]⟩
  · obtain ⟨d, hd, hmantissa, hnegative, hmagnitude⟩ := exists_canonical hpos hn false
    have hcovers : d.Covers (Decimal.value ⟨n, 0⟩) := by
      rw [Decimal.value, zpow_zero, mul_one, ← hmagnitude]
      exact d.covers_magnitude
    refine ⟨d, ?_, by rw [Dyadic.value, hnegative, if_neg Bool.false_ne_true, hmagnitude]⟩
    have hread : ofDecimal false n 0 = ofFields false d.rest :=
      ofDecimal_eq hd hmantissa (by norm_num) hcovers false
    rw [hread, ← hnegative]
    exact decode_ofFields hd

end DialogGraph.Number

namespace DialogGraph

open DialogGraph.Number

/-- An integer of at most 53 bits is taken as itself. -/
theorem Value.wholeOr_int {n : Int} (hn : n.natAbs ≤ 2 ^ 53) (default : Int) :
    (Value.int n).wholeOr default = n := by
  obtain ⟨x, d, hx, hdecode, hvalue⟩ := ofInt?_eq_some hn
  have htruncate := (Dyadic.value_eq_intCast_iff.1 hvalue).2
  simp [Value.wholeOr, Value.asReal?, hx, truncate?, hdecode, htruncate]

/-- The text of an integer of at most 53 bits is taken as the integer. -/
theorem Value.wholeOr_natText {n : Nat} (hn : n ≤ 2 ^ 53) (default : Int) :
    (Value.text (natText n)).wholeOr default = n := by
  obtain ⟨d, hdecode, hvalue⟩ := decode_ofDecimal_natCast hn
  have htruncate := (Dyadic.value_eq_intCast_iff (n := n).1 (by exact_mod_cast hvalue)).2
  simp [Value.wholeOr, Value.asReal?, readReal?_natText, truncate?, hdecode, htruncate]

end DialogGraph
