import DialogGraph.Number.Binary64
import Mathlib

/-!
# The fields of a double

A double is read field by field as a sign, a mantissa and an exponent. This is compared with the
logical model of doubles, which has its own way to take the bits apart: both read the same, a finite
double is put together from what was read, and two doubles are equal as numbers exactly when what
was read has the same value.
-/

namespace DialogGraph.Number

open Float.Model (Format UnpackedFloat)
open Float.Model.UnpackedFloat

/-! ### Decoding -/

def decodeBits (bits : Nat) : Decoded :=
  if bits / 2 ^ 52 % 2048 = 2047 then
    if bits % 2 ^ 52 = 0 then .infinite (bits / 2 ^ 63 == 1) else .nan
  else if bits / 2 ^ 52 % 2048 = 0 then .finite ⟨bits / 2 ^ 63 == 1, bits % 2 ^ 52, -1074⟩
  else .finite ⟨bits / 2 ^ 63 == 1, 2 ^ 52 + bits % 2 ^ 52, (bits / 2 ^ 52 % 2048 : Nat) - 1075⟩

theorem decode_eq (x : Float) : decode x = decodeBits x.toBits.toNat := by
  simp only [decode, decodeBits, Nat.pow_eq, beq_iff_eq]

namespace Dyadic

/-- The forms in which finite doubles are read: the mantissa fills 53 bits, or the exponent is the
least one. -/
structure Canonical (d : Dyadic) : Prop where
  mantissa_lt : d.mantissa < 2 ^ 53
  neg_le_exponent : -1074 ≤ d.exponent
  exponent_le : d.exponent ≤ 971
  exponent_eq : d.mantissa < 2 ^ 52 → d.exponent = -1074

/-- The exponent and the fraction of a finite double as they stand in its bits. -/
def rest (d : Dyadic) : Nat :=
  if d.mantissa < 2 ^ 52 then d.mantissa
  else (d.exponent + 1075).toNat * 2 ^ 52 + (d.mantissa - 2 ^ 52)

def bits (d : Dyadic) : Nat := (if d.negative then 2 ^ 63 else 0) + d.rest

end Dyadic

variable {bits : Nat} {d : Dyadic} {x y : Float}

theorem decodeBits_eq_finite (hbits : bits < 2 ^ 64) (hdecode : decodeBits bits = .finite d) :
    d.Canonical ∧ d.bits = bits := by
  have hsign : (if bits / 2 ^ 63 == 1 then 2 ^ 63 else 0) = bits / 2 ^ 63 * 2 ^ 63 := by
    simp only [beq_iff_eq]
    split <;> omega
  have hfraction : bits % 2 ^ 52 < 2 ^ 52 := Nat.mod_lt _ (by decide)
  have hbiased : bits / 2 ^ 52 % 2048 < 2048 := Nat.mod_lt _ (by decide)
  rw [decodeBits] at hdecode
  split at hdecode
  · split at hdecode <;> cases hdecode
  · split at hdecode <;> obtain rfl := Decoded.finite.inj hdecode
    · constructor
      · constructor <;> dsimp only <;> omega
      · rw [Dyadic.bits, Dyadic.rest, if_pos hfraction, hsign]
        dsimp only
        omega
    · have hnormal : ¬2 ^ 52 + bits % 2 ^ 52 < 2 ^ 52 := by omega
      constructor
      · constructor <;> dsimp only <;> omega
      · rw [Dyadic.bits, Dyadic.rest, if_neg hnormal, hsign]
        dsimp only
        omega

theorem canonical_of_decode (hdecode : decode x = .finite d) : d.Canonical :=
  (decodeBits_eq_finite x.toBits.toNat_lt (decode_eq x ▸ hdecode)).1

/-! ### The logical model of doubles -/

def signOf (negative : Bool) : Sign := if negative then .negative else .positive

/-- What was read from a double, in the logical model. -/
def Decoded.unpacked : Decoded → UnpackedFloat
  | .nan => .notANumber
  | .infinite negative => .infinity (signOf negative)
  | .finite d =>
    if h : d.mantissa = 0 then .zero (signOf d.negative)
    else .finite (signOf d.negative) d.mantissa d.exponent (Nat.pos_of_ne_zero h)

section Model

variable (word : BitVec (Format.numBits Format.binary64))

theorem toNat_unpackMantissa : (unpackMantissa word).toNat = word.toNat % 2 ^ 52 := by
  simp [unpackMantissa, BitVec.extractLsb]

theorem toNat_unpackExponent : (unpackExponent word).toNat = word.toNat / 2 ^ 52 % 2048 := by
  simp [unpackExponent, BitVec.extractLsb, Nat.shiftRight_eq_div_pow]

theorem ofBitVec_unpackSign :
    Sign.ofBitVec (unpackSign word) = signOf (word.toNat / 2 ^ 63 == 1) := by
  have hword : word.toNat < 2 ^ 64 := word.isLt
  have hsign : (unpackSign word).toNat = word.toNat / 2 ^ 63 % 2 := by
    simp [unpackSign, BitVec.extractLsb, Nat.shiftRight_eq_div_pow]
  rw [Sign.ofBitVec, signOf]
  by_cases hzero : unpackSign word = 0#1
  · rw [if_pos hzero, if_neg]
    rw [hzero, BitVec.toNat_ofNat, Nat.zero_mod] at hsign
    simp only [beq_iff_eq]
    omega
  · rw [if_neg hzero, if_pos]
    rw [← BitVec.toNat_inj, hsign, BitVec.toNat_ofNat, Nat.zero_mod] at hzero
    simp only [beq_iff_eq]
    omega

/-- The leading bit of a normal double, put before its fraction. -/
theorem toNat_one_append {fraction : BitVec 52} :
    (1#1 ++ fraction).toNat = 2 ^ 52 + fraction.toNat := by
  rw [BitVec.toNat_append, ← Nat.shiftLeft_add_eq_or_of_lt fraction.isLt]
  rfl

/-- The logical model reads the fields of a double in the same way. -/
theorem unpack_eq :
    UnpackedFloat.unpack Format.binary64 word = (decodeBits word.toNat).unpacked := by
  have hmantissa := toNat_unpackMantissa word
  have hexponent := toNat_unpackExponent word
  have hall : unpackExponent word = -1#_ ↔ word.toNat / 2 ^ 52 % 2048 = 2047 := by
    rw [← BitVec.toNat_inj, hexponent]
    rfl
  have hnone : unpackExponent word = 0#_ ↔ word.toNat / 2 ^ 52 % 2048 = 0 := by
    rw [← BitVec.toNat_inj, hexponent]
    rfl
  have hwhole : unpackMantissa word = 0#_ ↔ word.toNat % 2 ^ 52 = 0 := by
    rw [← BitVec.toNat_inj, hmantissa]
    rfl
  have hbias : (Format.exponentBias Format.binary64 : Int) +
      Format.mantissaBitsWithoutImplicit Format.binary64 = 1075 := rfl
  simp only [UnpackedFloat.unpack, hall, hnone, hwhole, ofBitVec_unpackSign, hmantissa, hexponent,
    decodeBits, hbias]
  split
  · split <;> rfl
  · split
    · rename_i hzero
      rw [Decoded.unpacked]
      split
      · rfl
      · simp only [hzero]
        rfl
    · rw [Decoded.unpacked, dif_neg (by simp)]
      congr 1
      rw [toNat_one_append, hmantissa]

end Model

theorem unpack_toModel (x : Float) : x.toModel.unpack = (decode x).unpacked := by
  rw [Float.Model.unpack, unpack_eq, decode_eq]
  rfl

theorem isNaN_iff : x.isNaN = true ↔ decode x = .nan := by
  rw [Float.isNaN, Float.Model.isNaN, unpack_toModel]
  cases decode x with
  | nan => simp [Decoded.unpacked, UnpackedFloat.isNaN]
  | infinite negative => simp [Decoded.unpacked, UnpackedFloat.isNaN]
  | finite d =>
    rw [Decoded.unpacked]
    split <;> simp [UnpackedFloat.isNaN]

theorem isFinite_iff : x.isFinite = true ↔ ∃ d, decode x = .finite d := by
  rw [Float.isFinite, Float.Model.isFinite, unpack_toModel]
  cases decode x with
  | nan => simp [Decoded.unpacked, UnpackedFloat.isFinite]
  | infinite negative => simp [Decoded.unpacked, UnpackedFloat.isFinite]
  | finite d =>
    rw [Decoded.unpacked]
    split <;> simp [UnpackedFloat.isFinite]

/-! ### Putting a double together -/

/-- A finite double is put together from what is read from it. -/
theorem ofFields_rest (hdecode : decode x = .finite d) : ofFields d.negative d.rest = x := by
  obtain ⟨-, hbits⟩ := decodeBits_eq_finite x.toBits.toNat_lt (decode_eq x ▸ hdecode)
  have hword : UInt64.ofNat ((if d.negative then Nat.pow 2 63 else 0) + d.rest) = x.toBits := by
    rw [Nat.pow_eq, ← Dyadic.bits, hbits]
    exact UInt64.ofNat_toNat
  rw [ofFields, hword, Float.ofBits_toBits]

/-! ### Equality -/

namespace Dyadic

def magnitude (d : Dyadic) : ℚ := d.mantissa * 2 ^ d.exponent

def value (d : Dyadic) : ℚ := if d.negative then -d.magnitude else d.magnitude

theorem magnitude_nonneg (d : Dyadic) : 0 ≤ d.magnitude :=
  mul_nonneg (Nat.cast_nonneg _) (zpow_nonneg zero_le_two _)

theorem magnitude_eq_zero_iff : d.magnitude = 0 ↔ d.mantissa = 0 := by
  have hpow : (2 : ℚ) ^ d.exponent ≠ 0 := zpow_ne_zero _ two_ne_zero
  rw [magnitude, mul_eq_zero, or_iff_left hpow, Nat.cast_eq_zero]

theorem value_eq_zero_iff : d.value = 0 ↔ d.mantissa = 0 := by
  rw [← magnitude_eq_zero_iff, value]
  split
  · exact neg_eq_zero
  · rfl

theorem eq_mul_of_scaled_eq {a b : Nat} {low high : Int} (hle : low ≤ high)
    (hsame : (a : ℚ) * 2 ^ low = b * 2 ^ high) : a = b * 2 ^ (high - low).toNat := by
  have hpow : (2 : ℚ) ^ high = 2 ^ (high - low).toNat * 2 ^ low := by
    rw [← zpow_natCast, ← zpow_add₀ two_ne_zero]
    congr 1
    omega
  rw [hpow, ← mul_assoc] at hsame
  exact_mod_cast mul_right_cancel₀ (zpow_ne_zero low two_ne_zero) hsame

/-- Of two canonical forms of one number neither has the lower exponent: the other's mantissa would
have to fill 54 bits. -/
theorem Canonical.not_exponent_lt {e : Dyadic} (hd : d.Canonical) (he : e.Canonical)
    (hsame : d.magnitude = e.magnitude) : ¬d.exponent < e.exponent := by
  intro hlt
  have hfull : 2 ^ 52 ≤ e.mantissa := by
    by_contra hsmall
    have := he.exponent_eq (by omega)
    have := hd.neg_le_exponent
    omega
  have hscaled := eq_mul_of_scaled_eq hlt.le hsame
  have htwice : 2 ^ 1 ≤ 2 ^ (e.exponent - d.exponent).toNat :=
    Nat.pow_le_pow_right (by decide) (by omega)
  have := Nat.mul_le_mul_left e.mantissa htwice
  have := hd.mantissa_lt
  omega

/-- A number has only one canonical form up to its sign. -/
theorem Canonical.eq_of_magnitude_eq {e : Dyadic} (hd : d.Canonical) (he : e.Canonical)
    (hsame : d.magnitude = e.magnitude) : d.mantissa = e.mantissa ∧ d.exponent = e.exponent := by
  have hexponent : d.exponent = e.exponent := by
    have := hd.not_exponent_lt he hsame
    have := he.not_exponent_lt hd hsame.symm
    omega
  refine ⟨?_, hexponent⟩
  rw [magnitude, magnitude, hexponent] at hsame
  exact_mod_cast mul_right_cancel₀ (zpow_ne_zero _ two_ne_zero) hsame

/-- The canonical forms of zero differ by their sign, and every other number has only one. -/
theorem Canonical.value_eq_iff {e : Dyadic} (hd : d.Canonical) (he : e.Canonical) :
    d.value = e.value ↔ d = e ∨ d.mantissa = 0 ∧ e.mantissa = 0 := by
  constructor
  · intro hsame
    by_cases hzero : d.mantissa = 0
    · right
      rw [← value_eq_zero_iff, ← value_eq_zero_iff, ← hsame, value_eq_zero_iff]
      exact ⟨hzero, hzero⟩
    · left
      have hpos : 0 < d.magnitude :=
        lt_of_le_of_ne d.magnitude_nonneg (Ne.symm (mt magnitude_eq_zero_iff.1 hzero))
      have hother := e.magnitude_nonneg
      have hsigned : d.negative = e.negative ∧ d.magnitude = e.magnitude := by
        rw [value, value] at hsame
        cases hd : d.negative <;> cases he : e.negative <;> rw [hd, he] at hsame
        · exact ⟨rfl, hsame⟩
        · simp only [Bool.false_eq_true, if_false, if_true] at hsame
          linarith
        · simp only [Bool.false_eq_true, if_false, if_true] at hsame
          linarith
        · exact ⟨rfl, neg_inj.1 hsame⟩
      obtain ⟨hmantissa, hexponent⟩ := hd.eq_of_magnitude_eq he hsigned.2
      cases d
      cases e
      simp only [Dyadic.mk.injEq]
      exact ⟨hsigned.1, hmantissa, hexponent⟩
  · rintro (rfl | ⟨hd, he⟩)
    · rfl
    · rw [value_eq_zero_iff.2 hd, value_eq_zero_iff.2 he]

end Dyadic

/-- The logical model finds finite doubles equal when they have the same fields or are both zero. -/
theorem compare_finite {e : Dyadic} :
    (Decoded.finite d).unpacked.compare (Decoded.finite e).unpacked = some .eq ↔
      d = e ∨ d.mantissa = 0 ∧ e.mantissa = 0 := by
  obtain ⟨negative, mantissa, exponent⟩ := d
  obtain ⟨otherNegative, otherMantissa, otherExponent⟩ := e
  rw [Decoded.unpacked, Decoded.unpacked]
  by_cases hzero : mantissa = 0
  · rw [dif_pos hzero]
    by_cases hother : otherMantissa = 0
    · rw [dif_pos hother]
      simp [UnpackedFloat.compare, hzero, hother]
    · rw [dif_neg hother]
      cases otherNegative <;> simp [UnpackedFloat.compare, signOf, hzero, hother] <;> omega
  · rw [dif_neg hzero]
    by_cases hother : otherMantissa = 0
    · rw [dif_pos hother]
      cases negative <;> simp [UnpackedFloat.compare, signOf, hzero, hother]
    · rw [dif_neg hother]
      cases negative <;> cases otherNegative <;>
        simp [UnpackedFloat.compare, signOf, hzero, Ordering.then_eq_eq, and_comm]

/-- Doubles are equal as numbers when they have the same value, or are the same infinity. -/
theorem beq_iff :
    (x == y) = true ↔
      (∃ d e, decode x = .finite d ∧ decode y = .finite e ∧ d.value = e.value) ∨
        ∃ negative, decode x = .infinite negative ∧ decode y = .infinite negative := by
  have hunpacked : (x == y) = ((decode x).unpacked.compare (decode y).unpacked == some .eq) := by
    rw [← unpack_toModel, ← unpack_toModel]
    rfl
  rw [hunpacked, beq_iff_eq]
  cases hx : decode x with
  | nan => simp [Decoded.unpacked, UnpackedFloat.compare]
  | infinite negative =>
    cases hy : decode y with
    | nan => cases negative <;> simp [Decoded.unpacked, UnpackedFloat.compare, signOf]
    | infinite other =>
      cases negative <;> cases other <;>
        simp [Decoded.unpacked, UnpackedFloat.compare, signOf] <;> decide
    | finite e =>
      rw [Decoded.unpacked, Decoded.unpacked]
      split <;> cases negative <;> simp [UnpackedFloat.compare, signOf]
  | finite d =>
    cases hy : decode y with
    | nan =>
      rw [Decoded.unpacked, Decoded.unpacked]
      split <;> simp [UnpackedFloat.compare]
    | infinite other =>
      rw [Decoded.unpacked, Decoded.unpacked]
      split <;> cases other <;> simp [UnpackedFloat.compare, signOf]
    | finite e =>
      have hvalue := (canonical_of_decode hx).value_eq_iff (canonical_of_decode hy)
      simp [compare_finite, hvalue]

/-! ### Integers -/

namespace Dyadic

theorem magnitude_eq_div (d : Dyadic) :
    d.magnitude =
      (d.mantissa * 2 ^ d.exponent.toNat : Nat) / (2 ^ (-d.exponent).toNat : Nat) := by
  have hpow : (2 : ℚ) ^ d.exponent = 2 ^ d.exponent.toNat / 2 ^ (-d.exponent).toNat := by
    rw [← zpow_natCast, ← zpow_natCast, ← zpow_sub₀ two_ne_zero]
    congr 1
    omega
  rw [magnitude, hpow]
  push_cast
  exact (mul_div_assoc _ _ _).symm

/-- The magnitude is a natural number when the division comes out even. -/
theorem magnitude_eq_natCast_iff {n : Nat} :
    d.magnitude = n ↔
      d.isIntegral = true ∧ d.mantissa * 2 ^ d.exponent.toNat / 2 ^ (-d.exponent).toNat = n := by
  have hpow : (0 : ℚ) < (2 ^ (-d.exponent).toNat : Nat) := by exact_mod_cast Nat.two_pow_pos _
  have hdvd : d.isIntegral = true ↔
      2 ^ (-d.exponent).toNat ∣ d.mantissa * 2 ^ d.exponent.toNat := by
    rw [isIntegral, Nat.pow_eq, Nat.pow_eq, beq_iff_eq, Nat.dvd_iff_mod_eq_zero]
  rw [magnitude_eq_div, div_eq_iff hpow.ne', hdvd]
  constructor
  · intro hsame
    have hsame : d.mantissa * 2 ^ d.exponent.toNat = n * 2 ^ (-d.exponent).toNat := by
      exact_mod_cast hsame
    rw [hsame]
    exact ⟨dvd_mul_left _ _, Nat.mul_div_cancel _ (Nat.two_pow_pos _)⟩
  · rintro ⟨heven, rfl⟩
    exact_mod_cast (Nat.div_mul_cancel heven).symm

theorem abs_value (d : Dyadic) : |d.value| = d.magnitude := by
  rw [value]
  split
  · rw [abs_neg, abs_of_nonneg d.magnitude_nonneg]
  · exact abs_of_nonneg d.magnitude_nonneg

theorem value_eq_signed {n : Nat} (hn : d.magnitude = n) : d.value = signed d.negative n := by
  rw [value, signed, hn]
  split <;> simp

theorem value_eq_intCast_iff {n : Int} :
    d.value = n ↔ d.isIntegral = true ∧ d.truncate = n := by
  constructor
  · intro hvalue
    have hmagnitude : d.magnitude = (n.natAbs : Nat) := by
      rw [← d.abs_value, hvalue, Nat.cast_natAbs, Int.cast_abs]
    obtain ⟨hintegral, hquotient⟩ := magnitude_eq_natCast_iff.1 hmagnitude
    refine ⟨hintegral, ?_⟩
    rw [truncate, Nat.pow_eq, Nat.pow_eq, hquotient]
    exact_mod_cast (value_eq_signed hmagnitude).symm.trans hvalue
  · rintro ⟨hintegral, rfl⟩
    rw [truncate]
    exact value_eq_signed (magnitude_eq_natCast_iff.2 ⟨hintegral, rfl⟩)

end Dyadic

/-- The integer that a double is equal to is its value. -/
theorem exactInt?_eq_some_iff {n : Int} :
    exactInt? x = some n ↔ ∃ d, decode x = .finite d ∧ d.value = n := by
  rw [exactInt?]
  cases decode x with
  | nan => simp
  | infinite negative => simp
  | finite d => simp [Dyadic.value_eq_intCast_iff]

end DialogGraph.Number
