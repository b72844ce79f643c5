import DialogGraph.Proofs.Number.Fields

/-!
# Integers near a number

A finite double is brought to an integer in two ways: its fraction is cut off, or the nearest
integer is taken, and of two that are equally near the even one.
-/

namespace DialogGraph.Number

def withoutFraction (q : ℚ) : Int := if 0 ≤ q then ⌊q⌋ else ⌈q⌉

/-- An integer that no other is nearer to a number than, and an even one where another is as near. -/
structure IsNearest (q : ℚ) (n : Int) : Prop where
  near : |q - n| ≤ 1 / 2
  even : |q - n| = 1 / 2 → Even n

section Nearest

variable {fraction : ℚ}

theorem isNearest_below (n : Int) (hpos : 0 ≤ fraction) (hless : fraction < 1 / 2) :
    IsNearest (n + fraction) n := by
  have hnear : |(n : ℚ) + fraction - n| = fraction := by
    rw [add_sub_cancel_left, abs_of_nonneg hpos]
  exact ⟨by linarith, fun h => by linarith⟩

/-- Of the two integers that a half lies between, the even one is taken. -/
theorem isNearest_half (q : Nat) : IsNearest ((q : Int) + 1 / 2) (q + q % 2 : Nat) := by
  have heven : Even ((q + q % 2 : Nat) : Int) := by
    rw [Int.even_coe_nat, Nat.even_iff]
    omega
  have hnear : |((q : Int) : ℚ) + 1 / 2 - ((q + q % 2 : Nat) : Int)| = 1 / 2 := by
    rw [Int.cast_natCast, Int.cast_natCast, Nat.cast_add, add_sub_add_left_eq_sub]
    rcases Nat.mod_two_eq_zero_or_one q with hparity | hparity
    · rw [hparity]
      norm_num
    · rw [hparity]
      norm_num
  exact ⟨hnear.le, fun _ => heven⟩

theorem isNearest_above (n : Int) (hmore : 1 / 2 < fraction) (hless : fraction < 1) :
    IsNearest (n + fraction) (n + 1) := by
  have hnear : |(n : ℚ) + fraction - (n + 1 : Int)| = 1 - fraction := by
    rw [Int.cast_add, Int.cast_one, add_sub_add_left_eq_sub, abs_sub_comm]
    exact abs_of_pos (sub_pos.2 hless)
  exact ⟨by linarith, fun h => by linarith⟩

/-- The nearest integer of a quotient. -/
theorem isNearest_roundDiv (num : Nat) {den : Nat} (hden : 0 < den) :
    IsNearest ((num : ℚ) / den) (roundDiv num den) := by
  have hpos : (0 : ℚ) < den := by exact_mod_cast hden
  have hsum := Nat.div_add_mod num den
  have hmod := Nat.mod_lt num hden
  rw [roundDiv]
  generalize num / den = q at *
  generalize num % den = r at *
  have hquotient : (num : ℚ) / den = (q : Int) + (r : ℚ) / den := by
    rw [div_eq_iff hpos.ne', add_mul, div_mul_cancel₀ _ hpos.ne', mul_comm]
    exact_mod_cast hsum.symm
  have htwice : (r : ℚ) / den * 2 * den = (2 * r : Nat) := by
    rw [mul_right_comm, div_mul_cancel₀ _ hpos.ne', mul_comm]
    norm_cast
  have hless : (r : ℚ) / den < 1 / 2 ↔ 2 * r < den := by
    rw [← Nat.cast_lt (α := ℚ), ← htwice, mul_lt_iff_lt_one_left hpos, lt_div_iff₀ two_pos]
  have hmore : 1 / 2 < (r : ℚ) / den ↔ den < 2 * r := by
    rw [← Nat.cast_lt (α := ℚ), ← htwice, lt_mul_iff_one_lt_left hpos, div_lt_iff₀ two_pos]
  rw [hquotient]
  rcases lt_trichotomy (2 * r) den with hbelow | hhalf | habove
  · rw [if_pos hbelow]
    exact isNearest_below q (by positivity) (hless.2 hbelow)
  · have hfraction : (r : ℚ) / den = 1 / 2 :=
      le_antisymm (not_lt.1 (mt hmore.1 hhalf.not_gt)) (not_lt.1 (mt hless.1 hhalf.not_lt))
    rw [if_neg hhalf.not_lt, if_pos hhalf, hfraction]
    exact isNearest_half q
  · have hfraction : (r : ℚ) / den < 1 := (div_lt_one hpos).2 (by exact_mod_cast hmod)
    rw [if_neg habove.not_gt, if_neg habove.ne']
    exact isNearest_above q (hmore.2 habove) hfraction

end Nearest

namespace Dyadic

variable (d : Dyadic)

theorem floor_magnitude :
    ⌊d.magnitude⌋ = (d.mantissa * 2 ^ d.exponent.toNat / 2 ^ (-d.exponent).toNat : Nat) := by
  rw [magnitude_eq_div, Rat.floor_natCast_div_natCast]
  exact (Int.natCast_div _ _).symm

/-- The integer part of a double is less than the bound on doubles. -/
theorem Canonical.truncate_lt (hd : d.Canonical) : d.truncate < 2 ^ 1024 := by
  have hscale : 2 ^ d.exponent.toNat ≤ 2 ^ 971 :=
    pow_le_pow_right₀ one_le_two (Int.toNat_le.2 hd.exponent_le)
  have hmagnitude : d.mantissa * 2 ^ d.exponent.toNat / 2 ^ (-d.exponent).toNat < 2 ^ 1024 :=
    calc d.mantissa * 2 ^ d.exponent.toNat / 2 ^ (-d.exponent).toNat
      _ ≤ d.mantissa * 2 ^ d.exponent.toNat := Nat.div_le_self _ _
      _ ≤ d.mantissa * 2 ^ 971 := Nat.mul_le_mul_left _ hscale
      _ < 2 ^ 53 * 2 ^ 971 := Nat.mul_lt_mul_of_pos_right hd.mantissa_lt (by positivity)
      _ = 2 ^ 1024 := by rw [← pow_add]
  rw [truncate, Nat.pow_eq, Nat.pow_eq]
  generalize d.mantissa * 2 ^ d.exponent.toNat / 2 ^ (-d.exponent).toNat = n at *
  calc signed d.negative n
    _ ≤ (n : Int) := by rw [signed]; split <;> omega
    _ < 2 ^ 1024 := by exact_mod_cast hmagnitude

/-- An integer part is what is left without the fraction. -/
theorem truncate_eq : d.truncate = withoutFraction d.value := by
  have hfloor := d.floor_magnitude
  have hmagnitude := d.magnitude_nonneg
  rw [truncate, Nat.pow_eq, Nat.pow_eq, signed, value, ← hfloor]
  cases d.negative with
  | false =>
    simp only [Bool.false_eq_true, if_false]
    rw [withoutFraction, if_pos hmagnitude]
  | true =>
    simp only [if_true]
    rw [withoutFraction, Int.ceil_neg]
    split
    next hzero =>
      have hnone : d.magnitude = 0 := by linarith
      simp [hnone]
    next => rfl

/-- A value without a minus is rounded to the nearest integer. -/
theorem isNearest_round (hpositive : d.negative = false) : IsNearest d.value d.round := by
  have hnearest := isNearest_roundDiv (d.mantissa * 2 ^ d.exponent.toNat)
    (Nat.two_pow_pos (-d.exponent).toNat)
  rw [← magnitude_eq_div] at hnearest
  rw [value, round, signed, hpositive, Nat.pow_eq, Nat.pow_eq]
  simpa using hnearest

end Dyadic

end DialogGraph.Number
