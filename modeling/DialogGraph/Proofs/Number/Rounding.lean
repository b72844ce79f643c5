import DialogGraph.Number.Shortest
import DialogGraph.Proofs.Number.Fields
import Mathlib.Tactic.FieldSimp
import Mathlib.Tactic.Ring

/-!
# Reading decimals as doubles

A decimal is read as the double nearest to it. Each double has an interval around it, reaching
halfway to either neighbour, and whatever lies there is read as that double; an end of the interval
belongs to it when the mantissa is even.
-/

namespace DialogGraph.Number

/-! ### Scaling -/

/-- An integral power as a quotient of natural powers. -/
theorem zpow_eq_div {b : Nat} (hb : b ≠ 0) (p : Int) :
    (b : ℚ) ^ p = (b ^ p.toNat : Nat) / (b ^ (-p).toNat : Nat) := by
  have hb : (b : ℚ) ≠ 0 := by exact_mod_cast hb
  push_cast
  rw [← zpow_natCast, ← zpow_natCast, ← zpow_sub₀ hb]
  congr 1
  omega

def Decimal.value (d : Decimal) : ℚ := d.digits * 10 ^ d.exponent

theorem Decimal.value_eq_div (d : Decimal) :
    d.value = (d.digits * 10 ^ d.exponent.toNat : Nat) / (10 ^ (-d.exponent).toNat : Nat) := by
  have hpow := zpow_eq_div (b := 10) (by decide) d.exponent
  rw [Nat.cast_ofNat] at hpow
  rw [value, hpow]
  push_cast
  exact (mul_div_assoc _ _ _).symm

/-- Scaling compares the values themselves. -/
theorem compareScaled_eq (digits : Nat) (exponent : Int) (mantissa : Nat) (power : Int) :
    compareScaled digits exponent mantissa power =
      compare (Decimal.value ⟨digits, exponent⟩) (mantissa * 2 ^ power) := by
  have hdigits := Decimal.value_eq_div ⟨digits, exponent⟩
  have hpow := zpow_eq_div (b := 2) (by decide) power
  rw [Nat.cast_ofNat] at hpow
  have hten : (0 : ℚ) < (10 ^ (-exponent).toNat : Nat) := by positivity
  have htwo : (0 : ℚ) < (2 ^ (-power).toNat : Nat) := by positivity
  rw [compareScaled, Nat.pow_eq, Nat.pow_eq, Nat.pow_eq, Nat.pow_eq, hdigits, hpow, ← mul_div_assoc]
  rcases lt_trichotomy (digits * 10 ^ exponent.toNat * 2 ^ (-power).toNat)
    (mantissa * 2 ^ power.toNat * 10 ^ (-exponent).toNat) with hlt | heq | hgt
  · rw [compare_lt_iff_lt.2 hlt, eq_comm, compare_lt_iff_lt, div_lt_div_iff₀ hten htwo]
    exact_mod_cast hlt
  · rw [compare_eq_iff_eq.2 heq, eq_comm, compare_eq_iff_eq, div_eq_div_iff hten.ne' htwo.ne']
    exact_mod_cast heq
  · rw [compare_gt_iff_gt.2 hgt, eq_comm, compare_gt_iff_gt, div_lt_div_iff₀ htwo hten]
    exact_mod_cast hgt

/-- The exponent of a ratio: the ratio lies between two neighbouring powers of two. -/
theorem ratioLog2_spec {num den : Nat} (hnum : num ≠ 0) (hden : den ≠ 0) :
    (2 : ℚ) ^ ratioLog2 num den ≤ num / den ∧ (num : ℚ) / den < 2 ^ (ratioLog2 num den + 1) := by
  have hpos : (0 : ℚ) < den := by exact_mod_cast Nat.pos_of_ne_zero hden
  have htwo : (2 : ℚ) ≠ 0 := two_ne_zero
  have hbelow : (2 : ℚ) ^ ((num.log2 : Int) - den.log2 - 1) ≤ num / den := by
    have hnumLow : (2 : ℚ) ^ (num.log2 : Int) ≤ num := by exact_mod_cast Nat.log2_self_le hnum
    have hdenHigh : (den : ℚ) ≤ 2 ^ (den.log2 + 1 : Int) := by
      exact_mod_cast (Nat.lt_log2_self (n := den)).le
    rw [le_div_iff₀ hpos]
    calc (2 : ℚ) ^ ((num.log2 : Int) - den.log2 - 1) * den
        ≤ 2 ^ ((num.log2 : Int) - den.log2 - 1) * 2 ^ (den.log2 + 1 : Int) :=
          mul_le_mul_of_nonneg_left hdenHigh (zpow_nonneg zero_le_two _)
      _ = 2 ^ (num.log2 : Int) := by
        rw [← zpow_add₀ htwo]
        congr 1
        omega
      _ ≤ num := hnumLow
  have habove : (num : ℚ) / den < 2 ^ ((num.log2 : Int) - den.log2 + 1) := by
    have hnumHigh : (num : ℚ) < 2 ^ (num.log2 + 1 : Int) := by
      exact_mod_cast Nat.lt_log2_self (n := num)
    have hdenLow : (2 : ℚ) ^ (den.log2 : Int) ≤ den := by exact_mod_cast Nat.log2_self_le hden
    rw [div_lt_iff₀ hpos]
    calc (num : ℚ) < 2 ^ (num.log2 + 1 : Int) := hnumHigh
      _ = 2 ^ ((num.log2 : Int) - den.log2 + 1) * 2 ^ (den.log2 : Int) := by
        rw [← zpow_add₀ htwo]
        congr 1
        omega
      _ ≤ 2 ^ ((num.log2 : Int) - den.log2 + 1) * den :=
        mul_le_mul_of_nonneg_left hdenLow (zpow_nonneg zero_le_two _)
  have hguess : den * 2 ^ ((num.log2 : Int) - den.log2).toNat ≤
      num * 2 ^ (-((num.log2 : Int) - den.log2)).toNat ↔
        (2 : ℚ) ^ ((num.log2 : Int) - den.log2) ≤ num / den := by
    have hpow := zpow_eq_div (b := 2) (by decide) ((num.log2 : Int) - den.log2)
    rw [Nat.cast_ofNat] at hpow
    rw [hpow, div_le_div_iff₀ (by positivity) hpos, mul_comm den]
    exact_mod_cast Iff.rfl
  rw [ratioLog2, Nat.pow_eq, Nat.pow_eq]
  split_ifs with hle
  · exact ⟨hguess.1 hle, habove⟩
  · rw [sub_add_cancel]
    exact ⟨hbelow, lt_of_not_ge (mt hguess.2 hle)⟩

/-! ### Rounding -/

/-- A quotient within half of an integer is rounded to it, at a distance of exactly half if it is
even. -/
theorem roundDiv_eq {num den m : Nat} (hden : 0 < den) (hlow : 2 * (m * den) ≤ 2 * num + den)
    (hhigh : 2 * num ≤ 2 * (m * den) + den)
    (heven : 2 * (m * den) = 2 * num + den ∨ 2 * num = 2 * (m * den) + den → m % 2 = 0) :
    roundDiv num den = m := by
  have hnum := Nat.div_add_mod num den
  have hmod := Nat.mod_lt num hden
  rw [roundDiv]
  generalize num / den = q at *
  generalize num % den = r at *
  have hle : m ≤ q + 1 := by
    by_contra hlt
    have := Nat.mul_le_mul_right den (show q + 2 ≤ m by omega)
    rw [mul_comm den q] at hnum
    rw [add_mul] at this
    omega
  have hge : q ≤ m := by
    by_contra hlt
    have := Nat.mul_le_mul_right den (show m + 1 ≤ q by omega)
    rw [mul_comm den q] at hnum
    rw [add_mul] at this
    omega
  rw [mul_comm den q] at hnum
  obtain rfl | rfl : m = q ∨ m = q + 1 := by omega
  · split_ifs <;> omega
  · rw [add_mul] at *
    split_ifs <;> omega

namespace Dyadic

/-- How far below a double its interval begins, in quarters of the last place: below a power of two
the neighbour is half as far away. -/
def margin (d : Dyadic) : Nat := if d.mantissa = 2 ^ 52 ∧ d.exponent ≠ -1074 then 1 else 2

/-- The interval of a double without its sign, in quarters of its last place. -/
structure Covers (d : Dyadic) (q : ℚ) : Prop where
  low_le : 4 * d.magnitude ≤ 4 * q + d.margin * 2 ^ d.exponent
  le_high : 4 * q ≤ 4 * d.magnitude + 2 * 2 ^ d.exponent
  even_of_eq : 4 * d.magnitude = 4 * q + d.margin * 2 ^ d.exponent ∨
    4 * q = 4 * d.magnitude + 2 * 2 ^ d.exponent → d.mantissa % 2 = 0

/-- The sides of a number on which a comparison may come out. -/
theorem compare_beq_iff {a b : ℚ} {closed : Bool} {side : Ordering} :
    (compare a b == side || (closed && compare a b == .eq)) = true ↔
      compare a b = side ∨ closed = true ∧ a = b := by
  simp

/-- Reading back is lying in the interval. -/
theorem readsBack_iff (d : Dyadic) (hpos : 0 < d.mantissa) (decimal : Decimal) :
    readsBack d.mantissa d.exponent decimal = true ↔ d.Covers decimal.value := by
  have hpow : (2 : ℚ) ^ (d.exponent - 2) = 2 ^ d.exponent / 4 := by
    rw [zpow_sub₀ two_ne_zero]
    norm_num
  have hlow : (if d.mantissa == Nat.pow 2 52 && d.exponent != -1074 then 4 * d.mantissa - 1
      else 4 * d.mantissa - 2) = 4 * d.mantissa - d.margin := by
    rw [margin, Nat.pow_eq]
    simp only [Bool.and_eq_true, beq_iff_eq, bne_iff_ne]
    split_ifs <;> rfl
  have hmargin : d.margin ≤ 4 * d.mantissa := by
    rw [margin]
    split_ifs <;> omega
  have hends : ((4 * d.mantissa - d.margin : Nat) : ℚ) * 2 ^ (d.exponent - 2) =
      d.magnitude - d.margin * 2 ^ d.exponent / 4 ∧
      ((4 * d.mantissa + 2 : Nat) : ℚ) * 2 ^ (d.exponent - 2) =
        d.magnitude + 2 * 2 ^ d.exponent / 4 := by
    rw [Nat.cast_sub hmargin, hpow, magnitude]
    push_cast
    constructor <;> ring
  have hvalue : Decimal.value ⟨decimal.digits, decimal.exponent⟩ = decimal.value := rfl
  rw [readsBack, hlow, compareScaled_eq, compareScaled_eq, hends.1, hends.2, hvalue]
  rw [Bool.and_eq_true, compare_beq_iff, compare_beq_iff, compare_gt_iff_gt, compare_lt_iff_lt,
    beq_iff_eq]
  constructor
  · rintro ⟨hlow, hhigh⟩
    refine ⟨?_, ?_, ?_⟩
    · rcases hlow with hlow | ⟨-, hlow⟩ <;> linarith
    · rcases hhigh with hhigh | ⟨-, hhigh⟩ <;> linarith
    · rintro (hend | hend)
      · rcases hlow with hlow | ⟨heven, -⟩
        · linarith
        · exact heven
      · rcases hhigh with hhigh | ⟨heven, -⟩
        · linarith
        · exact heven
  · rintro ⟨hlow, hhigh, heven⟩
    constructor
    · rcases lt_or_eq_of_le hlow with hlow | hlow
      · left
        linarith
      · exact .inr ⟨heven (.inl hlow), by linarith⟩
    · rcases lt_or_eq_of_le hhigh with hhigh | hhigh
      · left
        linarith
      · exact .inr ⟨heven (.inr hhigh), by linarith⟩

end Dyadic

variable {d : Dyadic}

/-- A double is put together from its canonical form. -/
theorem ofMantissa_eq (hd : d.Canonical) (negative : Bool) :
    ofMantissa negative d.mantissa d.exponent = ofFields negative d.rest := by
  have hlt := hd.mantissa_lt
  have hle := hd.exponent_le
  have hbiased : ¬2047 ≤ (d.exponent + 1075).toNat := by omega
  simp only [ofMantissa, Dyadic.rest, Nat.pow_eq, if_neg hlt.ne, if_neg hbiased]
  split_ifs <;> rfl

/-- What a mantissa is carried over to when it is rounded up to a power of two. -/
theorem ofMantissa_carry (negative : Bool) (exponent : Int) :
    ofMantissa negative (2 ^ 53) exponent = ofMantissa negative (2 ^ 52) (exponent + 1) := by
  simp [ofMantissa]

/-- A ratio within half a unit of an exponent is rounded to that many units. -/
theorem roundDiv_scaled_eq {num den m : Nat} (hden : 0 < den) (exponent : Int)
    (hlow : 2 * ((m : ℚ) * 2 ^ exponent) ≤ 2 * (num / den) + 2 ^ exponent)
    (hhigh : 2 * ((num : ℚ) / den) ≤ 2 * (m * 2 ^ exponent) + 2 ^ exponent)
    (heven : 2 * ((m : ℚ) * 2 ^ exponent) = 2 * (num / den) + 2 ^ exponent ∨
      2 * ((num : ℚ) / den) = 2 * (m * 2 ^ exponent) + 2 ^ exponent → m % 2 = 0) :
    roundDiv (num * 2 ^ (-exponent).toNat) (den * 2 ^ exponent.toNat) = m := by
  have hpow := zpow_eq_div (b := 2) (by decide) exponent
  rw [Nat.cast_ofNat] at hpow
  have hb : 0 < 2 ^ (-exponent).toNat := Nat.two_pow_pos _
  have ha : 0 < 2 ^ exponent.toNat := Nat.two_pow_pos _
  generalize 2 ^ (-exponent).toNat = b at *
  generalize 2 ^ exponent.toNat = a at *
  have hb : (0 : ℚ) < b := by exact_mod_cast hb
  have hdenPos : (0 : ℚ) < den := by exact_mod_cast hden
  have hfactor : (0 : ℚ) < b * den := mul_pos hb hdenPos
  -- Both sides are multiplied by `b * den`, which turns them into natural numbers.
  have hunit : (2 : ℚ) ^ exponent * (b * den) = den * a := by
    rw [hpow]
    field_simp
  have hratio : (num : ℚ) / den * (b * den) = num * b := by field_simp
  have hleft : 2 * ((m : ℚ) * 2 ^ exponent) * (b * den) = (2 * (m * (den * a)) : Nat) := by
    push_cast
    rw [← hunit]
    ring
  have hright : (2 * ((num : ℚ) / den)) * (b * den) = (2 * (num * b) : Nat) := by
    push_cast
    rw [← hratio]
    ring
  have hstep : (2 : ℚ) ^ exponent * (b * den) = (den * a : Nat) := by
    push_cast
    exact hunit
  apply roundDiv_eq (Nat.mul_pos hden ha)
  · have hscaled := mul_le_mul_of_nonneg_right hlow hfactor.le
    rw [add_mul, hleft, hright, hstep] at hscaled
    exact_mod_cast hscaled
  · have hscaled := mul_le_mul_of_nonneg_right hhigh hfactor.le
    rw [add_mul, hleft, hright, hstep] at hscaled
    exact_mod_cast hscaled
  · intro hend
    refine heven (hend.imp ?_ ?_)
    · intro hend
      apply mul_right_cancel₀ hfactor.ne'
      rw [add_mul, hleft, hright, hstep]
      exact_mod_cast hend
    · intro hend
      apply mul_right_cancel₀ hfactor.ne'
      rw [add_mul, hleft, hright, hstep]
      exact_mod_cast hend

namespace Dyadic

theorem margin_le (d : Dyadic) : (d.margin : ℚ) ≤ 2 := by
  rw [margin]
  split_ifs <;> norm_num

namespace Covers

variable {q : ℚ}

/-- What a double covers is less than half a last place away from it or at the ends of that. -/
theorem half_le (hcovers : d.Covers q) :
    2 * (d.mantissa * 2 ^ d.exponent) ≤ 2 * q + 2 ^ d.exponent ∧
      2 * q ≤ 2 * (d.mantissa * 2 ^ d.exponent) + 2 ^ d.exponent := by
  have hp : (0 : ℚ) < 2 ^ d.exponent := zpow_pos zero_lt_two _
  have hlow := hcovers.low_le
  have hhigh := hcovers.le_high
  have hmargin := mul_le_mul_of_nonneg_right d.margin_le hp.le
  rw [magnitude] at hlow hhigh
  constructor <;> linarith

theorem even_of_half (hcovers : d.Covers q)
    (hend : 2 * (d.mantissa * 2 ^ d.exponent) = 2 * q + 2 ^ d.exponent ∨
      2 * q = 2 * (d.mantissa * 2 ^ d.exponent) + 2 ^ d.exponent) : d.mantissa % 2 = 0 := by
  have hp : (0 : ℚ) < 2 ^ d.exponent := zpow_pos zero_lt_two _
  have hlow := hcovers.low_le
  have hmargin := mul_le_mul_of_nonneg_right d.margin_le hp.le
  apply hcovers.even_of_eq
  rw [magnitude] at hlow ⊢
  refine hend.imp ?_ ?_ <;> intro hend <;> linarith

theorem pos (hcovers : d.Covers q) (hpos : 0 < d.mantissa) : 0 < q := by
  have hp : (0 : ℚ) < 2 ^ d.exponent := zpow_pos zero_lt_two _
  have hmantissa : (1 : ℚ) ≤ d.mantissa := by exact_mod_cast hpos
  have hscaled := mul_le_mul_of_nonneg_right hmantissa hp.le
  have := hcovers.half_le.1
  linarith

/-- What a double covers has no more binary places than its mantissa. -/
theorem lt_two_zpow (hd : d.Canonical) (hcovers : d.Covers q) : q < 2 ^ (d.exponent + 53) := by
  have hp : (0 : ℚ) < 2 ^ d.exponent := zpow_pos zero_lt_two _
  have hmantissa : (d.mantissa : ℚ) + 1 ≤ 2 ^ 53 := by exact_mod_cast hd.mantissa_lt
  have hscaled := mul_le_mul_of_nonneg_right hmantissa hp.le
  have hhalf := hcovers.half_le.2
  rw [zpow_add₀ two_ne_zero, mul_comm ((2 : ℚ) ^ d.exponent)]
  rw [add_mul] at hscaled
  change q < 2 ^ 53 * 2 ^ d.exponent
  linarith

/-- A double that covers something below its own power of two is that power, with the nearer
neighbour below it. -/
theorem mantissa_eq (hd : d.Canonical) (hcovers : d.Covers q) (hleast : d.exponent ≠ -1074)
    (hbelow : q < 2 ^ 52 * 2 ^ d.exponent) :
    d.mantissa = 2 ^ 52 ∧ 4 * (2 ^ 52 * 2 ^ d.exponent) ≤ 4 * q + 2 ^ d.exponent := by
  have hp : (0 : ℚ) < 2 ^ d.exponent := zpow_pos zero_lt_two _
  have hmantissa : d.mantissa = 2 ^ 52 := by
    have hge : ¬d.mantissa < 2 ^ 52 := fun hsmall => hleast (hd.exponent_eq hsmall)
    have hle : ¬2 ^ 52 + 1 ≤ d.mantissa := by
      intro hlarge
      have hcast : (2 ^ 52 + 1 : ℚ) ≤ d.mantissa := by exact_mod_cast hlarge
      have := mul_le_mul_of_nonneg_right hcast hp.le
      have := hcovers.half_le.1
      linarith
    omega
  have hlow := hcovers.low_le
  rw [magnitude, margin, if_pos ⟨hmantissa, hleast⟩, hmantissa] at hlow
  refine ⟨hmantissa, ?_⟩
  norm_num at hlow ⊢
  exact hlow

end Covers

end Dyadic

section Ratio

variable {num den : Nat}

theorem ratioLog2_lt (hnum : num ≠ 0) (hden : den ≠ 0) {k : Int} (hlt : (num / den : ℚ) < 2 ^ k) :
    ratioLog2 num den < k :=
  (zpow_lt_zpow_iff_right₀ one_lt_two).1 ((ratioLog2_spec hnum hden).1.trans_lt hlt)

theorem le_ratioLog2 (hnum : num ≠ 0) (hden : den ≠ 0) {k : Int} (hle : (2 : ℚ) ^ k ≤ num / den) :
    k ≤ ratioLog2 num den :=
  Int.lt_add_one_iff.1
    ((zpow_lt_zpow_iff_right₀ (one_lt_two (α := ℚ))).1
      (hle.trans_lt (ratioLog2_spec hnum hden).2))

theorem ofRatio_eq_ofMantissa (hnum : num ≠ 0) {exponent : Int}
    (hexponent : max (ratioLog2 num den - 52) (-1074) = exponent) (negative : Bool) :
    ofRatio negative num den = ofMantissa negative
      (roundDiv (num * 2 ^ (-exponent).toNat) (den * 2 ^ exponent.toNat)) exponent := by
  simp only [ofRatio, if_neg hnum, Nat.pow_eq, hexponent]

/-- Whatever lies in the interval of a double is rounded to it. -/
theorem ofRatio_eq (hd : d.Canonical) (hpos : 0 < d.mantissa) (hden : 0 < den)
    (hcovers : d.Covers (num / den)) (negative : Bool) :
    ofRatio negative num den = ofFields negative d.rest := by
  have hp : (0 : ℚ) < 2 ^ d.exponent := zpow_pos zero_lt_two _
  have hnum : num ≠ 0 := by
    have hratio := hcovers.pos hpos
    rintro rfl
    simp at hratio
  have htop := ratioLog2_lt hnum hden.ne' (hcovers.lt_two_zpow hd)
  have hleast := hd.neg_le_exponent
  by_cases hfull : d.exponent = -1074 ∨ (2 : ℚ) ^ (d.exponent + 52) ≤ num / den
  · -- The exponent is found again, and the mantissa is the nearest integer.
    have hexponent : max (ratioLog2 num den - 52) (-1074) = d.exponent := by
      rcases hfull with hleast | hfull
      · omega
      · have hbottom := le_ratioLog2 hnum hden.ne' hfull
        omega
    rw [ofRatio_eq_ofMantissa hnum hexponent, roundDiv_scaled_eq hden d.exponent
      hcovers.half_le.1 hcovers.half_le.2 hcovers.even_of_half]
    exact ofMantissa_eq hd negative
  · -- The ratio is just below a power of two, and is rounded up to it.
    obtain ⟨hother, hbelow⟩ := not_or.1 hfull
    rw [not_le] at hbelow
    have hplaces : ∀ n : Nat, (2 : ℚ) ^ (d.exponent + n) = 2 ^ n * 2 ^ d.exponent := by
      intro n
      rw [zpow_add₀ two_ne_zero, zpow_natCast, mul_comm]
    obtain ⟨hmantissa, hlow⟩ := hcovers.mantissa_eq hd hother (hplaces 52 ▸ hbelow)
    have hbelow' : (num : ℚ) / den < 2 ^ 52 * 2 ^ d.exponent := hplaces 52 ▸ hbelow
    have hexponent : max (ratioLog2 num den - 52) (-1074) = d.exponent - 1 := by
      have hupper := ratioLog2_lt hnum hden.ne' hbelow
      have hlower : d.exponent + (51 : Nat) ≤ ratioLog2 num den := by
        apply le_ratioLog2 hnum hden.ne'
        rw [hplaces]
        linarith
      omega
    have hhalf : (2 : ℚ) ^ (d.exponent - 1) = 2 ^ d.exponent / 2 := by
      rw [zpow_sub₀ two_ne_zero, zpow_one]
    have hcarried : roundDiv (num * 2 ^ (-(d.exponent - 1)).toNat)
        (den * 2 ^ (d.exponent - 1).toNat) = 2 ^ 53 := by
      apply roundDiv_scaled_eq hden
      · rw [hhalf]
        push_cast
        linarith
      · rw [hhalf]
        push_cast
        linarith
      · exact fun _ => rfl
    rw [ofRatio_eq_ofMantissa hnum hexponent, hcarried, ofMantissa_carry, sub_add_cancel,
      ← hmantissa]
    exact ofMantissa_eq hd negative

end Ratio

/-! ### Decimals -/

/-- Powers of ten below powers of two: ten to the 28th lies between the 93rd and the 94th power of
two. -/
theorem ten_zpow_le {t u : Int} (habove : 94 * t ≤ 28 * u) (hbelow : 93 * t ≤ 28 * u) :
    (10 : ℚ) ^ t ≤ 2 ^ u := by
  have hpowers : ((10 : ℚ) ^ t) ^ 28 = ((10 : ℚ) ^ 28) ^ t ∧ ((2 : ℚ) ^ u) ^ 28 = 2 ^ (28 * u) := by
    constructor
    · rw [← zpow_natCast, ← zpow_natCast, ← zpow_mul, ← zpow_mul, mul_comm]
    · rw [← zpow_natCast, ← zpow_mul, mul_comm]
      rfl
  rw [← pow_le_pow_iff_left₀ (zpow_nonneg (by norm_num) _) (zpow_nonneg zero_le_two _)
    (show 28 ≠ 0 by decide), hpowers.1, hpowers.2]
  rcases le_total 0 t with hup | hdown
  · calc ((10 : ℚ) ^ 28) ^ t ≤ (2 ^ 94) ^ t := zpow_le_zpow_left₀ hup (by norm_num) (by norm_num)
      _ = 2 ^ (94 * t) := by rw [zpow_mul]; rfl
      _ ≤ 2 ^ (28 * u) := zpow_le_zpow_right₀ one_le_two habove
  · have hinv : ((2 : ℚ) ^ 93) ^ (-t) ≤ (10 ^ 28) ^ (-t) :=
      zpow_le_zpow_left₀ (by omega) (by norm_num) (by norm_num)
    calc ((10 : ℚ) ^ 28) ^ t = ((10 ^ 28) ^ (-t))⁻¹ := by rw [zpow_neg, inv_inv]
      _ ≤ ((2 ^ 93) ^ (-t))⁻¹ := inv_anti₀ (zpow_pos (by norm_num) _) hinv
      _ = 2 ^ (93 * t) := by
        rw [zpow_neg, inv_inv, zpow_mul]
        rfl
      _ ≤ 2 ^ (28 * u) := zpow_le_zpow_right₀ one_le_two hbelow

theorem two_zpow_le {t u : Int} (habove : 28 * u ≤ 94 * t) (hbelow : 28 * u ≤ 93 * t) :
    (2 : ℚ) ^ u ≤ 10 ^ t := by
  have hinv : (10 : ℚ) ^ (-t) ≤ 2 ^ (-u) := ten_zpow_le (by omega) (by omega)
  rw [zpow_neg, zpow_neg] at hinv
  exact (inv_le_inv₀ (zpow_pos (by norm_num) _) (zpow_pos zero_lt_two _)).1 hinv

/-- What a double covers is between the least and the greatest of them. -/
theorem Dyadic.Covers.bounds (hd : d.Canonical) (hpos : 0 < d.mantissa) {q : ℚ}
    (hcovers : d.Covers q) : (2 : ℚ) ^ (-1075 : Int) ≤ q ∧ q < 2 ^ (1024 : Int) := by
  constructor
  · have hp : (0 : ℚ) < 2 ^ d.exponent := zpow_pos zero_lt_two _
    have hmantissa : (1 : ℚ) ≤ d.mantissa := by exact_mod_cast hpos
    have hscaled := mul_le_mul_of_nonneg_right hmantissa hp.le
    have hhalf := hcovers.half_le.1
    have hleast := hd.neg_le_exponent
    calc (2 : ℚ) ^ (-1075 : Int) ≤ 2 ^ (d.exponent - 1) :=
          zpow_le_zpow_right₀ one_le_two (by omega)
      _ = 2 ^ d.exponent / 2 := by rw [zpow_sub₀ two_ne_zero, zpow_one]
      _ ≤ q := by linarith
  · refine (hcovers.lt_two_zpow hd).trans_le (zpow_le_zpow_right₀ one_le_two ?_)
    have := hd.exponent_le
    omega

/-- The estimate of the magnitude of a decimal tells it from what is beyond every double, whatever
its exponent is. -/
theorem leading_bounds {digits : Nat} {k : Int} (hdigits : digits ≠ 0) (hk : -1074 ≤ k)
    (hlow : (2 : ℚ) ^ (-1075 : Int) ≤ digits * 10 ^ k)
    (hhigh : (digits : ℚ) * 10 ^ k < 2 ^ (1024 : Int)) :
    ¬(digits.log2 : Int) * 30103 / 100000 + k < -400 ∧
      ¬400 < (digits.log2 : Int) * 30103 / 100000 + k := by
  have hten : (0 : ℚ) < 10 ^ k := zpow_pos (by norm_num) _
  have hlogLe : (2 : ℚ) ^ (digits.log2 : Int) ≤ digits := by
    exact_mod_cast Nat.log2_self_le hdigits
  have hlogLt : (digits : ℚ) < 2 ^ (digits.log2 + 1 : Int) := by
    exact_mod_cast Nat.lt_log2_self (n := digits)
  generalize digits.log2 = l at *
  -- As the exponent is not too low, the digits are not too many for the estimate.
  have habove : ∀ u : Int, (2 : ℚ) ^ u ≤ 10 ^ k → (l : Int) + u < 1024 := by
    intro u hu
    rw [← zpow_lt_zpow_iff_right₀ (one_lt_two (α := ℚ))]
    calc (2 : ℚ) ^ ((l : Int) + u) = 2 ^ (l : Int) * 2 ^ u := zpow_add₀ two_ne_zero _ _
      _ ≤ digits * 10 ^ k :=
        mul_le_mul hlogLe hu (zpow_nonneg zero_le_two _) (Nat.cast_nonneg _)
      _ < 2 ^ (1024 : Int) := hhigh
  have hbelow : ∀ u : Int, (10 : ℚ) ^ k ≤ 2 ^ u → -1075 < (l : Int) + 1 + u := by
    intro u hu
    rw [← zpow_lt_zpow_iff_right₀ (one_lt_two (α := ℚ))]
    calc (2 : ℚ) ^ (-1075 : Int) ≤ digits * 10 ^ k := hlow
      _ < 2 ^ (l + 1 : Int) * 10 ^ k := mul_lt_mul_of_pos_right hlogLt hten
      _ ≤ 2 ^ (l + 1 : Int) * 2 ^ u :=
        mul_le_mul_of_nonneg_left hu (zpow_nonneg zero_le_two _)
      _ = 2 ^ ((l : Int) + 1 + u) := (zpow_add₀ two_ne_zero _ _).symm
  have hbounded : (l : Int) + -4296 < 1024 := habove _ (two_zpow_le (by omega) (by omega))
  constructor
  · intro hless
    have := hbelow (-1076 - l) (ten_zpow_le (by omega) (by omega))
    omega
  · intro hgreater
    have := habove (1024 - l) (two_zpow_le (by omega) (by omega))
    omega

/-- A decimal is read as the double that covers it. -/
theorem ofDecimal_eq (hd : d.Canonical) (hpos : 0 < d.mantissa) {decimal : Decimal}
    (hexponent : -1074 ≤ decimal.exponent) (hcovers : d.Covers decimal.value) (negative : Bool) :
    ofDecimal negative decimal.digits decimal.exponent = ofFields negative d.rest := by
  have hvalue : (0 : ℚ) < decimal.digits * 10 ^ decimal.exponent := hcovers.pos hpos
  have hdigits : decimal.digits ≠ 0 := by
    intro hzero
    simp [hzero] at hvalue
  obtain ⟨hlow, hhigh⟩ := hcovers.bounds hd hpos
  obtain ⟨hnotLow, hnotHigh⟩ := leading_bounds hdigits hexponent hlow hhigh
  simp only [ofDecimal, hdigits, hnotLow, hnotHigh, Nat.pow_eq, decide_false, Bool.or_false,
    Bool.false_eq_true, if_false]
  apply ofRatio_eq hd hpos (by positivity)
  rw [← Decimal.value_eq_div]
  exact hcovers

/-- Zero is read as zero. -/
theorem ofDecimal_zero (negative : Bool) (exponent : Int) :
    ofDecimal negative 0 exponent = ofFields negative 0 := by
  simp [ofDecimal]

end DialogGraph.Number
