import DialogGraph.Proofs.Number.Fields

/-!
# Signs of products

The product of two doubles is computed in the logical model and packed into bits again. Whatever its
size, its sign is known beforehand: a product of finite doubles is finite or infinite with the sign
that the factors give it.
-/

namespace DialogGraph.Number

open Float.Model (Format UnpackedFloat)
open Float.Model.UnpackedFloat

/-! ### Packing -/

def isMinus : Sign → Bool
  | .negative => true
  | .positive => false

@[simp]
theorem isMinus_signOf (negative : Bool) : isMinus (signOf negative) = negative := by
  cases negative <;> rfl

@[simp]
theorem isMinus_mul (s t : Sign) : isMinus (s * t) = (isMinus s != isMinus t) := by
  cases s <;> cases t <;> rfl

theorem toNat_append_eq {m n : Nat} (high : BitVec m) (low : BitVec n) :
    (high ++ low).toNat = high.toNat * 2 ^ n + low.toNat := by
  rw [BitVec.toNat_append, ← Nat.shiftLeft_add_eq_or_of_lt low.isLt, Nat.shiftLeft_eq]

section Components

variable (s : Sign) (exponent : BitVec 11) (fraction : BitVec 52)

/-- The three fields as they stand in the bits. -/
theorem toNat_packComponents :
    (packComponents Format.binary64 s exponent fraction).toNat =
      (if isMinus s then 2 ^ 63 else 0) + exponent.toNat * 2 ^ 52 + fraction.toNat := by
  have hsign : s.toBitVec.toNat * 2 ^ 11 * 2 ^ 52 = if isMinus s then 2 ^ 63 else 0 := by
    cases s <;> rfl
  calc (packComponents Format.binary64 s exponent fraction).toNat
      = (s.toBitVec ++ exponent ++ fraction).toNat := rfl
    _ = (s.toBitVec.toNat * 2 ^ 11 + exponent.toNat) * 2 ^ 52 + fraction.toNat := by
      rw [toNat_append_eq, toNat_append_eq]
    _ = _ := by rw [add_mul, hsign]

/-- Fields with any exponent but the highest are those of a finite double. -/
theorem decodeBits_packComponents (hexponent : exponent.toNat ≠ 2047) :
    ∃ d, decodeBits (packComponents Format.binary64 s exponent fraction).toNat = .finite d ∧
      d.negative = isMinus s := by
  have hfraction := fraction.isLt
  have hbound := exponent.isLt
  have hfields := toNat_packComponents s exponent fraction
  have hbiased : (packComponents Format.binary64 s exponent fraction).toNat / 2 ^ 52 % 2048 =
      exponent.toNat := by
    rw [hfields]
    split <;> omega
  have hsign : ((packComponents Format.binary64 s exponent fraction).toNat / 2 ^ 63 == 1) =
      isMinus s := by
    rw [hfields]
    cases isMinus s <;> simp <;> omega
  rw [decodeBits, hbiased, hsign, if_neg hexponent]
  split
  · exact ⟨_, rfl, rfl⟩
  · exact ⟨_, rfl, rfl⟩

end Components

theorem decodeBits_pack_nan :
    decodeBits (UnpackedFloat.pack Format.binary64 .notANumber).toNat = .nan := rfl

theorem decodeBits_pack_infinity (s : Sign) :
    decodeBits (UnpackedFloat.pack Format.binary64 (.infinity s)).toNat = .infinite (isMinus s) := by
  cases s <;> rfl

theorem decodeBits_pack_zero (s : Sign) :
    decodeBits (UnpackedFloat.pack Format.binary64 (.zero s)).toNat =
      .finite ⟨isMinus s, 0, -1074⟩ := by
  cases s <;> rfl

/-- A number packed into bits is finite or infinite, and keeps its sign. -/
theorem decodeBits_pack_finite (s : Sign) {m : Nat} (e : Int) (hm : 0 < m) :
    decodeBits (UnpackedFloat.pack Format.binary64 (.finite s m e hm)).toNat =
        .infinite (isMinus s) ∨
      ∃ d, decodeBits (UnpackedFloat.pack Format.binary64 (.finite s m e hm)).toNat = .finite d ∧
        d.negative = isMinus s := by
  rw [UnpackedFloat.pack]
  dsimp only
  split_ifs with hhigh hfull
  · exact .inl (decodeBits_pack_infinity s)
  · right
    apply decodeBits_packComponents
    rw [BitVec.toNat_ofNat]
    omega
  · exact .inr (decodeBits_packComponents s _ _ (by decide))

/-! ### Products -/

section Products

variable {x y : Float} {d e : Dyadic}

/-- A product is computed in the logical model. -/
theorem decode_mul (x y : Float) :
    decode (x * y) = decodeBits (UnpackedFloat.pack Format.binary64
      (UnpackedFloat.mul Format.binary64 (decode x).unpacked (decode y).unpacked)).toNat := by
  rw [decode_eq, ← unpack_toModel, ← unpack_toModel]
  rfl

theorem decode_mul_of_nan (hx : decode x = .nan) : decode (x * y) = .nan := by
  rw [decode_mul, hx, Decoded.unpacked, UnpackedFloat.mul]
  exact decodeBits_pack_nan

theorem decode_mul_of_infinite {negative : Bool} (hx : decode x = .infinite negative)
    (hy : decode y = .finite e) (he : e.mantissa ≠ 0) :
    decode (x * y) = .infinite (negative != e.negative) := by
  rw [decode_mul, hx, hy, Decoded.unpacked, Decoded.unpacked, dif_neg he, UnpackedFloat.mul,
    decodeBits_pack_infinity, isMinus_mul, isMinus_signOf, isMinus_signOf]

theorem decode_mul_of_zero (hx : decode x = .finite d) (hy : decode y = .finite e)
    (hzero : d.mantissa = 0 ∨ e.mantissa = 0) :
    decode (x * y) = .finite ⟨d.negative != e.negative, 0, -1074⟩ := by
  have hproduct : UnpackedFloat.mul Format.binary64 (decode x).unpacked (decode y).unpacked =
      .zero (signOf d.negative * signOf e.negative) := by
    rw [hx, hy, Decoded.unpacked, Decoded.unpacked]
    split
    · split <;> rw [UnpackedFloat.mul]
    · rename_i hd
      rw [dif_pos (hzero.resolve_left hd), UnpackedFloat.mul]
  rw [decode_mul, hproduct, decodeBits_pack_zero, isMinus_mul, isMinus_signOf, isMinus_signOf]

/-- A product of finite doubles has the sign that the factors give it. -/
theorem decode_mul_of_finite (hx : decode x = .finite d) (hy : decode y = .finite e) :
    decode (x * y) = .infinite (d.negative != e.negative) ∨
      ∃ p, decode (x * y) = .finite p ∧ p.negative = (d.negative != e.negative) := by
  by_cases hzero : d.mantissa = 0 ∨ e.mantissa = 0
  · exact .inr ⟨_, decode_mul_of_zero hx hy hzero, rfl⟩
  obtain ⟨hd, he⟩ := not_or.1 hzero
  have hsign : isMinus (signOf d.negative * signOf e.negative) = (d.negative != e.negative) := by
    rw [isMinus_mul, isMinus_signOf, isMinus_signOf]
  rw [decode_mul, hx, hy, Decoded.unpacked, Decoded.unpacked, dif_neg hd, dif_neg he,
    UnpackedFloat.mul, ← hsign, roundWithAccuracy]
  dsimp only
  split
  · exact .inr ⟨_, decodeBits_pack_zero _, rfl⟩
  · exact decodeBits_pack_finite _ _ _

end Products

end DialogGraph.Number
