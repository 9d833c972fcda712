/-
**Counting with floats is exact below `2 ^ 53`.**

A gauge is a float that goes up and down by one.  As long as the number that it stands for has at
most 53 binary digits, every float on the way is that very number: nothing is ever rounded.

Main definitions:

* `Conveyor.Exact.IsFull` — a mantissa of 53 binary digits;
* `Conveyor.Exact.whole` — a whole number as it is stored.

Main results:

* `Conveyor.Exact.roundWithAccuracy_full` — a number with a full mantissa is not rounded;
* `Conveyor.Exact.toModel_ofNat` — how a whole number is stored;
* `Conveyor.Exact.ofNat_add_one`, `Conveyor.Exact.ofNat_sub_one` — **one more and one less**.
-/

import Mathlib

set_option autoImplicit false

namespace Conveyor.Exact

open Float.Model Float.Model.UnpackedFloat

/-! ### Full mantissas -/

/-- A mantissa of 53 binary digits. -/
def IsFull (c : Nat) : Prop := 2 ^ 52 ≤ c ∧ c < 2 ^ 53

theorem IsFull.pos {c : Nat} (h : IsFull c) : 0 < c := Nat.lt_of_lt_of_le (by decide) h.1

theorem IsFull.log2 {c : Nat} (h : IsFull c) : c.log2 = 52 :=
  (Nat.log2_eq_iff (Nat.pos_iff_ne_zero.1 h.pos)).2 h

theorem IsFull.log2_mul {c : Nat} (h : IsFull c) (j : Nat) : (c * 2 ^ j).log2 = 52 + j := by
  have hpos : c * 2 ^ j ≠ 0 := Nat.pos_iff_ne_zero.1 (Nat.mul_pos h.pos (Nat.two_pow_pos j))
  refine (Nat.log2_eq_iff hpos).2 ⟨?_, ?_⟩
  · rw [Nat.pow_add]
    exact Nat.mul_le_mul_right _ h.1
  · rw [show 52 + j + 1 = 53 + j by omega, Nat.pow_add]
    exact Nat.mul_lt_mul_of_pos_right h.2 (Nat.two_pow_pos j)

/-- The exponent that a number with a full mantissa is brought to is its own. -/
theorem targetExponent_full {c : Nat} (h : IsFull c) (j : Nat) {e : Int} (he : -1074 ≤ e + j) :
    Format.binary64.targetExponent (totalExponent (c * 2 ^ j) e) = e + j := by
  simp only [Format.targetExponent, totalExponent, h.log2_mul, Format.mantissaBits,
    Format.minExponent]
  omega

/-- Digits that are zero are shifted out without a trace. -/
theorem shift_exact (c j : Nat) :
    (ExtendedMantissa.mk (c * 2 ^ j) false false) >>> j = ⟨c, false, false⟩ := by
  induction j generalizing c with
  | zero => simp [HShiftRight.hShiftRight, Nat.repeat]
  | succ j ih =>
      have hback : c * 2 ^ (j + 1) = (2 * c) * 2 ^ j := by ring
      have hone : ExtendedMantissa.shiftRightOne ⟨2 * c, false, false⟩ = ⟨c, false, false⟩ := by
        simp [ExtendedMantissa.shiftRightOne]
      rw [hback, ← hone, ← ih (2 * c)]
      rfl

theorem shiftToTargetExponent_full {c : Nat} (h : IsFull c) (j : Nat) {e : Int}
    (he : -1074 ≤ e + j) :
    shiftToTargetExponent .binary64 (c * 2 ^ j) e .exact = (⟨c, false, false⟩, e + j) := by
  have hj : (e + j - e).toNat = j := by omega
  simp only [shiftToTargetExponent, targetExponent_full h j he, shiftToExponent, hj,
    ExtendedMantissa.ofMantissaAndAccuracy, shift_exact]

/-- A number with a full mantissa is not rounded. -/
theorem roundWithAccuracy_full {c : Nat} (h : IsFull c) (s : Sign) (j : Nat) {e : Int}
    (he : -1074 ≤ e + j) :
    roundWithAccuracy .binary64 s (c * 2 ^ j) e .exact = .finite s c (e + j) h.pos := by
  have hagain := shiftToTargetExponent_full h 0 (e := e + j) (by omega)
  simp only [Nat.pow_zero, Nat.mul_one, Nat.cast_zero, Int.add_zero] at hagain
  simp only [roundWithAccuracy, shiftToTargetExponent_full h j he,
    ExtendedMantissa.roundedMantissa, ExtendedMantissa.accuracy, Accuracy.roundToNearestEven,
    hagain, dif_neg (Nat.pos_iff_ne_zero.1 h.pos)]

/-! ### Whole numbers -/

/-- The mantissa of a whole number that is stored. -/
def mantissa (m : Nat) : Nat := m * 2 ^ (52 - m.log2)

theorem isFull_mantissa {m : Nat} (h : 0 < m) (hm : m < 2 ^ 53) : IsFull (mantissa m) := by
  have hne : m ≠ 0 := Nat.pos_iff_ne_zero.1 h
  have hlog : m.log2 < 53 := (Nat.log2_lt hne).2 hm
  refine ⟨?_, ?_⟩
  · calc 2 ^ 52 = 2 ^ m.log2 * 2 ^ (52 - m.log2) := by rw [← Nat.pow_add]; congr 1; omega
      _ ≤ m * 2 ^ (52 - m.log2) := Nat.mul_le_mul_right _ (Nat.log2_self_le hne)
  · calc m * 2 ^ (52 - m.log2) < 2 ^ (m.log2 + 1) * 2 ^ (52 - m.log2) :=
          Nat.mul_lt_mul_of_pos_right Nat.lt_log2_self (Nat.two_pow_pos _)
      _ = 2 ^ 53 := by rw [← Nat.pow_add]; congr 1; omega

theorem mantissa_mul {m : Nat} (h : 0 < m) (hm : m < 2 ^ 53) :
    mantissa m * 2 ^ m.log2 = m * 2 ^ 52 := by
  have hlog : m.log2 < 53 := (Nat.log2_lt (Nat.pos_iff_ne_zero.1 h)).2 hm
  rw [mantissa, Nat.mul_assoc, ← Nat.pow_add]
  congr 2
  omega

/-- A whole number as it is stored. -/
def whole (m : Nat) : UnpackedFloat :=
  if h : 0 < mantissa m then .finite .positive (mantissa m) (m.log2 - 52) h else .zero .positive

theorem whole_of_pos {m : Nat} (h : 0 < m) (hm : m < 2 ^ 53) :
    whole m = .finite .positive (mantissa m) (m.log2 - 52) (isFull_mantissa h hm).pos :=
  dif_pos (isFull_mantissa h hm).pos

/-- Nothing is rounded when a whole number is given by its digits. -/
theorem ofNat_eq_whole {m : Nat} (hm : m < 2 ^ 53) :
    UnpackedFloat.ofNat .binary64 m = whole m := by
  rcases Nat.eq_zero_or_pos m with rfl | h
  · rfl
  have hlog : m.log2 < 53 := (Nat.log2_lt (Nat.pos_iff_ne_zero.1 h)).2 hm
  have htarget : Format.binary64.targetExponent (totalExponent m 0) = m.log2 - 52 := by
    simp only [Format.targetExponent, totalExponent, Format.mantissaBits, Format.minExponent]
    omega
  have hshift : ((0 : Int) - (m.log2 - 52)).toNat = 52 - m.log2 := by omega
  have hround := roundWithAccuracy_full (isFull_mantissa h hm) .positive 0 (e := m.log2 - 52)
    (by omega)
  simp only [Nat.pow_zero, Nat.mul_one, Nat.cast_zero, Int.add_zero] at hround
  have hsign : compare (m : Int) 0 = .gt := by
    rw [Int.compare_eq_gt]
    omega
  have hexp : (0 : Int) - ((52 - m.log2 : Nat) : Int) = m.log2 - 52 := by omega
  rw [whole_of_pos h hm, ← hround, UnpackedFloat.ofNat, UnpackedFloat.ofInt,
    UnpackedFloat.normalize, hsign]
  simp only [UnpackedFloat.round, Int.toNat_natCast, htarget, decreaseExponent, hshift,
    Nat.shiftLeft_eq, hexp]
  rfl

/-- Nothing is rounded when a whole number is given with 52 zeros behind it. -/
theorem normalize_eq_whole {m : Nat} (hm : m < 2 ^ 53) :
    UnpackedFloat.normalize .binary64 ((m * 2 ^ 52 : Nat) : Int) (-52) .positive = whole m := by
  rcases Nat.eq_zero_or_pos m with rfl | h
  · rfl
  have hlog : m.log2 < 53 := (Nat.log2_lt (Nat.pos_iff_ne_zero.1 h)).2 hm
  have hfull := isFull_mantissa h hm
  have htarget := targetExponent_full hfull m.log2 (e := -52) (by omega)
  have hshift : ((-52 : Int) - (-52 + m.log2)).toNat = 0 := by omega
  have hsign : compare ((mantissa m * 2 ^ m.log2 : Nat) : Int) 0 = .gt := by
    rw [Int.compare_eq_gt]
    exact_mod_cast Nat.mul_pos hfull.pos (Nat.two_pow_pos _)
  rw [← mantissa_mul h hm, whole_of_pos h hm, UnpackedFloat.normalize, hsign]
  simp only [UnpackedFloat.round, Int.toNat_natCast, htarget, decreaseExponent, hshift,
    Nat.shiftLeft_zero]
  rw [Nat.cast_zero, Int.sub_zero, roundWithAccuracy_full hfull .positive m.log2 (by omega)]
  congr 1

/-! ### Storing and reading -/

/-- A number with a full mantissa is read as it was stored. -/
theorem unpack_pack_full {c : Nat} (h : IsFull c) (s : Sign) {e : Int} (hlow : -1074 ≤ e)
    (hhigh : e ≤ 971) :
    UnpackedFloat.unpack .binary64 (UnpackedFloat.pack .binary64 (.finite s c e h.pos)) =
      .finite s c e h.pos := by
  have hbias : (e + (Format.binary64.exponentBias : Nat) +
      (Format.binary64.mantissaBitsWithoutImplicit : Nat)).toNat = (e + 1075).toNat := by
    change (e + (1023 : Nat) + (52 : Nat)).toNat = _
    omega
  have hexp : (BitVec.ofNat 11 (e + 1075).toNat).toNat = (e + 1075).toNat := by
    rw [BitVec.toNat_ofNat, Nat.mod_eq_of_lt (by omega)]
  have htop : BitVec.ofNat 11 (e + 1075).toNat ≠ -1#11 := by
    intro heq
    have := congrArg BitVec.toNat heq
    rw [hexp] at this
    simp at this
    omega
  have hbottom : BitVec.ofNat 11 (e + 1075).toNat ≠ 0#11 := by
    intro heq
    have := congrArg BitVec.toNat heq
    rw [hexp] at this
    simp at this
    omega
  have hdigits : (1#1 ++ BitVec.ofNat 52 c).toNat = c := by
    rw [BitVec.toNat_append, ← Nat.shiftLeft_add_eq_or_of_lt (BitVec.ofNat 52 c).isLt,
      BitVec.toNat_ofNat, Nat.shiftLeft_eq, BitVec.toNat_ofNat]
    have := h.1
    have := h.2
    omega
  rw [UnpackedFloat.pack]
  simp only [h.log2, hbias]
  rw [if_neg (by omega), if_pos (by simp [Format.mantissaBits]), UnpackedFloat.unpack]
  simp only [unpackMantissa_packComponents, unpackExponent_packComponents,
    unpackSign_packComponents, Sign.ofBitVec_toBitVec]
  rw [if_neg htop, if_neg hbottom]
  simp only [hdigits, hexp]
  congr 1
  change ((e + 1075).toNat : Int) - ((1023 : Nat) + (52 : Nat)) = e
  omega

/-- A whole number is read as it was stored. -/
theorem unpack_whole {m : Nat} (hm : m < 2 ^ 53) :
    (Float.Model.pack (whole m)).unpack = whole m := by
  rcases Nat.eq_zero_or_pos m with rfl | h
  · rfl
  have hlog : m.log2 < 53 := (Nat.log2_lt (Nat.pos_iff_ne_zero.1 h)).2 hm
  rw [whole_of_pos h hm]
  exact unpack_pack_full (isFull_mantissa h hm) .positive (by omega) (by omega)

theorem whole_one : whole 1 = .finite .positive (2 ^ 52) (-52) (by decide) := rfl

/-- How a whole number is stored. -/
theorem toModel_ofNat {m : Nat} (hm : m < 2 ^ 53) :
    (Float.ofNat m).toModel = .pack (whole m) := by
  have hsmall : m.toUInt64.toNat = m := by
    rw [Nat.toUInt64_eq, UInt64.toNat_ofNat']
    omega
  have hofNat : Float.ofNat m = m.toUInt64.toFloat * Float.ofBits 0x3FF0000000000000 :=
    dif_pos ⟨hm, by decide⟩
  have hstored : m.toUInt64.toFloat.toModel = .pack (whole m) := by
    change Float.Model.pack (UnpackedFloat.ofNat .binary64 m.toUInt64.toNat) = _
    rw [hsmall, ofNat_eq_whole hm]
  -- the float is multiplied by the zeroth power of ten, which is one
  rw [hofNat]
  change Float.Model.pack (UnpackedFloat.mul .binary64 m.toUInt64.toFloat.toModel.unpack
    (Float.ofBits 0x3FF0000000000000).toModel.unpack) = _
  rw [hstored, unpack_whole hm,
    show (Float.ofBits 0x3FF0000000000000).toModel.unpack = whole 1 from rfl, whole_one]
  congr 1
  rcases Nat.eq_zero_or_pos m with rfl | h
  · rfl
  rw [whole_of_pos h hm]
  change roundWithAccuracy .binary64 .positive (mantissa m * 2 ^ 52) (m.log2 - 52 + -52) .exact = _
  rw [roundWithAccuracy_full (isFull_mantissa h hm) .positive 52 (by omega)]
  congr 1
  omega

/-! ### One more and one less -/

/-- A whole number and one are brought to the exponent of one. -/
theorem aligned {m : Nat} (h : 0 < m) (hm : m < 2 ^ 53) :
    min ((m.log2 : Int) - 52) (-52) = -52 ∧
      decreaseExponent (mantissa m) ((m.log2 : Int) - 52) (-52) = (m * 2 ^ 52, -52) ∧
      decreaseExponent (2 ^ 52) (-52) (-52) = (2 ^ 52, -52) := by
  have hshift : ((m.log2 : Int) - 52 - -52).toNat = m.log2 := by omega
  refine ⟨by omega, ?_, rfl⟩
  simp only [decreaseExponent, hshift, Nat.shiftLeft_eq, mantissa_mul h hm]
  congr 1
  omega

theorem add_whole_one {m : Nat} (hm : m + 1 < 2 ^ 53) :
    UnpackedFloat.add .binary64 (whole m) (whole 1) = whole (m + 1) := by
  rcases Nat.eq_zero_or_pos m with rfl | h
  · rfl
  have hsmall : m < 2 ^ 53 := by omega
  have hsum : ((m * 2 ^ 52 : Nat) : Int) + ((2 ^ 52 : Nat) : Int) =
      (((m + 1) * 2 ^ 52 : Nat) : Int) := by
    push_cast
    ring
  rw [whole_of_pos h hsmall, whole_one, ← normalize_eq_whole hm, ← hsum, UnpackedFloat.add]
  simp only [aligned h hsmall]
  rfl

theorem sub_whole_one {m : Nat} (hm : m + 1 < 2 ^ 53) :
    UnpackedFloat.sub .binary64 (whole (m + 1)) (whole 1) = whole m := by
  have hdiff : (((m + 1) * 2 ^ 52 : Nat) : Int) - ((2 ^ 52 : Nat) : Int) =
      ((m * 2 ^ 52 : Nat) : Int) := by
    push_cast
    ring
  rw [whole_of_pos m.succ_pos hm, whole_one, ← normalize_eq_whole (m := m) (by omega), ← hdiff,
    UnpackedFloat.sub]
  simp only [aligned m.succ_pos hm]
  rfl

/-- One more. -/
theorem ofNat_add_one {m : Nat} (hm : m + 1 < 2 ^ 53) :
    Float.ofNat m + 1 = Float.ofNat (m + 1) := by
  have hsum : (Float.ofNat m + 1).toModel = .pack (UnpackedFloat.add .binary64
      (Float.ofNat m).toModel.unpack (Float.ofNat 1).toModel.unpack) := rfl
  rw [toModel_ofNat (by omega), toModel_ofNat (by decide), unpack_whole (by omega),
    unpack_whole (by decide), add_whole_one hm, ← toModel_ofNat hm] at hsum
  exact congrArg Float.ofModel hsum

/-- One less. -/
theorem ofNat_sub_one {m : Nat} (hm : m + 1 < 2 ^ 53) :
    Float.ofNat (m + 1) - 1 = Float.ofNat m := by
  have hdiff : (Float.ofNat (m + 1) - 1).toModel = .pack (UnpackedFloat.sub .binary64
      (Float.ofNat (m + 1)).toModel.unpack (Float.ofNat 1).toModel.unpack) := rfl
  rw [toModel_ofNat hm, toModel_ofNat (by decide), unpack_whole hm, unpack_whole (by decide),
    sub_whole_one hm, ← toModel_ofNat (by omega)] at hdiff
  exact congrArg Float.ofModel hdiff

end Conveyor.Exact
