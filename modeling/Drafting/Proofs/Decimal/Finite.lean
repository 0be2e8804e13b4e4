import Drafting.Decimal.Layout
import Mathlib

/-!
# Which floats have a numeral

Being finite is a question about the same field of the bits for the arithmetic
of floats and for the exact value of a float.  So it is the finite floats, and
no others, that can be written as a numeral.
-/

namespace Drafting
namespace Decimal

def exponentField (v : Float) : Nat :=
  v.toBits.toNat / 2 ^ 52 % 2 ^ 11

open Float.Model in
theorem toNat_unpackExponent (v : Float) :
    (@UnpackedFloat.unpackExponent Format.binary64 v.toBits.toBitVec).toNat =
      exponentField v := by
  simp only [UnpackedFloat.unpackExponent, BitVec.toNat_cast, BitVec.extractLsb,
    BitVec.extractLsb'_toNat, Nat.shiftRight_eq_div_pow]
  rfl

open Float.Model in
theorem unpackExponent_eq_ones_iff {v : Float} :
    @UnpackedFloat.unpackExponent Format.binary64 v.toBits.toBitVec = -1#11 ↔
      exponentField v = 2047 := by
  rw [← toNat_unpackExponent, ← BitVec.toNat_inj]
  rfl

open Float.Model in
theorem isFinite_iff_exponentField_ne {v : Float} :
    v.isFinite = true ↔ exponentField v ≠ 2047 := by
  show (UnpackedFloat.unpack Format.binary64 v.toBits.toBitVec).isFinite = true ↔ _
  rw [Ne, ← unpackExponent_eq_ones_iff]
  simp only [UnpackedFloat.unpack]
  split
  · next h =>
      split <;> simp [UnpackedFloat.isFinite, h]
  · next h =>
      simp only [h]
      split
      · split <;> simp [UnpackedFloat.isFinite]
      · simp [UnpackedFloat.isFinite]

theorem ofFloat_eq (v : Float) :
    Binary.ofFloat v =
      if exponentField v = 2047 then
        if v.toBits.toNat % 2 ^ 52 = 0 then .infinite (v.toBits.toNat / 2 ^ 63 % 2 == 1)
        else .notANumber
      else if exponentField v = 0 then
        .finite (v.toBits.toNat / 2 ^ 63 % 2 == 1) (v.toBits.toNat % 2 ^ 52) (-1074)
      else
        .finite (v.toBits.toNat / 2 ^ 63 % 2 == 1) (v.toBits.toNat % 2 ^ 52 + 2 ^ 52)
          ((exponentField v : Int) - 1075) := rfl

theorem exists_finite_iff {v : Float} :
    (exists negative significand exponent,
      Binary.ofFloat v = .finite negative significand exponent) ↔ exponentField v ≠ 2047 := by
  rw [ofFloat_eq]
  by_cases hones : exponentField v = 2047
  · rw [if_pos hones]
    constructor
    · intro h
      rcases h with ⟨_, _, _, heq⟩
      split at heq <;> cases heq
    · intro hne
      exact absurd hones hne
  · rw [if_neg hones]
    constructor
    · intro _
      exact hones
    · intro _
      split
      · exact ⟨_, _, _, rfl⟩
      · exact ⟨_, _, _, rfl⟩

theorem isSome_numeral?_iff (l : Layout) {v : Float} :
    (l.numeral? v).isSome = true ↔ v.isFinite = true := by
  rw [isFinite_iff_exponentField_ne, ← exists_finite_iff, Layout.numeral?]
  cases Binary.ofFloat v <;> simp

end Decimal
end Drafting
