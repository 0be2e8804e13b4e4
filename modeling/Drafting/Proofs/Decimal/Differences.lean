import Drafting.Proofs.Decimal.Sums

/-!
# Differences, and sums that start from zero

To subtract a float is to add its opposite.  Adding to zero changes nothing but
the sign of a zero, and later sums do not tell zeros apart.
-/

namespace Drafting
namespace Decimal

open Float.Model UnpackedFloat

theorem apply_neg (s : Sign) (z : Int) : (-s).apply z = -s.apply z := by
  cases s
  · exact (Int.neg_neg z).symm
  · rfl

theorem unpacked_sub_eq_add_neg (a b : UnpackedFloat) :
    UnpackedFloat.sub Format.binary64 a b = UnpackedFloat.add Format.binary64 a b.neg := by
  cases a with
  | notANumber => rfl
  | infinity s => cases b <;> rfl
  | zero s =>
      cases b with
      | notANumber => rfl
      | infinity r => rfl
      | zero r => rfl
      | finite r n f hn => rfl
  | finite s m e hm =>
      cases b with
      | notANumber => rfl
      | infinity r => rfl
      | zero r => rfl
      | finite r n f hn =>
          simp only [UnpackedFloat.sub, UnpackedFloat.add, UnpackedFloat.neg, apply_neg,
            Int.sub_eq_add_neg]

theorem sub_eq_add_neg (a b : Float) : a - b = a + -b := by
  have hmodel : (a - b).toModel = (a + -b).toModel := by
    show pack (UnpackedFloat.sub _ _ _) = pack (UnpackedFloat.add _ _ _)
    rw [unpack_neg, unpacked_sub_eq_add_neg]
  exact congrArg Float.ofModel hmodel

/-!
## Sums that start from zero

Zero plus a finite float is that float, or it is a zero of the other sign.
-/

/-- Numerically equal: zeros of either sign are, and what is not a number is one thing. -/
def SameNumber (a b : Float) : Prop :=
  (a == b) = true ∨ (a.isNaN = true ∧ b.isNaN = true)

theorem SameNumber.refl (a : Float) : SameNumber a a := by
  by_cases h : a.isNaN = true
  · exact .inr ⟨h, h⟩
  · rw [Bool.not_eq_true] at h
    exact .inl ((beq_iff_steps h h).mpr rfl)

theorem add_eq_of_unpack_eq {a b c d : Float}
    (h : UnpackedFloat.add Format.binary64 a.toModel.unpack b.toModel.unpack =
      UnpackedFloat.add Format.binary64 c.toModel.unpack d.toModel.unpack) : a + b = c + d := by
  have hmodel : (a + b).toModel = (c + d).toModel := congrArg pack h
  exact congrArg Float.ofModel hmodel

theorem unpack_zero_add {a : Float} (ha : a.isFinite = true) :
    (0.0 + a).toModel.unpack = a.toModel.unpack ∨
      (0.0 + a).toModel.unpack = .zero .positive ∧ a.toModel.unpack = .zero .negative := by
  have hsum : (0.0 + a).toModel =
      pack (UnpackedFloat.add Format.binary64 (.zero .positive) a.toModel.unpack) := rfl
  rw [hsum]
  rcases zero_or_regular_of_isFinite ha with ⟨s, h⟩ | ⟨s, m, e, hm, h, hregular⟩
  · rw [h]
    cases s with
    | negative => exact .inr ⟨unpack_pack True.intro, rfl⟩
    | positive => exact .inl (unpack_pack True.intro)
  · have hcanonical : Canonical (.finite s m e hm) := hregular
    rw [h]
    exact .inl (unpack_pack hcanonical)

theorem beq_of_unpack_zero {a b : Float} {r s : Sign} (ha : a.toModel.unpack = .zero r)
    (hb : b.toModel.unpack = .zero s) : (a == b) = true := by
  show (order? a b == some .eq) = true
  rw [order?, ha, hb]
  rfl

theorem unpack_add_of_zeros {a b : Float} {r s : Sign} (ha : a.toModel.unpack = .zero r)
    (hb : b.toModel.unpack = .zero s) : exists t, (a + b).toModel.unpack = .zero t := by
  have hsum : (a + b).toModel =
      pack (UnpackedFloat.add Format.binary64 a.toModel.unpack b.toModel.unpack) := rfl
  rw [hsum, ha, hb]
  cases r <;> cases s <;> exact ⟨_, unpack_pack True.intro⟩

/-- A sum that starts from zero may as well start without it. -/
theorem zero_add_add {a : Float} (ha : a.isFinite = true) (b : Float) :
    SameNumber (0.0 + a + b) (a + b) := by
  rcases unpack_zero_add ha with h | ⟨hzero, h⟩
  · rw [add_eq_of_unpack_eq (c := a) (d := b) (by rw [h])]
    exact SameNumber.refl _
  · cases hb : b.toModel.unpack with
    | zero t =>
        rcases unpack_add_of_zeros hzero hb with ⟨_, hleft⟩
        rcases unpack_add_of_zeros h hb with ⟨_, hright⟩
        exact .inl (beq_of_unpack_zero hleft hright)
    | _ =>
        rw [add_eq_of_unpack_eq (c := a) (d := b) (by rw [hzero, h, hb]; rfl)]
        exact SameNumber.refl _

end Decimal
end Drafting
