import Drafting.Decimal.Binary
import Drafting.Proofs.Decimal.Differences
import Drafting.Proofs.Decimal.Finite

/-!
# Whole floats

Whether a float is whole is settled twice: by taking its bits apart, which is
exact, and by the arithmetic of floats, which cuts off the fraction and looks at
what is left.  The two agree, and a whole float of no more than `2 ^ 31 - 1`
comes out of every conversion to an integer word unchanged.
-/

namespace Drafting
namespace Decimal

open Float.Model UnpackedFloat

/-!
## Two ways of taking a float apart

The exact value of a float and the arithmetic of floats look at the same three
parts of its bits.
-/

theorem toNat_unpackMantissa (v : Float) :
    (@UnpackedFloat.unpackMantissa Format.binary64 v.toBits.toBitVec).toNat =
      v.toBits.toNat % 2 ^ 52 := by
  simp only [UnpackedFloat.unpackMantissa, BitVec.toNat_cast, BitVec.extractLsb,
    BitVec.extractLsb'_toNat, Nat.shiftRight_zero]
  rfl

theorem toNat_unpackSign (v : Float) :
    (@UnpackedFloat.unpackSign Format.binary64 v.toBits.toBitVec).toNat =
      v.toBits.toNat / 2 ^ 63 % 2 := by
  simp only [UnpackedFloat.unpackSign, BitVec.toNat_cast, BitVec.extractLsb,
    BitVec.extractLsb'_toNat, Nat.shiftRight_eq_div_pow]
  rfl

def isNegative : Sign -> Bool
  | .negative => true
  | .positive => false

namespace Binary

/-- What `ofFloat` finds in the bits, from a float that the arithmetic has unpacked. -/
def ofUnpacked : UnpackedFloat -> Binary
  | .notANumber => notANumber
  | .infinity s => infinite (isNegative s)
  | .zero s => finite (isNegative s) 0 (-1074)
  | .finite s m e _ => finite (isNegative s) m e

end Binary

theorem isNegative_ofBitVec (v : Float) :
    isNegative (Sign.ofBitVec (@UnpackedFloat.unpackSign Format.binary64 v.toBits.toBitVec)) =
      (v.toBits.toNat / 2 ^ 63 % 2 == 1) := by
  have hsign := toNat_unpackSign v
  rw [Sign.ofBitVec]
  split
  · next h =>
      rw [h] at hsign
      rw [← hsign]
      rfl
  · next h =>
      have hne : v.toBits.toNat / 2 ^ 63 % 2 ≠ 0 := by
        rw [← hsign]
        intro hzero
        exact h (BitVec.eq_of_toNat_eq hzero)
      have hone : v.toBits.toNat / 2 ^ 63 % 2 = 1 := by omega
      rw [hone]
      rfl

theorem ofFloat_eq_ofUnpacked (v : Float) :
    Binary.ofFloat v = Binary.ofUnpacked v.toModel.unpack := by
  have hones := unpackExponent_eq_ones_iff (v := v)
  have hzeros : @UnpackedFloat.unpackExponent Format.binary64 v.toBits.toBitVec = 0#11 ↔
      exponentField v = 0 := by
    rw [← toNat_unpackExponent, ← BitVec.toNat_inj]
    rfl
  have hfraction : @UnpackedFloat.unpackMantissa Format.binary64 v.toBits.toBitVec = 0#52 ↔
      v.toBits.toNat % 2 ^ 52 = 0 := by
    rw [← toNat_unpackMantissa, ← BitVec.toNat_inj]
    rfl
  rw [ofFloat_eq]
  show _ = Binary.ofUnpacked (UnpackedFloat.unpack Format.binary64 v.toBits.toBitVec)
  unfold UnpackedFloat.unpack
  dsimp only
  rw [← isNegative_ofBitVec]
  -- Both look for an exponent of ones only first, and for one of zeros only after that.
  by_cases hfull : exponentField v = 2047
  · rw [if_pos hfull, if_pos (hones.mpr hfull)]
    by_cases hnone : v.toBits.toNat % 2 ^ 52 = 0
    · rw [if_pos hnone, if_pos (hfraction.mpr hnone)]
      rfl
    · rw [if_neg hnone, if_neg (mt hfraction.mp hnone)]
      rfl
  · rw [if_neg hfull, if_neg (mt hones.mp hfull)]
    by_cases hempty : exponentField v = 0
    · rw [if_pos hempty, if_pos (hzeros.mpr hempty)]
      by_cases hnone : v.toBits.toNat % 2 ^ 52 = 0
      · rw [dif_pos (hfraction.mpr hnone), hnone]
        rfl
      · rw [dif_neg (mt hfraction.mp hnone), Binary.ofUnpacked, ← toNat_unpackMantissa,
          toNat_unpackExponent, hempty]
        rfl
    · rw [if_neg hempty, if_neg (mt hzeros.mp hempty), Binary.ofUnpacked, toNat_unpackExponent,
        ← toNat_unpackMantissa, Nat.add_comm, ← toNat_one_append]
      rfl

/-!
## Whole numbers

One is a number of steps itself, and a float is whole if its number of steps is
so many times that one.  Whether this is so can be seen from its mantissa and
exponent.
-/

@[irreducible] def unit : Nat :=
  size 1 0

theorem unit_eq : unit = 2 ^ (0 + 1074 : Int).toNat := by
  unfold unit
  exact Nat.one_mul _

theorem unit_pos : 0 < unit := by
  rw [unit_eq]
  exact Nat.two_pow_pos _

theorem size_mul_two_pow (m : Nat) {e : Int} (h : -1074 ≤ e) :
    size m e * 2 ^ (-e).toNat = m * 2 ^ e.toNat * unit := by
  have hexp : (e + 1074).toNat + (-e).toNat = e.toNat + (0 + 1074 : Int).toNat := by omega
  rw [unit_eq, size, Nat.mul_assoc, Nat.mul_assoc, ← Nat.pow_add, ← Nat.pow_add, hexp]

theorem size_div_unit (m : Nat) {e : Int} (h : -1074 ≤ e) :
    size m e / unit = m * 2 ^ e.toNat / 2 ^ (-e).toNat := by
  rw [← Nat.mul_div_mul_right _ _ (Nat.two_pow_pos (-e).toNat), size_mul_two_pow m h,
    Nat.mul_comm unit, Nat.mul_div_mul_right _ _ unit_pos]

theorem unit_dvd_size_iff (m : Nat) {e : Int} (h : -1074 ≤ e) :
    unit ∣ size m e ↔ 2 ^ (-e).toNat ∣ m * 2 ^ e.toNat := by
  rw [← Nat.mul_dvd_mul_iff_right (Nat.two_pow_pos (-e).toNat), size_mul_two_pow m h,
    Nat.mul_comm unit, Nat.mul_dvd_mul_iff_right unit_pos]

theorem size_mul_unit (n : Nat) {k : Nat} (h : k ≤ 1074) :
    size (n * 2 ^ k) (-k) = n * unit := by
  have hexp : (-(k : Int)).toNat = 0 ∧ (- -(k : Int)).toNat = k := by omega
  have hsize := size_mul_two_pow (n * 2 ^ k) (e := -k) (by omega)
  rw [hexp.1, hexp.2, Nat.pow_zero, Nat.mul_one, Nat.mul_right_comm] at hsize
  exact Nat.eq_of_mul_eq_mul_right (Nat.two_pow_pos k) hsize

theorem steps_one : steps 1.0 = unit := by
  have hunpack : (1.0 : Float).toModel.unpack =
      .finite .positive (1 * 2 ^ 52) (-(52 : Nat)) (by decide) := rfl
  rw [steps, hunpack, stepsOf, Sign.apply, size_mul_unit 1 (by decide), Nat.one_mul]

theorem steps_greatest : steps 2147483647.0 = 2147483647 * unit := by
  have hunpack : (2147483647.0 : Float).toModel.unpack =
      .finite .positive (2147483647 * 2 ^ 22) (-(22 : Nat)) (by decide) := rfl
  rw [steps, hunpack, stepsOf, Sign.apply, size_mul_unit _ (by decide)]
  norm_cast

theorem apply_tdiv_unit (s : Sign) (x : Nat) :
    (s.apply (x : Int)).tdiv unit = s.apply ((x / unit : Nat) : Int) := by
  cases s
  · show (-(x : Int)).tdiv unit = -((x / unit : Nat) : Int)
    rw [Int.neg_tdiv]
    rfl
  · rfl

theorem unit_dvd_apply_iff (s : Sign) (x : Nat) :
    (unit : Int) ∣ s.apply (x : Int) ↔ unit ∣ x := by
  cases s
  · show (unit : Int) ∣ -(x : Int) ↔ _
    rw [Int.dvd_neg, Int.natCast_dvd_natCast]
  · exact Int.natCast_dvd_natCast

theorem eq_mul_iff_dvd_and_tdiv {z n : Int} :
    z = n * unit ↔ (unit : Int) ∣ z ∧ z.tdiv unit = n := by
  have hne : (unit : Int) ≠ 0 := by
    have := unit_pos
    omega
  constructor
  · intro h
    rw [h]
    exact ⟨Int.dvd_mul_left _ _, Int.mul_tdiv_cancel n hne⟩
  · intro h
    rw [← h.2, Int.tdiv_mul_cancel h.1]

theorem whole?_finite (s : Sign) (m : Nat) (e n : Int) :
    (Binary.finite (isNegative s) m e).whole? = some n ↔
      2 ^ (-e).toNat ∣ m * 2 ^ e.toNat ∧
        s.apply ((m * 2 ^ e.toNat / 2 ^ (-e).toNat : Nat) : Int) = n := by
  have hsigned : forall k : Nat,
      (if isNegative s = true then - (k : Int) else k) = s.apply (k : Int) := by
    intro k
    cases s <;> rfl
  cases e with
  | ofNat k =>
      have hone : (-(Int.ofNat k)).toNat = 0 := by
        show (-(k : Int)).toNat = 0
        omega
      rw [hone, Nat.pow_zero, Nat.div_one, ← hsigned]
      simp only [Nat.one_dvd, true_and]
      exact Option.some_inj
  | negSucc k =>
      have hone : m * 2 ^ (Int.negSucc k).toNat = m := Nat.mul_one m
      have hexp : (-(Int.negSucc k)).toNat = k + 1 := rfl
      rw [hone, hexp, Nat.dvd_iff_mod_eq_zero, ← hsigned]
      exact Option.ite_none_right_eq_some.trans (and_congr_right' Option.some_inj)

/-- The float is a whole number, of as many times one. -/
def IsWhole (v : Float) (n : Int) : Prop :=
  v.isFinite = true ∧ steps v = n * steps 1.0

theorem whole?_eq_some_iff {v : Float} {n : Int} :
    (Binary.ofFloat v).whole? = some n ↔ IsWhole v n := by
  have hcanonical := canonical_unpack v.toModel
  have hfinite : v.isFinite = v.toModel.unpack.isFinite := rfl
  rw [ofFloat_eq_ofUnpacked, IsWhole, steps_one, eq_mul_iff_dvd_and_tdiv, steps, hfinite]
  cases h : v.toModel.unpack with
  | notANumber => simp [Binary.ofUnpacked, Binary.whole?, UnpackedFloat.isFinite]
  | infinity s => simp [Binary.ofUnpacked, Binary.whole?, UnpackedFloat.isFinite]
  | zero s =>
      have hzero : s.apply ((0 : Nat) : Int) = 0 := by cases s <;> rfl
      rw [Binary.ofUnpacked, whole?_finite, Nat.zero_mul, Nat.zero_div, hzero, stepsOf,
        Int.zero_tdiv]
      simp only [dvd_zero, true_and, UnpackedFloat.isFinite]
  | finite s m e hm =>
      rw [h] at hcanonical
      rw [Binary.ofUnpacked, whole?_finite, stepsOf, apply_tdiv_unit, unit_dvd_apply_iff,
        unit_dvd_size_iff m hcanonical.low, size_div_unit m hcanonical.low]
      simp only [UnpackedFloat.isFinite, true_and]

/-!
## Conversions

A finite float is converted to an integer by cutting off its fraction, so a
whole float is converted to the number that it is, as long as that has room.
-/

theorem roundToInt_eq (s : Sign) (m : Nat) (e : Int) :
    roundToInt s m e = s.apply ((m * 2 ^ e.toNat / 2 ^ (-e).toNat : Nat) : Int) := by
  have hamount : (0 - (e - (((e - 0).toNat : Nat) : Int))).toNat = (-e).toNat := by omega
  have hguards := guards_shiftRight (m <<< (e - 0).toNat) (-e).toNat
  have hround : roundToInt s m e = s.apply (ExtendedMantissa.mantissa
      (ExtendedMantissa.ofMantissaAndAccuracy (m <<< (e - 0).toNat) .exact >>>
        (0 - (e - (((e - 0).toNat : Nat) : Int))).toNat)) := rfl
  rw [hround, hamount, hguards.mantissa, Nat.shiftLeft_eq, Int.sub_zero]

theorem toInt_eq_tdiv {v : Float} (hfinite : v.isFinite = true) (lowest highest : Int) :
    v.toModel.unpack.toInt lowest highest = (steps v).tdiv unit := by
  rw [steps]
  rcases zero_or_regular_of_isFinite hfinite with ⟨s, h⟩ | ⟨s, m, e, hm, h, hregular⟩
  · rw [h]
    exact (Int.zero_tdiv _).symm
  · rw [h, stepsOf, apply_tdiv_unit, size_div_unit m hregular.low, ← roundToInt_eq]
    rfl

namespace IsWhole

variable {v : Float} {n : Int}

theorem toInt_eq (h : IsWhole v n) (lowest highest : Int) :
    v.toModel.unpack.toInt lowest highest = n := by
  have hsteps := h.2
  rw [steps_one, eq_mul_iff_dvd_and_tdiv] at hsteps
  rw [toInt_eq_tdiv h.1, hsteps.2]

theorem toInt_toInt64 (h : IsWhole v n) (hbound : n.natAbs ≤ 2147483647) :
    v.toModel.toInt64.toInt = n := by
  have hlow : Int64.minValue.toInt = -9223372036854775808 := rfl
  have hhigh : Int64.maxValue.toInt = 9223372036854775807 := rfl
  have hmodel : v.toModel.toInt64 =
      Int64.ofIntClamp (v.toModel.unpack.toInt Int64.minValue.toInt Int64.maxValue.toInt) := rfl
  rw [hmodel, h.toInt_eq, Int64.toInt_ofIntClamp (by omega) (by omega)]

theorem toInt_toInt32 (h : IsWhole v n) (hbound : n.natAbs ≤ 2147483647) :
    v.toModel.toInt64.toInt32.toInt = n := by
  rw [Int64.toInt_toInt32, h.toInt_toInt64 hbound]
  exact Int.bmod_eq_of_le_mul_two (by omega) (by omega)

theorem toNat_toUInt32 (h : IsWhole v n) (hbound : n.natAbs ≤ 2147483647) (hnonneg : 0 ≤ n) :
    (v.toModel.toInt64.toUInt64.toUInt32.toNat : Int) = n := by
  have hword : v.toModel.toInt64.toBitVec.toInt = n := h.toInt_toInt64 hbound
  have hlt := v.toModel.toInt64.toBitVec.isLt
  have hcut : v.toModel.toInt64.toUInt64.toUInt32.toNat =
      v.toModel.toInt64.toBitVec.toNat % 2 ^ 32 := UInt64.toNat_toUInt32 _
  rw [BitVec.toInt_eq_toNat_cond] at hword
  rw [hcut]
  split at hword <;> omega

end IsWhole

/-!
## Cutting off the fraction

The whole part of a float has no more digits than the float, so it is a float
too.  A whole float is not changed on the way to the integer and back.  Only
infinities lie beyond the limit, and taking one from itself leaves nothing that
is a number.
-/

/-- A float without its fraction, except for the sign of a zero. -/
def cutOff (v : Float) : Float :=
  if v.isFinite then .ofModel (.ofInt (v.toModel.unpack.toInt 0 0)) else v

theorem steps_ofInt (n : Int) :
    steps (.ofModel (.ofInt n)) = saturate (nearestInt (n * unit)) := by
  have hunit : (2 : Int) ^ (0 + 1074 : Int).toNat = unit := by
    rw [unit_eq, Int.natCast_pow]
    rfl
  rw [← hunit]
  exact packedSteps_normalize n (by decide)

theorem nearest_wholePart {m : Nat} {e : Int} (h : Regular m e) :
    nearest (size m e / unit * unit) = size m e / unit * unit := by
  have hmantissa := h.mantissa
  -- Below zero the whole part is no longer than the mantissa, and from zero on it is all there is.
  by_cases hneg : e < 0
  · have hexp : e.toNat = 0 := by omega
    have hle : size m e / unit ≤ m := by
      rw [size_div_unit m h.low, hexp, Nat.pow_zero, Nat.mul_one]
      exact Nat.div_le_self _ _
    have hnearest :=
      nearest_of_lt (m := size m e / unit) (by omega) (0 + 1074 : Int).toNat
    rwa [← unit_eq] at hnearest
  · have hexp : (-e).toNat = 0 := by omega
    have hdvd : unit ∣ size m e := by
      rw [unit_dvd_size_iff m h.low, hexp, Nat.pow_zero]
      exact Nat.one_dvd _
    rw [Nat.div_mul_cancel hdvd]
    exact nearest_of_lt hmantissa _

theorem tdiv_mul_unit_eq (s : Sign) {m : Nat} {e : Int} (h : Regular m e) :
    saturate (nearestInt ((s.apply (size m e : Int)).tdiv unit * unit)) =
      (s.apply (size m e : Int)).tdiv unit * unit := by
  have hle : size m e / unit * unit ≤ size m e := Nat.div_mul_le_self _ _
  have hlimit := h.size_lt_limit
  rw [apply_tdiv_unit, apply_mul, nearestInt_apply, saturate_apply, ← Int.natCast_mul,
    nearestInt_natCast, nearest_wholePart h, saturate_natCast (by omega)]

theorem saturate_eq_zero_iff {z : Int} : saturate z = 0 ↔ z = 0 := by
  have := limit_pos
  unfold saturate
  split_ifs <;> omega

theorem nearest_eq_zero_iff {n : Nat} : nearest n = 0 ↔ n = 0 := by
  constructor
  · intro h
    by_contra hne
    have hle := le_nearest hne
    have hpos := Nat.two_pow_pos n.log2
    omega
  · intro h
    rw [h, nearest_zero]

theorem nearestInt_eq_zero_iff {z : Int} : nearestInt z = 0 ↔ z = 0 := by
  rw [nearestInt, Int.mul_eq_zero, Int.sign_eq_zero_iff_zero, Int.natCast_eq_zero,
    nearest_eq_zero_iff, Int.natAbs_eq_zero, or_self]

theorem isFinite_of_natAbs_steps_lt {a : Float} (hnan : a.isNaN = false)
    (h : (steps a).natAbs < limit) : a.isFinite = true := by
  have hnumber : a.toModel.unpack.isNaN = false := hnan
  show a.toModel.unpack.isFinite = true
  rw [steps] at h
  cases hx : a.toModel.unpack with
  | notANumber =>
      rw [hx] at hnumber
      cases hnumber
  | infinity s =>
      rw [hx] at h
      cases s <;> simp only [stepsOf, Sign.apply] at h <;> omega
  | zero s => rfl
  | finite s m e hm => rfl

theorem natAbs_steps_lt {a : Float} (hfinite : a.isFinite = true) :
    (steps a).natAbs < limit := by
  rw [steps]
  rcases zero_or_regular_of_isFinite hfinite with ⟨s, h⟩ | ⟨s, m, e, hm, h, hregular⟩
  · rw [h]
    exact natAbs_stepsOf_zero s
  · rw [h]
    exact natAbs_stepsOf_finite s hm hregular

section CutOff

variable {v : Float}

theorem steps_cutOff (hfinite : v.isFinite = true) :
    steps (cutOff v) = (steps v).tdiv unit * unit := by
  rw [cutOff, if_pos hfinite, steps_ofInt, toInt_eq_tdiv hfinite, steps]
  rcases zero_or_regular_of_isFinite hfinite with ⟨s, h⟩ | ⟨s, m, e, hm, h, hregular⟩
  · rw [h, stepsOf, Int.zero_tdiv, Int.zero_mul, nearestInt_zero, saturate_zero]
  · rw [h]
    exact tdiv_mul_unit_eq s hregular

theorem isFinite_cutOff (hfinite : v.isFinite = true) : (cutOff v).isFinite = true := by
  apply isFinite_of_natAbs_steps_lt
  · rw [cutOff, if_pos hfinite]
    exact (isNaN_unpack_pack _).trans (isNaN_normalize _ _)
  · have hlt := natAbs_steps_lt hfinite
    rw [steps_cutOff hfinite, Int.natAbs_mul, Int.natAbs_tdiv]
    exact Nat.lt_of_le_of_lt (Nat.div_mul_le_self _ _) hlt

theorem IsWhole.beq_ofInt {n : Int} (h : IsWhole v n) : (v == .ofModel (.ofInt n)) = true := by
  have hcutOff : cutOff v = .ofModel (.ofInt n) := by
    rw [cutOff, if_pos h.1, h.toInt_eq]
  have hsteps := h.2
  have hfinite := isFinite_cutOff h.1
  rw [steps_one, eq_mul_iff_dvd_and_tdiv] at hsteps
  rw [← hcutOff, beq_iff_steps (isNaN_eq_false_of_isFinite h.1)
    (isNaN_eq_false_of_isFinite hfinite), steps_cutOff h.1, Int.tdiv_mul_cancel hsteps.1]

/-- The rest is zero for whole numbers only; infinities leave nothing that is a number. -/
theorem sub_cutOff_beq_zero_iff :
    (v - cutOff v == 0.0) = true ↔ exists n, IsWhole v n := by
  by_cases hfinite : v.isFinite = true
  · have hnan : (v + -cutOff v).isNaN = false :=
      isNaN_add_of_isFinite (isNaN_eq_false_of_isFinite hfinite)
        (by rw [isFinite_neg, isFinite_cutOff hfinite])
    rw [sub_eq_add_neg, beq_iff_steps hnan rfl, steps_zero, steps_add hnan, saturate_eq_zero_iff,
      nearestInt_eq_zero_iff, steps_neg, steps_cutOff hfinite]
    constructor
    · intro h
      exact ⟨(steps v).tdiv unit, hfinite, by rw [steps_one]; omega⟩
    · intro h
      rcases h with ⟨n, hwhole⟩
      have hsteps := hwhole.2
      rw [steps_one, eq_mul_iff_dvd_and_tdiv] at hsteps
      rw [Int.tdiv_mul_cancel hsteps.1, Int.add_right_neg]
  · -- Nothing was cut off, and an infinity less itself is not a number.
    have hnan : (v + -v).isNaN = true := by
      have hunpacked : ¬ v.toModel.unpack.isFinite = true := hfinite
      rw [isNaN_add, unpack_neg]
      cases h : v.toModel.unpack with
      | notANumber => rfl
      | infinity s => cases s <;> rfl
      | zero s =>
          rw [h] at hunpacked
          exact absurd rfl hunpacked
      | finite s m e hm =>
          rw [h] at hunpacked
          exact absurd rfl hunpacked
    rw [cutOff, if_neg hfinite, sub_eq_add_neg]
    constructor
    · intro h
      rw [(isNaN_eq_false_of_beq h).1] at hnan
      cases hnan
    · intro h
      rcases h with ⟨_, hwhole⟩
      exact absurd hwhole.1 hfinite

end CutOff

/-!
## Magnitudes

To take the size of a float is to take that of its number of steps.
-/

theorem unpack_abs (a : Float) : a.abs.toModel.unpack = a.toModel.unpack.abs :=
  unpack_pack (canonical_unpack a.toModel).abs

theorem isNaN_abs (a : Float) : a.abs.isNaN = a.isNaN := by
  show a.abs.toModel.unpack.isNaN = a.toModel.unpack.isNaN
  rw [unpack_abs]
  cases a.toModel.unpack <;> rfl

theorem steps_abs (a : Float) : steps a.abs = (steps a).natAbs := by
  have hlimit := limit_pos
  rw [steps, steps, unpack_abs]
  cases a.toModel.unpack with
  | notANumber => rfl
  | zero s => rfl
  | infinity s =>
      cases s <;> simp only [UnpackedFloat.abs, stepsOf, Sign.apply] <;> omega
  | finite s m e hm =>
      cases s <;> simp only [UnpackedFloat.abs, stepsOf, Sign.apply] <;> omega

theorem IsWhole.abs_le_iff {v : Float} {n : Int} (h : IsWhole v n) :
    v.abs ≤ 2147483647.0 ↔ n.natAbs ≤ 2147483647 := by
  have hsteps := h.2
  have hpos : (0 : Int) < unit := Int.natCast_pos.mpr unit_pos
  have hnan : v.abs.isNaN = false := by
    rw [isNaN_abs, isNaN_eq_false_of_isFinite h.1]
  rw [le_iff_steps hnan rfl, steps_abs, steps_greatest, hsteps, steps_one, Int.natAbs_mul,
    Int.natAbs_natCast, Int.natCast_mul, mul_le_mul_iff_of_pos_right hpos]
  omega

end Decimal
end Drafting
