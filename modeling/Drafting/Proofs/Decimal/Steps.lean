import Drafting.Proofs.Decimal.Order

/-!
# Floats as whole numbers of steps

Every finite float is a whole number of steps, where a step is the least
positive float.  Infinities count so many steps that no finite float can bring
them back.  The order of floats is then the order of these numbers.
-/

namespace Drafting
namespace Decimal

open Float.Model

/-!
## What comes out of the bits of a float

There are no more than 53 digits in a mantissa, and fewer than that go with the
least exponent only.  So no float has two ways to be taken apart.  A finite one
is a zero or has such parts, and they do not depend on its sign.
-/

/-- Mantissa and exponent of a finite float; only the least exponent goes with few digits. -/
structure Regular (m : Nat) (e : Int) : Prop where
  mantissa : m < 2 ^ 53
  low : -1074 ≤ e
  high : e ≤ 971
  full : 2 ^ 52 ≤ m ∨ e = -1074

def Canonical : UnpackedFloat -> Prop
  | .finite _ m e _ => Regular m e
  | _ => True

theorem regular_of_lt {m : Nat} (hm : m < 2 ^ 52) : Regular m (-1074) :=
  ⟨by omega, by decide, by decide, .inr rfl⟩

theorem regular_of_field {m field : Nat} (hm : m < 2 ^ 52) (hlow : field ≠ 0)
    (hhigh : field < 2047) : Regular (2 ^ 52 + m) (field - 1075) :=
  ⟨by omega, by omega, by omega, .inl (by omega)⟩

theorem toNat_one_append (m : BitVec 52) : (1#1 ++ m).toNat = 2 ^ 52 + m.toNat := by
  rw [BitVec.toNat_append, ← Nat.shiftLeft_add_eq_or_of_lt m.isLt]
  rfl

theorem canonical_unpack (v : Float.Model) : Canonical v.unpack := by
  have hfraction :
      (@UnpackedFloat.unpackMantissa Format.binary64 v.toBits.toBitVec).toNat < 2 ^ 52 :=
    BitVec.isLt _
  have hfield : (@UnpackedFloat.unpackExponent Format.binary64 v.toBits.toBitVec).toNat < 2048 :=
    BitVec.isLt _
  unfold Float.Model.unpack UnpackedFloat.unpack
  dsimp only
  -- An exponent of ones is no finite float, and one of zeros is the least exponent.
  split
  · split <;> exact True.intro
  · next hones =>
      have hne : (@UnpackedFloat.unpackExponent Format.binary64 v.toBits.toBitVec).toNat ≠ 2047 :=
        fun h => hones (BitVec.eq_of_toNat_eq h)
      split
      · next hzero =>
          split
          · exact True.intro
          · show Regular _ _
            rw [hzero]
            exact regular_of_lt hfraction
      · next hzero =>
          have hlow := fun h => hzero (BitVec.eq_of_toNat_eq h)
          show Regular _ _
          rw [toNat_one_append]
          exact regular_of_field hfraction hlow (by omega)

theorem Canonical.neg {a : UnpackedFloat} (h : Canonical a) : Canonical a.neg := by
  cases a with
  | finite s m e hm => exact h
  | _ => exact True.intro

theorem Canonical.abs {a : UnpackedFloat} (h : Canonical a) : Canonical a.abs := by
  cases a with
  | finite s m e hm => exact h
  | _ => exact True.intro

theorem zero_or_regular_of_isFinite {v : Float} (hfinite : v.isFinite = true) :
    (exists s, v.toModel.unpack = .zero s) ∨
      exists s m e, exists hm : 0 < m, v.toModel.unpack = .finite s m e hm ∧ Regular m e := by
  have hunpacked : v.toModel.unpack.isFinite = true := hfinite
  have hcanonical := canonical_unpack v.toModel
  cases h : v.toModel.unpack with
  | notANumber =>
      rw [h] at hunpacked
      cases hunpacked
  | infinity s =>
      rw [h] at hunpacked
      cases hunpacked
  | zero s => exact .inl ⟨s, rfl⟩
  | finite s m e hm =>
      rw [h] at hcanonical
      exact .inr ⟨s, m, e, hm, rfl, hcanonical⟩

/-!
## Packing

A finite float is packed by its number of digits, and as an infinity if its
exponent is too large.  Packing makes nothing not a number that was one, however
long its mantissa; and what has come out of bits is found in them again.
-/

open UnpackedFloat in
theorem unpack_packComponents_least (s : Sign) {m : Nat} (hpos : 0 < m) (hm : m < 2 ^ 52) :
    UnpackedFloat.unpack Format.binary64
        (packComponents Format.binary64 s 0#11 (BitVec.ofNat 52 m)) =
      .finite s m (-1074) hpos := by
  have htoNat : (BitVec.ofNat 52 m).toNat = m := by
    rw [BitVec.toNat_ofNat, Nat.mod_eq_of_lt hm]
  have hne : BitVec.ofNat 52 m ≠ 0#52 := by
    intro h
    rw [← BitVec.toNat_inj, htoNat] at h
    exact hpos.ne' h
  have hones : (0#11 : BitVec 11) ≠ -1#11 := by decide
  simp only [UnpackedFloat.unpack, unpackExponent_packComponents, unpackMantissa_packComponents,
    unpackSign_packComponents, Sign.ofBitVec_toBitVec, if_neg hones, if_true, dif_neg hne, htoNat]
  rfl

open UnpackedFloat in
theorem unpack_packComponents_field (s : Sign) {m field : Nat} (hlow : field ≠ 0)
    (hhigh : field < 2047) (hmin : 2 ^ 52 ≤ m) (hmax : m < 2 ^ 53) :
    UnpackedFloat.unpack Format.binary64
        (packComponents Format.binary64 s (BitVec.ofNat 11 field) (BitVec.ofNat 52 m)) =
      .finite s m (field - 1075) (Nat.lt_of_lt_of_le (by decide) hmin) := by
  have hfield : (BitVec.ofNat 11 field).toNat = field := by
    rw [BitVec.toNat_ofNat, Nat.mod_eq_of_lt (by omega)]
  have hzero : BitVec.ofNat 11 field ≠ 0#11 := by
    intro h
    rw [← BitVec.toNat_inj, hfield] at h
    exact hlow h
  have hones : BitVec.ofNat 11 field ≠ -1#11 := by
    intro h
    rw [← BitVec.toNat_inj, hfield] at h
    exact hhigh.ne h
  have hmantissa : (1#1 ++ BitVec.ofNat 52 m).toNat = m := by
    rw [toNat_one_append, BitVec.toNat_ofNat]
    omega
  simp only [UnpackedFloat.unpack, unpackExponent_packComponents, unpackMantissa_packComponents,
    unpackSign_packComponents, Sign.ofBitVec_toBitVec, if_neg hones, if_neg hzero, hfield,
    hmantissa]
  rfl

theorem unpack_pack_infinity (s : UnpackedFloat.Sign) :
    (pack (.infinity s)).unpack = .infinity s := by
  cases s <;> rfl

open UnpackedFloat in
theorem pack_finite (s : Sign) {m : Nat} (e : Int) (hpos : 0 < m) :
    UnpackedFloat.pack Format.binary64 (.finite s m e hpos) =
      if 2048 ≤ (e + 1023 + 52).toNat + 1 then packedInfinity Format.binary64 s
      else if m.log2 + 1 = 53 then
        packComponents Format.binary64 s (BitVec.ofNat 11 (e + 1023 + 52).toNat) (BitVec.ofNat 52 m)
      else packComponents Format.binary64 s 0#11 (BitVec.ofNat 52 m) := rfl

theorem unpack_pack_of_overflow (s : UnpackedFloat.Sign) {m : Nat} {e : Int} (hpos : 0 < m)
    (h : 972 ≤ e) : (pack (.finite s m e hpos)).unpack = .infinity s := by
  show UnpackedFloat.unpack Format.binary64 (UnpackedFloat.pack Format.binary64 _) = _
  rw [pack_finite, if_pos (by omega)]
  exact unpack_pack_infinity s

theorem unpack_pack {a : UnpackedFloat} (h : Canonical a) : (pack a).unpack = a := by
  cases a with
  | notANumber => exact UnpackedFloat.unpack_packedNaN
  | infinity s => exact unpack_pack_infinity s
  | zero s => exact UnpackedFloat.unpack_packedZero
  | finite s m e hpos =>
      rcases h with ⟨hm, hlow, hhigh, hfull⟩
      show UnpackedFloat.unpack Format.binary64 (UnpackedFloat.pack Format.binary64 _) = _
      rw [pack_finite, if_neg (by omega)]
      by_cases hmany : 2 ^ 52 ≤ m
      · have hlog : m.log2 = 52 := (Nat.log2_eq_iff hpos.ne').mpr ⟨hmany, hm⟩
        rw [hlog, if_pos rfl, unpack_packComponents_field s (by omega) (by omega) hmany hm]
        congr 1
        omega
      · have hleast : e = -1074 := hfull.resolve_left hmany
        have hlog : m.log2 + 1 ≠ 53 := by
          have := (Nat.log2_lt hpos.ne').mpr (Nat.lt_of_not_le hmany)
          omega
        subst hleast
        rw [if_neg hlog, unpack_packComponents_least s hpos (Nat.lt_of_not_le hmany)]

open UnpackedFloat in
theorem isNaN_unpack_packComponents (s : Sign) {field : BitVec 11} (h : field ≠ -1#11)
    (fraction : BitVec 52) :
    (UnpackedFloat.unpack Format.binary64
      (packComponents Format.binary64 s field fraction)).isNaN = false := by
  simp only [UnpackedFloat.unpack, unpackExponent_packComponents, unpackMantissa_packComponents,
    unpackSign_packComponents, if_neg h]
  split
  · split <;> rfl
  · rfl

theorem isNaN_unpack_pack (a : UnpackedFloat) : (pack a).unpack.isNaN = a.isNaN := by
  cases a with
  | notANumber => exact congrArg UnpackedFloat.isNaN UnpackedFloat.unpack_packedNaN
  | infinity s => exact congrArg UnpackedFloat.isNaN (unpack_pack_infinity s)
  | zero s => exact congrArg UnpackedFloat.isNaN UnpackedFloat.unpack_packedZero
  | finite s m e hpos =>
      show (UnpackedFloat.unpack Format.binary64 (UnpackedFloat.pack Format.binary64 _)).isNaN = _
      rw [pack_finite]
      split
      · have hinfinity : UnpackedFloat.unpack Format.binary64
            (UnpackedFloat.packedInfinity Format.binary64 s) = .infinity s :=
          unpack_pack_infinity s
        rw [hinfinity]
        rfl
      · next hfits =>
          split
          · apply isNaN_unpack_packComponents
            intro hones
            have hfield := congrArg BitVec.toNat hones
            rw [BitVec.toNat_ofNat, Nat.mod_eq_of_lt (by omega)] at hfield
            have honesNat : (-1#11 : BitVec 11).toNat = 2047 := rfl
            omega
          · exact isNaN_unpack_packComponents s (by decide) _

/-!
## Counting steps

A float with a greater exponent is greater, for it has all its digits; and the
infinities lie beyond all other numbers.  It is enough to show this in one
direction of every comparison.
-/

def size (m : Nat) (e : Int) : Nat :=
  m * 2 ^ (e + 1074).toNat

/-- The first power of two that is too large for a finite float, in steps. -/
@[irreducible] def limit : Nat :=
  size (2 ^ 52) 972

theorem limit_eq : limit = size (2 ^ 52) 972 := by
  unfold limit
  rfl

def stepsOf : UnpackedFloat -> Int
  | .notANumber => 0
  | .infinity s => s.apply (2 * limit)
  | .zero _ => 0
  | .finite s m e _ => s.apply (size m e)

/-- The numerical value of a float, in steps; nothing is said of what is not a number. -/
def steps (v : Float) : Int :=
  stepsOf v.toModel.unpack

theorem size_pos {m : Nat} (e : Int) (h : 0 < m) : 0 < size m e :=
  Nat.mul_pos h (Nat.two_pow_pos _)

theorem limit_pos : 0 < limit := by
  rw [limit_eq]
  exact size_pos 972 (by decide)

theorem size_le_size {m n : Nat} {e f : Int} (hm : m ≤ n) (he : e ≤ f) : size m e ≤ size n f :=
  Nat.mul_le_mul hm (Nat.pow_le_pow_right (by decide) (by omega))

theorem size_lt {m n : Nat} (e : Int) (h : m < n) : size m e < size n e :=
  Nat.mul_lt_mul_of_pos_right h (Nat.two_pow_pos _)

theorem size_lt_size {m n : Nat} {e f : Int} (hm : m < 2 ^ 53) (hlow : -1074 ≤ e)
    (hn : 2 ^ 52 ≤ n) (h : e < f) : size m e < size n f := by
  have hexp : 53 + (e + 1074).toNat ≤ 52 + (f + 1074).toNat := by omega
  calc size m e < 2 ^ 53 * 2 ^ (e + 1074).toNat :=
        Nat.mul_lt_mul_of_pos_right hm (Nat.two_pow_pos _)
    _ = 2 ^ (53 + (e + 1074).toNat) := (Nat.pow_add ..).symm
    _ ≤ 2 ^ (52 + (f + 1074).toNat) := Nat.pow_le_pow_right (by decide) hexp
    _ = 2 ^ 52 * 2 ^ (f + 1074).toNat := Nat.pow_add ..
    _ ≤ size n f := Nat.mul_le_mul_right _ hn

namespace Regular

variable {m n : Nat} {e f : Int}

theorem size_lt_limit (h : Regular m e) : size m e < limit := by
  rw [limit_eq]
  exact size_lt_size h.mantissa h.low (Nat.le_refl _) (Int.lt_add_one_of_le h.high)

theorem size_lt_size (hm : Regular m e) (hn : Regular n f) (h : e < f) : size m e < size n f := by
  have hlow := hm.low
  exact Decimal.size_lt_size hm.mantissa hlow (hn.full.resolve_right (by omega)) h

theorem compare_eq (hm : Regular m e) (hn : Regular n f) :
    (compare e f).then (compare m n) = compare (size m e : Int) (size n f) := by
  rcases lt_trichotomy e f with h | rfl | h
  · have hsize := Int.ofNat_lt.mpr (hm.size_lt_size hn h)
    rw [compare_lt_iff_lt.mpr h, compare_lt_iff_lt.mpr hsize]
    rfl
  · rw [compare_eq_iff_eq.mpr rfl, Ordering.eq_then]
    rcases lt_trichotomy m n with hlt | rfl | hlt
    · rw [compare_lt_iff_lt.mpr hlt, compare_lt_iff_lt.mpr (Int.ofNat_lt.mpr (size_lt e hlt))]
    · rw [compare_eq_iff_eq.mpr rfl, compare_eq_iff_eq.mpr rfl]
    · rw [compare_gt_iff_gt.mpr hlt, compare_gt_iff_gt.mpr (Int.ofNat_lt.mpr (size_lt e hlt))]
  · have hsize := Int.ofNat_lt.mpr (hn.size_lt_size hm h)
    rw [compare_gt_iff_gt.mpr h, compare_gt_iff_gt.mpr hsize]
    rfl

end Regular

theorem compare_neg_neg (x y : Int) : compare (-x) (-y) = (compare x y).swap := by
  rcases lt_trichotomy x y with h | rfl | h
  · rw [compare_lt_iff_lt.mpr h, compare_gt_iff_gt.mpr (Int.neg_lt_neg h)]
    rfl
  · rw [compare_eq_iff_eq.mpr rfl, compare_eq_iff_eq.mpr rfl]
    rfl
  · rw [compare_gt_iff_gt.mpr h, compare_lt_iff_lt.mpr (Int.neg_lt_neg h)]
    rfl

section Compare

variable {a b : UnpackedFloat}

theorem compare_of_lt (h : stepsOf a < stepsOf b) (hcompare : a.compare b = some .lt) :
    a.compare b = some (compare (stepsOf a) (stepsOf b)) := by
  rw [hcompare, compare_lt_iff_lt.mpr h]

theorem compare_of_gt (h : stepsOf b < stepsOf a) (hcompare : a.compare b = some .gt) :
    a.compare b = some (compare (stepsOf a) (stepsOf b)) := by
  rw [hcompare, compare_gt_iff_gt.mpr h]

theorem compare_of_eq (h : stepsOf a = stepsOf b) (hcompare : a.compare b = some .eq) :
    a.compare b = some (compare (stepsOf a) (stepsOf b)) := by
  rw [hcompare, compare_eq_iff_eq.mpr h]

theorem compare_infinity (s : UnpackedFloat.Sign) (hb : Canonical b) (hnan : b.isNaN = false) :
    (UnpackedFloat.infinity s).compare b =
      some (compare (stepsOf (.infinity s)) (stepsOf b)) := by
  have hlimit := limit_pos
  cases b with
  | notANumber => cases hnan
  | infinity r =>
      cases s <;> cases r
      · exact compare_of_eq rfl rfl
      · exact compare_of_lt (by simp only [stepsOf, UnpackedFloat.Sign.apply]; omega) rfl
      · exact compare_of_gt (by simp only [stepsOf, UnpackedFloat.Sign.apply]; omega) rfl
      · exact compare_of_eq rfl rfl
  | zero r =>
      cases s
      · exact compare_of_lt (by simp only [stepsOf, UnpackedFloat.Sign.apply]; omega) rfl
      · exact compare_of_gt (by simp only [stepsOf, UnpackedFloat.Sign.apply]; omega) rfl
  | finite r n f hn =>
      have hsize := Regular.size_lt_limit hb
      cases s
      · exact compare_of_lt (by cases r <;> simp only [stepsOf, UnpackedFloat.Sign.apply] <;> omega)
          rfl
      · exact compare_of_gt (by cases r <;> simp only [stepsOf, UnpackedFloat.Sign.apply] <;> omega)
          rfl

theorem compare_finite_zero (s r : UnpackedFloat.Sign) {m : Nat} (e : Int) (hm : 0 < m) :
    (UnpackedFloat.finite s m e hm).compare (.zero r) =
      some (compare (stepsOf (.finite s m e hm)) (stepsOf (.zero r))) := by
  have hsize := size_pos e hm
  cases s
  · exact compare_of_lt (by simp only [stepsOf, UnpackedFloat.Sign.apply]; omega) rfl
  · exact compare_of_gt (by simp only [stepsOf, UnpackedFloat.Sign.apply]; omega) rfl

theorem compare_finite (s r : UnpackedFloat.Sign) {m n : Nat} {e f : Int} (hm : 0 < m)
    (hn : 0 < n) (hme : Regular m e) (hnf : Regular n f) :
    (UnpackedFloat.finite s m e hm).compare (.finite r n f hn) =
      some (compare (stepsOf (.finite s m e hm)) (stepsOf (.finite r n f hn))) := by
  have hsize := size_pos e hm
  have hother := size_pos f hn
  cases s <;> cases r
  · show some ((compare e f).then (compare m n)).swap = _
    rw [hme.compare_eq hnf, ← compare_neg_neg]
    rfl
  · exact compare_of_lt (by simp only [stepsOf, UnpackedFloat.Sign.apply]; omega) rfl
  · exact compare_of_gt (by simp only [stepsOf, UnpackedFloat.Sign.apply]; omega) rfl
  · show some ((compare e f).then (compare m n)) = _
    rw [hme.compare_eq hnf]
    rfl

theorem compare_of_swap (h : b.compare a = some (compare (stepsOf b) (stepsOf a))) :
    a.compare b = some (compare (stepsOf a) (stepsOf b)) := by
  rw [compare_swap, h, Option.map_some, ← Std.OrientedCmp.eq_swap]

/-- The comparison of what is in the bits of two floats is that of their numbers of steps. -/
theorem compare_stepsOf (ha : Canonical a) (hb : Canonical b) (hna : a.isNaN = false)
    (hnb : b.isNaN = false) : a.compare b = some (compare (stepsOf a) (stepsOf b)) := by
  cases a with
  | notANumber => cases hna
  | infinity s => exact compare_infinity s hb hnb
  | zero s =>
      cases b with
      | notANumber => cases hnb
      | infinity r => exact compare_of_swap (compare_infinity r True.intro rfl)
      | zero r => exact compare_of_eq rfl rfl
      | finite r n f hn => exact compare_of_swap (compare_finite_zero r s f hn)
  | finite s m e hm =>
      cases b with
      | notANumber => cases hnb
      | infinity r => exact compare_of_swap (compare_infinity r ha rfl)
      | zero r => exact compare_finite_zero s r e hm
      | finite r n f hn => exact compare_finite s r hm hn ha hb

end Compare

/-!
## The order of floats

For numbers, less and at most are what they are for whole numbers, and so is
being equal.  The tests say by themselves that both sides are numbers if they
succeed.
-/

section Order

variable {a b c : Float}

theorem order?_eq (ha : a.isNaN = false) (hb : b.isNaN = false) :
    order? a b = some (compare (steps a) (steps b)) :=
  compare_stepsOf (canonical_unpack _) (canonical_unpack _) ha hb

theorem lt_iff_steps (ha : a.isNaN = false) (hb : b.isNaN = false) :
    a < b ↔ steps a < steps b := by
  rw [lt_iff_order?, order?_eq ha hb, Option.some.injEq, compare_lt_iff_lt]

theorem le_iff_steps (ha : a.isNaN = false) (hb : b.isNaN = false) :
    a ≤ b ↔ steps a ≤ steps b := by
  rw [le_iff_order?, order?_eq ha hb]
  simp only [Option.some.injEq, exists_eq_left', Std.isLE_compare]

theorem beq_iff_steps (ha : a.isNaN = false) (hb : b.isNaN = false) :
    (a == b) = true ↔ steps a = steps b := by
  show (order? a b == some .eq) = true ↔ _
  rw [order?_eq ha hb, beq_iff_eq, Option.some.injEq, compare_eq_iff_eq]

theorem isNaN_eq_false_of_le (h : a ≤ b) : a.isNaN = false ∧ b.isNaN = false := by
  rcases le_iff_order?.mp h with ⟨o, ho, _⟩
  apply isSome_order?_iff.mp
  rw [ho]
  rfl

theorem isNaN_eq_false_of_beq (h : (a == b) = true) : a.isNaN = false ∧ b.isNaN = false := by
  have horder : order? a b = some .eq := beq_iff_eq.mp h
  apply isSome_order?_iff.mp
  rw [horder]
  rfl

theorem le_self (ha : a.isNaN = false) : a ≤ a :=
  (le_iff_steps ha ha).mpr (Int.le_refl _)

theorem le_of_le_of_le (hab : a ≤ b) (hbc : b ≤ c) : a ≤ c := by
  rcases isNaN_eq_false_of_le hab with ⟨ha, hb⟩
  have hc := (isNaN_eq_false_of_le hbc).2
  rw [le_iff_steps ha hb] at hab
  rw [le_iff_steps hb hc] at hbc
  exact (le_iff_steps ha hc).mpr (Int.le_trans hab hbc)

theorem le_of_lt (h : a < b) : a ≤ b := by
  rcases isNaN_eq_false_of_lt h with ⟨ha, hb⟩
  exact (le_iff_steps ha hb).mpr (Int.le_of_lt ((lt_iff_steps ha hb).mp h))

theorem not_lt_of_le (h : a ≤ b) : ¬ b < a := by
  rcases isNaN_eq_false_of_le h with ⟨ha, hb⟩
  rw [lt_iff_steps hb ha]
  exact Int.not_lt.mpr ((le_iff_steps ha hb).mp h)

theorem beq_of_le_of_le (hab : a ≤ b) (hba : b ≤ a) : (a == b) = true := by
  rcases isNaN_eq_false_of_le hab with ⟨ha, hb⟩
  rw [le_iff_steps ha hb] at hab
  rw [le_iff_steps hb ha] at hba
  exact (beq_iff_steps ha hb).mpr (Int.le_antisymm hab hba)

theorem le_of_beq (h : (a == b) = true) : a ≤ b := by
  rcases isNaN_eq_false_of_beq h with ⟨ha, hb⟩
  exact (le_iff_steps ha hb).mpr (Int.le_of_eq ((beq_iff_steps ha hb).mp h))

theorem beq_symm (h : (a == b) = true) : (b == a) = true := by
  rcases isNaN_eq_false_of_beq h with ⟨ha, hb⟩
  exact (beq_iff_steps hb ha).mpr ((beq_iff_steps ha hb).mp h).symm

end Order

end Decimal
end Drafting
