import Drafting.Proofs.Decimal.Nearest
import Drafting.Proofs.Decimal.Steps

/-!
# Sums of floats

A sum of floats is the nearest float to the exact sum, and an infinity from the
first power of two on that is too large.  So addition never turns the order
around.
-/

namespace Drafting
namespace Decimal

open Float.Model UnpackedFloat

/-!
## Rounding a mantissa

The digits of a float are left at the exponent that a number is rounded at, and
digits are missing at the least exponent only.  A mantissa that has become too
long is shifted once more; any other one stays as it is.
-/

/-- The exponent at which a number is rounded to the digits of a float. -/
def target (n : Nat) (e : Int) : Int :=
  max (n.log2 + 1 + e - 53) (-1074)

theorem le_target (n : Nat) (e : Int) : -1074 ≤ target n e :=
  le_max_right _ _

/-- The mantissa at that exponent. -/
def rounded (n : Nat) (e : Int) : Nat :=
  roundDiv .toEven n (2 ^ (target n e - e).toNat)

/-- The float with a rounded mantissa, which may have become one digit too long. -/
def assembled (s : Sign) (r : Nat) (t : Int) : UnpackedFloat :=
  if h : r = 0 then .zero s
  else if r = 2 ^ 53 then .finite s (2 ^ 52) (t + 1) (by decide)
  else .finite s r t (Nat.pos_of_ne_zero h)

section Rounding

variable {n : Nat} {e : Int}

theorem rounded_le (h : e ≤ target n e) : rounded n e ≤ 2 ^ 53 := by
  have hexp : n.log2 + 1 ≤ 53 + (target n e - e).toNat := by
    rw [target] at h ⊢
    omega
  have hlt : n / 2 ^ (target n e - e).toNat < 2 ^ 53 := by
    rw [Nat.div_lt_iff_lt_mul (Nat.two_pow_pos _), ← Nat.pow_add]
    exact Nat.lt_of_lt_of_le Nat.lt_log2_self (Nat.pow_le_pow_right (by decide) hexp)
  exact Nat.le_trans (roundDiv_le_succ .toEven n _) hlt

theorem rounded_full (hn : n ≠ 0) (h : e ≤ target n e) :
    2 ^ 52 ≤ rounded n e ∨ target n e = -1074 := by
  by_cases hleast : target n e = -1074
  · exact .inr hleast
  · have hexp : 52 + (target n e - e).toNat ≤ n.log2 := by
      rw [target] at h hleast ⊢
      omega
    refine .inl (Nat.le_trans ?_ (div_le_roundDiv .toEven n _))
    rw [Nat.le_div_iff_mul_le (Nat.two_pow_pos _), ← Nat.pow_add]
    exact Nat.le_trans (Nat.pow_le_pow_right (by decide) hexp) (Nat.log2_self_le hn)

theorem shiftToTargetExponent_eq (n : Nat) (e : Int) :
    shiftToTargetExponent Format.binary64 n e .exact =
      (ExtendedMantissa.ofMantissaAndAccuracy n .exact >>> (target n e - e).toNat,
        e + (target n e - e).toNat) := rfl

theorem shiftToTargetExponent_of_lt {r : Nat} {t : Int} (hr : r < 2 ^ 53) (ht : -1074 ≤ t) :
    shiftToTargetExponent Format.binary64 r t .exact =
      (ExtendedMantissa.ofMantissaAndAccuracy r .exact, t) := by
  have hlog : r.log2 ≤ 52 := by
    by_cases hzero : r = 0
    · simp [hzero]
    · exact Nat.le_of_lt_succ ((Nat.log2_lt hzero).mpr hr)
  have hshift : (target r t - t).toNat = 0 := by
    rw [target]
    omega
  rw [shiftToTargetExponent_eq, hshift, Int.natCast_zero, Int.add_zero]
  rfl

theorem shiftToTargetExponent_carry {t : Int} (ht : -1074 ≤ t) :
    shiftToTargetExponent Format.binary64 (2 ^ 53) t .exact =
      (ExtendedMantissa.ofMantissaAndAccuracy (2 ^ 53) .exact >>> 1, t + 1) := by
  have hlog : (2 ^ 53 : Nat).log2 = 53 := Nat.log2_two_pow
  have hshift : (target (2 ^ 53) t - t).toNat = 1 := by
    rw [target, hlog]
    omega
  rw [shiftToTargetExponent_eq, hshift]
  rfl

def ofParts (s : Sign) (p : ExtendedMantissa × Int) : UnpackedFloat :=
  if h : p.1.mantissa = 0 then .zero s
  else .finite s p.1.mantissa p.2 (Nat.pos_of_ne_zero h)

theorem roundWithAccuracy_eq_ofParts (s : Sign) (n : Nat) (e : Int) :
    roundWithAccuracy Format.binary64 s n e .exact =
      ofParts s (shiftToTargetExponent Format.binary64
        (shiftToTargetExponent Format.binary64 n e .exact).1.roundedMantissa
        (shiftToTargetExponent Format.binary64 n e .exact).2 .exact) := rfl

theorem roundWithAccuracy_eq (s : Sign) (h : e ≤ target n e) :
    roundWithAccuracy Format.binary64 s n e .exact =
      assembled s (rounded n e) (target n e) := by
  have hguards := guards_shiftRight n (target n e - e).toNat
  have hexponent : e + ((target n e - e).toNat : Int) = target n e := by omega
  have hle := rounded_le h
  rw [roundWithAccuracy_eq_ofParts, shiftToTargetExponent_eq n e,
    hguards.roundedMantissa (Nat.two_pow_pos _), hexponent, ← rounded]
  generalize rounded n e = r at hle
  -- Rounding up may carry into a new digit, and then the mantissa is a power of two.
  rcases Nat.lt_or_eq_of_le hle with hlt | rfl
  · rw [shiftToTargetExponent_of_lt hlt (le_target n e), assembled]
    simp only [if_neg hlt.ne]
    rfl
  · rw [shiftToTargetExponent_carry (le_target n e)]
    rfl

end Rounding

/-!
## Packing what has been rounded

Rounding at the exponent of the digits is rounding the number of steps.  Before
a number is rounded its exponent is lowered so far that no digit is missing, and
this does not change the number of steps.
-/

/-- An infinity takes the place of what is too large. -/
def saturate (z : Int) : Int :=
  if limit ≤ z then 2 * limit else if z ≤ -limit then -(2 * limit) else z

theorem saturate_mono {y z : Int} (h : y ≤ z) : saturate y ≤ saturate z := by
  have := limit_pos
  unfold saturate
  split_ifs <;> omega

theorem saturate_neg (z : Int) : saturate (-z) = -saturate z := by
  have := limit_pos
  unfold saturate
  split_ifs <;> omega

theorem saturate_of_natAbs_lt {z : Int} (h : z.natAbs < limit) : saturate z = z := by
  unfold saturate
  split_ifs <;> omega

theorem saturate_natCast {n : Nat} (h : n < limit) : saturate n = n :=
  saturate_of_natAbs_lt h

theorem saturate_zero : saturate 0 = 0 :=
  saturate_natCast limit_pos

theorem saturate_apply (s : Sign) (z : Int) : saturate (s.apply z) = s.apply (saturate z) := by
  cases s
  · exact saturate_neg z
  · rfl

/-- The number of steps of a float that is packed and unpacked. -/
def packedSteps (a : UnpackedFloat) : Int :=
  stepsOf (pack a).unpack

theorem packedSteps_finite (s : Sign) {m : Nat} {e : Int} (hpos : 0 < m) (hm : m < 2 ^ 53)
    (hlow : -1074 ≤ e) (hfull : 2 ^ 52 ≤ m ∨ e = -1074) :
    packedSteps (.finite s m e hpos) = s.apply (saturate (size m e)) := by
  by_cases hhigh : e ≤ 971
  · have hcanonical : Canonical (.finite s m e hpos) := ⟨hm, hlow, hhigh, hfull⟩
    rw [packedSteps, unpack_pack hcanonical, saturate_of_natAbs_lt]
    · rfl
    · exact Regular.size_lt_limit hcanonical
  · have hlimit : limit ≤ size m e := by
      rw [limit_eq]
      exact size_le_size (hfull.resolve_right (by omega)) (by omega)
    rw [packedSteps, unpack_pack_of_overflow s hpos (by omega), saturate,
      if_pos (Int.ofNat_le.mpr hlimit)]
    rfl

theorem packedSteps_zero (s : Sign) : packedSteps (.zero s) = 0 := by
  have hcanonical : Canonical (.zero s) := True.intro
  rw [packedSteps, unpack_pack hcanonical]
  rfl

theorem packedSteps_assembled (s : Sign) {r : Nat} {t : Int} (hr : r ≤ 2 ^ 53) (ht : -1074 ≤ t)
    (hfull : 2 ^ 52 ≤ r ∨ t = -1074) :
    packedSteps (assembled s r t) = s.apply (saturate (size r t)) := by
  unfold assembled
  split_ifs with hzero hcarry
  · rw [packedSteps_zero, hzero]
    have hsize : ((size 0 t : Nat) : Int) = 0 := by
      rw [size, Nat.zero_mul]
      rfl
    rw [hsize, saturate_zero]
    cases s <;> rfl
  · have hsize : size (2 ^ 52) (t + 1) = size r t := by
      rw [hcarry, size, size, show (t + 1 + 1074).toNat = (t + 1074).toNat + 1 by omega,
        Nat.pow_succ]
      omega
    rw [packedSteps_finite s _ (by decide) (by omega) (.inl (Nat.le_refl _)), hsize]
  · exact packedSteps_finite s _ (by omega) ht hfull

theorem size_rounded {n : Nat} {e : Int} (hn : n ≠ 0) (hlow : -1074 ≤ e) (h : e ≤ target n e) :
    size (rounded n e) (target n e) = nearest (size n e) := by
  have hlog := log2_mul_two_pow hn (e + 1074).toNat
  have hsurplus : surplus (size n e) = (target n e + 1074).toNat := by
    rw [surplus, size, hlog, target]
    omega
  have hpow : 2 ^ (target n e + 1074).toNat =
      2 ^ (target n e - e).toNat * 2 ^ (e + 1074).toNat := by
    rw [← Nat.pow_add]
    congr 1
    omega
  rw [nearest, hsurplus, hpow, size, size, roundDiv_mul_right _ _ _ (Nat.two_pow_pos _), ← hpow,
    ← rounded]

theorem packedSteps_roundWithAccuracy (s : Sign) {n : Nat} {e : Int} (hn : n ≠ 0)
    (hlow : -1074 ≤ e) (h : e ≤ target n e) :
    packedSteps (roundWithAccuracy Format.binary64 s n e .exact) =
      s.apply (saturate (nearest (size n e))) := by
  rw [roundWithAccuracy_eq s h,
    packedSteps_assembled s (rounded_le h) (le_target n e) (rounded_full hn h),
    size_rounded hn hlow h]

theorem packedSteps_round (s : Sign) {n : Nat} {e : Int} (hn : n ≠ 0) (hlow : -1074 ≤ e) :
    packedSteps (round Format.binary64 s n e) = s.apply (saturate (nearest (size n e))) := by
  have hround : round Format.binary64 s n e =
      roundWithAccuracy Format.binary64 s (n <<< (e - target n e).toNat)
        (e - (e - target n e).toNat) .exact := rfl
  have htarget : target (n <<< (e - target n e).toNat) (e - (e - target n e).toNat) =
      target n e := by
    rw [Nat.shiftLeft_eq, target, log2_mul_two_pow hn]
    unfold target
    omega
  have hsize : size (n <<< (e - target n e).toNat) (e - (e - target n e).toNat) = size n e := by
    have hlowest := le_target n e
    rw [size, size, Nat.shiftLeft_eq, Nat.mul_assoc, ← Nat.pow_add]
    congr 2
    omega
  have hne : n <<< (e - target n e).toNat ≠ 0 := by
    rw [Nat.shiftLeft_eq]
    exact Nat.mul_ne_zero hn (Nat.two_pow_pos _).ne'
  have hlowest := le_target n e
  rw [hround, packedSteps_roundWithAccuracy s hne (by omega) (by rw [htarget]; omega), hsize]

theorem normalize_natCast {n : Nat} (hn : n ≠ 0) (e : Int) :
    UnpackedFloat.normalize Format.binary64 n e .positive =
      round Format.binary64 .positive n e := by
  have hpos : 0 < (n : Int) := by omega
  unfold UnpackedFloat.normalize
  rw [compare_gt_iff_gt.mpr hpos]
  rfl

theorem normalize_neg_natCast {n : Nat} (hn : n ≠ 0) (e : Int) :
    UnpackedFloat.normalize Format.binary64 (-n) e .positive =
      round Format.binary64 .negative n e := by
  have hneg : -(n : Int) < 0 := by omega
  unfold UnpackedFloat.normalize
  rw [compare_lt_iff_lt.mpr hneg]
  show round Format.binary64 .negative (- -(n : Int)).toNat e = _
  rw [Int.neg_neg, Int.toNat_natCast]

theorem normalize_zero (e : Int) :
    UnpackedFloat.normalize Format.binary64 0 e .positive = .zero .positive := rfl

theorem packedSteps_normalize (z : Int) {e : Int} (hlow : -1074 ≤ e) :
    packedSteps (UnpackedFloat.normalize Format.binary64 z e .positive) =
      saturate (nearestInt (z * 2 ^ (e + 1074).toNat)) := by
  have hsize : forall n : Nat, (n : Int) * 2 ^ (e + 1074).toNat = size n e := by
    intro n
    rw [size]
    push_cast
    rfl
  by_cases hzero : z = 0
  · rw [hzero, normalize_zero, packedSteps_zero, Int.zero_mul, nearestInt_zero,
      saturate_zero]
  · rcases Int.eq_nat_or_neg z with ⟨n, rfl | rfl⟩
    · have hn : n ≠ 0 := by omega
      rw [normalize_natCast hn, packedSteps_round .positive hn hlow, hsize, nearestInt_natCast]
      rfl
    · have hn : n ≠ 0 := by omega
      rw [normalize_neg_natCast hn, packedSteps_round .negative hn hlow, Int.neg_mul, hsize,
        nearestInt_neg, saturate_neg, nearestInt_natCast]
      rfl

/-!
## Sums

Finite floats are put on one exponent and then added exactly.  A sum with an
infinity is that infinity unless the other is the opposite one, and rounding the
steps says the same: nothing finite brings an infinity back.  Rounding leaves
the number of steps of a float alone, and this takes care of sums with a zero.
-/

theorem decreaseExponent_steps (m : Nat) {e t : Int} (h : t ≤ e) (hlow : -1074 ≤ t) :
    ((decreaseExponent m e t).1 : Int) * 2 ^ (t + 1074).toNat = size m e := by
  have hshift : (decreaseExponent m e t).1 = m * 2 ^ (e - t).toNat := Nat.shiftLeft_eq _ _
  have hpow : m * 2 ^ (e - t).toNat * 2 ^ (t + 1074).toNat = size m e := by
    rw [size, Nat.mul_assoc, ← Nat.pow_add]
    congr 2
    omega
  rw [hshift, ← hpow]
  push_cast
  rfl

theorem apply_mul (s : Sign) (x y : Int) : s.apply x * y = s.apply (x * y) := by
  cases s
  · exact Int.neg_mul x y
  · rfl

theorem packedSteps_add_finite (s r : Sign) {m n : Nat} {e f : Int} (hm : 0 < m) (hn : 0 < n)
    (he : -1074 ≤ e) (hf : -1074 ≤ f) :
    packedSteps (UnpackedFloat.add Format.binary64 (.finite s m e hm) (.finite r n f hn)) =
      saturate (nearestInt (s.apply (size m e) + r.apply (size n f))) := by
  have hlow : -1074 ≤ min e f := le_min he hf
  have hadd : UnpackedFloat.add Format.binary64 (.finite s m e hm) (.finite r n f hn) =
      UnpackedFloat.normalize Format.binary64
        (s.apply ((decreaseExponent m e (min e f)).1 : Nat) +
          r.apply ((decreaseExponent n f (min e f)).1 : Nat)) (min e f) .positive := rfl
  rw [hadd, packedSteps_normalize _ hlow, Int.add_mul, apply_mul, apply_mul,
    decreaseExponent_steps m (min_le_left e f) hlow,
    decreaseExponent_steps n (min_le_right e f) hlow]

theorem packedSteps_of_canonical {a : UnpackedFloat} (ha : Canonical a) :
    packedSteps a = stepsOf a := by
  rw [packedSteps, unpack_pack ha]

theorem nearestInt_apply (s : Sign) (z : Int) :
    nearestInt (s.apply z) = s.apply (nearestInt z) := by
  cases s
  · exact nearestInt_neg z
  · rfl

theorem nearestInt_size {m : Nat} (hm : m < 2 ^ 53) (e : Int) :
    nearestInt (size m e) = size m e := by
  rw [nearestInt_natCast, size, nearest_of_lt hm]

theorem saturate_nearestInt_of_le (s : Sign) {z : Int} (h : limit ≤ z) :
    saturate (nearestInt (s.apply z)) = s.apply (2 * limit) := by
  have hlimit : nearestInt limit = limit := by
    rw [limit_eq]
    exact nearestInt_size (by decide) 972
  have hle : (limit : Int) ≤ nearestInt z := by
    rw [← hlimit]
    exact nearestInt_mono h
  rw [nearestInt_apply, saturate_apply, saturate, if_pos hle]

theorem saturate_nearestInt_stepsOf {a : UnpackedFloat} (ha : Canonical a) :
    saturate (nearestInt (stepsOf a)) = stepsOf a := by
  cases a with
  | notANumber => rw [stepsOf, nearestInt_zero, saturate_zero]
  | zero s => rw [stepsOf, nearestInt_zero, saturate_zero]
  | infinity s => exact saturate_nearestInt_of_le s (by omega)
  | finite s m e hm =>
      have hregular : Regular m e := ha
      rw [stepsOf, nearestInt_apply, nearestInt_size hregular.mantissa, saturate_apply,
        saturate_natCast hregular.size_lt_limit]

theorem saturate_infinity_add (s : Sign) {z : Int} (h : z.natAbs < limit) :
    saturate (nearestInt (s.apply (2 * limit) + z)) = s.apply (2 * limit) := by
  have hsplit : s.apply (2 * limit) + z = s.apply (2 * limit + s.apply z) := by
    cases s
    · simp only [Sign.apply]
      omega
    · rfl
  have hle : (limit : Int) ≤ 2 * limit + s.apply z := by
    cases s
    · simp only [Sign.apply]
      omega
    · simp only [Sign.apply]
      omega
  rw [hsplit, saturate_nearestInt_of_le s hle]

theorem natAbs_stepsOf_zero (s : Sign) : (stepsOf (.zero s)).natAbs < limit :=
  limit_pos

theorem natAbs_stepsOf_finite (s : Sign) {m : Nat} {e : Int} (hm : 0 < m) (h : Regular m e) :
    (stepsOf (.finite s m e hm)).natAbs < limit := by
  have hsize := h.size_lt_limit
  cases s <;> simp only [stepsOf, Sign.apply] <;> omega

theorem packedSteps_infinity_add (s : Sign) {z : Int} (h : z.natAbs < limit) :
    packedSteps (.infinity s) = saturate (nearestInt (stepsOf (.infinity s) + z)) := by
  have hcanonical : Canonical (.infinity s) := True.intro
  rw [packedSteps_of_canonical hcanonical]
  exact (saturate_infinity_add s h).symm

theorem packedSteps_infinity_add_infinity (s r : Sign)
    (h : (UnpackedFloat.add Format.binary64 (.infinity s) (.infinity r)).isNaN = false) :
    packedSteps (UnpackedFloat.add Format.binary64 (.infinity s) (.infinity r)) =
      saturate (nearestInt (stepsOf (.infinity s) + stepsOf (.infinity r))) := by
  have hcanonical : Canonical (.infinity s) := True.intro
  have htwice : saturate (nearestInt (s.apply (2 * limit + 2 * limit))) = s.apply (2 * limit) :=
    saturate_nearestInt_of_le s (by omega)
  cases s <;> cases r
  · rw [stepsOf, Sign.apply, ← Int.neg_add]
    exact (packedSteps_of_canonical hcanonical).trans htwice.symm
  · cases h
  · cases h
  · exact (packedSteps_of_canonical hcanonical).trans htwice.symm

/-- A sum that is a number is the exact sum, rounded. -/
theorem packedSteps_add {a b : UnpackedFloat} (ha : Canonical a) (hb : Canonical b)
    (h : (UnpackedFloat.add Format.binary64 a b).isNaN = false) :
    packedSteps (UnpackedFloat.add Format.binary64 a b) =
      saturate (nearestInt (stepsOf a + stepsOf b)) := by
  cases a with
  | notANumber => cases h
  | infinity s =>
      cases b with
      | notANumber => cases h
      | infinity r => exact packedSteps_infinity_add_infinity s r h
      | zero r => exact packedSteps_infinity_add s (natAbs_stepsOf_zero r)
      | finite r n f hn => exact packedSteps_infinity_add s (natAbs_stepsOf_finite r hn hb)
  | zero s =>
      cases b with
      | notANumber => cases h
      | infinity r =>
          rw [Int.add_comm]
          exact packedSteps_infinity_add r (natAbs_stepsOf_zero s)
      | zero r =>
          rw [stepsOf, stepsOf, Int.add_zero, nearestInt_zero, saturate_zero]
          cases s <;> cases r <;> exact packedSteps_zero _
      | finite r n f hn =>
          rw [stepsOf, Int.zero_add, saturate_nearestInt_stepsOf hb]
          exact packedSteps_of_canonical hb
  | finite s m e hm =>
      cases b with
      | notANumber => cases h
      | infinity r =>
          rw [Int.add_comm]
          exact packedSteps_infinity_add r (natAbs_stepsOf_finite s hm ha)
      | zero r =>
          rw [@stepsOf.eq_def (.zero r), Int.add_zero, saturate_nearestInt_stepsOf ha]
          exact packedSteps_of_canonical ha
      | finite r n f hn =>
          exact packedSteps_add_finite s r hm hn (Regular.low ha) (Regular.low hb)

/-!
## Sums, opposites, and halves of floats

Only opposite infinities have no sum.  Adding zero changes nothing, except for
the sign of a zero.  The opposite of a float has the opposite number of steps.
-/

section Floats

variable {a b c d : Float}

theorem isNaN_add : (a + b).isNaN =
    (UnpackedFloat.add Format.binary64 a.toModel.unpack b.toModel.unpack).isNaN :=
  isNaN_unpack_pack _

theorem steps_add (h : (a + b).isNaN = false) :
    steps (a + b) = saturate (nearestInt (steps a + steps b)) :=
  packedSteps_add (canonical_unpack _) (canonical_unpack _) (isNaN_add ▸ h)

/-- Addition never turns the order around. -/
theorem add_le_add (hab : a ≤ b) (hcd : c ≤ d) (hac : (a + c).isNaN = false)
    (hbd : (b + d).isNaN = false) : a + c ≤ b + d := by
  rcases isNaN_eq_false_of_le hab with ⟨ha, hb⟩
  rcases isNaN_eq_false_of_le hcd with ⟨hc, hd⟩
  have hsteps := Int.add_le_add ((le_iff_steps ha hb).mp hab) ((le_iff_steps hc hd).mp hcd)
  rw [le_iff_steps hac hbd, steps_add hac, steps_add hbd]
  exact saturate_mono (nearestInt_mono hsteps)

theorem isNaN_roundWithAccuracy (s : Sign) (n : Nat) (e : Int) :
    (roundWithAccuracy Format.binary64 s n e .exact).isNaN = false := by
  rw [roundWithAccuracy_eq_ofParts, ofParts]
  split <;> rfl

theorem isNaN_normalize (z e : Int) :
    (UnpackedFloat.normalize Format.binary64 z e .positive).isNaN = false := by
  unfold UnpackedFloat.normalize
  split
  · exact isNaN_roundWithAccuracy _ _ _
  · rfl
  · exact isNaN_roundWithAccuracy _ _ _

theorem isNaN_add_of_isFinite (ha : a.isNaN = false) (hb : b.isFinite = true) :
    (a + b).isNaN = false := by
  have hnan : a.toModel.unpack.isNaN = false := ha
  rw [isNaN_add]
  rcases zero_or_regular_of_isFinite hb with ⟨s, h⟩ | ⟨s, n, f, hn, h, _⟩
  · rw [h]
    cases hx : a.toModel.unpack with
    | notANumber =>
        rw [hx] at hnan
        cases hnan
    | infinity r => rfl
    | zero r => cases r <;> cases s <;> rfl
    | finite r m e hm => rfl
  · rw [h]
    cases hx : a.toModel.unpack with
    | notANumber =>
        rw [hx] at hnan
        cases hnan
    | infinity r => rfl
    | zero r => rfl
    | finite r m e hm => exact isNaN_normalize _ _

theorem steps_zero : steps 0.0 = 0 := rfl

theorem isFinite_zero : (0.0 : Float).isFinite = true := rfl

theorem steps_add_zero (ha : a.isNaN = false) : steps (a + 0.0) = steps a := by
  rw [steps_add (isNaN_add_of_isFinite ha isFinite_zero), steps_zero, Int.add_zero]
  exact saturate_nearestInt_stepsOf (canonical_unpack _)

theorem unpack_neg (a : Float) : (-a).toModel.unpack = a.toModel.unpack.neg :=
  unpack_pack (canonical_unpack a.toModel).neg

theorem steps_neg (a : Float) : steps (-a) = -steps a := by
  rw [steps, steps, unpack_neg]
  cases a.toModel.unpack with
  | notANumber => rfl
  | zero s => rfl
  | infinity s => cases s <;> simp [UnpackedFloat.neg, stepsOf, Sign.apply]
  | finite s m e hm => cases s <;> simp [UnpackedFloat.neg, stepsOf, Sign.apply]

theorem isFinite_neg (a : Float) : (-a).isFinite = a.isFinite := by
  show (-a).toModel.unpack.isFinite = a.toModel.unpack.isFinite
  rw [unpack_neg]
  cases a.toModel.unpack <;> rfl

theorem canonical_assembled (s : Sign) {r : Nat} {t : Int} (hr : r ≤ 2 ^ 53) (hlow : -1074 ≤ t)
    (hhigh : t ≤ 970) (hfull : 2 ^ 52 ≤ r ∨ t = -1074) : Canonical (assembled s r t) := by
  unfold assembled
  split_ifs
  · exact True.intro
  · exact ⟨by decide, by omega, by omega, .inl (Nat.le_refl _)⟩
  · exact ⟨by omega, hlow, by omega, hfull⟩

theorem isFinite_assembled (s : Sign) (r : Nat) (t : Int) : (assembled s r t).isFinite = true := by
  unfold assembled
  split_ifs <;> rfl

theorem stepsOf_assembled_nonneg (r : Nat) (t : Int) : 0 ≤ stepsOf (assembled .positive r t) := by
  unfold assembled
  split_ifs
  · exact Int.le_refl 0
  · exact Int.natCast_nonneg _
  · exact Int.natCast_nonneg _

theorem exists_finite_of_steps_pos (hfinite : a.isFinite = true) (hpos : 0 < steps a) :
    exists m e, exists hm : 0 < m, a.toModel.unpack = .finite .positive m e hm ∧ Regular m e := by
  rw [steps] at hpos
  rcases zero_or_regular_of_isFinite hfinite with ⟨s, h⟩ | ⟨s, m, e, hm, h, hregular⟩
  · rw [h] at hpos
    exact absurd hpos (Int.lt_irrefl 0)
  · rw [h] at hpos
    cases s with
    | negative =>
        have hsize := size_pos e hm
        rw [stepsOf, Sign.apply] at hpos
        omega
    | positive => exact ⟨m, e, hm, h, hregular⟩

theorem unpack_half : (0.5 : Float).toModel.unpack = .finite .positive (2 ^ 52) (-53) (by decide) :=
  rfl

/-- Half of a positive finite float is finite and not negative, although it may vanish. -/
theorem half_of_steps_pos (hfinite : a.isFinite = true) (hpos : 0 < steps a) :
    (a * 0.5).isFinite = true ∧ 0 ≤ steps (a * 0.5) := by
  rcases exists_finite_of_steps_pos hfinite hpos with ⟨m, e, hm, ha, hregular⟩
  have hn : m * 2 ^ 52 ≠ 0 := Nat.mul_ne_zero hm.ne' (by decide)
  have hlog : m.log2 ≤ 52 := Nat.le_of_lt_succ ((Nat.log2_lt hm.ne').mpr hregular.mantissa)
  have hlow := hregular.low
  have hhigh := hregular.high
  have htarget : target (m * 2 ^ 52) (e + -53) = max (m.log2 + e - 53) (-1074) := by
    rw [target, log2_mul_two_pow hm.ne']
    omega
  -- The product has more digits than a float, so it is rounded.
  have hle : e + -53 ≤ target (m * 2 ^ 52) (e + -53) := by
    rw [htarget]
    omega
  have hcanonical := canonical_assembled .positive (rounded_le hle) (le_target _ _)
    (by rw [htarget]; omega) (rounded_full hn hle)
  have hproduct : (a * 0.5).toModel =
      pack (UnpackedFloat.mul Format.binary64 a.toModel.unpack (0.5 : Float).toModel.unpack) := rfl
  have hunpack : (a * 0.5).toModel.unpack =
      assembled .positive (rounded (m * 2 ^ 52) (e + -53)) (target (m * 2 ^ 52) (e + -53)) := by
    rw [hproduct, ha, unpack_half, ← unpack_pack hcanonical, ← roundWithAccuracy_eq .positive hle]
    rfl
  constructor
  · show (a * 0.5).toModel.unpack.isFinite = true
    rw [hunpack]
    exact isFinite_assembled _ _ _
  · rw [steps, hunpack]
    exact stepsOf_assembled_nonneg _ _

end Floats

end Decimal
end Drafting
