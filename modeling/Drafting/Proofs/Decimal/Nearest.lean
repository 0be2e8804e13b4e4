import Drafting.Decimal.Rounding
import Mathlib

/-!
# Rounding to the nearest float

The sum of two finite floats is a whole number of steps, where a step is the
least positive float.  Rounding such a number keeps its 53 highest binary
digits and takes the rest to the nearest, an exact half to even.  This module
says what that does to the order of numbers, and that it is what the arithmetic
of floats does with its guard digits.
-/

namespace Drafting
namespace Decimal

/-!
## Quotients

A quotient is taken to the next number or cut off.  In an interval between two
whole quotients, what is above a number that goes up does so as well; hence
rounding keeps the order.  A factor that numerator and denominator have in
common does not matter.
-/

section Quotients

variable (tie : Tie)

/-- Whether a quotient is taken to the next number. -/
def GoesUp (num den : Nat) : Prop :=
  den < 2 * (num % den) ∨ (2 * (num % den) = den ∧ tie.raises (num / den) = true)

theorem roundDiv_of_goesUp {num den : Nat} (h : GoesUp tie num den) :
    roundDiv tie num den = num / den + 1 := by
  unfold roundDiv
  rcases h with hmore | ⟨hhalf, hraises⟩
  · simp only [if_pos hmore]
  · simp [hhalf, hraises]

theorem roundDiv_of_not_goesUp {num den : Nat} (h : ¬ GoesUp tie num den) :
    roundDiv tie num den = num / den := by
  rw [GoesUp, not_or] at h
  unfold roundDiv
  simp only [if_neg h.1, Bool.and_eq_true, decide_eq_true_eq, if_neg h.2]

theorem div_le_roundDiv (num den : Nat) : num / den ≤ roundDiv tie num den := by
  by_cases h : GoesUp tie num den
  · rw [roundDiv_of_goesUp tie h]
    exact Nat.le_succ _
  · rw [roundDiv_of_not_goesUp tie h]

theorem roundDiv_le_succ (num den : Nat) : roundDiv tie num den ≤ num / den + 1 := by
  by_cases h : GoesUp tie num den
  · rw [roundDiv_of_goesUp tie h]
  · rw [roundDiv_of_not_goesUp tie h]
    exact Nat.le_succ _

theorem GoesUp.mono {m n den : Nat} (h : GoesUp tie m den) (hle : m ≤ n)
    (hsame : m / den = n / den) : GoesUp tie n den := by
  have hm := Nat.div_add_mod m den
  have hn := Nat.div_add_mod n den
  rw [hsame] at hm
  have hrest : m % den ≤ n % den := by omega
  rcases h with hmore | ⟨hhalf, hraises⟩
  · exact .inl (by omega)
  · rcases Nat.eq_or_lt_of_le hrest with heq | hlt
    · exact .inr ⟨by omega, hsame ▸ hraises⟩
    · exact .inl (by omega)

theorem roundDiv_mono {m n : Nat} (den : Nat) (h : m ≤ n) :
    roundDiv tie m den ≤ roundDiv tie n den := by
  rcases Nat.lt_or_eq_of_le (Nat.div_le_div_right h : m / den ≤ n / den) with hlt | heq
  · calc roundDiv tie m den ≤ m / den + 1 := roundDiv_le_succ tie m den
      _ ≤ n / den := hlt
      _ ≤ roundDiv tie n den := div_le_roundDiv tie n den
  · by_cases hm : GoesUp tie m den
    · rw [roundDiv_of_goesUp tie hm, roundDiv_of_goesUp tie (hm.mono tie h heq), heq]
    · calc roundDiv tie m den = n / den := by rw [roundDiv_of_not_goesUp tie hm, heq]
        _ ≤ roundDiv tie n den := div_le_roundDiv tie n den

theorem roundDiv_mul_right (num den : Nat) {k : Nat} (hk : 0 < k) :
    roundDiv tie (num * k) (den * k) = roundDiv tie num den := by
  have hup : GoesUp tie (num * k) (den * k) ↔ GoesUp tie num den := by
    simp only [GoesUp, Nat.mul_mod_mul_right, Nat.mul_div_mul_right _ _ hk, ← Nat.mul_assoc,
      Nat.mul_lt_mul_right hk, Nat.mul_left_inj hk.ne']
  by_cases h : GoesUp tie num den
  · rw [roundDiv_of_goesUp tie h, roundDiv_of_goesUp tie (hup.mpr h),
      Nat.mul_div_mul_right _ _ hk]
  · rw [roundDiv_of_not_goesUp tie h, roundDiv_of_not_goesUp tie (mt hup.mp h),
      Nat.mul_div_mul_right _ _ hk]

end Quotients

/-!
## Whole numbers of steps

Of a number with more than 53 binary digits the surplus is rounded away, and
what has no more of them is not rounded at all.  Between numbers with different
numbers of digits there is a power of two, which is not rounded either.
-/

def surplus (n : Nat) : Nat :=
  n.log2 - 52

/-- The number with 53 significant binary digits that is nearest to `n`. -/
def nearest (n : Nat) : Nat :=
  roundDiv .toEven n (2 ^ surplus n) * 2 ^ surplus n

theorem surplus_le_log2 (n : Nat) : surplus n ≤ n.log2 :=
  Nat.sub_le _ _

theorem log2_mono {m n : Nat} (h : m ≤ n) : m.log2 ≤ n.log2 := by
  rw [Nat.log2_eq_log_two, Nat.log2_eq_log_two]
  exact Nat.log_mono_right h

theorem log2_mul_two_pow {n : Nat} (hn : n ≠ 0) (k : Nat) : (n * 2 ^ k).log2 = n.log2 + k := by
  rw [Nat.log2_eq_iff (Nat.mul_ne_zero hn (Nat.two_pow_pos k).ne'), Nat.pow_add,
    Nat.add_right_comm, Nat.pow_add]
  exact ⟨Nat.mul_le_mul_right _ (Nat.log2_self_le hn),
    Nat.mul_lt_mul_of_pos_right Nat.lt_log2_self (Nat.two_pow_pos k)⟩

theorem nearest_le (n : Nat) : nearest n ≤ 2 ^ (n.log2 + 1) := by
  have hsplit : 2 ^ (n.log2 + 1) = 2 ^ (n.log2 + 1 - surplus n) * 2 ^ surplus n := by
    rw [← Nat.pow_add, Nat.sub_add_cancel (Nat.le_succ_of_le (surplus_le_log2 n))]
  have hdiv : n / 2 ^ surplus n < 2 ^ (n.log2 + 1 - surplus n) := by
    rw [Nat.div_lt_iff_lt_mul (Nat.two_pow_pos _), ← hsplit]
    exact Nat.lt_log2_self
  rw [hsplit]
  exact Nat.mul_le_mul_right _ (Nat.le_trans (roundDiv_le_succ .toEven n _) hdiv)

theorem le_nearest {n : Nat} (h : n ≠ 0) : 2 ^ n.log2 ≤ nearest n := by
  have hsplit : 2 ^ n.log2 = 2 ^ (n.log2 - surplus n) * 2 ^ surplus n := by
    rw [← Nat.pow_add, Nat.sub_add_cancel (surplus_le_log2 n)]
  have hdiv : 2 ^ (n.log2 - surplus n) ≤ n / 2 ^ surplus n := by
    rw [Nat.le_div_iff_mul_le (Nat.two_pow_pos _), ← hsplit]
    exact Nat.log2_self_le h
  rw [hsplit]
  exact Nat.mul_le_mul_right _ (Nat.le_trans hdiv (div_le_roundDiv .toEven n _))

@[simp] theorem nearest_zero : nearest 0 = 0 := by
  decide

theorem nearest_mono {m n : Nat} (h : m ≤ n) : nearest m ≤ nearest n := by
  by_cases hm : m = 0
  · subst hm
    rw [nearest_zero]
    exact Nat.zero_le _
  have hn : n ≠ 0 := by omega
  -- With different numbers of digits there is a power of two between the results.
  rcases Nat.lt_or_eq_of_le (log2_mono h) with hlt | heq
  · calc nearest m ≤ 2 ^ (m.log2 + 1) := nearest_le m
      _ ≤ 2 ^ n.log2 := Nat.pow_le_pow_right (by decide) hlt
      _ ≤ nearest n := le_nearest hn
  · rw [nearest, nearest, surplus, surplus, heq]
    exact Nat.mul_le_mul_right _ (roundDiv_mono .toEven _ h)

theorem nearest_of_lt {m : Nat} (hm : m < 2 ^ 53) (k : Nat) :
    nearest (m * 2 ^ k) = m * 2 ^ k := by
  by_cases hzero : m = 0
  · simp [hzero]
  have hlog : (m * 2 ^ k).log2 < 53 + k := by
    rw [Nat.log2_lt (Nat.mul_ne_zero hzero (Nat.two_pow_pos k).ne'), Nat.pow_add]
    exact Nat.mul_lt_mul_of_pos_right hm (Nat.two_pow_pos k)
  have hdvd : 2 ^ surplus (m * 2 ^ k) ∣ m * 2 ^ k :=
    Nat.dvd_mul_left_of_dvd (Nat.pow_dvd_pow 2 (by rw [surplus]; omega)) m
  rw [nearest, roundDiv_of_dvd .toEven (Nat.two_pow_pos _) (Nat.mod_eq_zero_of_dvd hdvd),
    Nat.div_mul_cancel hdvd]

/-- The same for numbers of either sign. -/
def nearestInt (z : Int) : Int :=
  z.sign * nearest z.natAbs

@[simp] theorem nearestInt_zero : nearestInt 0 = 0 := rfl

theorem nearestInt_natCast (n : Nat) : nearestInt n = nearest n := by
  cases n with
  | zero => simp [nearestInt]
  | succ n => rw [nearestInt, Int.sign_natCast_of_ne_zero n.succ_ne_zero, Int.natAbs_natCast,
      Int.one_mul]

theorem nearestInt_neg (z : Int) : nearestInt (-z) = -nearestInt z := by
  rw [nearestInt, nearestInt, Int.sign_neg, Int.natAbs_neg, Int.neg_mul]

theorem nearestInt_mono {y z : Int} (h : y ≤ z) : nearestInt y ≤ nearestInt z := by
  have hnonneg : forall n : Nat, (0 : Int) ≤ nearestInt n := by
    intro n
    rw [nearestInt_natCast]
    exact Int.natCast_nonneg _
  rcases Int.eq_nat_or_neg y with ⟨m, rfl | rfl⟩
  · rcases Int.eq_ofNat_of_zero_le (Int.le_trans (Int.natCast_nonneg m) h) with ⟨n, rfl⟩
    rw [nearestInt_natCast, nearestInt_natCast]
    exact Int.ofNat_le.mpr (nearest_mono (Int.ofNat_le.mp h))
  · rcases Int.eq_nat_or_neg z with ⟨n, rfl | rfl⟩
    · have hm := hnonneg m
      have hn := hnonneg n
      rw [nearestInt_neg]
      omega
    · rw [nearestInt_neg, nearestInt_neg, nearestInt_natCast, nearestInt_natCast]
      exact Int.neg_le_neg (Int.ofNat_le.mpr (nearest_mono (by omega)))

/-!
## Guard digits

The arithmetic of floats shifts binary digits out one by one, and keeps of them
the last one and whether there was a one among the others.
-/

section Guards

open Float.Model UnpackedFloat

/-- Mantissa and guard digits stand for `num / den`. -/
structure Guards (em : ExtendedMantissa) (num den : Nat) : Prop where
  mantissa : em.mantissa = num / den
  round : em.roundBit = true ↔ den ≤ 2 * (num % den)
  sticky : em.stickyBit = true ↔ num % den ≠ 0 ∧ 2 * (num % den) ≠ den

theorem guards_exact (n : Nat) :
    Guards (ExtendedMantissa.ofMantissaAndAccuracy n .exact) n 1 where
  mantissa := by simp [ExtendedMantissa.ofMantissaAndAccuracy]
  round := by simp [ExtendedMantissa.ofMantissaAndAccuracy, Nat.mod_one]
  sticky := by simp [ExtendedMantissa.ofMantissaAndAccuracy, Nat.mod_one]

theorem Guards.shiftRightOne {em : ExtendedMantissa} {num den : Nat} (h : Guards em num den)
    (hden : 0 < den) : Guards em.shiftRightOne num (den * 2) := by
  have hrest : num % (den * 2) = num % den + den * (num / den % 2) := Nat.mod_mul
  have hlt := Nat.mod_lt num hden
  have hdigit : num / den % 2 = 0 ∨ num / den % 2 = 1 := Nat.mod_two_eq_zero_or_one _
  have hguard : (em.roundBit || em.stickyBit) = true ↔ num % den ≠ 0 := by
    rw [Bool.or_eq_true, h.round, h.sticky]
    omega
  constructor
  · simp only [ExtendedMantissa.shiftRightOne, h.mantissa, Nat.div_div_eq_div_mul]
  · simp only [ExtendedMantissa.shiftRightOne, h.mantissa, bne_iff_ne, ne_eq, hrest]
    rcases hdigit with hd | hd <;> rw [hd] <;> omega
  · simp only [ExtendedMantissa.shiftRightOne, hguard, hrest]
    rcases hdigit with hd | hd <;> rw [hd] <;> omega

theorem guards_shiftRight (n k : Nat) :
    Guards (ExtendedMantissa.ofMantissaAndAccuracy n .exact >>> k) n (2 ^ k) := by
  induction k with
  | zero => exact guards_exact n
  | succ k ih =>
      rw [Nat.pow_succ]
      exact ih.shiftRightOne (Nat.two_pow_pos k)

theorem Guards.roundedMantissa {em : ExtendedMantissa} {num den : Nat} (h : Guards em num den)
    (hden : 0 < den) : em.roundedMantissa = roundDiv .toEven num den := by
  have hround := h.round
  have hsticky := h.sticky
  have hup : GoesUp .toEven num den ↔
      den < 2 * (num % den) ∨ (2 * (num % den) = den ∧ num / den % 2 = 1) := by
    simp [GoesUp, Tie.raises]
  rcases em with ⟨m, r, s⟩
  have hm : m = num / den := h.mantissa
  cases r <;> cases s <;> simp only [Bool.false_eq_true, false_iff, true_iff] at hround hsticky
  · rw [roundDiv_of_not_goesUp .toEven (by rw [hup]; omega)]
    exact hm
  · rw [roundDiv_of_not_goesUp .toEven (by rw [hup]; omega)]
    exact hm
  · have heven : m + m % 2 = roundDiv .toEven num den := by
      rcases Nat.mod_two_eq_zero_or_one m with hparity | hparity
      · rw [roundDiv_of_not_goesUp .toEven (by rw [hup, ← hm]; omega), hparity, hm, Nat.add_zero]
      · rw [roundDiv_of_goesUp .toEven (by rw [hup, ← hm]; omega), hparity, hm]
    exact heven
  · rw [roundDiv_of_goesUp .toEven (by rw [hup]; omega), ← hm]
    rfl

end Guards

end Decimal
end Drafting
