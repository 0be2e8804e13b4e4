import Mathlib

/-!
# How floats compare

Two floats are compared unless one of them is not a number, and comparing them
the other way round gives the opposite answer.  So a test for "less" that fails
says nothing until both sides are known to be numbers.
-/

namespace Drafting
namespace Decimal

open Float.Model

theorem compare_magnitudes_swap (m n : Nat) (e f : Int) :
    (compare f e).then (compare n m) = ((compare e f).then (compare m n)).swap := by
  rw [Ordering.swap_then, ← Std.OrientedCmp.eq_swap, ← Std.OrientedCmp.eq_swap]

theorem compare_swap (a b : UnpackedFloat) : b.compare a = (a.compare b).map Ordering.swap := by
  cases a with
  | notANumber => cases b <;> rfl
  | infinity s =>
      cases b with
      | infinity r => cases s <;> cases r <;> rfl
      | notANumber => cases s <;> rfl
      | zero r => cases s <;> rfl
      | finite r n f hn => cases s <;> rfl
  | zero s =>
      cases b with
      | infinity r => cases r <;> rfl
      | notANumber => rfl
      | zero r => rfl
      | finite r n f hn => cases r <;> rfl
  | finite s m e hm =>
      cases b with
      | infinity r => cases r <;> cases s <;> rfl
      | notANumber => cases s <;> rfl
      | zero r => cases s <;> rfl
      | finite r n f hn =>
          cases s <;> cases r
          · exact congrArg (fun o => some o.swap) (compare_magnitudes_swap m n e f)
          · rfl
          · rfl
          · exact congrArg some (compare_magnitudes_swap m n e f)

theorem isSome_compare_iff {a b : UnpackedFloat} :
    (a.compare b).isSome = true ↔ a.isNaN = false ∧ b.isNaN = false := by
  cases a with
  | notANumber => simp [UnpackedFloat.compare, UnpackedFloat.isNaN]
  | infinity s =>
      cases b <;> cases s <;> simp [UnpackedFloat.compare, UnpackedFloat.isNaN]
  | zero s =>
      cases b with
      | notANumber => simp [UnpackedFloat.compare, UnpackedFloat.isNaN]
      | zero r => simp [UnpackedFloat.compare, UnpackedFloat.isNaN]
      | infinity r => cases r <;> simp [UnpackedFloat.compare, UnpackedFloat.isNaN]
      | finite r n f hn => cases r <;> simp [UnpackedFloat.compare, UnpackedFloat.isNaN]
  | finite s m e hm =>
      cases b with
      | notANumber => cases s <;> simp [UnpackedFloat.compare, UnpackedFloat.isNaN]
      | zero r => cases s <;> simp [UnpackedFloat.compare, UnpackedFloat.isNaN]
      | infinity r =>
          cases r <;> cases s <;> simp [UnpackedFloat.compare, UnpackedFloat.isNaN]
      | finite r n f hn =>
          cases s <;> cases r <;> simp [UnpackedFloat.compare, UnpackedFloat.isNaN]

/-!
## Comparing floats

The answer of a comparison, if there is one, settles every test of floats.  Only
numbers are less than others.
-/

def order? (a b : Float) : Option Ordering :=
  a.toModel.unpack.compare b.toModel.unpack

theorem order?_swap (a b : Float) : order? b a = (order? a b).map Ordering.swap :=
  compare_swap _ _

theorem isSome_order?_iff {a b : Float} :
    (order? a b).isSome = true ↔ a.isNaN = false ∧ b.isNaN = false :=
  isSome_compare_iff

theorem lt_iff_order? {a b : Float} : a < b ↔ order? a b = some .lt := by
  show decide (a.toModel < b.toModel) = true ↔ _
  rw [decide_eq_true_iff]
  exact beq_iff_eq

theorem le_iff_order? {a b : Float} :
    a ≤ b ↔ exists o, order? a b = some o ∧ o.isLE = true := by
  show decide (a.toModel ≤ b.toModel) = true ↔ _
  rw [decide_eq_true_iff]
  show Option.any (·.isLE) (order? a b) = true ↔ _
  cases order? a b <;> simp

theorem isNaN_eq_false_of_lt {a b : Float} (h : a < b) : a.isNaN = false ∧ b.isNaN = false := by
  apply isSome_order?_iff.mp
  rw [lt_iff_order?.mp h]
  rfl

/-- Of two numbers, one that is not less than the other is at least as large. -/
theorem le_of_not_lt {a b : Float} (ha : a.isNaN = false) (hb : b.isNaN = false)
    (h : ¬ a < b) : b ≤ a := by
  rcases Option.isSome_iff_exists.mp (isSome_order?_iff.mpr ⟨ha, hb⟩) with ⟨o, ho⟩
  have hswap : order? b a = some o.swap := by
    rw [order?_swap, ho]
    rfl
  apply le_iff_order?.mpr
  refine ⟨o.swap, hswap, ?_⟩
  cases o with
  | lt => exact absurd (lt_iff_order?.mpr ho) h
  | eq => rfl
  | gt => rfl

theorem isNaN_eq_false_of_isFinite {v : Float} (h : v.isFinite = true) : v.isNaN = false := by
  have hfinite : v.toModel.unpack.isFinite = true := h
  show v.toModel.unpack.isNaN = false
  cases hv : v.toModel.unpack with
  | notANumber =>
      rw [hv] at hfinite
      cases hfinite
  | infinity s => rfl
  | zero s => rfl
  | finite s m e hm => rfl

end Decimal
end Drafting
