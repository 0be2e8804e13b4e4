/-!
# Rounding a quotient to the nearest natural number

Decimal digits of a float come from dividing natural numbers.  What is left
open by "the nearest" is where an exact half goes, so that is a parameter.
-/

namespace Drafting
namespace Decimal

inductive Tie where
  | up
  | toEven
deriving DecidableEq

namespace Tie

def raises : Tie -> Nat -> Bool
  | up, _ => true
  | toEven, n => n % 2 == 1

end Tie

def roundDiv (tie : Tie) (num den : Nat) : Nat :=
  let floor := num / den
  let rest := num % den
  if den < 2 * rest then floor + 1
  else if 2 * rest = den && tie.raises floor then floor + 1
  else floor

theorem roundDiv_of_dvd (tie : Tie) {num den : Nat} (pos : 0 < den)
    (h : num % den = 0) : roundDiv tie num den = num / den := by
  unfold roundDiv
  have hne : ¬ (0 = den) := by omega
  simp [h, hne]

end Decimal
end Drafting
