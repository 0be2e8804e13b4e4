import Drafting.Proofs.Json.Numerals
import Drafting.Statement

/-!
# Keys of positions

A field without a name is known by its position, which is written in digits.
Different positions have different keys, and a name that has anything but digits
in it is not mistaken for one.
-/

namespace Drafting

namespace Statement

theorem isDigit_positionKey (position : Nat) :
    (positionKey position).toList.all Char.isDigit = true := by
  rw [positionKey, Decimal.counted, String.toList_ofList, List.all_eq_true]
  exact Decimal.allDigits_digitsOf position

theorem ne_positionKey {name : String} (h : name.toList.all Char.isDigit = false)
    (position : Nat) : name ≠ positionKey position := by
  rintro rfl
  rw [isDigit_positionKey] at h
  cases h

theorem positionKey_injective : Function.Injective positionKey := by
  intro i j h
  have hdigits : Decimal.digitsOf i = Decimal.digitsOf j := String.ofList_injective h
  rw [← Decimal.digitsValue_digitsOf i, hdigits, Decimal.digitsValue_digitsOf]

end Statement

end Drafting
