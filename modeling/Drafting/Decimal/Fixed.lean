import Drafting.Decimal.Binary
import Drafting.Decimal.Numeral
import Drafting.Decimal.Rounding

/-!
# Floats with a fixed number of places

Summaries and reports write every length with the same number of digits after
the point.  The exact value is rounded, and an exact half goes to the even
neighbour.  The sign of a negative number stays even when all digits are zero.
-/

namespace Drafting
namespace Decimal

def padded (width n : Nat) : List Char :=
  let digits := digitsOf n
  List.replicate (width - digits.length) '0' ++ digits

def fixedNumeral (places : Nat) (negative : Bool) (significand : Nat) (exponent : Int) :
    Numeral :=
  let (num, den) := Binary.ratio significand exponent
  let units := roundDiv .toEven (num * Nat.pow 10 places) den
  { negative := negative
    whole := digitsOf (units / Nat.pow 10 places)
    fraction := if places = 0 then [] else padded places (units % Nat.pow 10 places)
    exponent := none }

def fixed (places : Nat) (v : Float) : String :=
  match Binary.ofFloat v with
  | .notANumber => "NaN"
  | .infinite false => "inf"
  | .infinite true => "-inf"
  | .finite negative significand exponent =>
      String.ofList (fixedNumeral places negative significand exponent).text

end Decimal
end Drafting
