/-!
# The exact value of a float

Every finite float is a natural number times a power of two.  This module takes
that number out of the bit pattern, so that questions about the value (which
decimals are near it, whether it is whole) can be settled in exact arithmetic on
natural numbers and integers.

The size of a finite float is `significand * 2 ^ exponent`.  As a fraction of
two natural numbers it has a power of two below the line.
-/

namespace Drafting
namespace Decimal

inductive Binary where
  | notANumber
  | infinite (negative : Bool)
  | finite (negative : Bool) (significand : Nat) (exponent : Int)
deriving DecidableEq

namespace Binary

/--
The bits are, from the highest, one sign bit, eleven bits of exponent, and 52
bits of fraction.  A zero exponent field marks the numbers without a leading
one.
-/
def ofFloat (v : Float) : Binary :=
  -- `Nat.pow` and not `^`, whose instance depends on what else is imported.
  let bits := v.toBits.toNat
  let negative := bits / Nat.pow 2 63 % 2 == 1
  let field : Nat := bits / Nat.pow 2 52 % Nat.pow 2 11
  let fraction : Nat := bits % Nat.pow 2 52
  if field = 2047 then
    if fraction = 0 then infinite negative else notANumber
  else if field = 0 then
    finite negative fraction (-1074)
  else
    finite negative (fraction + Nat.pow 2 52) ((field : Int) - 1075)

def whole? : Binary -> Option Int
  | notANumber => none
  | infinite _ => none
  | finite negative significand exponent =>
      let signed := fun n : Nat => if negative then - (n : Int) else n
      match exponent with
      | .ofNat e => some (signed (significand * Nat.pow 2 e))
      | .negSucc e =>
          if significand % Nat.pow 2 (e + 1) = 0 then
            some (signed (significand / Nat.pow 2 (e + 1)))
          else none

def ratio (significand : Nat) (exponent : Int) : Nat × Nat :=
  match exponent with
  | .ofNat e => (significand * Nat.pow 2 e, 1)
  | .negSucc e => (significand, Nat.pow 2 (e + 1))

end Binary

end Decimal
end Drafting
