import Drafting.Decimal.Numeral

/-!
# The value of a number in a document

A number without fraction and exponent stands for a whole number as long as it
fits into 64 bits.  Every other number stands for a float, which is computed
from the first digits of the numeral, as many as fit into 64 bits, by one
multiplication or division with a power of ten.  That is the nearest float for
numerals of up to about fifteen digits, and close to it for longer ones.

A number whose float would be infinite has no value.
-/

namespace Drafting
namespace Json

inductive Number where
  | natural (n : Nat)
  | negative (size : Nat)
  | real (v : Float)
deriving DecidableEq

namespace Number

def float : Number -> Float
  | natural n => Float.ofNat n
  | negative size => - Float.ofNat size
  | real v => v

end Number

def maxSignificand : Nat := Nat.pow 2 64 - 1

/--
The digits before the point: the number of the first ones that fit into 64
bits, and how many digits were left out after them.
-/
def wholeSignificand (significand : Nat) : List Char -> Nat × Nat
  | [] => (significand, 0)
  | c :: rest =>
      let next := significand * 10 + Decimal.digitValue c
      if next ≤ maxSignificand then wholeSignificand next rest
      else (significand, rest.length + 1)

/--
The digits after the point, taken in as long as they fit into 64 bits, and how
many were taken in.
-/
def fractionSignificand (significand : Nat) : List Char -> Nat × Nat
  | [] => (significand, 0)
  | c :: rest =>
      let next := significand * 10 + Decimal.digitValue c
      if next ≤ maxSignificand then
        let (result, taken) := fractionSignificand next rest
        (result, taken + 1)
      else (significand, 0)

def maxPower : Nat := 308

def powerOfTen (n : Nat) : Float :=
  Float.ofScientific 1 false n

def scaleDown (v : Float) (places : Nat) : Float :=
  if places ≤ maxPower then v / powerOfTen places
  else if v == 0.0 then v
  else scaleDown (v / powerOfTen maxPower) (places - maxPower)
termination_by places
decreasing_by
  unfold maxPower at *
  omega

def scale? (significand : Nat) (exponent : Int) : Option Float :=
  let v := Float.ofNat significand
  match exponent with
  | .negSucc n => some (scaleDown v (n + 1))
  | .ofNat n =>
      if n ≤ maxPower then
        let result := v * powerOfTen n
        if result.isInf then none else some result
      else if v == 0.0 then some v
      else none

end Json

namespace Decimal
namespace Numeral

open Json in
def jsonNumber? (n : Numeral) : Option Json.Number :=
  let (significand, left) := wholeSignificand 0 n.whole
  let signed := fun v : Float => if n.negative then -v else v
  if n.fraction = [] ∧ n.exponent = none then
    if left = 0 then
      if ! n.negative then some (.natural significand)
      else if significand = 0 ∨ Nat.pow 2 63 < significand then
        some (.real (- Float.ofNat significand))
      else some (.negative significand)
    else (scale? significand left).map fun v => .real (signed v)
  else
    let (significand, taken) := fractionSignificand significand n.fraction
    let written := match n.exponent with
      | none => 0
      | some e => e.value
    (scale? significand (written + left - taken)).map fun v => .real (signed v)

end Numeral
end Decimal

end Drafting
