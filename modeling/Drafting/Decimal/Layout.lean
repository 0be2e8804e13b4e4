import Drafting.Decimal.Shortest

/-!
# Laying out digits as a numeral

The digits of a number fix its value but not its spelling: where the point
stands, when an exponent is written, and whether a whole number shows a point.
A layout holds these decisions.  The library uses two: the numbers in messages,
and the numbers in saved documents.

Numbers in messages never have an exponent, and whole numbers have no point
there.  A float that is not finite has no numeral in any layout.
-/

namespace Drafting
namespace Decimal

structure Layout where
  tie : Tie
  /-- Whether a number whose leading digit has this exponent is written without an exponent. -/
  plain : Int -> Bool
  wholeFraction : List Char

namespace Layout

def message : Layout :=
  { tie := .up, plain := fun _ => true, wholeFraction := [] }

/--
Numbers in documents are plain from `1e-5` up to below `1e16` and have at least
one digit after the point there.
-/
def document : Layout :=
  { tie := .toEven, plain := fun p => -5 ≤ p && p < 16, wholeFraction := ['0'] }

def placePoint (digits : List Char) (place : Int) (wholeFraction : List Char) :
    List Char × List Char :=
  match place with
  | .negSucc n => (['0'], List.replicate (n + 1) '0' ++ digits)
  | .ofNat 0 => (['0'], digits)
  | .ofNat n =>
      if digits.length ≤ n then
        (digits ++ List.replicate (n - digits.length) '0', wholeFraction)
      else (digits.take n, digits.drop n)

def exponentOf (p : Int) : Exponent :=
  { sign := if p < 0 then .minus else .plus, digits := digitsOf p.natAbs }

def numeral (l : Layout) (negative : Bool) (s : Scaled) : Numeral :=
  let digits := digitsOf s.coefficient
  let leading := s.exponent + (digits.length : Int) - 1
  if s.coefficient = 0 then
    { negative := negative, whole := ['0'], fraction := l.wholeFraction, exponent := none }
  else if l.plain leading then
    let (whole, fraction) := placePoint digits (leading + 1) l.wholeFraction
    { negative := negative, whole := whole, fraction := fraction, exponent := none }
  else
    { negative := negative
      whole := digits.take 1
      fraction := digits.drop 1
      exponent := some (exponentOf leading) }

def numeral? (l : Layout) (v : Float) : Option Numeral :=
  match Binary.ofFloat v with
  | .finite negative significand exponent =>
      some (l.numeral negative (shortest l.tie significand exponent))
  | _ => none

end Layout

def shown (v : Float) : String :=
  match Binary.ofFloat v with
  | .notANumber => "NaN"
  | .infinite false => "inf"
  | .infinite true => "-inf"
  | .finite negative significand exponent =>
      String.ofList
        (Layout.message.numeral negative (shortest Layout.message.tie significand exponent)).text

end Decimal
end Drafting
