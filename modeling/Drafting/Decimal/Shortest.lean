import Drafting.Decimal.Binary
import Drafting.Decimal.Numeral
import Drafting.Decimal.Rounding

/-!
# The shortest decimal that reads back

A float stands for all real numbers that round to it.  Among the decimals of
that interval there are some with the fewest digits, and of those the one
nearest to the float is the way to write it.

The search goes over the number of digits.  With `n` digits the decimals near
the float lie on a grid, and if any point of the grid is in the interval, so is
one of the two neighbours of the float on that grid; so two points have to be
tested for each `n`, in exact arithmetic.

A decimal is kept as `coefficient * 10 ^ exponent`, and zeros at the end of the
coefficient are moved into the exponent.  Seventeen digits always suffice.
-/

namespace Drafting
namespace Decimal

structure Scaled where
  coefficient : Nat
  exponent : Int
deriving DecidableEq

namespace Scaled

def stripZeros : Nat -> Scaled -> Scaled
  | 0, s => s
  | fuel + 1, s =>
      if s.coefficient % 10 = 0 then
        stripZeros fuel { coefficient := s.coefficient / 10, exponent := s.exponent + 1 }
      else s

end Scaled

/--
The reals that round to a float, as multiples of a quarter of its last binary
place: the float is at `4 * significand` and the ends belong to the interval
when the significand is even.
-/
structure Interval where
  low : Nat
  centre : Nat
  high : Nat
  closed : Bool
deriving DecidableEq

namespace Interval

/-- Below a power of two the floats are twice as dense, so the lower end is nearer there. -/
def ofFinite (significand : Nat) (exponent : Int) : Interval :=
  let edge := significand = Nat.pow 2 52 && exponent ≠ -1074
  { low := 4 * significand - (if edge then 1 else 2)
    centre := 4 * significand
    high := 4 * significand + 2
    closed := significand % 2 == 0 }

def holds (i : Interval) (num den : Nat) : Bool :=
  if i.closed then i.low * den ≤ num && num ≤ i.high * den
  else i.low * den < num && num < i.high * den

end Interval

def leadingExponent (num den : Nat) : Int :=
  if den ≤ num then
    ((digitsOf (num / den)).length : Int) - 1
  else
    let least := (den + num - 1) / num
    Int.negOfNat (digitsOf (least - 1)).length

/--
The two neighbours of the centre on the grid of step `10 ^ step`, tested against
the interval.  `num / den` is the centre and `unit` the size of a quarter place,
both over the denominator `den`.
-/
def gridPoint? (tie : Tie) (i : Interval) (unitNum unitDen : Nat) (step : Int) :
    Option Scaled :=
  let (stepNum, stepDen) :=
    match step with
    | .ofNat e => (Nat.pow 10 e, 1)
    | .negSucc e => (1, Nat.pow 10 (e + 1))
  let num := i.centre * unitNum * stepDen
  let den := unitDen * stepNum
  let below := num / den
  let above := below + 1
  let inside := fun k : Nat => i.holds (k * stepNum * unitDen) (stepDen * unitNum)
  if inside below && inside above then
    some { coefficient := roundDiv tie num den, exponent := step }
  else if inside below then
    some { coefficient := below, exponent := step }
  else if inside above then
    some { coefficient := above, exponent := step }
  else none

def shortest (tie : Tie) (significand : Nat) (exponent : Int) : Scaled :=
  if significand = 0 then { coefficient := 0, exponent := 0 }
  else
    let i := Interval.ofFinite significand exponent
    let (unitNum, unitDen) := Binary.ratio 1 (exponent - 2)
    let leading := leadingExponent (i.centre * unitNum) unitDen
    let found := (List.range 17).findSome? fun n : Nat =>
      gridPoint? tie i unitNum unitDen (leading - (n : Int))
    match found with
    | some s => s.stripZeros 20
    | none => { coefficient := significand, exponent := exponent }

end Decimal
end Drafting
