import Drafting.Decimal.Numeral

/-!
# Reading numbers from text

A number may be written with a sign, with digits on one side of the point only,
and with an exponent; infinities and the value that is not a number are words.
The value is the float nearest to the decimal, infinite beyond the range of
floats.

Whole numbers in requests are read by their own, stricter rule.
-/

namespace Drafting
namespace Decimal

def takeSign : List Char -> Bool × List Char
  | '-' :: rest => (true, rest)
  | '+' :: rest => (false, rest)
  | cs => (false, cs)

/-- An exponent, which must be the whole text and is zero when the text is empty. -/
def readExponent : List Char -> Option Int
  | [] => some 0
  | c :: rest =>
      if c = 'e' || c = 'E' then
        let (negative, digits) := takeSign rest
        if digits.isEmpty || ! digits.all Char.isDigit then none
        else
          let n : Int := digitsValue 0 digits
          some (if negative then -n else n)
      else none

def nearestFloat (coefficient : Nat) (exponent : Int) : Float :=
  match exponent with
  | .ofNat e => Float.ofScientific coefficient false e
  | .negSucc e => Float.ofScientific coefficient true (e + 1)

/-- An unsigned decimal: digits on at least one side of an optional point, then an exponent. -/
def readDecimal (cs : List Char) : Option Float :=
  let (whole, rest) := takeDigits cs
  let (fraction, rest) :=
    match rest with
    | '.' :: rest => takeDigits rest
    | rest => ([], rest)
  if whole.isEmpty && fraction.isEmpty then none
  else
    match readExponent rest with
    | none => none
    | some e =>
        some (nearestFloat (digitsValue (digitsValue 0 whole) fraction) (e - fraction.length))

def infinity : Float := 1.0 / 0.0

def notANumber : Float := 0.0 / 0.0

def readFloat (cs : List Char) : Option Float :=
  let (negative, size) := takeSign cs
  let word := size.map Char.toLower
  let value :=
    if word = "inf".toList || word = "infinity".toList then some infinity
    else if word = "nan".toList then some notANumber
    else readDecimal size
  value.map fun v => if negative then -v else v

def readInt32 (cs : List Char) : Option Int :=
  let (negative, digits) := takeSign cs
  if digits.isEmpty || ! digits.all Char.isDigit then none
  else
    let size : Int := digitsValue 0 digits
    let n := if negative then -size else size
    if -2147483648 ≤ n ∧ n ≤ 2147483647 then some n else none

end Decimal
end Drafting
