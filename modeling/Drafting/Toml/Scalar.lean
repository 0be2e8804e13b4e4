import Drafting.Decimal.Reading
import Drafting.Toml.Basic

/-!
# Words of TOML: numbers, dates, and truth values

A value that is neither quoted nor bracketed is a single word, and the whole
word has to be a number, a date or time, or a truth value.
-/

namespace Drafting
namespace Toml

def isWordChar (c : Char) : Bool :=
  c.isAlphanum || c = '_' || c = '+' || c = '-' || c = '.' || c = ':'

/-- Digits in which single underscores may stand between two digits; they are left out. -/
def digits? (isDigit : Char -> Bool) : List Char -> Option (List Char)
  | [] => none
  | [c] => if isDigit c then some [c] else none
  | c :: '_' :: rest =>
      if isDigit c then (digits? isDigit rest).map (c :: ·) else none
  | c :: rest =>
      if isDigit c then (digits? isDigit rest).map (c :: ·) else none

def leadingDigits? (cs : List Char) : Option (List Char) :=
  match digits? Char.isDigit cs with
  | some ('0' :: _ :: _) => none
  | found => found

def minInteger : Int := -9223372036854775808

def maxInteger : Int := 9223372036854775807

def integerInRange (n : Int) : Option Toml :=
  if minInteger ≤ n ∧ n ≤ maxInteger then some (.integer n) else none

def isHexDigit (c : Char) : Bool :=
  c.isDigit || ('a' ≤ c && c ≤ 'f') || ('A' ≤ c && c ≤ 'F')

def hexDigitValue (c : Char) : Nat :=
  if c.isDigit then c.toNat - '0'.toNat
  else if 'a' ≤ c then c.toNat - 'a'.toNat + 10
  else c.toNat - 'A'.toNat + 10

def inBase (base : Nat) (digits : List Char) : Nat :=
  digits.foldl (fun total c => total * base + hexDigitValue c) 0

def isOctalDigit (c : Char) : Bool :=
  '0' ≤ c && c ≤ '7'

def isBinaryDigit (c : Char) : Bool :=
  c = '0' || c = '1'

def integer? : List Char -> Option Toml
  | '0' :: 'x' :: rest =>
      (digits? isHexDigit rest).bind fun ds => integerInRange (inBase 16 ds)
  | '0' :: 'o' :: rest =>
      (digits? isOctalDigit rest).bind fun ds => integerInRange (inBase 8 ds)
  | '0' :: 'b' :: rest =>
      (digits? isBinaryDigit rest).bind fun ds => integerInRange (inBase 2 ds)
  | cs =>
      let (negative, size) := Decimal.takeSign cs
      (leadingDigits? size).bind fun ds =>
        let n : Int := Decimal.digitsValue 0 ds
        integerInRange (if negative then -n else n)

/-!
## Floats

A float has a fraction, an exponent, or both, or is one of two words.  It must
not lie beyond all finite floats.
-/

def isExponentMark (c : Char) : Bool :=
  c = 'e' || c = 'E'

def exponent? (cs : List Char) : Option Int :=
  let (negative, size) := Decimal.takeSign cs
  (digits? Char.isDigit size).map fun ds =>
    let n : Int := Decimal.digitsValue 0 ds
    if negative then -n else n

def decimal? (negative : Bool) (whole fraction : List Char) (exponent : Int) : Option Toml :=
  let size :=
    Decimal.nearestFloat (Decimal.digitsValue (Decimal.digitsValue 0 whole) fraction)
      (exponent - fraction.length)
  if negative then some (.real (-size))
  else if size.isInf then none
  else some (.real size)

def real? (cs : List Char) : Option Toml :=
  let (negative, size) := Decimal.takeSign cs
  if size = ['i', 'n', 'f'] then
    some (.real (if negative then -Decimal.infinity else Decimal.infinity))
  else if size = ['n', 'a', 'n'] then some (.real Decimal.notANumber)
  else
    let whole := size.takeWhile fun c => c ≠ '.' && ! isExponentMark c
    match leadingDigits? whole, size.drop whole.length with
    | some whole, '.' :: rest =>
        let fraction := rest.takeWhile fun c => ! isExponentMark c
        match digits? Char.isDigit fraction, rest.drop fraction.length with
        | some fraction, [] => decimal? negative whole fraction 0
        | some fraction, _ :: rest =>
            (exponent? rest).bind fun e => decimal? negative whole fraction e
        | none, _ => none
    | some whole, _ :: rest => (exponent? rest).bind fun e => decimal? negative whole [] e
    | _, _ => none

/-!
## Dates and times

A date may stand alone, and so may a time of day; a time after a date may have
an offset from universal time.
-/

def twoDigits? (low high : Nat) (a b : Char) : Option Nat :=
  if a.isDigit && b.isDigit then
    let n := Decimal.digitsValue 0 [a, b]
    if low ≤ n ∧ n ≤ high then some n else none
  else none

def isLeapYear (year : Nat) : Bool :=
  year % 4 == 0 && (year % 100 != 0 || year % 400 == 0)

def daysOf (year month : Nat) : Nat :=
  if month = 2 then (if isLeapYear year then 29 else 28)
  else if month = 4 ∨ month = 6 ∨ month = 9 ∨ month = 11 then 30
  else 31

def takeDate : List Char -> Option (List Char)
  | y1 :: y2 :: y3 :: y4 :: '-' :: m1 :: m2 :: '-' :: d1 :: d2 :: rest =>
      if [y1, y2, y3, y4].all Char.isDigit then
        match twoDigits? 1 12 m1 m2, twoDigits? 1 31 d1 d2 with
        | some month, some day =>
            if day ≤ daysOf (Decimal.digitsValue 0 [y1, y2, y3, y4]) month then some rest
            else none
        | _, _ => none
      else none
  | _ => none

def takeTime : List Char -> Option (List Char)
  | h1 :: h2 :: ':' :: m1 :: m2 :: ':' :: s1 :: s2 :: rest =>
      match twoDigits? 0 23 h1 h2, twoDigits? 0 59 m1 m2, twoDigits? 0 60 s1 s2 with
      | some _, some _, some _ =>
          match rest with
          | '.' :: rest =>
              let (digits, after) := Decimal.takeDigits rest
              if digits.isEmpty then none else some after
          | rest => some rest
      | _, _, _ => none
  | _ => none

def isOffset : List Char -> Bool
  | [] => true
  | ['Z'] => true
  | ['z'] => true
  | [sign, h1, h2, ':', m1, m2] =>
      (sign = '+' || sign = '-') && (twoDigits? 0 23 h1 h2).isSome &&
        (twoDigits? 0 59 m1 m2).isSome
  | _ => false

def isTimeWithOffset (cs : List Char) : Bool :=
  match takeTime cs with
  | some rest => isOffset rest
  | none => false

def isMoment (cs : List Char) : Bool :=
  match takeDate cs with
  | some [] => true
  | some (mark :: rest) => (mark = 'T' || mark = 't') && isTimeWithOffset rest
  | none => takeTime cs = some []

/-!
## Words

A date may go on with a time after a single space, which belongs to the word
then.
-/

def word? (cs : List Char) : Option Toml :=
  if cs = ['t', 'r', 'u', 'e'] then some (.truth true)
  else if cs = ['f', 'a', 'l', 's', 'e'] then some (.truth false)
  else if isMoment cs then some .moment
  else (real? cs).or (integer? cs)

def takeWord (cs : List Char) : Option (Toml × List Char) :=
  let word := cs.takeWhile isWordChar
  let rest := cs.drop word.length
  match takeDate word, rest with
  | some [], ' ' :: c :: more =>
      if c.isDigit then
        let time := (c :: more).takeWhile isWordChar
        if isTimeWithOffset time then some (.moment, (c :: more).drop time.length) else none
      else some (.moment, rest)
  | _, _ => (word? word).map fun value => (value, rest)

end Toml
end Drafting
