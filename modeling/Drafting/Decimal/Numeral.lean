/-!
# Decimal numerals

A numeral is a number as it is written: a sign, digits before and after a
point, and possibly an exponent.  It keeps what the text says and nothing of
what the text means, so writing a numeral and taking it from a text again are
exact inverses, whatever number system its value is later taken in.

The digits are kept as the characters from `0` to `9`.

Whole numbers are written as numerals of digits alone; zero has the one digit
`0`.
-/

namespace Drafting
namespace Decimal

inductive ExponentSign where
  | bare
  | plus
  | minus
deriving DecidableEq

structure Exponent where
  sign : ExponentSign
  digits : List Char
deriving DecidableEq

structure Numeral where
  negative : Bool
  whole : List Char
  /-- The digits after the point; without digits there is no point either. -/
  fraction : List Char
  exponent : Option Exponent
deriving DecidableEq

def digitValue (c : Char) : Nat :=
  c.toNat - '0'.toNat

def digitsValue (start : Nat) (digits : List Char) : Nat :=
  digits.foldl (fun total c => total * 10 + digitValue c) start

def digitsOf (n : Nat) : List Char :=
  Nat.toDigits 10 n

namespace ExponentSign

def text : ExponentSign -> List Char
  | bare => []
  | plus => ['+']
  | minus => ['-']

end ExponentSign

namespace Exponent

def text (e : Exponent) : List Char :=
  'e' :: (e.sign.text ++ e.digits)

def value (e : Exponent) : Int :=
  match e.sign with
  | .minus => - (digitsValue 0 e.digits : Int)
  | _ => digitsValue 0 e.digits

end Exponent

namespace Numeral

def text (n : Numeral) : List Char :=
  (if n.negative then ['-'] else []) ++ n.whole ++
    (match n.fraction with
     | [] => []
     | digits => '.' :: digits) ++
    (match n.exponent with
     | none => []
     | some e => e.text)

def ofNat (n : Nat) : Numeral :=
  { negative := false, whole := digitsOf n, fraction := [], exponent := none }

def ofInt (n : Int) : Numeral :=
  { negative := n < 0, whole := digitsOf n.natAbs, fraction := [], exponent := none }

end Numeral

def counted (n : Nat) : String :=
  String.ofList (digitsOf n)

def whole (n : Int) : String :=
  String.ofList (Numeral.ofInt n).text

/-!
## Reading digits from the front of a text

What reads a number takes its digits from the front of a text and hands on what
follows them.  The digits stand for a number that continues the one before them.
-/

def takeDigits (cs : List Char) : List Char × List Char :=
  (cs.takeWhile Char.isDigit, cs.dropWhile Char.isDigit)

theorem takeDigits_append (cs : List Char) :
    (takeDigits cs).1 ++ (takeDigits cs).2 = cs :=
  List.takeWhile_append_dropWhile

theorem takeDigits_length_le (cs : List Char) :
    (takeDigits cs).2.length ≤ cs.length := by
  have h := congrArg List.length (takeDigits_append cs)
  rw [List.length_append] at h
  omega

end Decimal
end Drafting
