import Drafting.Decimal.Numeral

/-!
# Quoted strings

In a document a string stands between quotes.  Quotes, backslashes, and control
characters inside it are escaped, and any character may be written as one or two
`\u` escapes of 16 bits each.

Reading keeps the escapes of 16 bits apart from the plain characters first, and
then joins the two halves of a surrogate pair.  A half without its partner stands
for no character, but whether that matters is left to the reader of the value.
-/

namespace Drafting
namespace Json

def hexDigit (n : Nat) : Char :=
  Nat.digitChar n

def escapeChar (c : Char) : List Char :=
  if c = '"' then ['\\', '"']
  else if c = '\\' then ['\\', '\\']
  else if c = '\n' then ['\\', 'n']
  else if c = '\r' then ['\\', 'r']
  else if c = '\t' then ['\\', 't']
  else if c.toNat = 8 then ['\\', 'b']
  else if c.toNat = 12 then ['\\', 'f']
  else if c.toNat < 32 then
    ['\\', 'u', '0', '0', hexDigit (c.toNat / 16), hexDigit (c.toNat % 16)]
  else [c]

def quote (s : String) : List Char :=
  '"' :: (s.toList.flatMap escapeChar ++ ['"'])

/-!
## Reading

The pieces of a string are characters and the numbers of `\u` escapes.  What
stands behind a backslash is one of these, or a character by its letter.
-/

inductive Piece where
  | char (c : Char)
  | unit (n : Nat)
deriving DecidableEq

def hexValue? (c : Char) : Option Nat :=
  if c.isDigit then some (c.toNat - '0'.toNat)
  else if 'a' ≤ c ∧ c ≤ 'f' then some (c.toNat - 'a'.toNat + 10)
  else if 'A' ≤ c ∧ c ≤ 'F' then some (c.toNat - 'A'.toNat + 10)
  else none

def hex4? (a b c d : Char) : Option Nat :=
  match hexValue? a, hexValue? b, hexValue? c, hexValue? d with
  | some a, some b, some c, some d => some (((a * 16 + b) * 16 + c) * 16 + d)
  | _, _, _, _ => none

def escaped? (c : Char) : Option Char :=
  if c = '"' || c = '\\' || c = '/' then some c
  else if c = 'b' then some (Char.ofNat 8)
  else if c = 'f' then some (Char.ofNat 12)
  else if c = 'n' then some '\n'
  else if c = 'r' then some '\r'
  else if c = 't' then some '\t'
  else none

def takePieces : List Char -> Option (List Piece × List Char)
  | [] => none
  | '"' :: rest => some ([], rest)
  | '\\' :: 'u' :: a :: b :: c :: d :: rest =>
      match hex4? a b c d, takePieces rest with
      | some n, some (pieces, after) => some (.unit n :: pieces, after)
      | _, _ => none
  | '\\' :: c :: rest =>
      match escaped? c, takePieces rest with
      | some c, some (pieces, after) => some (.char c :: pieces, after)
      | _, _ => none
  | c :: rest =>
      if c.toNat < 32 then none
      else
        match takePieces rest with
        | some (pieces, after) => some (.char c :: pieces, after)
        | none => none

def isHighSurrogate (n : Nat) : Bool :=
  0xD800 ≤ n && n ≤ 0xDBFF

def isLowSurrogate (n : Nat) : Bool :=
  0xDC00 ≤ n && n ≤ 0xDFFF

/-- The characters of the pieces; nothing when a surrogate lacks its partner. -/
def joinPieces : List Piece -> Option (List Char)
  | [] => some []
  | .char c :: rest => (joinPieces rest).map (c :: ·)
  | .unit high :: .unit low :: rest =>
      if isHighSurrogate high then
        if isLowSurrogate low then
          let c := Char.ofNat (0x10000 + (high - 0xD800) * 0x400 + (low - 0xDC00))
          (joinPieces rest).map (c :: ·)
        else none
      else if isLowSurrogate high then none
      else (joinPieces (.unit low :: rest)).map (Char.ofNat high :: ·)
  | .unit n :: rest =>
      if isHighSurrogate n || isLowSurrogate n then none
      else (joinPieces rest).map (Char.ofNat n :: ·)

/--
A string whose opening quote has been read: its value, if it has one, and the
text after it.
-/
def takeString (cs : List Char) : Option (Option String × List Char) :=
  match takePieces cs with
  | none => none
  | some (pieces, after) => some ((joinPieces pieces).map String.ofList, after)

/-!
## What is left of the text

A string takes at least its closing quote from the text, so whatever reads on
comes to an end.
-/

theorem takePieces_length_lt {cs after : List Char} {pieces : List Piece}
    (h : takePieces cs = some (pieces, after)) : after.length < cs.length := by
  -- Every piece takes up at least one character.
  fun_induction takePieces cs generalizing pieces after with
  | case1 => cases h
  | case2 rest =>
      cases h
      simp
  | case3 a b c d rest n ps aft hrec _ ih =>
      cases h
      have := ih hrec
      simp only [List.length_cons]
      omega
  | case4 => cases h
  | case5 c rest hne e ps aft hrec _ ih =>
      cases h
      have := ih hrec
      simp only [List.length_cons]
      omega
  | case6 => cases h
  | case7 => cases h
  | case8 c rest h1 h2 h3 hge ps aft hrec ih =>
      cases h
      have := ih hrec
      simp only [List.length_cons]
      omega
  | case9 => cases h

theorem takeString_length_lt {cs after : List Char} {s : Option String}
    (h : takeString cs = some (s, after)) : after.length < cs.length := by
  unfold takeString at h
  split at h
  · cases h
  · next pieces rest hp =>
      cases h
      exact takePieces_length_lt hp

end Json
end Drafting
