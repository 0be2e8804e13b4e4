import Drafting.Json.Quoted

/-!
# JSON tokens

A text is first cut into tokens.  At the first place where no token can start or
one breaks off, a single `junk` token stands for the whole rest of the text.
-/

namespace Drafting
namespace Json

inductive Token where
  | openArray
  | closeArray
  | openObject
  | closeObject
  | colon
  | comma
  | null
  | bool (b : Bool)
  | number (n : Decimal.Numeral)
  /-- A string; it has no value when a surrogate in it lacks its partner. -/
  | string (s : Option String)
  | junk
deriving DecidableEq

def isSpace (c : Char) : Bool :=
  c = ' ' || c = '\t' || c = '\n' || c = '\r'

def punctuation? (c : Char) : Option Token :=
  if c = '[' then some .openArray
  else if c = ']' then some .closeArray
  else if c = '{' then some .openObject
  else if c = '}' then some .closeObject
  else if c = ':' then some .colon
  else if c = ',' then some .comma
  else none

/-!
## Numbers

There is no zero in front of other digits, a point needs at least one digit
behind it, and so does an exponent.
-/

def takeFraction : List Char -> Option (List Char × List Char)
  | '.' :: rest =>
      let (digits, after) := Decimal.takeDigits rest
      if digits.isEmpty then none else some (digits, after)
  | cs => some ([], cs)

def takeExponentSign : List Char -> Decimal.ExponentSign × List Char
  | '+' :: rest => (.plus, rest)
  | '-' :: rest => (.minus, rest)
  | cs => (.bare, cs)

def takeExponent : List Char -> Option (Option Decimal.Exponent × List Char)
  | [] => some (none, [])
  | c :: rest =>
      if c = 'e' || c = 'E' then
        let (sign, rest) := takeExponentSign rest
        let (digits, after) := Decimal.takeDigits rest
        if digits.isEmpty then none
        else some (some { sign := sign, digits := digits }, after)
      else some (none, c :: rest)

def takeLeadingDigits (cs : List Char) : Option (List Char × List Char) :=
  match Decimal.takeDigits cs with
  | ([], _) => none
  | ('0' :: _ :: _, _) => none
  | (digits, after) => some (digits, after)

def takeMinus : List Char -> Bool × List Char
  | '-' :: rest => (true, rest)
  | cs => (false, cs)

def takeNumber (cs : List Char) : Option (Decimal.Numeral × List Char) :=
  let (negative, cs) := takeMinus cs
  match takeLeadingDigits cs with
  | none => none
  | some (whole, cs) =>
      match takeFraction cs with
      | none => none
      | some (fraction, cs) =>
          match takeExponent cs with
          | none => none
          | some (exponent, cs) =>
              some
                ({ negative := negative, whole := whole
                   fraction := fraction, exponent := exponent }, cs)

/-!
## Tokens

Neither space nor punctuation is left when a token is taken from the front.
Each token takes at least one character, so the text comes to its end.
-/

def takeToken : List Char -> Option (Token × List Char)
  | '"' :: rest => (takeString rest).map fun (s, after) => (.string s, after)
  | 'n' :: 'u' :: 'l' :: 'l' :: rest => some (.null, rest)
  | 't' :: 'r' :: 'u' :: 'e' :: rest => some (.bool true, rest)
  | 'f' :: 'a' :: 'l' :: 's' :: 'e' :: rest => some (.bool false, rest)
  | cs => (takeNumber cs).map fun (n, after) => (.number n, after)

theorem takeFraction_length_le {cs after digits : List Char}
    (h : takeFraction cs = some (digits, after)) : after.length ≤ cs.length := by
  unfold takeFraction at h
  split at h
  · next rest =>
      have hd := Decimal.takeDigits_length_le rest
      simp only at h
      split at h
      · cases h
      · cases h
        simp only [List.length_cons]
        omega
  · cases h
    exact Nat.le_refl _

theorem takeExponentSign_length_le (cs : List Char) :
    (takeExponentSign cs).2.length ≤ cs.length := by
  unfold takeExponentSign
  split <;> simp

theorem takeExponent_length_le {cs after : List Char} {e : Option Decimal.Exponent}
    (h : takeExponent cs = some (e, after)) : after.length ≤ cs.length := by
  unfold takeExponent at h
  split at h
  · cases h
    exact Nat.le_refl _
  · next c rest =>
      split at h
      · have hs := takeExponentSign_length_le rest
        have hd := Decimal.takeDigits_length_le (takeExponentSign rest).2
        simp only at h
        split at h
        · cases h
        · cases h
          simp only [List.length_cons]
          omega
      · cases h
        exact Nat.le_refl _

theorem takeLeadingDigits_length_lt {cs digits after : List Char}
    (h : takeLeadingDigits cs = some (digits, after)) : after.length < cs.length := by
  have hd := congrArg List.length (Decimal.takeDigits_append cs)
  rw [List.length_append] at hd
  unfold takeLeadingDigits at h
  split at h
  · cases h
  · cases h
  · next ds rest hne _ heq =>
      cases h
      rw [heq] at hd
      have hpos : 0 < digits.length := by
        cases digits with
        | nil => exact absurd rfl hne
        | cons d ds => simp
      simp only at hd
      omega

theorem takeMinus_length_le (cs : List Char) : (takeMinus cs).2.length ≤ cs.length := by
  unfold takeMinus
  split <;> simp

theorem takeNumber_length_lt {cs after : List Char} {n : Decimal.Numeral}
    (h : takeNumber cs = some (n, after)) : after.length < cs.length := by
  have hm := takeMinus_length_le cs
  unfold takeNumber at h
  simp only at h
  split at h
  · cases h
  · next whole rest hw =>
      have hwl := takeLeadingDigits_length_lt hw
      split at h
      · cases h
      · next fraction rest' hf =>
          have hfl := takeFraction_length_le hf
          split at h
          · cases h
          · next exponent rest'' he =>
              have hel := takeExponent_length_le he
              cases h
              omega

theorem takeToken_length_lt {cs after : List Char} {t : Token}
    (h : takeToken cs = some (t, after)) : after.length < cs.length := by
  unfold takeToken at h
  split at h
  · next rest =>
      obtain ⟨⟨s, a⟩, hs, heq⟩ := Option.map_eq_some_iff.mp h
      cases heq
      have := takeString_length_lt hs
      simp only [List.length_cons]
      omega
  · cases h
    simp only [List.length_cons]
    omega
  · cases h
    simp only [List.length_cons]
    omega
  · cases h
    simp only [List.length_cons]
    omega
  · obtain ⟨⟨n, a⟩, hn, heq⟩ := Option.map_eq_some_iff.mp h
    cases heq
    exact takeNumber_length_lt hn

def tokens (cs : List Char) : List Token :=
  match cs with
  | [] => []
  | c :: rest =>
      if isSpace c then tokens rest
      else
        match punctuation? c with
        | some t => t :: tokens rest
        | none =>
            match _h : takeToken (c :: rest) with
            | some (t, after) => t :: tokens after
            | none => [.junk]
termination_by cs.length
decreasing_by
  · simp
  · simp
  · exact takeToken_length_lt _h

end Json
end Drafting
