import Drafting.Decimal.Layout
import Drafting.Json.Token

/-!
# Numerals as documents write them

Every numeral that is written into a document follows the grammar of numbers of
documents, so it is taken from the text again as the same numeral, as long as
the text goes on with something that cannot belong to a number.
-/

namespace Drafting
namespace Decimal

/-!
## Digits

Only zero itself is written with a zero in front.
-/

def AllDigits (cs : List Char) : Prop :=
  forall c, c ∈ cs -> c.isDigit = true

theorem allDigits_nil : AllDigits [] := by
  intro c hc
  cases hc

theorem allDigits_zeros (n : Nat) : AllDigits (List.replicate n '0') := by
  intro c hc
  rw [List.eq_of_mem_replicate hc]
  rfl

theorem allDigits_append {cs ds : List Char} (hc : AllDigits cs) (hd : AllDigits ds) :
    AllDigits (cs ++ ds) := by
  intro c h
  rcases List.mem_append.mp h with h | h
  · exact hc c h
  · exact hd c h

theorem allDigits_digitsOf (n : Nat) : AllDigits (digitsOf n) := by
  intro c hc
  exact Nat.isDigit_of_mem_toDigits (by decide) (by decide) hc

theorem digitsOf_ne_nil (n : Nat) : digitsOf n ≠ [] :=
  Nat.toDigits_ne_nil

theorem digitsValue_digitsOf (n : Nat) : digitsValue 0 (digitsOf n) = n := by
  have hvalue : forall (ds : List Char) (start : Nat),
      digitsValue start ds = Nat.ofDigitChars 10 ds start := by
    intro ds
    induction ds with
    | nil => intro start; rfl
    | cons c rest ih =>
        intro start
        rw [Nat.ofDigitChars_cons, ← ih, Nat.mul_comm 10 start]
        rfl
  rw [hvalue]
  exact Nat.ofDigitChars_ten_toDigits

theorem head?_digitsOf {n : Nat} (h : 0 < n) : (digitsOf n).head? ≠ some '0' := by
  induction n using Nat.strongRecOn with
  | ind n ih =>
      unfold digitsOf at ih ⊢
      by_cases hsmall : n < 10
      · rw [Nat.toDigits_of_lt_base hsmall]
        have hdigit : forall m, m < 10 -> 0 < m -> [Nat.digitChar m].head? ≠ some '0' := by
          decide
        exact hdigit n hsmall h
      · rw [Nat.toDigits_of_base_le (by decide) (by omega), List.head?_append,
          List.head?_eq_some_head Nat.toDigits_ne_nil, Option.some_or,
          ← List.head?_eq_some_head]
        exact ih (n / 10) (by omega) (by omega)

theorem head?_append_of_ne_nil {cs : List Char} (ds : List Char) (h : cs ≠ []) :
    (cs ++ ds).head? = cs.head? := by
  cases cs with
  | nil => exact absurd rfl h
  | cons c cs => rfl

/-!
## Numerals that follow the grammar

Both ways to lay out the digits of a float keep to the grammar: with the point
placed among the digits there is no exponent, and with an exponent there is one
digit in front of the point.
-/

namespace Numeral

/-- A numeral of the grammar of documents. -/
structure Standard (n : Numeral) : Prop where
  whole : AllDigits n.whole
  nonempty : n.whole ≠ []
  leading : n.whole.head? = some '0' -> n.whole = ['0']
  fraction : AllDigits n.fraction
  exponent : forall e, n.exponent = some e -> e.digits ≠ [] ∧ AllDigits e.digits

theorem standard_of_digits {negative : Bool} {m : Nat} :
    Standard { negative := negative, whole := digitsOf m, fraction := [], exponent := none } where
  whole := allDigits_digitsOf m
  nonempty := digitsOf_ne_nil m
  leading := by
    intro hzero
    cases m with
    | zero => rfl
    | succ m => exact absurd hzero (head?_digitsOf (Nat.succ_pos m))
  fraction := allDigits_nil
  exponent := by
    intro e he
    cases he

theorem standard_ofNat (n : Nat) : (ofNat n).Standard :=
  standard_of_digits

theorem standard_ofInt (n : Int) : (ofInt n).Standard :=
  standard_of_digits

end Numeral

namespace Layout

theorem standard_placePoint {negative : Bool} {digits wholeFraction : List Char}
    (place : Int) (hdigits : AllDigits digits) (hne : digits ≠ [])
    (hhead : digits.head? ≠ some '0') (hfraction : AllDigits wholeFraction) :
    Numeral.Standard
      { negative := negative
        whole := (placePoint digits place wholeFraction).1
        fraction := (placePoint digits place wholeFraction).2
        exponent := none } := by
  have hnone : forall e : Exponent, (none : Option Exponent) = some e ->
      e.digits ≠ [] ∧ AllDigits e.digits := by
    intro e he
    cases he
  have hzero : AllDigits ['0'] := allDigits_zeros 1
  -- The point stands in front of the digits, behind them, or among them.
  unfold placePoint
  split
  · exact ⟨hzero, by simp, by simp, allDigits_append (allDigits_zeros _) hdigits, hnone⟩
  · exact ⟨hzero, by simp, by simp, hdigits, hnone⟩
  · next n hpositive =>
      split
      · refine ⟨allDigits_append hdigits (allDigits_zeros _), ?_, ?_, hfraction, hnone⟩
        · simp [hne]
        · rw [head?_append_of_ne_nil _ hne]
          intro hcontra
          exact absurd hcontra hhead
      · have htake : (digits.take n).head? = digits.head? := by
          rw [List.head?_take, if_neg]
          intro hn
          exact hpositive (by rw [hn])
        refine ⟨?_, ?_, ?_, ?_, hnone⟩
        · intro c hc
          exact hdigits c (List.mem_of_mem_take hc)
        · intro hnil
          have hnil' : digits.take n = [] := hnil
          rw [hnil'] at htake
          exact hne (List.head?_eq_none_iff.mp htake.symm)
        · rw [htake]
          intro hcontra
          exact absurd hcontra hhead
        · intro c hc
          exact hdigits c (List.mem_of_mem_drop hc)

theorem standard_numeral {l : Layout} (hl : AllDigits l.wholeFraction) (negative : Bool)
    (s : Scaled) : (l.numeral negative s).Standard := by
  unfold numeral
  by_cases hzero : s.coefficient = 0
  · simp only [hzero, if_true]
    exact ⟨allDigits_zeros 1, by simp, by simp, hl, by simp⟩
  · have hdigits := allDigits_digitsOf s.coefficient
    have hne := digitsOf_ne_nil s.coefficient
    have hhead := head?_digitsOf (Nat.pos_of_ne_zero hzero)
    simp only [hzero, if_false]
    split
    · exact standard_placePoint _ hdigits hne hhead hl
    · have htake : ((digitsOf s.coefficient).take 1).head? = (digitsOf s.coefficient).head? := by
        rw [List.head?_take, if_neg (by decide)]
      refine ⟨?_, ?_, ?_, ?_, ?_⟩
      · intro c hc
        exact hdigits c (List.mem_of_mem_take hc)
      · simp [hne]
      · rw [htake]
        intro hcontra
        exact absurd hcontra hhead
      · intro c hc
        exact hdigits c (List.mem_of_mem_drop hc)
      · intro e he
        cases he
        exact ⟨digitsOf_ne_nil _, allDigits_digitsOf _⟩

theorem standard_of_numeral? {v : Float} {n : Numeral}
    (h : Layout.document.numeral? v = some n) : n.Standard := by
  unfold numeral? at h
  split at h
  · cases h
    exact standard_numeral (allDigits_zeros 1) _ _
  · cases h

end Layout

/-!
## Taking a numeral from a text

Digits are taken as far as they go.  The numeral of a value begins with a minus
or a digit, which no other token does.
-/

/-- A text in which no number goes on. -/
def EndsNumber (cs : List Char) : Prop :=
  forall c, cs.head? = some c -> c.isDigit = false ∧ c ≠ '.' ∧ c ≠ 'e' ∧ c ≠ 'E'

def EndsDigits (cs : List Char) : Prop :=
  forall c, cs.head? = some c -> c.isDigit = false

theorem takeDigits_append_of_endsDigits {ds rest : List Char} (hds : AllDigits ds)
    (hrest : EndsDigits rest) : takeDigits (ds ++ rest) = (ds, rest) := by
  induction ds with
  | nil =>
      cases rest with
      | nil => rfl
      | cons c rest =>
          have hc : c.isDigit = false := hrest c rfl
          simp [takeDigits, hc]
  | cons d ds ih =>
      have hd : d.isDigit = true := hds d List.mem_cons_self
      have htail := ih (fun c hc => hds c (List.mem_cons_of_mem _ hc))
      simp only [takeDigits, Prod.mk.injEq] at htail ⊢
      simp [hd, htail.1, htail.2]

end Decimal

namespace Json

open Decimal

theorem takeMinus_of_digit {c : Char} (cs : List Char) (h : c.isDigit = true) :
    takeMinus (c :: cs) = (false, c :: cs) := by
  unfold takeMinus
  split
  · next heq =>
      cases heq
      cases h
  · rfl

theorem takeLeadingDigits_append {ds rest : List Char} (hds : AllDigits ds) (hne : ds ≠ [])
    (hzero : ds.head? = some '0' -> ds = ['0']) (hrest : EndsDigits rest) :
    takeLeadingDigits (ds ++ rest) = some (ds, rest) := by
  unfold takeLeadingDigits
  rw [takeDigits_append_of_endsDigits hds hrest]
  split
  · next heq =>
      cases heq
      exact absurd rfl hne
  · next heq =>
      cases heq
      cases hzero rfl
  · next heq =>
      cases heq
      rfl

/-!
The text of a numeral is a sequence of four parts, and each of the functions
that take a number apart stops where the next part begins.
-/

def signText (negative : Bool) : List Char :=
  if negative then ['-'] else []

def fractionText : List Char -> List Char
  | [] => []
  | digits => '.' :: digits

def exponentText : Option Exponent -> List Char
  | none => []
  | some e => e.text

theorem text_append (n : Numeral) (rest : List Char) :
    n.text ++ rest =
      signText n.negative ++ (n.whole ++ (fractionText n.fraction ++
        (exponentText n.exponent ++ rest))) := by
  unfold Numeral.text signText fractionText exponentText
  cases n.fraction <;> cases n.exponent <;> simp

theorem takeFraction_append {ds rest : List Char} (hds : AllDigits ds)
    (hpoint : rest.head? ≠ some '.') (hrest : EndsDigits rest) :
    takeFraction (fractionText ds ++ rest) = some (ds, rest) := by
  cases ds with
  | nil =>
      show takeFraction rest = _
      unfold takeFraction
      split
      · exact absurd rfl hpoint
      · rfl
  | cons d ds =>
      show takeFraction ('.' :: ((d :: ds) ++ rest)) = _
      simp only [takeFraction, takeDigits_append_of_endsDigits hds hrest]
      rfl

theorem takeExponentSign_append (sign : ExponentSign) {ds : List Char} (rest : List Char)
    (hne : ds ≠ []) (hds : AllDigits ds) :
    takeExponentSign (sign.text ++ (ds ++ rest)) = (sign, ds ++ rest) := by
  cases sign with
  | plus => rfl
  | minus => rfl
  | bare =>
      cases ds with
      | nil => exact absurd rfl hne
      | cons d ds =>
          have hd : d.isDigit = true := hds d List.mem_cons_self
          show takeExponentSign (d :: (ds ++ rest)) = _
          unfold takeExponentSign
          split
          · next heq =>
              cases heq
              cases hd
          · next heq =>
              cases heq
              cases hd
          · rfl

theorem takeExponent_append {exponent : Option Exponent} {rest : List Char}
    (hdigits : forall e, exponent = some e -> e.digits ≠ [] ∧ AllDigits e.digits)
    (hrest : EndsNumber rest) :
    takeExponent (exponentText exponent ++ rest) = some (exponent, rest) := by
  cases exponent with
  | none =>
      cases rest with
      | nil => rfl
      | cons c rest =>
          rcases hrest c rfl with ⟨_, _, hlower, hupper⟩
          simp [exponentText, takeExponent, hlower, hupper]
  | some e =>
      rcases hdigits e rfl with ⟨hne, hall⟩
      have hends : EndsDigits rest := fun c hc => (hrest c hc).1
      have hsign := takeExponentSign_append e.sign rest hne hall
      have htake := takeDigits_append_of_endsDigits hall hends
      simp [exponentText, Exponent.text, takeExponent, hsign, htake, hne]

theorem endsDigits_exponentText (exponent : Option Exponent) {rest : List Char}
    (hrest : EndsNumber rest) : EndsDigits (exponentText exponent ++ rest) := by
  cases exponent with
  | none => exact fun c hc => (hrest c hc).1
  | some e =>
      intro c hc
      cases hc
      rfl

theorem endsDigits_fractionText {ds rest : List Char} (hrest : EndsDigits rest) :
    EndsDigits (fractionText ds ++ rest) := by
  cases ds with
  | nil => exact hrest
  | cons d ds =>
      intro c hc
      cases hc
      rfl

theorem head?_exponentText_ne_point {exponent : Option Exponent} {rest : List Char}
    (hrest : EndsNumber rest) : (exponentText exponent ++ rest).head? ≠ some '.' := by
  cases exponent with
  | none =>
      intro hpoint
      exact (hrest '.' hpoint).2.1 rfl
  | some e =>
      intro hpoint
      cases hpoint

theorem takeMinus_append {negative : Bool} {ds : List Char} (rest : List Char)
    (hne : ds ≠ []) (hds : AllDigits ds) :
    takeMinus (signText negative ++ (ds ++ rest)) = (negative, ds ++ rest) := by
  cases negative with
  | true => rfl
  | false =>
      cases ds with
      | nil => exact absurd rfl hne
      | cons d ds => exact takeMinus_of_digit _ (hds d List.mem_cons_self)

theorem takeNumber_text {n : Numeral} {rest : List Char} (h : n.Standard)
    (hrest : EndsNumber rest) : takeNumber (n.text ++ rest) = some (n, rest) := by
  have hexponent := endsDigits_exponentText n.exponent hrest
  unfold takeNumber
  rw [text_append]
  simp only [takeMinus_append _ h.nonempty h.whole,
    takeLeadingDigits_append h.whole h.nonempty h.leading (endsDigits_fractionText hexponent),
    takeFraction_append h.fraction (head?_exponentText_ne_point hrest) hexponent,
    takeExponent_append h.exponent hrest]

theorem head_text {n : Numeral} (h : n.Standard) :
    exists c cs, n.text = c :: cs ∧ (c = '-' ∨ c.isDigit = true) := by
  have htext := text_append n []
  rw [List.append_nil] at htext
  rw [htext]
  cases n.negative with
  | true => exact ⟨'-', _, rfl, Or.inl rfl⟩
  | false =>
      cases hwhole : n.whole with
      | nil => exact absurd hwhole h.nonempty
      | cons c cs =>
          refine ⟨c, _, rfl, Or.inr ?_⟩
          exact h.whole c (by rw [hwhole]; exact List.mem_cons_self)

end Json
end Drafting
