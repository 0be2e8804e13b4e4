import Drafting.Proofs.Chains
import Drafting.Proofs.Decimal.Sums
import Drafting.Proofs.Trimming

/-!
# The text of a number

The text of a finite number has no blanks but those around it.  So deleting the
blanks of such a text leaves the same number, and the sign in front of a number
can be taken off.
-/

namespace Drafting

open Text (isBlank trim withoutBlanks)

namespace Text

theorem trim_eq_self {cs : List Char} (h : forall c, c ∈ cs -> isBlank c = false) :
    trim cs = cs := by
  have hstart : forall ds : List Char, (forall c, c ∈ ds -> isBlank c = false) ->
      ds.dropWhile isBlank = ds := by
    intro ds hds
    cases ds with
    | nil => rfl
    | cons d rest => exact List.dropWhile_cons_of_neg (by simp [hds d List.mem_cons_self])
  rw [trim, trimStart, hstart cs h, trimEnd,
    hstart cs.reverse (fun c hc => h c (List.mem_reverse.mp hc)), List.reverse_reverse]

theorem withoutBlanks_eq_self {cs : List Char} (h : forall c, c ∈ cs -> isBlank c = false) :
    withoutBlanks cs = cs := by
  apply List.filter_eq_self.mpr
  intro c hc
  simp [h c hc]

theorem withoutBlanks_trim (cs : List Char) : withoutBlanks (trim cs) = withoutBlanks cs := by
  apply apply_trim
  · intro c cs hc
    simp [withoutBlanks, hc]
  · intro c cs hc
    simp [withoutBlanks, hc]

theorem isBlank_of_isDigit {c : Char} (h : c.isDigit = true) : isBlank c = false := by
  have hlow : 48 ≤ c.toNat := by
    simp only [Char.isDigit, Bool.and_eq_true, decide_eq_true_eq] at h
    exact h.1
  have hhigh : c.toNat ≤ 57 := by
    simp only [Char.isDigit, Bool.and_eq_true, decide_eq_true_eq] at h
    exact h.2
  simp only [isBlank, Bool.or_eq_false_iff, Bool.and_eq_false_iff, decide_eq_false_iff_not,
    beq_eq_false_iff_ne]
  omega

end Text

namespace Decimal

theorem mem_takeSign {cs : List Char} {c : Char} (h : c ∈ cs) :
    Expression.isSign c = true ∨ c ∈ (takeSign cs).2 := by
  unfold takeSign
  split
  · rcases List.mem_cons.mp h with rfl | h
    · exact .inl rfl
    · exact .inr h
  · rcases List.mem_cons.mp h with rfl | h
    · exact .inl rfl
    · exact .inr h
  · exact .inr h

theorem takeSign_of_plain {cs : List Char}
    (h : forall c, c ∈ cs -> Expression.isSign c = false) : takeSign cs = (false, cs) := by
  unfold takeSign
  split
  · exact absurd (h '-' List.mem_cons_self) (by decide)
  · exact absurd (h '+' List.mem_cons_self) (by decide)
  · rfl

theorem isBlank_of_isSign {c : Char} (h : Expression.isSign c = true) : isBlank c = false := by
  simp only [Expression.isSign, Bool.or_eq_true, decide_eq_true_eq] at h
  rcases h with rfl | rfl <;> rfl

theorem readExponent_cons (c : Char) (rest : List Char) :
    readExponent (c :: rest) =
      if c = 'e' || c = 'E' then
        if (takeSign rest).2.isEmpty || ! (takeSign rest).2.all Char.isDigit then none
        else
          some (if (takeSign rest).1 then -(digitsValue 0 (takeSign rest).2 : Int)
            else digitsValue 0 (takeSign rest).2)
      else none := rfl

theorem isBlank_of_readExponent {cs : List Char} {e : Int} (h : readExponent cs = some e) :
    forall c, c ∈ cs -> isBlank c = false := by
  cases cs with
  | nil => simp
  | cons c rest =>
      rw [readExponent_cons, Option.ite_none_right_eq_some, Option.ite_none_left_eq_some] at h
      rcases h with ⟨hmark, hdigits, _⟩
      simp only [Bool.or_eq_true, decide_eq_true_eq] at hmark
      simp only [Bool.or_eq_true, Bool.not_eq_true', not_or, Bool.not_eq_false] at hdigits
      rw [List.forall_mem_cons]
      constructor
      · rcases hmark with rfl | rfl <;> rfl
      · intro d hd
        rcases mem_takeSign hd with hsign | hd
        · exact isBlank_of_isSign hsign
        · exact Text.isBlank_of_isDigit (List.all_eq_true.mp hdigits.2 d hd)

theorem isBlank_of_takeDigits {cs : List Char}
    (h : forall c, c ∈ (takeDigits cs).2 -> isBlank c = false) :
    forall c, c ∈ cs -> isBlank c = false := by
  intro c hc
  rw [← takeDigits_append cs] at hc
  rcases List.mem_append.mp hc with hc | hc
  · exact Text.isBlank_of_isDigit (List.all_eq_true.mp List.all_takeWhile c hc)
  · exact h c hc

def takePoint (cs : List Char) : List Char × List Char :=
  match cs with
  | '.' :: rest => takeDigits rest
  | rest => ([], rest)

theorem readDecimal_eq (cs : List Char) :
    readDecimal cs =
      if (takeDigits cs).1.isEmpty && (takePoint (takeDigits cs).2).1.isEmpty then none
      else
        match readExponent (takePoint (takeDigits cs).2).2 with
        | none => none
        | some e =>
            some (nearestFloat
              (digitsValue (digitsValue 0 (takeDigits cs).1) (takePoint (takeDigits cs).2).1)
              (e - (takePoint (takeDigits cs).2).1.length)) := rfl

theorem isBlank_of_takePoint {cs : List Char}
    (h : forall c, c ∈ (takePoint cs).2 -> isBlank c = false) :
    forall c, c ∈ cs -> isBlank c = false := by
  unfold takePoint at h
  split at h
  · exact List.forall_mem_cons.mpr ⟨rfl, isBlank_of_takeDigits h⟩
  · exact h

theorem isBlank_of_readDecimal {cs : List Char} {v : Float} (h : readDecimal cs = some v) :
    forall c, c ∈ cs -> isBlank c = false := by
  rw [readDecimal_eq] at h
  split at h
  · cases h
  · split at h
    · cases h
    · next e he =>
        exact isBlank_of_takeDigits (isBlank_of_takePoint (isBlank_of_readExponent he))

def readSize (size : List Char) : Option Float :=
  let word := size.map Char.toLower
  if word = "inf".toList || word = "infinity".toList then some infinity
  else if word = "nan".toList then some notANumber
  else readDecimal size

theorem readFloat_eq (cs : List Char) :
    readFloat cs =
      (readSize (takeSign cs).2).map fun v => if (takeSign cs).1 then -v else v := rfl

theorem readDecimal_of_readSize {size : List Char} {v : Float} (h : readSize size = some v)
    (hfinite : v.isFinite = true) : readDecimal size = some v := by
  unfold readSize at h
  dsimp only at h
  split at h
  · cases h
    exact absurd hfinite (by decide)
  · split at h
    · cases h
      exact absurd hfinite (by decide)
    · exact h

end Decimal

section Literals

open Decimal (readFloat readSize readDecimal takeSign)

variable {cs : List Char} {u : Float}

theorem literal?_eq_some_iff :
    literal? cs = some u ↔ readFloat (trim cs) = some u ∧ u.isFinite = true := by
  unfold literal?
  split
  · next v hv =>
      rw [hv]
      constructor
      · intro h
        split at h
        · next hfinite =>
            cases h
            exact ⟨rfl, hfinite⟩
        · cases h
      · intro h
        cases h.1
        rw [if_pos h.2]
  · next hnone => simp [hnone]

/-- A literal is a sign, or none, and the text of a finite number. -/
theorem size_of_literal (h : literal? cs = some u) :
    exists v, readDecimal (takeSign (trim cs)).2 = some v ∧
      readSize (takeSign (trim cs)).2 = some v ∧ v.isFinite = true ∧
      u = if (takeSign (trim cs)).1 then -v else v := by
  rcases literal?_eq_some_iff.mp h with ⟨hread, hfinite⟩
  rw [Decimal.readFloat_eq] at hread
  rcases Option.map_eq_some_iff.mp hread with ⟨v, hv, rfl⟩
  have hsize : v.isFinite = true := by
    by_cases hnegative : (takeSign (trim cs)).1 = true
    · rwa [if_pos hnegative, Decimal.isFinite_neg] at hfinite
    · rwa [if_neg hnegative] at hfinite
  exact ⟨v, Decimal.readDecimal_of_readSize hv hsize, hv, hsize, rfl⟩

theorem isBlank_of_literal (h : literal? cs = some u) :
    forall c, c ∈ trim cs -> isBlank c = false := by
  rcases size_of_literal h with ⟨v, hdecimal, _⟩
  intro c hc
  rcases Decimal.mem_takeSign hc with hsign | hc
  · exact Decimal.isBlank_of_isSign hsign
  · exact Decimal.isBlank_of_readDecimal hdecimal c hc

theorem withoutBlanks_of_literal (h : literal? cs = some u) : withoutBlanks cs = trim cs := by
  rw [← Text.withoutBlanks_trim]
  exact Text.withoutBlanks_eq_self (isBlank_of_literal h)

theorem literal?_withoutBlanks (h : literal? cs = some u) :
    literal? (withoutBlanks cs) = some u := by
  rcases literal?_eq_some_iff.mp h with ⟨hread, hfinite⟩
  rw [withoutBlanks_of_literal h]
  apply literal?_eq_some_iff.mpr
  rw [Text.trim_eq_self (isBlank_of_literal h)]
  exact ⟨hread, hfinite⟩

theorem trim_ne_nil_of_literal (h : literal? cs = some u) : trim cs ≠ [] := by
  intro hnil
  have hread := (literal?_eq_some_iff.mp h).1
  rw [hnil] at hread
  cases hread

theorem literal?_size (h : literal? cs = some u)
    (hplain : forall c, c ∈ (takeSign (trim cs)).2 -> Expression.isSign c = false) :
    exists v, literal? (takeSign (trim cs)).2 = some v ∧
      u = if (takeSign (trim cs)).1 then -v else v := by
  rcases size_of_literal h with ⟨v, hdecimal, hsize, hfinite, hu⟩
  refine ⟨v, literal?_eq_some_iff.mpr ⟨?_, hfinite⟩, hu⟩
  rw [Text.trim_eq_self (Decimal.isBlank_of_readDecimal hdecimal), Decimal.readFloat_eq,
    Decimal.takeSign_of_plain hplain]
  simpa using hsize

end Literals

end Drafting
