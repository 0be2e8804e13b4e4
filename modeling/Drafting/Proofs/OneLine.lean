import Drafting.Decimal.Fixed
import Drafting.Proofs.Cores
import Drafting.Proofs.Fields
import Drafting.Proofs.Json.Numerals

/-!
# Texts of one line

A row has no line feed, and everything that is cut out of it has none either:
the names, heads, and values of its statement, and the operands of expressions.
Numbers, names, and codes are written without one.  So whatever a row says can
be told in one line, whether its statement is carried out or fails.
-/

namespace Drafting

namespace Text

def OneLine (s : String) : Prop :=
  '\n' ∉ s.toList

theorem OneLine.append {a b : String} (ha : OneLine a) (hb : OneLine b) : OneLine (a ++ b) := by
  rw [OneLine, String.toList_append, List.mem_append, not_or]
  exact ⟨ha, hb⟩

theorem oneLine_ofList {cs : List Char} : OneLine (String.ofList cs) ↔ '\n' ∉ cs := by
  rw [OneLine, String.toList_ofList]

/-- For literals, which are lists of characters to begin with. -/
theorem oneLine_literal {cs : List Char} (h : cs.contains '\n' = false) :
    OneLine (String.ofList cs) := by
  rw [oneLine_ofList, ← List.contains_iff_mem, h]
  exact Bool.false_ne_true

theorem oneLine_trimmed {s : String} (h : OneLine s) : OneLine (trimmed s) := by
  rw [trimmed, oneLine_ofList]
  exact fun hmem => h (mem_of_mem_trim hmem)

theorem oneLine_getD {s? : Option String} (h : forall s, s? = some s -> OneLine s) :
    OneLine (s?.getD "") := by
  cases s? with
  | none => exact oneLine_literal rfl
  | some s => exact h s rfl

theorem mem_of_mem_pieces {mark c : Char} {cs piece : List Char} (h : piece ∈ pieces mark cs)
    (hc : c ∈ piece) : c ∈ cs := by
  induction cs generalizing piece with
  | nil =>
      rw [List.mem_singleton.mp h] at hc
      exact hc
  | cons d rest ih =>
      by_cases hd : d = mark
      · rw [hd, pieces_mark] at h
        rcases List.mem_cons.mp h with rfl | hmem
        · cases hc
        · exact List.mem_cons_of_mem d (ih hmem hc)
      · rcases exists_pieces_of_ne hd rest with ⟨first, more, hrest, hpieces⟩
        rw [hpieces] at h
        rw [hrest] at ih
        rcases List.mem_cons.mp h with rfl | hmem
        · rcases List.mem_cons.mp hc with rfl | hfirst
          · exact List.mem_cons_self
          · exact List.mem_cons_of_mem d (ih List.mem_cons_self hfirst)
        · exact List.mem_cons_of_mem d (ih (List.mem_cons_of_mem first hmem) hc)

end Text

open Text

/-!
## Numbers

Numerals are made of digits, and of signs, points, and marks of exponents.
Infinities and the value that is not a number are words.
-/

namespace Decimal

theorem not_mem_of_allDigits {cs : List Char} (h : AllDigits cs) : '\n' ∉ cs := by
  intro hmem
  have hdigit := h '\n' hmem
  revert hdigit
  decide

theorem oneLine_counted (n : Nat) : OneLine (counted n) :=
  oneLine_ofList.mpr (not_mem_of_allDigits (allDigits_digitsOf n))

theorem Numeral.not_mem_text {n : Numeral} (hwhole : AllDigits n.whole)
    (hfraction : AllDigits n.fraction)
    (hexponent : forall e, n.exponent = some e -> AllDigits e.digits) : '\n' ∉ n.text := by
  unfold Numeral.text
  rcases n with ⟨negative, whole, fraction, exponent⟩
  simp only [List.mem_append, not_or]
  refine ⟨⟨⟨?_, not_mem_of_allDigits hwhole⟩, ?_⟩, ?_⟩
  · cases negative <;> simp
  · cases fraction with
    | nil => exact List.not_mem_nil
    | cons c rest =>
        rw [List.mem_cons, not_or]
        exact ⟨by decide, not_mem_of_allDigits hfraction⟩
  · cases exponent with
    | none => exact List.not_mem_nil
    | some e =>
        have hdigits := not_mem_of_allDigits (hexponent e rfl)
        simp only [Exponent.text, List.mem_cons, List.mem_append, not_or]
        refine ⟨by decide, ?_, hdigits⟩
        cases e.sign <;> decide

theorem oneLine_whole (n : Int) : OneLine (whole n) := by
  rw [whole, oneLine_ofList]
  exact Numeral.not_mem_text (allDigits_digitsOf _) allDigits_nil (by intro e he; cases he)

theorem oneLine_shown (v : Float) : OneLine (shown v) := by
  unfold shown
  split
  · exact oneLine_literal rfl
  · exact oneLine_literal rfl
  · exact oneLine_literal rfl
  · next negative significand exponent _ =>
      have hstandard := Layout.standard_numeral (l := .message) allDigits_nil negative
        (shortest Layout.message.tie significand exponent)
      exact oneLine_ofList.mpr (Numeral.not_mem_text hstandard.whole hstandard.fraction
        fun e he => (hstandard.exponent e he).2)

theorem oneLine_fixed (places : Nat) (v : Float) : OneLine (fixed places v) := by
  unfold fixed
  split
  · exact oneLine_literal rfl
  · exact oneLine_literal rfl
  · exact oneLine_literal rfl
  · next negative significand exponent _ =>
      rw [oneLine_ofList]
      apply Numeral.not_mem_text
      · exact allDigits_digitsOf _
      · unfold fixedNumeral
        dsimp only
        split
        · exact allDigits_nil
        · exact allDigits_append (allDigits_zeros _) (allDigits_digitsOf _)
      · intro e he
        cases he

end Decimal

/-!
## Statements

Of a statement its name, its head, and the values of its fields are ever shown.
They are made of characters of the line.
-/

namespace Row

theorem mem_of_mem_beforeComment? {c : Char} {row before : List Char}
    (h : beforeComment? row = some before) (hc : c ∈ before) : c ∈ row := by
  fun_induction beforeComment? row generalizing before with
  | case1 => cases h
  | case2 rest =>
      cases h
      cases hc
  | case3 d rest hmark ih =>
      cases hrest : beforeComment? rest with
      | none =>
          rw [hrest] at h
          cases h
      | some kept =>
          rw [hrest] at h
          cases h
          rcases List.mem_cons.mp hc with rfl | hmem
          · exact List.mem_cons_self
          · exact List.mem_cons_of_mem d (ih hrest hmem)

theorem mem_of_mem_core {c : Char} {row : List Char} (hc : c ∈ core row) : c ∈ row := by
  have hkept := mem_of_mem_trim hc
  cases hcomment : beforeComment? row with
  | none =>
      rw [hcomment] at hkept
      exact hkept
  | some before =>
      rw [hcomment] at hkept
      exact mem_of_mem_beforeComment? hcomment hkept

end Row

namespace Statement

structure OneLine (s : Statement) : Prop where
  name : forall n, s.name = some n -> Text.OneLine n
  head : Text.OneLine s.head
  fields : forall e, e ∈ s.fields -> Text.OneLine e.2

theorem oneLine_mainPart {cs : List Char} (h : '\n' ∉ cs) :
    (forall n, (mainPart cs).1 = some n -> Text.OneLine n) ∧ Text.OneLine (mainPart cs).2 := by
  refine ⟨?_, not_mem_mainPart h⟩
  intro n hn
  unfold mainPart at hn
  rcases hcut : cutAt '=' cs with ⟨name, _ | head⟩
  · rw [hcut] at hn
    cases hn
  · rw [hcut] at hn
    cases hn
    rw [oneLine_ofList]
    intro hmem
    exact h (mem_of_mem_cutAt.1 (by rw [hcut]; exact mem_of_mem_trim hmem))

theorem oneLine_put {key value : String} {fields : List (String × String)}
    (hvalue : Text.OneLine value) (h : forall e, e ∈ fields -> Text.OneLine e.2) :
    forall e, e ∈ Binding.put key value fields -> Text.OneLine e.2 := by
  induction fields with
  | nil =>
      intro e he
      rw [List.mem_singleton.mp he]
      exact hvalue
  | cons first rest ih =>
      rw [List.forall_mem_cons] at h
      unfold Binding.put
      split
      · rw [List.forall_mem_cons]
        exact ⟨hvalue, h.2⟩
      · rw [List.forall_mem_cons]
        exact ⟨h.1, ih h.2⟩

theorem oneLine_keptOf {pieces : List (List Char)} (h : forall p, p ∈ pieces -> '\n' ∉ p) :
    forall e, e ∈ keptOf pieces -> Text.OneLine e.2 := by
  induction pieces using List.reverseRecOn with
  | nil =>
      intro e he
      cases he
  | append_singleton pieces piece ih =>
      rw [List.forall_mem_append, List.forall_mem_singleton] at h
      rw [keptOf_concat, addField_trim]
      exact oneLine_put (oneLine_mainPart h.2).2 (ih h.1)

theorem oneLine_ofChars {line : List Char} (h : '\n' ∉ line) : (ofChars line).OneLine := by
  have hmain : '\n' ∉ (cutAt ':' line).1 := fun hmem => h (mem_of_mem_cutAt.1 hmem)
  have hparts := oneLine_mainPart hmain
  have hpieces : forall p, p ∈ fieldPieces line -> '\n' ∉ p := by
    intro p hp hmem
    unfold fieldPieces at hp
    cases hbody : (cutAt ':' line).2 with
    | none =>
        rw [hbody] at hp
        cases hp
    | some body =>
        rw [hbody] at hp
        have hpiece := (List.mem_filter.mp hp).1
        exact h (mem_of_mem_cutAt.2 body hbody (mem_of_mem_pieces hpiece hmem))
  constructor
  · intro n hn
    rw [ofChars_eq] at hn
    exact hparts.1 n hn
  · rw [ofChars_eq]
    exact hparts.2
  · rw [fields_ofChars]
    exact oneLine_keptOf hpieces

namespace OneLine

variable {s : Statement} (h : s.OneLine)

include h

theorem field? {key raw : String} (hfield : s.field? key = some raw) : Text.OneLine raw := by
  rcases List.lookup_eq_some_iff.mp hfield with ⟨before, after, hsplit, _⟩
  apply h.fields (key, raw)
  rw [hsplit]
  exact List.mem_append_right before List.mem_cons_self

theorem fieldOrPosition? {key raw : String} {position : Nat}
    (hfield : s.fieldOrPosition? key position = some raw) : Text.OneLine raw := by
  rcases Option.or_eq_some_iff.mp hfield with hnamed | ⟨_, hplaced⟩
  · exact h.field? hnamed
  · exact h.field? hplaced

end OneLine

end Statement

end Drafting
