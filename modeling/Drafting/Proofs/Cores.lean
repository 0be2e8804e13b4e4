import Drafting.Proofs.Trimming
import Drafting.Report

/-!
# The core of a row

All that counts of a row is its core: what stands before its comment, without
the blanks around it.  A row without a core is skipped, and every other row is
read as the statement that its core is.
-/

namespace Drafting

namespace Row

open Text

def core (row : List Char) : List Char :=
  trim ((beforeComment? row).getD row)

theorem beforeComment?_of_allBlank {row : List Char} (h : allBlank row = true) :
    beforeComment? row = none := by
  fun_induction beforeComment? row with
  | case1 => rfl
  | case2 rest => simp [allBlank, isBlank] at h
  | case3 c rest hmark ih =>
      simp only [allBlank, List.all_cons, Bool.and_eq_true] at h
      rw [ih h.2]
      rfl

theorem statement_of_content (row : List Char) :
    (content? (String.ofList row)).map Statement.ofLine =
      if core row = [] then none else some (Statement.ofChars (core row)) := by
  unfold content? core
  rw [String.toList_ofList]
  by_cases hblank : allBlank row = true
  · rw [beforeComment?_of_allBlank hblank]
    simp [hblank, trim_eq_nil_of_allBlank hblank]
  · cases hcomment : beforeComment? row with
    | none =>
        have hcore : ¬ trim row = [] := fun h => hblank (trim_eq_nil_iff.mp h)
        simp [hblank, hcomment, hcore, Statement.ofLine, Statement.ofChars_trim]
    | some before =>
        -- The blanks in front of a comment are cut off before the statement is read.
        have hkept : allBlank (trimEnd before) = allBlank before := by
          apply apply_trimEnd
          intro c cs hc
          simp [allBlank, hc]
        have hread : Statement.ofChars (trimEnd before) = Statement.ofChars before :=
          apply_trimEnd (fun _ cs hc => Statement.ofChars_concat hc cs) before
        by_cases hempty : allBlank before = true
        · simp [hblank, hcomment, hkept, hempty, trim_eq_nil_of_allBlank hempty]
        · have hcore : ¬ trim before = [] := fun h => hempty (trim_eq_nil_iff.mp h)
          simp [hblank, hcomment, hkept, hempty, hcore, Statement.ofLine, hread,
            Statement.ofChars_trim]

theorem beforeComment?_cons (c : Char) (rest : List Char) :
    beforeComment? (c :: rest) =
      if c = '/' ∧ rest.head? = some '/' then some []
      else (beforeComment? rest).map (c :: ·) := by
  split
  · next hmark =>
      rcases List.head?_eq_some_iff.mp hmark.2 with ⟨tail, rfl⟩
      rw [hmark.1]
      rfl
  · next hmark =>
      apply beforeComment?.eq_3
      rintro tail rfl rfl
      exact hmark ⟨rfl, rfl⟩

theorem beforeComment?_concat {c : Char} (hc : c ≠ '/') (row : List Char) :
    beforeComment? (row ++ [c]) = beforeComment? row := by
  induction row with
  | nil => simp [beforeComment?_cons, hc, beforeComment?]
  | cons d rest ih =>
      have hhead : (rest ++ [c]).head? = some '/' ↔ rest.head? = some '/' := by
        cases rest with
        | nil => simp [hc]
        | cons e rest => rfl
      rw [List.cons_append, beforeComment?_cons, beforeComment?_cons, ih]
      simp only [hhead]

theorem core_cons {c : Char} (hc : isBlank c = true) (row : List Char) :
    core (c :: row) = core row := by
  have hmark : ¬ (c = '/' ∧ row.head? = some '/') :=
    fun h => ne_of_isBlank hc rfl h.1
  unfold core
  rw [beforeComment?_cons, if_neg hmark]
  cases beforeComment? row with
  | none => exact trim_cons hc row
  | some before => exact trim_cons hc before

theorem core_concat {c : Char} (hc : isBlank c = true) (row : List Char) :
    core (row ++ [c]) = core row := by
  unfold core
  rw [beforeComment?_concat (ne_of_isBlank hc rfl)]
  cases beforeComment? row with
  | none => exact trim_concat hc row
  | some before => rfl

theorem core_append {front back : List Char} (hfront : allBlank front = true)
    (hback : allBlank back = true) (row : List Char) :
    core (front ++ row ++ back) = core row :=
  apply_append (fun _ row hc => core_cons hc row) (fun _ row hc => core_concat hc row)
    hfront hback row

/-- No comment starts in the text, nor in its last character and a `/` behind it. -/
def HasNoComment (text : List Char) : Prop :=
  beforeComment? (text ++ ['/']) = none

instance (text : List Char) : Decidable (HasNoComment text) :=
  inferInstanceAs (Decidable (_ = _))

theorem beforeComment?_append {text : List Char} (h : HasNoComment text) (rest : List Char) :
    beforeComment? (text ++ rest) = (beforeComment? rest).map (text ++ ·) := by
  unfold HasNoComment at h
  induction text with
  | nil => simp
  | cons c more ih =>
      rw [List.cons_append, beforeComment?_cons] at h
      split at h
      · cases h
      · next hnot =>
          have hmark : ¬ (c = '/' ∧ (more ++ rest).head? = some '/') := by
            rintro ⟨hc, hhead⟩
            apply hnot
            refine ⟨hc, ?_⟩
            cases more with
            | nil => rfl
            | cons d more => exact hhead
          rw [List.cons_append, beforeComment?_cons, if_neg hmark,
            ih (Option.map_eq_none_iff.mp h), Option.map_map]
          rfl

theorem core_append_comment {text : List Char} (h : HasNoComment text) (comment : List Char) :
    core (text ++ '/' :: '/' :: comment) = core text := by
  have hplain : beforeComment? text = none := by
    have hempty := beforeComment?_append h []
    rw [List.append_nil] at hempty
    exact hempty
  unfold core
  rw [beforeComment?_append h, hplain]
  show trim (text ++ []) = trim text
  rw [List.append_nil]

end Row

namespace Drawing

/-- One row read by its statement. -/
theorem readRow_eq (d : Drawing) (text : String) :
    d.readRow text =
      match (Row.content? text).map Statement.ofLine with
      | none => (.skipped, d)
      | some s =>
          match d.execute s with
          | (.error e, after) => (.failed e, after)
          | (.ok effect, after) => (.done effect, after) := by
  unfold readRow
  cases Row.content? text <;> rfl

theorem readRow_of_core_eq {row other : List Char} (h : Row.core row = Row.core other)
    (d : Drawing) : d.readRow (String.ofList row) = d.readRow (String.ofList other) := by
  rw [readRow_eq, readRow_eq, Row.statement_of_content, Row.statement_of_content, h]

theorem readRow_of_core_eq_nil {row : List Char} (h : Row.core row = []) (d : Drawing) :
    d.readRow (String.ofList row) = (.skipped, d) := by
  rw [readRow_eq, Row.statement_of_content, if_pos h]

end Drawing

end Drafting
