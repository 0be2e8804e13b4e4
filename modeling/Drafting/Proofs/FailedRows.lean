import Drafting.Proofs.Rows
import Drafting.Report

/-!
# Rows that fail leave no trace

A source can be read once more with the text of all its failing rows taken out.
The two readings go side by side: at every row both have reached the same
drawing, so the second one meets no failure and ends where the first one ends.
-/

namespace Drafting

namespace RowOutcome

def failure? (row : Nat) : RowOutcome -> Option RowError
  | .failed e => some { row := row, error := e }
  | _ => none

theorem row_of_failure? {row : Nat} {outcome : RowOutcome} {e : RowError}
    (h : outcome.failure? row = some e) : e.row = row := by
  cases outcome <;> cases h
  rfl

end RowOutcome

namespace Drawing

theorem readRow_empty (d : Drawing) : d.readRow "" = (.skipped, d) := rfl

theorem readRow_of_failure {d : Drawing} {row : Nat} {text : String} {e : RowError}
    (h : (d.readRow text).1.failure? row = some e) : (d.readRow text).2 = d := by
  unfold readRow at h ⊢
  cases hcontent : Row.content? text with
  | none => rfl
  | some content =>
      cases hplan : (Statement.ofLine content).plan d with
      | error cause => simp [execute, hplan]
      | ok change => simp [execute, hplan, hcontent, RowOutcome.failure?] at h

/-!
## Runs over numbered rows

A report keeps the drawing and the failures in one record.  A run takes them
apart: the drawing does not depend on the failures noted so far.
-/

def afterRows (d : Drawing) : List (Nat × String) -> Drawing
  | [] => d
  | (_, text) :: rest => afterRows (d.readRow text).2 rest

def failures (d : Drawing) : List (Nat × String) -> List RowError
  | [] => []
  | (row, text) :: rest =>
      ((d.readRow text).1.failure? row).toList ++ failures (d.readRow text).2 rest

theorem afterRows_append (d : Drawing) (rows more : List (Nat × String)) :
    d.afterRows (rows ++ more) = (d.afterRows rows).afterRows more := by
  induction rows generalizing d with
  | nil => rfl
  | cons first rest ih => exact ih (d.readRow first.2).2

theorem failures_append (d : Drawing) (rows more : List (Nat × String)) :
    d.failures (rows ++ more) = d.failures rows ++ (d.afterRows rows).failures more := by
  induction rows generalizing d with
  | nil => rfl
  | cons first rest ih =>
      simp only [List.cons_append, failures, afterRows, List.append_assoc]
      rw [ih]

theorem run_of_skipped {rows : List (Nat × String)} (d : Drawing)
    (h : forall row, row ∈ rows -> d.readRow row.2 = (.skipped, d)) :
    d.afterRows rows = d ∧ d.failures rows = [] := by
  induction rows with
  | nil => exact ⟨rfl, rfl⟩
  | cons first rest ih =>
      rcases first with ⟨row, text⟩
      have htext : d.readRow text = (.skipped, d) := h (row, text) List.mem_cons_self
      have hrest := ih fun other hother => h other (List.mem_cons_of_mem _ hother)
      simp only [afterRows, failures, htext, RowOutcome.failure?, Option.toList_none,
        List.nil_append]
      exact hrest

theorem row_of_mem_failures {d : Drawing} {rows : List (Nat × String)} {e : RowError}
    (h : e ∈ d.failures rows) : e.row ∈ rows.map Prod.fst := by
  induction rows generalizing d with
  | nil => cases h
  | cons first rest ih =>
      rcases first with ⟨row, text⟩
      rcases List.mem_append.mp h with hhere | hlater
      · have hrow : e.row = row := RowOutcome.row_of_failure? (Option.mem_toList.mp hhere)
        rw [hrow]
        exact List.mem_cons_self
      · exact List.mem_cons_of_mem _ (ih hlater)

/-!
## The reading without the failing rows

Whether the first row has failed is decided at that row, and whether a later one
has failed is decided after it.
-/

def withoutText (blanked : List Nat) (rows : List (Nat × String)) : List (Nat × String) :=
  rows.map fun (row, text) => (row, if row ∈ blanked then "" else text)

theorem row_not_mem_failures {d : Drawing} {rows : List (Nat × String)} {row : Nat}
    (h : forall other, other ∈ rows.map Prod.fst -> row < other) :
    row ∉ (d.failures rows).map RowError.row := by
  intro hmem
  rcases List.mem_map.mp hmem with ⟨e, he, hsame⟩
  have hlt := h e.row (row_of_mem_failures he)
  omega

theorem first_mem_failures_iff {d : Drawing} {row : Nat} {text : String}
    {rest : List (Nat × String)} (h : forall other, other ∈ rest.map Prod.fst -> row < other) :
    row ∈ (d.failures ((row, text) :: rest)).map RowError.row ↔
      ((d.readRow text).1.failure? row).isSome = true := by
  have hlater := row_not_mem_failures (d := (d.readRow text).2) h
  simp only [failures, List.map_append, List.mem_append, or_iff_left hlater]
  cases hfailure : (d.readRow text).1.failure? row with
  | none => simp
  | some e => simp [RowOutcome.row_of_failure? hfailure]

theorem later_mem_failures_iff {d : Drawing} {row other : Nat} {text : String}
    {rest : List (Nat × String)} (h : row < other) :
    other ∈ (d.failures ((row, text) :: rest)).map RowError.row ↔
      other ∈ ((d.readRow text).2.failures rest).map RowError.row := by
  have hhere : other ∉ ((d.readRow text).1.failure? row).toList.map RowError.row := by
    intro hmem
    rcases List.mem_map.mp hmem with ⟨e, he, hsame⟩
    have hnumber := RowOutcome.row_of_failure? (Option.mem_toList.mp he)
    omega
  simp only [failures, List.map_append, List.mem_append, or_iff_right hhere]

/--
The two readings in step.  What is asked of `blanked` stays true for the rest of
the rows, because the number of the first row does not come again.
-/
theorem reading_withoutText {blanked : List Nat} {rows : List (Nat × String)} (d : Drawing)
    (hnumbers : (rows.map Prod.fst).Pairwise (· < ·))
    (hblanked : forall row, row ∈ rows.map Prod.fst ->
      (row ∈ blanked ↔ row ∈ (d.failures rows).map RowError.row)) :
    d.afterRows (withoutText blanked rows) = d.afterRows rows ∧
      d.failures (withoutText blanked rows) = [] := by
  induction rows generalizing d with
  | nil => exact ⟨rfl, rfl⟩
  | cons first rest ih =>
      rcases first with ⟨row, text⟩
      rcases List.pairwise_cons.mp hnumbers with ⟨hfirst, hrest⟩
      have hrow := (hblanked row List.mem_cons_self).trans (first_mem_failures_iff hfirst)
      have hlater : forall other, other ∈ rest.map Prod.fst ->
          (other ∈ blanked ↔
            other ∈ ((d.readRow text).2.failures rest).map RowError.row) := by
        intro other hother
        rw [hblanked other (List.mem_cons_of_mem _ hother)]
        exact later_mem_failures_iff (hfirst other hother)
      cases hfailure : (d.readRow text).1.failure? row with
      | none =>
          have hkept : row ∉ blanked := by
            rw [hrow, hfailure]
            simp
          have hnext := ih (d.readRow text).2 hrest hlater
          simp only [withoutText, List.map_cons, if_neg hkept, afterRows, failures,
            hfailure, Option.toList_none, List.nil_append]
          exact hnext
      | some e =>
          have hremoved : row ∈ blanked := by
            rw [hrow, hfailure]
            rfl
          -- A row that fails leaves the drawing as it is, and so does a row without a text.
          have hsame : (d.readRow text).2 = d := readRow_of_failure hfailure
          rw [hsame] at hlater
          have hnext := ih d hrest hlater
          simp only [withoutText, List.map_cons, if_pos hremoved, afterRows, failures,
            readRow_empty, RowOutcome.failure?, Option.toList_none, List.nil_append, hsame]
          exact hnext

end Drawing

namespace Report

theorem feed_eq (r : Report) (row : Nat) (text : String) :
    r.feed row text =
      { drawing := (r.drawing.readRow text).2
        errors := r.errors ++ ((r.drawing.readRow text).1.failure? row).toList } := by
  unfold feed
  rcases r.drawing.readRow text with ⟨outcome, next⟩
  cases outcome <;> simp [RowOutcome.failure?]

theorem feedAll_eq (r : Report) (rows : List (Nat × String)) :
    r.feedAll rows =
      { drawing := r.drawing.afterRows rows
        errors := r.errors ++ r.drawing.failures rows } := by
  induction rows generalizing r with
  | nil => simp [feedAll, Drawing.afterRows, Drawing.failures]
  | cons first rest ih =>
      rcases first with ⟨row, text⟩
      show (r.feed row text).feedAll rest = _
      rw [ih, feed_eq]
      simp [Drawing.afterRows, Drawing.failures]

theorem ofSource_eq (source : String) :
    ofSource source =
      { drawing := Drawing.blank.afterRows (numbered 1 source)
        errors := Drawing.blank.failures (numbered 1 source) } := by
  rw [ofSource, feedAll_eq]
  rfl

theorem map_fst_numbered (first : Nat) (source : String) :
    (numbered first source).map Prod.fst =
      List.range' first (Text.rows source.toList).length := by
  simp [numbered, Function.comp_def, List.zipIdx_map_snd]

theorem numbers_ascend (first : Nat) (source : String) :
    ((numbered first source).map Prod.fst).Pairwise (· < ·) := by
  rw [map_fst_numbered]
  exact List.pairwise_lt_range'

/-!
## The source without the failing rows

All line ends stay where they are.  So the rows keep their numbers, but empty
rows at the end of the source may no longer count.
-/

def blankLines (blanked : List Nat) (first : Nat) (lines : List (List Char × List Char)) :
    List (List Char × List Char) :=
  (lines.zipIdx first).map fun ((row, ending), number) =>
    (if number ∈ blanked then [] else row, ending)

def blankRows (blanked : List Nat) (source : String) : String :=
  String.ofList (Text.joined (blankLines blanked 1 (Text.endedRows source.toList)))

theorem ended_blankLines (blanked : List Nat) (first : Nat)
    {lines : List (List Char × List Char)} (h : Text.Ended lines) :
    Text.Ended (blankLines blanked first lines) := by
  induction h generalizing first with
  | nil => exact Text.Ended.nil
  | last hrow =>
      apply Text.Ended.last
      split
      · simp
      · exact hrow
  | cons hrow hend _ ih =>
      refine Text.Ended.cons ?_ ?_ (ih (first + 1))
      · split
        · simp
        · exact hrow
      · split
        · exact Text.endsRow_nil_of_endsRow hend
        · exact hend

def numberRows (first : Nat) (rows : List (List Char)) : List (Nat × String) :=
  (rows.zipIdx first).map fun (row, i) => (i, String.ofList row)

def blankTexts (blanked : List Nat) (first : Nat) (rows : List (List Char)) :
    List (List Char) :=
  (rows.zipIdx first).map fun (row, number) => if number ∈ blanked then [] else row

theorem map_fst_blankLines (blanked : List Nat) (first : Nat) (cs : List Char) :
    (blankLines blanked first (Text.endedRows cs)).map Prod.fst =
      blankTexts blanked first (Text.rows cs) := by
  rw [← Text.map_fst_endedRows]
  generalize Text.endedRows cs = lines
  induction lines generalizing first with
  | nil => rfl
  | cons line rest ih => simpa [blankLines, blankTexts] using ih (first + 1)

theorem withoutText_numberRows (blanked : List Nat) (first : Nat) (rows : List (List Char)) :
    Drawing.withoutText blanked (numberRows first rows) =
      numberRows first (blankTexts blanked first rows) := by
  induction rows generalizing first with
  | nil => rfl
  | cons row rest ih =>
      have hrest := ih (first + 1)
      simp only [Drawing.withoutText, numberRows, blankTexts, List.zipIdx_cons,
        List.map_cons] at hrest ⊢
      rw [hrest]
      by_cases hmem : first ∈ blanked <;> simp [hmem]

theorem numbered_eq (first : Nat) (source : String) :
    numbered first source = numberRows first (Text.rows source.toList) := rfl

theorem numberRows_cons (first : Nat) (row : List Char) (rest : List (List Char)) :
    numberRows first (row :: rest) =
      (first, String.ofList row) :: numberRows (first + 1) rest := rfl

theorem numberRows_append (first : Nat) (rows more : List (List Char)) :
    numberRows first (rows ++ more) =
      numberRows first rows ++ numberRows (first + rows.length) more := by
  rw [numberRows, List.zipIdx_append, List.map_append]
  rfl

theorem numbered_append {p : String} (hclosed : Text.Closed p.toList) (s : String) :
    numbered 1 (p ++ s) =
      numbered 1 p ++ numberRows (1 + (Text.rows p.toList).length) (Text.rows s.toList) := by
  rw [numbered_eq, numbered_eq, String.toList_append,
    Text.rows_append_of_closed s.toList hclosed, numberRows_append]

theorem exists_of_mem_numberRows {first : Nat} {rows : List (List Char)} {row : Nat × String}
    (h : row ∈ numberRows first rows) :
    exists text, text ∈ rows ∧ row.2 = String.ofList text := by
  rcases List.mem_map.mp h with ⟨⟨text, i⟩, hentry, rfl⟩
  exact ⟨text, List.fst_mem_of_mem_zipIdx hentry, rfl⟩

theorem numbered_blankRows (blanked : List Nat) (source : String) :
    exists extra,
      Drawing.withoutText blanked (numbered 1 source) =
        numbered 1 (blankRows blanked source) ++ extra ∧
      forall row, row ∈ extra -> row.2 = "" := by
  have hended := ended_blankLines blanked 1 (Text.ended_endedRows source.toList)
  rcases Text.rows_joined hended with ⟨blanks, hrows, hblanks⟩
  rw [map_fst_blankLines] at hrows
  refine ⟨numberRows (1 + (Text.rows (blankRows blanked source).toList).length) blanks, ?_, ?_⟩
  · calc
      Drawing.withoutText blanked (numbered 1 source) =
          numberRows 1 (blankTexts blanked 1 (Text.rows source.toList)) :=
        withoutText_numberRows blanked 1 (Text.rows source.toList)
      _ = numberRows 1 (Text.rows (blankRows blanked source).toList ++ blanks) := by
        rw [hrows, blankRows, String.toList_ofList]
      _ = numbered 1 (blankRows blanked source) ++
            numberRows (1 + (Text.rows (blankRows blanked source).toList).length) blanks :=
        numberRows_append 1 _ blanks
  · intro row hrow
    rcases exists_of_mem_numberRows hrow with ⟨text, htext, hsame⟩
    rw [hsame, hblanks text htext]

theorem drawing_ofSource (source : String) :
    (ofSource source).drawing = Drawing.blank.afterRows (numbered 1 source) := by
  rw [ofSource_eq]

theorem errors_ofSource (source : String) :
    (ofSource source).errors = Drawing.blank.failures (numbered 1 source) := by
  rw [ofSource_eq]

theorem reading_blankRows {blanked : List Nat} {source : String}
    (h : blanked = (ofSource source).errors.map RowError.row) :
    (ofSource (blankRows blanked source)).drawing = (ofSource source).drawing ∧
      (ofSource (blankRows blanked source)).errors = [] := by
  rcases numbered_blankRows blanked source with ⟨extra, hrows, hextra⟩
  rw [errors_ofSource] at h
  have hstep := Drawing.reading_withoutText Drawing.blank (numbers_ascend 1 source)
    (fun row _ => by rw [← h])
  have hskipped := Drawing.run_of_skipped
    (Drawing.blank.afterRows (numbered 1 (blankRows blanked source)))
    (fun row hrow => by rw [hextra row hrow, Drawing.readRow_empty])
  rw [hrows, Drawing.afterRows_append, Drawing.failures_append, hskipped.1,
    List.append_eq_nil_iff] at hstep
  rw [drawing_ofSource, drawing_ofSource, errors_ofSource]
  exact ⟨hstep.1, hstep.2.1⟩

def withoutFailures (source : String) : String :=
  blankRows ((ofSource source).errors.map RowError.row) source

/--
Without the text of its failing rows a source has no errors, and its document,
symbols, and defaults are the same.
-/
theorem ofSource_withoutFailures (source : String) :
    (ofSource (withoutFailures source)).errors = [] ∧
      (ofSource (withoutFailures source)).document = (ofSource source).document ∧
      (ofSource (withoutFailures source)).symbols = (ofSource source).symbols ∧
      (ofSource (withoutFailures source)).defaults = (ofSource source).defaults := by
  have hreading : (ofSource (withoutFailures source)).drawing = (ofSource source).drawing ∧
      (ofSource (withoutFailures source)).errors = [] :=
    reading_blankRows rfl
  rcases hreading with ⟨hdrawing, herrors⟩
  refine ⟨herrors, ?_, ?_, ?_⟩
  · exact congrArg Drawing.document hdrawing
  · exact congrArg (fun d => d.session.symbols) hdrawing
  · exact congrArg (fun d => d.session.defaults) hdrawing

end Report
end Drafting
