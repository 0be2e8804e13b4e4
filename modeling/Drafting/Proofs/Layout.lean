import Drafting.Proofs.Cores
import Drafting.Proofs.FailedRows

/-!
# Layout does not matter

Two sources whose rows have the same cores in the same order are read in the
same way, whatever their comments, indentation, and line ends.  Rows without a
core can be put in anywhere: the rows behind them only get other numbers, which
shows in nothing but the errors.
-/

namespace Drafting

namespace Drawing

theorem run_of_cores_eq {rows others : List (List Char)}
    (h : rows.map Row.core = others.map Row.core) (first : Nat) (d : Drawing) :
    d.afterRows (Report.numberRows first rows) = d.afterRows (Report.numberRows first others) ∧
      d.failures (Report.numberRows first rows) =
        d.failures (Report.numberRows first others) := by
  induction rows generalizing others first d with
  | nil =>
      cases others with
      | nil => exact ⟨rfl, rfl⟩
      | cons other others => cases h
  | cons row rest ih =>
      cases others with
      | nil => cases h
      | cons other others =>
          rw [List.map_cons, List.map_cons, List.cons.injEq] at h
          rw [Report.numberRows_cons, Report.numberRows_cons]
          simp only [afterRows, failures]
          rw [readRow_of_core_eq h.1]
          rcases ih h.2 (first + 1) (d.readRow (String.ofList other)).2 with ⟨hafter, hfailures⟩
          rw [hafter, hfailures]
          exact ⟨rfl, rfl⟩

theorem run_of_no_cores {rows : List (List Char)}
    (h : forall row, row ∈ rows -> Row.core row = []) (first : Nat) (d : Drawing) :
    d.afterRows (Report.numberRows first rows) = d ∧
      d.failures (Report.numberRows first rows) = [] := by
  apply run_of_skipped
  intro row hrow
  rcases Report.exists_of_mem_numberRows hrow with ⟨text, htext, hsame⟩
  rw [hsame]
  exact readRow_of_core_eq_nil (h text htext) d

end Drawing

/-!
## Rows put in between

The rows behind those that have been put in get higher numbers, and so do their
errors: by as many as have been put in before them, counted from the first row.
-/

namespace Text

/-- Rows with others put in: `inserted i` in front of row `i`, or behind the last one. -/
def withInserted (inserted : Nat -> List (List Char)) :
    Nat -> List (List Char) -> List (List Char)
  | i, [] => inserted i
  | i, row :: rest => inserted i ++ row :: withInserted inserted (i + 1) rest

def insertedBefore (inserted : Nat -> List (List Char)) : Nat -> Nat
  | 0 => 0
  | row + 1 => insertedBefore inserted row + (inserted (row + 1)).length

end Text

namespace RowError

def moved (inserted : Nat -> List (List Char)) (e : RowError) : RowError :=
  { e with row := e.row + Text.insertedBefore inserted e.row }

end RowError

namespace RowOutcome

theorem failure?_moved (inserted : Nat -> List (List Char)) (row : Nat) (outcome : RowOutcome) :
    outcome.failure? (row + Text.insertedBefore inserted row) =
      (outcome.failure? row).map (RowError.moved inserted) := by
  cases outcome <;> rfl

end RowOutcome

namespace Drawing

open Text

/--
The rows from number `n + 1` on, and the same rows with others put in.  The
second reading has seen `insertedBefore n` rows more than the first one.
-/
theorem run_withInserted {inserted : Nat -> List (List Char)}
    (h : forall i row, row ∈ inserted i -> Row.core row = []) (rows : List (List Char))
    (n : Nat) (d : Drawing) :
    d.afterRows (Report.numberRows (n + 1 + insertedBefore inserted n)
          (withInserted inserted (n + 1) rows)) =
        d.afterRows (Report.numberRows (n + 1) rows) ∧
      d.failures (Report.numberRows (n + 1 + insertedBefore inserted n)
          (withInserted inserted (n + 1) rows)) =
        (d.failures (Report.numberRows (n + 1) rows)).map (RowError.moved inserted) := by
  induction rows generalizing n d with
  | nil => exact run_of_no_cores (h (n + 1)) (n + 1 + insertedBefore inserted n) d
  | cons row rest ih =>
      rcases run_of_no_cores (h (n + 1)) (n + 1 + insertedBefore inserted n) d with
        ⟨hafter, hfailures⟩
      -- The rows that have been put in only make the numbers behind them larger.
      have hnumber : n + 1 + insertedBefore inserted n + (inserted (n + 1)).length =
          n + 1 + insertedBefore inserted (n + 1) := by
        rw [insertedBefore]
        omega
      have hnext : n + 1 + insertedBefore inserted (n + 1) + 1 =
          n + 1 + 1 + insertedBefore inserted (n + 1) := by
        omega
      rcases ih (n + 1) (d.readRow (String.ofList row)).2 with ⟨hrest, herrors⟩
      rw [withInserted, Report.numberRows_append, afterRows_append, failures_append, hafter,
        hfailures, hnumber, Report.numberRows_cons, Report.numberRows_cons, hnext]
      simp only [afterRows, failures, List.nil_append, List.map_append]
      refine ⟨hrest, ?_⟩
      rw [herrors, RowOutcome.failure?_moved]
      cases ((d.readRow (String.ofList row)).1.failure? (n + 1)) <;> rfl

end Drawing

/-!
## Line ends

A carriage return in front of a line feed belongs to the line end if there is
one already, and to the row otherwise, where it is a blank.
-/

namespace Text

def withReturns (cs : List Char) : List Char :=
  cs.flatMap fun c => if c = '\n' then ['\r', '\n'] else [c]

theorem withReturns_cons {c : Char} (h : c ≠ '\n') (rest : List Char) :
    withReturns (c :: rest) = c :: withReturns rest := by
  rw [withReturns, List.flatMap_cons, if_neg h]
  rfl

theorem head?_withReturns (cs : List Char) : (withReturns cs).head? ≠ some '\n' := by
  cases cs with
  | nil => simp [withReturns]
  | cons c rest =>
      by_cases hc : c = '\n'
      · simp [withReturns, hc]
      · simpa [withReturns_cons hc] using hc

def withReturn (row : List Char × List Char) : List Char :=
  if row.2 = ['\r', '\n'] then row.1 ++ ['\r'] else row.1

theorem withReturn_cons (c : Char) (row ending : List Char) :
    withReturn (c :: row, ending) = c :: withReturn (row, ending) := by
  unfold withReturn
  by_cases h : ending = ['\r', '\n'] <;> simp [h]

theorem rows_withReturns (cs : List Char) :
    rows (withReturns cs) = (endedRows cs).map withReturn := by
  fun_induction endedRows cs with
  | case1 => rfl
  | case2 rest ih =>
      show rows ('\r' :: '\n' :: withReturns rest) = _
      rw [rows, ih]
      rfl
  | case3 rest ih =>
      show rows ('\r' :: '\r' :: '\n' :: withReturns rest) = _
      rw [rows_cons (by decide) (by simp), rows, ih]
      rfl
  | case4 c rest hfeed hreturn hnone ih =>
      rw [hnone] at ih
      rw [withReturns_cons hfeed, rows_cons hfeed (fun _ => head?_withReturns rest), ih]
      rfl
  | case5 c rest hfeed hreturn row ending more hsome ih =>
      rw [hsome] at ih
      rw [withReturns_cons hfeed, rows_cons hfeed (fun _ => head?_withReturns rest), ih,
        List.map_cons, List.map_cons, withReturn_cons]

theorem core_withReturn (row : List Char × List Char) :
    Row.core (withReturn row) = Row.core row.1 := by
  have hreturn : isBlank '\r' = true := by decide
  unfold withReturn
  split
  · exact Row.core_concat hreturn row.1
  · rfl

theorem cores_withReturns (cs : List Char) :
    (rows (withReturns cs)).map Row.core = (rows cs).map Row.core := by
  rw [rows_withReturns, ← map_fst_endedRows, List.map_map, List.map_map]
  apply List.map_congr_left
  intro row _
  exact core_withReturn row

end Text

namespace Report

def cores (source : String) : List (List Char) :=
  (Text.rows source.toList).map Row.core

theorem ofSource_of_cores_eq {source other : String} (h : cores source = cores other) :
    ofSource source = ofSource other := by
  rcases Drawing.run_of_cores_eq h 1 .blank with ⟨hafter, hfailures⟩
  rw [ofSource_eq, ofSource_eq, numbered_eq, numbered_eq, hafter, hfailures]

def withReturns (source : String) : String :=
  String.ofList (Text.withReturns source.toList)

theorem ofSource_withReturns (source : String) :
    ofSource (withReturns source) = ofSource source := by
  apply ofSource_of_cores_eq
  rw [cores, withReturns, String.toList_ofList]
  exact Text.cores_withReturns source.toList

def Inserts (inserted : Nat -> List (List Char)) (source longer : String) : Prop :=
  Text.rows longer.toList = Text.withInserted inserted 1 (Text.rows source.toList)

theorem ofSource_of_inserts {inserted : Nat -> List (List Char)}
    (hcores : forall i row, row ∈ inserted i -> Row.core row = []) {source longer : String}
    (h : Inserts inserted source longer) :
    (ofSource longer).drawing = (ofSource source).drawing ∧
      (ofSource longer).errors = (ofSource source).errors.map (RowError.moved inserted) := by
  rw [drawing_ofSource, drawing_ofSource, errors_ofSource, errors_ofSource, numbered_eq,
    numbered_eq, h]
  exact Drawing.run_withInserted hcores (Text.rows source.toList) 0 .blank

/--
Sources whose rows have the same cores are read in the same way.  So blanks
around a row and comments do not matter, and neither do line ends.  Rows without
a core that are put in change only the numbers of the errors, which grow by the
number of rows put in before them.
-/
theorem layout_does_not_matter :
    (forall source other, cores source = cores other -> ofSource source = ofSource other) ∧
    (forall front row back, Text.allBlank front = true -> Text.allBlank back = true ->
      Row.core (front ++ row ++ back) = Row.core row) ∧
    (forall text comment, Row.HasNoComment text ->
      Row.core (text ++ '/' :: '/' :: comment) = Row.core text) ∧
    (forall source, ofSource (withReturns source) = ofSource source) ∧
    forall inserted source longer,
      (forall i row, row ∈ inserted i -> Row.core row = []) ->
      Inserts inserted source longer ->
      (ofSource longer).drawing = (ofSource source).drawing ∧
        (ofSource longer).errors =
          (ofSource source).errors.map fun e =>
            { e with row := e.row + Text.insertedBefore inserted e.row } := by
  refine ⟨fun _ _ => ofSource_of_cores_eq, ?_, ?_, ofSource_withReturns, ?_⟩
  · intro front row back hfront hback
    exact Row.core_append hfront hback row
  · intro text comment htext
    exact Row.core_append_comment htext comment
  · intro inserted source longer hcores hinserts
    exact ofSource_of_inserts hcores hinserts

def tidy : String :=
  "a=1\noops\nR=rect: a, 1, 2, 3\nrect: 0"

def untidy : String :=
  "\ta=1 // one\r\n oops\nR=rect: a, 1, 2, 3//\r\nrect: 0\u3000"

def spread : String :=
  "// title\n\na=1\noops\n\t\nR=rect: a, 1, 2, 3\nrect: 0\n\n"

def spreadRows : Nat -> List (List Char)
  | 1 => ["// title".toList, []]
  | 3 => [['\t']]
  | 5 => [[]]
  | _ => []

theorem layout_of_tidy :
    cores tidy = cores untidy ∧ ofSource tidy = ofSource untidy ∧
      Text.allBlank [' ', '\t'] = true ∧ Text.allBlank ['\r'] = true ∧
      Row.core ([' ', '\t'] ++ "a=1/".toList ++ ['\r']) = Row.core "a=1/".toList ∧
      Row.HasNoComment "a=1/ ".toList ∧
      Row.core ("a=1/ ".toList ++ '/' :: '/' :: "/".toList) = Row.core "a=1/ ".toList ∧
      (forall i row, row ∈ spreadRows i -> Row.core row = []) ∧
      Inserts spreadRows tidy spread ∧
      (ofSource spread).drawing = (ofSource tidy).drawing ∧
      (ofSource spread).errors =
        (ofSource tidy).errors.map fun e =>
          { e with row := e.row + Text.insertedBefore spreadRows e.row } := by
  have hcores : cores tidy = cores untidy := by decide +kernel
  have hempty : forall i row, row ∈ spreadRows i -> Row.core row = [] := by
    intro i
    unfold spreadRows
    split <;> decide +kernel
  have hinserts : Inserts spreadRows tidy spread := by
    unfold Inserts
    decide +kernel
  have hfront : Text.allBlank [' ', '\t'] = true := by decide
  have hback : Text.allBlank ['\r'] = true := by decide
  have htext : Row.HasNoComment "a=1/ ".toList := by decide +kernel
  rcases layout_does_not_matter with ⟨hsame, hblanks, hcomment, _, hspread⟩
  rcases hspread spreadRows tidy spread hempty hinserts with ⟨hdrawing, herrors⟩
  exact ⟨hcores, hsame tidy untidy hcores, hfront, hback, hblanks _ _ _ hfront hback, htext,
    hcomment _ _ htext, hempty, hinserts, hdrawing, herrors⟩

end Report

end Drafting
