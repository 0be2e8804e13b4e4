import Drafting.Row
import Drafting.Text.Pieces

/-!
# Rows with their ends

Cutting a source into rows forgets how each row ends.  Here every row keeps its
end, so the source can be put together again, also after the text of some rows
has been taken out.
-/

namespace Drafting
namespace Text

def endedRows : List Char -> List (List Char × List Char)
  | [] => []
  | '\n' :: rest => ([], ['\n']) :: endedRows rest
  | '\r' :: '\n' :: rest => ([], ['\r', '\n']) :: endedRows rest
  | c :: rest =>
      match endedRows rest with
      | [] => [([c], [])]
      | (row, ending) :: more => (c :: row, ending) :: more

def joined (rows : List (List Char × List Char)) : List Char :=
  rows.flatMap fun (row, ending) => row ++ ending

/-- The characters that may end a row: a carriage return is never left in front of them. -/
def EndsRow (row ending : List Char) : Prop :=
  ending = ['\r', '\n'] ∨ (ending = ['\n'] ∧ row.getLast? ≠ some '\r')

inductive Ended : List (List Char × List Char) -> Prop where
  | nil : Ended []
  | last {row : List Char} : '\n' ∉ row -> Ended [(row, [])]
  | cons {row ending : List Char} {rest : List (List Char × List Char)} :
      '\n' ∉ row -> EndsRow row ending -> Ended rest -> Ended ((row, ending) :: rest)

theorem endsRow_nil_of_endsRow {row ending : List Char} (h : EndsRow row ending) :
    EndsRow [] ending := by
  rcases h with rfl | ⟨rfl, _⟩
  · exact Or.inl rfl
  · exact Or.inr ⟨rfl, by simp⟩

theorem rows_cons {c : Char} {rest : List Char} (hfeed : c ≠ '\n')
    (hreturn : c = '\r' -> rest.head? ≠ some '\n') :
    rows (c :: rest) =
      match rows rest with
      | [] => [[c]]
      | row :: more => (c :: row) :: more := by
  apply rows.eq_4
  · exact hfeed
  · rintro tail rfl rfl
    exact hreturn rfl rfl

/-!
## Nothing of a source is lost

Put together, rows and ends are the source again; and what stands between the
ends are its rows, as reading knows them.  Only the last row may have no end at
all.
-/

theorem map_fst_endedRows (cs : List Char) : (endedRows cs).map Prod.fst = rows cs := by
  fun_induction endedRows cs with
  | case1 => rfl
  | case2 rest ih => simp [ih]
  | case3 rest ih => simp [rows, ih]
  | case4 c rest hfeed hreturn hnone ih =>
      rw [rows_cons hfeed (by rintro rfl; cases rest <;> simp_all)]
      rw [hnone] at ih
      simp [← ih]
  | case5 c rest hfeed hreturn row ending more hsome ih =>
      rw [rows_cons hfeed (by rintro rfl; cases rest <;> simp_all)]
      rw [hsome] at ih
      simp [← ih]

theorem joined_endedRows (cs : List Char) : joined (endedRows cs) = cs := by
  fun_induction endedRows cs with
  | case1 => rfl
  | case2 rest ih => simpa [joined] using ih
  | case3 rest ih => simpa [joined] using ih
  | case4 c rest hfeed hreturn hnone ih =>
      rw [hnone] at ih
      simp [joined, ← ih]
  | case5 c rest hfeed hreturn row ending more hsome ih =>
      rw [hsome] at ih
      simp [joined, ← ih]

theorem ended_endedRows (cs : List Char) : Ended (endedRows cs) := by
  fun_induction endedRows cs with
  | case1 => exact Ended.nil
  | case2 rest ih => exact Ended.cons (by simp) (Or.inr ⟨rfl, by simp⟩) ih
  | case3 rest ih => exact Ended.cons (by simp) (Or.inl rfl) ih
  | case4 c rest hfeed hreturn hnone ih =>
      exact Ended.last (by simpa using Ne.symm hfeed)
  | case5 c rest hfeed hreturn row ending more hsome ih =>
      have hrest := joined_endedRows rest
      rw [hsome] at ih hrest
      cases ih with
      | last hrow => exact Ended.last (by simp [hrow, Ne.symm hfeed])
      | cons hrow hend hmore =>
          refine Ended.cons (by simp [hrow, Ne.symm hfeed]) ?_ hmore
          rcases hend with hboth | ⟨hone, hlast⟩
          · exact Or.inl hboth
          · refine Or.inr ⟨hone, ?_⟩
            -- With a carriage return as its last character the row would end in both of them.
            cases row with
            | cons d row => simpa using hlast
            | nil =>
                intro hc
                have hcr : c = '\r' := by simpa using hc
                exact hreturn (joined more) hcr (by simpa [joined, hone] using hrest.symm)

theorem Ended.not_mem {lines : List (List Char × List Char)} (h : Ended lines) :
    forall line, line ∈ lines -> '\n' ∉ line.1 := by
  induction h with
  | nil => exact List.forall_mem_nil _
  | last hrow => exact List.forall_mem_singleton.mpr hrow
  | cons hrow _ _ ih => exact List.forall_mem_cons.mpr ⟨hrow, ih⟩

theorem not_mem_of_mem_rows {cs row : List Char} (h : row ∈ rows cs) : '\n' ∉ row := by
  rw [← map_fst_endedRows] at h
  rcases List.mem_map.mp h with ⟨line, hline, rfl⟩
  exact (ended_endedRows cs).not_mem line hline

/-!
## Cutting a text that was put together

A row that is followed by one of its ends is cut off there, whatever comes
behind.  A text that is empty or ends in a line feed is closed: none of its rows
goes on in the text behind it.
-/

theorem rows_append {row ending : List Char} (rest : List Char)
    (hrow : '\n' ∉ row) (hend : EndsRow row ending) :
    rows (row ++ ending ++ rest) = row :: rows rest := by
  induction row with
  | nil =>
      rcases hend with rfl | ⟨rfl, _⟩
      · simp [rows]
      · simp
  | cons c row ih =>
      simp only [List.mem_cons, not_or] at hrow
      have htail : EndsRow row ending := by
        rcases hend with hboth | ⟨hone, hlast⟩
        · exact Or.inl hboth
        · refine Or.inr ⟨hone, ?_⟩
          cases row with
          | nil => simp
          | cons d row => simpa using hlast
      -- A carriage return in the row has no line feed behind it, so it stays in the row.
      have hhead : c = '\r' -> (row ++ ending ++ rest).head? ≠ some '\n' := by
        rintro rfl
        cases row with
        | cons d row =>
            have hd : d ≠ '\n' := by
              intro hd
              exact hrow.2 (by simp [hd])
            simpa using hd
        | nil =>
            rcases hend with rfl | ⟨_, hlast⟩
            · simp
            · exact absurd rfl hlast
      show rows (c :: (row ++ ending ++ rest)) = (c :: row) :: rows rest
      rw [rows_cons (Ne.symm hrow.1) hhead, ih hrow.2 htail]

theorem rows_of_not_mem {row : List Char} (hrow : '\n' ∉ row) (hne : row ≠ []) :
    rows row = [row] := by
  induction row with
  | nil => exact absurd rfl hne
  | cons c row ih =>
      simp only [List.mem_cons, not_or] at hrow
      have hhead : c = '\r' -> row.head? ≠ some '\n' := by
        intro _ hd
        exact hrow.2 (List.mem_of_mem_head? hd)
      rw [rows_cons (Ne.symm hrow.1) hhead]
      cases row with
      | nil => rfl
      | cons d row => rw [ih hrow.2 (by simp)]

/-- A text that is empty or ends in a line feed: none of its rows goes on behind it. -/
def Closed (cs : List Char) : Prop :=
  cs = [] ∨ cs.getLast? = some '\n'

instance (cs : List Char) : Decidable (Closed cs) :=
  inferInstanceAs (Decidable (_ ∨ _))

theorem closed_tail {c : Char} {cs : List Char} (h : Closed (c :: cs)) : Closed cs := by
  cases cs with
  | nil => exact Or.inl rfl
  | cons d cs =>
      rcases h with hempty | hlast
      · cases hempty
      · exact Or.inr (by simpa using hlast)

theorem eq_nil_of_rows_eq_nil {cs : List Char} (h : rows cs = []) : cs = [] := by
  fun_cases rows cs with
  | case1 => rfl
  | case2 tail => simp at h
  | case3 tail => simp [rows] at h
  | case4 c tail hfeed hreturn hnone => simp [rows, hnone] at h
  | case5 c tail hfeed hreturn row more hsome => simp [rows, hsome] at h

theorem rows_append_of_closed {cs : List Char} (rest : List Char) (h : Closed cs) :
    rows (cs ++ rest) = rows cs ++ rows rest := by
  fun_induction rows cs with
  | case1 => rfl
  | case2 tail ih => simpa using ih (closed_tail h)
  | case3 tail ih => simpa [rows] using ih (closed_tail (closed_tail h))
  | case4 c tail hfeed hreturn hnone ih =>
      -- This character is the last one of the text, so it would have to be a line feed.
      have htail : tail = [] := eq_nil_of_rows_eq_nil hnone
      subst htail
      rcases h with hempty | hlast
      · cases hempty
      · exact absurd (by simpa using hlast) hfeed
  | case5 c tail hfeed hreturn row more hsome ih =>
      have hhead : c = '\r' -> (tail ++ rest).head? ≠ some '\n' := by
        rintro rfl
        cases tail with
        | nil => cases hsome
        | cons d tail =>
            intro hd
            exact hreturn tail rfl (by simpa using hd)
      show rows (c :: (tail ++ rest)) = _
      rw [rows_cons hfeed hhead, ih (closed_tail h), hsome]
      rfl

/-- Only empty rows at the end can get lost when rows are put together and cut again. -/
theorem rows_joined {lines : List (List Char × List Char)} (h : Ended lines) :
    exists blanks, lines.map Prod.fst = rows (joined lines) ++ blanks ∧
      forall row, row ∈ blanks -> row = [] := by
  induction h with
  | nil => exact ⟨[], rfl, by simp⟩
  | @last row hrow =>
      by_cases hne : row = []
      · subst hne
        exact ⟨[[]], rfl, by simp⟩
      · refine ⟨[], ?_, by simp⟩
        simp [joined, rows_of_not_mem hrow hne]
  | @cons row ending rest hrow hend hrest ih =>
      rcases ih with ⟨blanks, hrows, hblanks⟩
      refine ⟨blanks, ?_, hblanks⟩
      have hjoined : joined ((row, ending) :: rest) = row ++ ending ++ joined rest := by
        simp [joined]
      rw [hjoined, rows_append _ hrow hend, List.map_cons, hrows]
      rfl

end Text
end Drafting
