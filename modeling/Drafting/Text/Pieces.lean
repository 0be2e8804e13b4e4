/-!
# Cutting texts into pieces

A line is cut at the first occurrence of a mark, a list of fields at every
occurrence of one, and a source into its rows.  All three keep every character
that is not part of a mark or of a line end.  There is always one more piece than
marks.
-/

namespace Drafting
namespace Text

def cutAt (mark : Char) : List Char -> List Char × Option (List Char)
  | [] => ([], none)
  | c :: rest =>
      if c = mark then ([], some rest)
      else
        match cutAt mark rest with
        | (before, after) => (c :: before, after)

def pieces (mark : Char) : List Char -> List (List Char)
  | [] => [[]]
  | c :: rest =>
      if c = mark then [] :: pieces mark rest
      else
        match pieces mark rest with
        | [] => [[c]]
        | piece :: more => (c :: piece) :: more

/--
The rows of a source.  A row ends at a line feed, and one carriage return
directly before that line feed belongs to the line end.  A last row without a
line end counts when it is not empty.
-/
def rows : List Char -> List (List Char)
  | [] => []
  | '\n' :: rest => [] :: rows rest
  | '\r' :: '\n' :: rest => [] :: rows rest
  | c :: rest =>
      match rows rest with
      | [] => [[c]]
      | row :: more => (c :: row) :: more

@[simp] theorem cutAt_nil (mark : Char) : cutAt mark [] = ([], none) := rfl

@[simp] theorem cutAt_mark (mark : Char) (rest : List Char) :
    cutAt mark (mark :: rest) = ([], some rest) := by
  simp [cutAt]

theorem cutAt_of_ne {mark c : Char} (rest : List Char) (h : c ≠ mark) :
    cutAt mark (c :: rest) = (c :: (cutAt mark rest).1, (cutAt mark rest).2) := by
  simp [cutAt, h]

theorem pieces_ne_nil (mark : Char) (cs : List Char) : pieces mark cs ≠ [] := by
  cases cs with
  | nil => simp [pieces]
  | cons c rest =>
      unfold pieces
      split
      · simp
      · split <;> simp

@[simp] theorem pieces_mark (mark : Char) (rest : List Char) :
    pieces mark (mark :: rest) = [] :: pieces mark rest := by
  simp [pieces]

theorem exists_pieces_of_ne {mark c : Char} (h : c ≠ mark) (rest : List Char) :
    exists first more, pieces mark rest = first :: more ∧
      pieces mark (c :: rest) = (c :: first) :: more := by
  rcases List.exists_cons_of_ne_nil (pieces_ne_nil mark rest) with ⟨first, more, hrest⟩
  refine ⟨first, more, hrest, ?_⟩
  rw [pieces, if_neg h, hrest]

@[simp] theorem rows_nil : rows [] = [] := rfl

@[simp] theorem rows_line_feed (rest : List Char) :
    rows ('\n' :: rest) = [] :: rows rest := by
  simp [rows]

end Text
end Drafting
