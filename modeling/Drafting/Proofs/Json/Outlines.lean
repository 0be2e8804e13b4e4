import Drafting.Json.Outline
import Drafting.Proofs.Json.Tokens

/-!
# The outline of a written value

A value that has been written has an outline of the same shape, in which nothing
is broken or cut short.  The machine builds it from the tokens of the value: it
comes back to the slots that it started from, with the outline in the innermost
one.
-/

namespace Drafting
namespace Json

namespace Outline

mutual

def ofJson : Json -> Outline
  | .null => .null
  | .bool b => .bool b
  | .number n => .number n
  | .string s => .string (some s)
  | .array items => .array (ofItems items) true
  | .object members => .object (ofMembers members) true

def ofItems : List Json -> List Outline
  | [] => []
  | j :: rest => ofJson j :: ofItems rest

def ofMembers : List (String × Json) -> List (Option String × Outline)
  | [] => []
  | (name, j) :: rest => (some name, ofJson j) :: ofMembers rest

end

end Outline

namespace Reading

def resume : Step -> List Token -> Reading
  | .next place, rest => run place rest
  | .finished o, rest => { outline := o, trailing := ! rest.isEmpty }
  | .flaw o, _ => { outline := o, trailing := false }

theorem run_cons (place : Place) (t : Token) (rest : List Token) :
    run place (t :: rest) = resume (place.step t) rest := by
  rw [run]
  cases place.step t <;> rfl

theorem run_firstItem (slots : List Slot) (j : Json) (rest : List Token) :
    run (.firstItem slots) (tokenList j ++ rest) =
      run (.value (.item [] :: slots)) (tokenList j ++ rest) := by
  cases j with
  | null => rfl
  | bool b => rfl
  | number n => rfl
  | string s => rfl
  | array items => cases items <;> rfl
  | object members => cases members <;> rfl

mutual

/-- The tokens of a value put its outline into the innermost slot. -/
theorem run_value (slots : List Slot) (rest : List Token) : (j : Json) ->
    run (.value slots) (tokenList j ++ rest) = resume (deliver (.ofJson j) slots) rest
  | .null => by
      rw [tokenList, List.singleton_append, run_cons]
      rfl
  | .bool b => by
      rw [tokenList, List.singleton_append, run_cons]
      rfl
  | .number n => by
      rw [tokenList, List.singleton_append, run_cons]
      rfl
  | .string s => by
      rw [tokenList, List.singleton_append, run_cons]
      rfl
  | .array [] => by
      rw [tokenList, List.cons_append, List.singleton_append, run_cons]
      exact run_cons _ _ _
  | .array (j :: items) => by
      rw [tokenList, List.cons_append, List.append_assoc, run_cons]
      show run (.firstItem slots) _ = _
      -- The first item is read into a slot of its own, which collects the others as well.
      rw [run_firstItem, run_value (.item [] :: slots) _ j]
      exact run_items slots rest [Outline.ofJson j] items
  | .object [] => by
      rw [tokenList, List.cons_append, List.singleton_append, run_cons]
      exact run_cons _ _ _
  | .object ((name, j) :: members) => by
      simp only [tokenList, List.cons_append, List.append_assoc]
      rw [run_cons]
      show run (.firstName slots) _ = _
      rw [run_cons]
      show run (.colon [] (some name) slots) _ = _
      rw [run_cons]
      show run (.value (.member [] (some name) :: slots)) _ = _
      rw [run_value (.member [] (some name) :: slots) _ j]
      exact run_members slots rest [(some name, Outline.ofJson j)] members

theorem run_items (slots : List Slot) (rest : List Token) (before : List Outline) :
    (items : List Json) ->
    run (.afterItem before slots) (itemTokens items ++ rest) =
      resume (deliver (.array (before ++ Outline.ofItems items) true) slots) rest
  | [] => by
      rw [itemTokens, List.singleton_append, run_cons, Outline.ofItems, List.append_nil]
      rfl
  | j :: items => by
      rw [itemTokens, List.cons_append, List.append_assoc, run_cons]
      show run (.value (.item before :: slots)) _ = _
      rw [run_value (.item before :: slots) _ j]
      show run (.afterItem (before ++ [Outline.ofJson j]) slots) _ = _
      rw [run_items slots rest (before ++ [Outline.ofJson j]) items, List.append_assoc]
      rfl

theorem run_members (slots : List Slot) (rest : List Token)
    (before : List (Option String × Outline)) : (members : List (String × Json)) ->
    run (.afterMember before slots) (memberTokens members ++ rest) =
      resume (deliver (.object (before ++ Outline.ofMembers members) true) slots) rest
  | [] => by
      rw [memberTokens, List.singleton_append, run_cons, Outline.ofMembers, List.append_nil]
      rfl
  | (name, j) :: members => by
      simp only [memberTokens, List.cons_append, List.append_assoc]
      rw [run_cons]
      show run (.name before slots) _ = _
      rw [run_cons]
      show run (.colon before (some name) slots) _ = _
      rw [run_cons]
      show run (.value (.member before (some name) :: slots)) _ = _
      rw [run_value (.member before (some name) :: slots) _ j]
      show run (.afterMember (before ++ [(some name, Outline.ofJson j)]) slots) _ = _
      rw [run_members slots rest (before ++ [(some name, Outline.ofJson j)]) members,
        List.append_assoc]
      rfl

end

theorem ofText_written (form : Form) {j : Json} (h : j.Standard) :
    ofText (written form j) = { outline := .ofJson j, trailing := false } := by
  rw [ofText, tokens_written form h, ofTokens, ← List.append_nil (tokenList j), run_value]
  rfl

end Reading

end Json
end Drafting
