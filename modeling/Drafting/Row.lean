import Drafting.Text.Blank

/-!
# Rows of a drawing

A row may end in a comment, which starts at its first `//`.  What is left of a
row after that is its content; a row whose content is blank is skipped.
-/

namespace Drafting
namespace Row

def beforeComment? : List Char -> Option (List Char)
  | [] => none
  | '/' :: '/' :: _ => some []
  | c :: rest => (beforeComment? rest).map (c :: ·)

/--
The content of a row, or nothing for a row to skip.  Blanks before a comment
are dropped; a row without a comment is taken as it is.
-/
def content? (row : String) : Option String :=
  let cs := row.toList
  if Text.allBlank cs then none
  else
    match beforeComment? cs with
    | none => some row
    | some before =>
        let kept := Text.trimEnd before
        if Text.allBlank kept then none else some (String.ofList kept)

end Row
end Drafting
