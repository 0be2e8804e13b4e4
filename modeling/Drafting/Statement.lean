import Drafting.Binding
import Drafting.Decimal.Numeral
import Drafting.Text.Blank
import Drafting.Text.Pieces

/-!
# Statements

A row reads `name = head : field, field, …`.  Only the head is always there.  A
field is named when it has an `=`, and otherwise it is known by the number of
distinct fields before it.  A later field of the same key takes the place of
the earlier one.  Names, heads, keys, and values are free of blanks at their
ends, and blank fields do not count.
-/

namespace Drafting

structure Statement where
  /-- The text before the `=` of the main part; it may be present and empty. -/
  name : Option String
  head : String
  fields : List (String × String)
deriving DecidableEq

namespace Statement

def positionKey (position : Nat) : String :=
  Decimal.counted position

def addField (fields : List (String × String)) (piece : List Char) :
    List (String × String) :=
  match Text.cutAt '=' piece with
  | (key, some value) =>
      Binding.put (String.ofList (Text.trim key)) (String.ofList (Text.trim value)) fields
  | (_, none) => Binding.put (positionKey fields.length) (String.ofList piece) fields

def fieldsOf (body : List Char) : List (String × String) :=
  let written := (Text.pieces ',' body).map Text.trim
  (written.filter fun piece => ! piece.isEmpty).foldl addField []

def ofChars (line : List Char) : Statement :=
  let (main, body) := Text.cutAt ':' line
  let fields :=
    match body with
    | none => []
    | some body => fieldsOf body
  match Text.cutAt '=' main with
  | (name, some head) =>
      { name := some (String.ofList (Text.trim name))
        head := String.ofList (Text.trim head)
        fields := fields }
  | (_, none) =>
      { name := none, head := String.ofList (Text.trim main), fields := fields }

def ofLine (line : String) : Statement :=
  ofChars line.toList

def field? (s : Statement) (key : String) : Option String :=
  s.fields.lookup key

/-- The value of the field with this key or else of the field at this position. -/
def fieldOrPosition? (s : Statement) (key : String) (position : Nat) : Option String :=
  (s.field? key).or (s.field? (positionKey position))

end Statement

end Drafting
