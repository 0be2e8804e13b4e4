import Drafting.Json.Basic
import Drafting.Json.Number
import Drafting.Json.Token

/-!
# Reading a text as an outline

A text that is not quite JSON still has a beginning that is.  An outline is what
can be made out of a text before its first flaw: a tree like a JSON value, in
which arrays and objects may have been cut short and a value may be `broken`.
Whoever takes an outline apart from left to right learns in which order the
flaws of a text and the faults of its values come.

The outline is built from the tokens by a machine that keeps the containers
around the current place in a list of slots, innermost first.
-/

namespace Drafting
namespace Json

inductive Outline where
  | null
  | bool (b : Bool)
  | number (n : Decimal.Numeral)
  | string (s : Option String)
  | array (items : List Outline) (closed : Bool)
  | object (members : List (Option String × Outline)) (closed : Bool)
  /-- The place where no value could be read. -/
  | broken

/-!
## The machine

A slot is a place in a container that waits for a value, and a complete value is
delivered into the innermost one.  At the first flaw the value so far is
abandoned, and every container around it is cut short.
-/

inductive Slot where
  | item (before : List Outline)
  | member (before : List (Option String × Outline)) (name : Option String)

inductive Place where
  | value (slots : List Slot)
  | firstItem (slots : List Slot)
  | afterItem (items : List Outline) (slots : List Slot)
  | firstName (slots : List Slot)
  | name (members : List (Option String × Outline)) (slots : List Slot)
  | colon (members : List (Option String × Outline)) (key : Option String) (slots : List Slot)
  | afterMember (members : List (Option String × Outline)) (slots : List Slot)

inductive Step where
  | next (place : Place)
  | finished (o : Outline)
  | flaw (o : Outline)

def deliver (o : Outline) : List Slot -> Step
  | [] => .finished o
  | .item before :: slots => .next (.afterItem (before ++ [o]) slots)
  | .member before name :: slots => .next (.afterMember (before ++ [(name, o)]) slots)

def abandon (o : Outline) : List Slot -> Outline
  | [] => o
  | .item before :: slots => abandon (.array (before ++ [o]) false) slots
  | .member before name :: slots => abandon (.object (before ++ [(name, o)]) false) slots

namespace Place

def abandoned : Place -> Outline
  | value slots => abandon .broken slots
  | firstItem slots => abandon (.array [] false) slots
  | afterItem items slots => abandon (.array items false) slots
  | firstName slots => abandon (.object [] false) slots
  | name members slots => abandon (.object members false) slots
  | colon members key slots => abandon (.object (members ++ [(key, .broken)]) false) slots
  | afterMember members slots => abandon (.object members false) slots

end Place

/--
Takes a token as the start of a value for the innermost slot; `place` is where
the text breaks off if no value starts there.
-/
def startValue (slots : List Slot) (place : Place) : Token -> Step
  | .null => deliver .null slots
  | .bool b => deliver (.bool b) slots
  | .number n => deliver (.number n) slots
  | .string s => deliver (.string s) slots
  | .openArray => .next (.firstItem slots)
  | .openObject => .next (.firstName slots)
  | _ => .flaw place.abandoned

namespace Place

def step (place : Place) (t : Token) : Step :=
  match place with
  | value slots => startValue slots place t
  | firstItem slots =>
      match t with
      | .closeArray => deliver (.array [] true) slots
      | t => startValue (.item [] :: slots) place t
  | afterItem items slots =>
      match t with
      | .comma => .next (.value (.item items :: slots))
      | .closeArray => deliver (.array items true) slots
      | _ => .flaw place.abandoned
  | firstName slots =>
      match t with
      | .closeObject => deliver (.object [] true) slots
      | .string s => .next (.colon [] s slots)
      | _ => .flaw place.abandoned
  | name members slots =>
      match t with
      | .string s => .next (.colon members s slots)
      | _ => .flaw place.abandoned
  | colon members key slots =>
      match t with
      | .colon => .next (.value (.member members key :: slots))
      | _ => .flaw place.abandoned
  | afterMember members slots =>
      match t with
      | .comma => .next (.name members slots)
      | .closeObject => deliver (.object members true) slots
      | _ => .flaw place.abandoned

end Place

structure Reading where
  outline : Outline
  trailing : Bool

namespace Reading

def run (place : Place) : List Token -> Reading
  | [] => { outline := place.abandoned, trailing := false }
  | t :: rest =>
      match place.step t with
      | .next place => run place rest
      | .finished o => { outline := o, trailing := ! rest.isEmpty }
      | .flaw o => { outline := o, trailing := false }

def ofTokens (ts : List Token) : Reading :=
  run (.value []) ts

def ofText (text : String) : Reading :=
  ofTokens (tokens text.toList)

end Reading

/-!
## Values that are kept and values that are not

A value without a flaw is intact.  One that is to be kept until later has to be
in range as well, and not too deep.
-/

namespace Outline

mutual

def intact : Outline -> Bool
  | .broken => false
  | .array items closed => closed && intactItems items
  | .object members closed => closed && intactMembers members
  | _ => true

def intactItems : List Outline -> Bool
  | [] => true
  | o :: rest => o.intact && intactItems rest

def intactMembers : List (Option String × Outline) -> Bool
  | [] => true
  | (_, o) :: rest => o.intact && intactMembers rest

end

mutual

/--
Whether the outline can be kept as a value: it has no flaw, every number is in
range, every string has a value, and containers are nested no deeper than
`room`.
-/
def keeps (room : Nat) : Outline -> Bool
  | .broken => false
  | .number n => n.jsonNumber?.isSome
  | .string s => s.isSome
  | .array items closed =>
      match room with
      | 0 => false
      | room + 1 => closed && keepsItems room items
  | .object members closed =>
      match room with
      | 0 => false
      | room + 1 => closed && keepsMembers room members
  | _ => true

def keepsItems (room : Nat) : List Outline -> Bool
  | [] => true
  | o :: rest => o.keeps room && keepsItems room rest

def keepsMembers (room : Nat) : List (Option String × Outline) -> Bool
  | [] => true
  | (name, o) :: rest => name.isSome && o.keeps room && keepsMembers room rest

end

end Outline

end Json
end Drafting
