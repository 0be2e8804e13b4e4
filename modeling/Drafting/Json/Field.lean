import Drafting.Fault
import Drafting.Json.Outline

/-!
# Taking values out of an outline

Values are taken out of an outline from left to right, and the first fault
decides.  A flaw of the text is such a fault as well: it is met when the reading
comes to its place.

A record is an object with known fields, or an array with the fields in their
order.  Reading a record goes over it once to find the first fault, and then
looks each field up by its name; so the order of the members of an object
matters for faults alone.
-/

namespace Drafting
namespace Json

/-!
## Single values

A value of the wrong type is a fault, but a number out of range, a string
without a value, and a broken value are faults of the text before they are
anything else.

Every number in range is a float; a whole number has to be written without
fraction and exponent.  A point is an array of two floats.  A choice is made by
an exact name: by a string, or by an object with that name as its only member
and null as the value.
-/

def typeFault : Outline -> Fault
  | .broken => .illFormed
  | .number n => if n.jsonNumber?.isSome then .wrongType else .illFormed
  | .string s => if s.isSome then .wrongType else .illFormed
  | _ => .wrongType

def takeText : Outline -> Except Fault String
  | .string (some s) => .ok s
  | o => .error (typeFault o)

def takeFloat : Outline -> Except Fault Float
  | .number n =>
      match n.jsonNumber? with
      | some v => .ok v.float
      | none => .error .illFormed
  | o => .error (typeFault o)

def takeWhole (low high : Int) : Outline -> Except Fault Int
  | .number n =>
      match n.jsonNumber? with
      | none => .error .illFormed
      | some (.real _) => .error .wrongType
      | some (.natural size) => if size ≤ high then .ok size else .error .wrongValue
      | some (.negative size) => if low ≤ -(size : Int) then .ok (-size) else .error .wrongValue
  | o => .error (typeFault o)

def chosen (all : List α) (label : α -> String) (name : String) : Except Fault α :=
  match all.find? fun a => label a = name with
  | some a => .ok a
  | none => .error (.unknownVariant name (all.map label))

def takeChoice (all : List α) (label : α -> String) : Outline -> Except Fault α
  | .string (some s) => chosen all label s
  | .object ((some name, value) :: rest) closed =>
      match chosen all label name with
      | .error e => .error e
      | .ok a =>
          match value with
          | .null =>
              if rest.isEmpty && closed then .ok a else .error .illFormed
          | value => .error (typeFault value)
  | _ => .error .illFormed

/-- A choice by name in a value that has been kept, where an empty object does for null. -/
def takeKeptChoice (all : List α) (label : α -> String) : Outline -> Except Fault α
  | .string (some s) => chosen all label s
  | .object [(some name, value)] _ =>
      match chosen all label name with
      | .error e => .error e
      | .ok a =>
          match value with
          | .null => .ok a
          | .object [] _ => .ok a
          | _ => .error .wrongType
  | .object _ _ => .error .wrongValue
  | _ => .error .wrongType

def takePoint : Outline -> Except Fault Point
  | .array items closed =>
      let short := if closed then Fault.wrongLength else .illFormed
      match items with
      | [] => .error short
      | first :: more =>
          match takeFloat first with
          | .error e => .error e
          | .ok x =>
              match more with
              | [] => .error short
              | second :: more =>
                  match takeFloat second with
                  | .error e => .error e
                  | .ok y =>
                      if more.isEmpty && closed then .ok { x := x, y := y }
                      else .error .illFormed
  | o => .error (typeFault o)

def takeItems (item : Outline -> Except Fault α) : List Outline -> Except Fault (List α)
  | [] => .ok []
  | o :: rest => do
      let a ← item o
      let more ← takeItems item rest
      .ok (a :: more)

def takeList (item : Outline -> Except Fault α) : Outline -> Except Fault (List α)
  | .array items closed => do
      let found ← takeItems item items
      if closed then .ok found else .error .illFormed
  | o => .error (typeFault o)

/-!
## Records

A field is known by its name and comes with a check of its value, which has to
be readable.  Anything without a flaw may stand in a field that is not known.
-/

structure Field where
  name : String
  required : Bool
  check : Outline -> Except Fault Unit

namespace Field

def of (name : String) (required : Bool) (read : Outline -> Except Fault α) : Field :=
  { name := name, required := required, check := fun o => (read o).map fun _ => () }

end Field

abbrev Values := List (String × Outline)

/--
Goes over the members of an object: no known name may come twice, known values
must pass their check, and all others the check `other`.
-/
def surveyMembers (fields : List Field) (other : Outline -> Except Fault Unit)
    (seen : List String) : List (Option String × Outline) -> Except Fault Unit
  | [] => .ok ()
  | (none, _) :: _ => .error .illFormed
  | (some name, value) :: rest =>
      match fields.find? fun f => f.name = name with
      | none => do
          other value
          surveyMembers fields other seen rest
      | some f =>
          if name ∈ seen then .error (.duplicateField name)
          else do
            f.check value
            surveyMembers fields other (name :: seen) rest

def namedMembers (members : List (Option String × Outline)) : Values :=
  members.filterMap fun (name, value) => name.map fun name => (name, value)

def takeObject (fields : List Field) (other : Outline -> Except Fault Unit)
    (members : List (Option String × Outline)) (closed : Bool) : Except Fault Values := do
  surveyMembers fields other [] members
  if closed then .ok (namedMembers members) else .error .illFormed

def takeRow (fields : List Field) (items : List Outline) (closed : Bool) :
    Except Fault Values :=
  match fields, items with
  | [], [] => if closed then .ok [] else .error .illFormed
  | [], _ :: _ => .error .illFormed
  | f :: fields, [] =>
      if ! closed then .error .illFormed
      else if f.required then .error .wrongLength
      else takeRow fields [] closed
  | f :: fields, o :: items => do
      f.check o
      let more ← takeRow fields items closed
      .ok ((f.name, o) :: more)

def ignored (o : Outline) : Except Fault Unit :=
  if o.intact then .ok () else .error .illFormed

def takeRecord (fields : List Field) : Outline -> Except Fault Values
  | .object members closed => takeObject fields ignored members closed
  | .array items closed => takeRow fields items closed
  | o => .error (typeFault o)

namespace Values

def required (values : Values) (name : String) (read : Outline -> Except Fault α) :
    Except Fault α :=
  match values.lookup name with
  | some o => read o
  | none => .error (.missingField name)

def optional (values : Values) (name : String) (read : Outline -> Except Fault α)
    (otherwise : α) : Except Fault α :=
  match values.lookup name with
  | some o => read o
  | none => .ok otherwise

end Values

end Json
end Drafting
