import Drafting.Shape

/-!
# Faults of structured texts

Documents and settings are texts of a general format that have to hold certain
values.  A text can break the rules of the format, or it can hold something else
than what is wanted.
-/

namespace Drafting

inductive Fault where
  /-- The text breaks the rules of its format, or holds a value that cannot be kept. -/
  | illFormed
  | wrongType
  | wrongValue
  | wrongLength
  | missingField (name : String)
  | duplicateField (name : String)
  | unknownVariant (name : String) (expected : List String)
  | shape (cause : ShapeError)
deriving DecidableEq

namespace Fault

def choices (names : List String) : String :=
  let mark := String.singleton (Char.ofNat 0x60)
  match names with
  | [a, b] => mark ++ a ++ mark ++ " or " ++ mark ++ b ++ mark
  | [a] => mark ++ a ++ mark
  | names => "one of " ++ ", ".intercalate (names.map fun n => mark ++ n ++ mark)

def message : Fault -> String
  | illFormed => "malformed text"
  | wrongType => "invalid type"
  | wrongValue => "invalid value"
  | wrongLength => "invalid length"
  | missingField name => "missing field " ++ choices [name]
  | duplicateField name => "duplicate field " ++ choices [name]
  | unknownVariant name expected =>
      "unknown variant " ++ choices [name] ++ ", expected " ++ choices expected
  | shape cause => cause.message

end Fault

end Drafting
