import Drafting.Toml.Quoted

/-!
# Reading TOML

A text is a sequence of lines: pairs of a dotted key and a value, headings, and
lines that are blank but for a comment.  The pairs between two headings form a
block, and the blocks are joined to tables in a second step.

Arrays and inline tables may be nested, and keys may have parts, up to a limit.
-/

namespace Drafting
namespace Toml

def nestingLimit : Nat := 79

def isBareChar (c : Char) : Bool :=
  c.isAlphanum || c = '_' || c = '-'

def skipBlanks (cs : List Char) : List Char :=
  cs.dropWhile fun c => c = ' ' || c = '\t'

def takeKeyPart : List Char -> Option (String × List Char)
  | '"' :: rest => (takeQuoted rest).map fun (cs, rest) => (String.ofList cs, rest)
  | '\'' :: rest => (takeLiteral rest).map fun (cs, rest) => (String.ofList cs, rest)
  | cs =>
      let part := cs.takeWhile isBareChar
      if part.isEmpty then none else some (String.ofList part, cs.drop part.length)

def takeKey : Nat -> List Char -> Option (List String × List Char)
  | 0, _ => none
  | limit + 1, cs =>
      match takeKeyPart (skipBlanks cs) with
      | none => none
      | some (part, rest) =>
          match skipBlanks rest with
          | '.' :: rest => (takeKey limit rest).map fun (parts, rest) => (part :: parts, rest)
          | rest => some ([part], rest)

def skipLines (inComment : Bool) : List Char -> Option (List Char)
  | [] => some []
  | '\n' :: rest => skipLines false rest
  | '\r' :: '\n' :: rest => skipLines false rest
  | c :: rest =>
      if inComment then
        if isPlain c then skipLines true rest else none
      else if c = ' ' || c = '\t' then skipLines false rest
      else if c = '#' then skipLines true rest
      else some (c :: rest)

/-!
## Values

A comma may stand before the closing bracket of an array, and lines may end and
comments stand between its items; an inline table stands in one line.
-/

mutual

/--
A value.  `fuel` bounds the number of steps and `room` the depth of arrays and
inline tables.
-/
def takeValue : Nat -> Nat -> List Char -> Option (Toml × List Char)
  | 0, _, _ => none
  | fuel + 1, room, cs =>
      match cs with
      | '[' :: rest =>
          match room with
          | 0 => none
          | room + 1 => (takeItems fuel room rest).map fun (items, rest) => (.array items, rest)
      | '{' :: rest =>
          match room with
          | 0 => none
          | room + 1 =>
              match skipBlanks rest with
              | '}' :: rest => some (.inline [], rest)
              | rest =>
                  match takePairs fuel room rest with
                  | none => none
                  | some (pairs, rest) =>
                      (addPairs pairs []).map fun entries => (.inline entries, rest)
      | '"' :: _ => (takeString cs).map fun (s, rest) => (.text s, rest)
      | '\'' :: _ => (takeString cs).map fun (s, rest) => (.text s, rest)
      | cs => takeWord cs

def takeItems : Nat -> Nat -> List Char -> Option (List Toml × List Char)
  | 0, _, _ => none
  | fuel + 1, room, cs =>
      match skipLines false cs with
      | none => none
      | some (']' :: rest) => some ([], rest)
      | some cs =>
          match takeValue fuel room cs with
          | none => none
          | some (value, rest) =>
              match skipLines false rest with
              | some (',' :: rest) =>
                  (takeItems fuel room rest).map fun (items, rest) => (value :: items, rest)
              | some (']' :: rest) => some ([value], rest)
              | _ => none

def takePairs : Nat -> Nat -> List Char -> Option (List (List String × Toml) × List Char)
  | 0, _, _ => none
  | fuel + 1, room, cs =>
      match takeKey nestingLimit cs with
      | some (key, '=' :: rest) =>
          match takeValue fuel room (skipBlanks rest) with
          | none => none
          | some (value, rest) =>
              match skipBlanks rest with
              | ',' :: rest =>
                  (takePairs fuel room rest).map fun (pairs, rest) =>
                    ((key, value) :: pairs, rest)
              | '}' :: rest => some ([(key, value)], rest)
              | _ => none
      | _ => none

end

/-- What may follow on the line of a pair or a heading: blanks, a comment, the line end. -/
def takeLineEnd (inComment : Bool) : List Char -> Option (List Char)
  | [] => some []
  | '\n' :: rest => some rest
  | '\r' :: '\n' :: rest => some rest
  | c :: rest =>
      if inComment then
        if isPlain c then takeLineEnd true rest else none
      else if c = ' ' || c = '\t' then takeLineEnd false rest
      else if c = '#' then takeLineEnd true rest
      else none

/-!
## Lines and blocks

The first block of a text has no heading.  A byte order mark at the very front
is passed over, and every line takes at least a character of what is left.
-/

inductive Item where
  | pair (key : List String) (value : Toml)
  | heading (h : Heading)

def splitLast : List String -> Option (List String × String)
  | [] => none
  | [name] => some ([], name)
  | part :: rest => (splitLast rest).map fun (path, name) => (part :: path, name)

def takeHeading : List Char -> Option (Heading × List Char)
  | '[' :: rest =>
      match takeKey nestingLimit rest with
      | some (key, ']' :: ']' :: rest) =>
          (splitLast key).map fun (path, name) => (.row path name, rest)
      | _ => none
  | rest =>
      match takeKey nestingLimit rest with
      | some (key, ']' :: rest) =>
          (splitLast key).map fun (path, name) => (.table path name, rest)
      | _ => none

def takeItem (cs : List Char) : Option (Item × List Char) :=
  match cs with
  | '[' :: rest =>
      match takeHeading rest with
      | none => none
      | some (h, rest) => (takeLineEnd false rest).map fun rest => (.heading h, rest)
  | cs =>
      match takeKey nestingLimit cs with
      | some (key, '=' :: rest) =>
          match takeValue (rest.length + 1) nestingLimit (skipBlanks rest) with
          | none => none
          | some (value, rest) =>
              (takeLineEnd false rest).map fun rest => (.pair key value, rest)
      | _ => none

def takeAll (cs : List Char) : Option (List Item) :=
  match skipLines false cs with
  | none => none
  | some [] => some []
  | some cs' =>
      match takeItem cs' with
      | none => none
      | some (item, rest) =>
          if rest.length < cs.length then (takeAll rest).map (item :: ·) else none
termination_by cs.length

def blocks (heading : Heading) (pairs : List (List String × Toml)) : List Item -> List Block
  | [] => [{ heading := heading, pairs := pairs }]
  | .pair key value :: rest => blocks heading (pairs ++ [(key, value)]) rest
  | .heading h :: rest => { heading := heading, pairs := pairs } :: blocks h [] rest

def dropMark : List Char -> List Char
  | c :: rest => if c.toNat = 0xFEFF then rest else c :: rest
  | [] => []

def ofText? (text : String) : Option Entries :=
  match takeAll (dropMark text.toList) with
  | none => none
  | some items => ofBlocks (blocks .top [] items) []

end Toml
end Drafting
