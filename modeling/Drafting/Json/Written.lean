import Drafting.Json.Basic
import Drafting.Json.Quoted

/-!
# Writing JSON

The compact form has no blanks at all.  The open form puts every item and every
member on a line of its own, two spaces deeper than the container, and a space
after each colon; an empty container stays on one line.

Items and members are written one after another, and the end of the container
comes with what follows the first of them.
-/

namespace Drafting
namespace Json

mutual

def compact : Json -> List Char
  | .null => ['n', 'u', 'l', 'l']
  | .bool true => ['t', 'r', 'u', 'e']
  | .bool false => ['f', 'a', 'l', 's', 'e']
  | .number n => n.text
  | .string s => quote s
  | .array [] => ['[', ']']
  | .array (j :: rest) => '[' :: (compact j ++ compactItems rest)
  | .object [] => ['{', '}']
  | .object ((name, j) :: rest) =>
      '{' :: (quote name ++ ':' :: (compact j ++ compactMembers rest))

def compactItems : List Json -> List Char
  | [] => [']']
  | j :: rest => ',' :: (compact j ++ compactItems rest)

def compactMembers : List (String × Json) -> List Char
  | [] => ['}']
  | (name, j) :: rest => ',' :: (quote name ++ ':' :: (compact j ++ compactMembers rest))

end

def newLine (depth : Nat) : List Char :=
  '\n' :: List.replicate (2 * depth) ' '

mutual

def spread (depth : Nat) : Json -> List Char
  | .null => ['n', 'u', 'l', 'l']
  | .bool true => ['t', 'r', 'u', 'e']
  | .bool false => ['f', 'a', 'l', 's', 'e']
  | .number n => n.text
  | .string s => quote s
  | .array [] => ['[', ']']
  | .array (j :: rest) =>
      '[' :: (newLine (depth + 1) ++ spread (depth + 1) j ++ spreadItems depth rest)
  | .object [] => ['{', '}']
  | .object ((name, j) :: rest) =>
      '{' :: (newLine (depth + 1) ++ quote name ++
        ':' :: ' ' :: (spread (depth + 1) j ++ spreadMembers depth rest))

def spreadItems (depth : Nat) : List Json -> List Char
  | [] => newLine depth ++ [']']
  | j :: rest => ',' :: (newLine (depth + 1) ++ spread (depth + 1) j ++ spreadItems depth rest)

def spreadMembers (depth : Nat) : List (String × Json) -> List Char
  | [] => newLine depth ++ ['}']
  | (name, j) :: rest =>
      ',' :: (newLine (depth + 1) ++ quote name ++
        ':' :: ' ' :: (spread (depth + 1) j ++ spreadMembers depth rest))

end

inductive Form where
  | compact
  | spread
deriving DecidableEq

def written (form : Form) (j : Json) : String :=
  match form with
  | .compact => String.ofList (compact j)
  | .spread => String.ofList (spread 0 j)

end Json
end Drafting
