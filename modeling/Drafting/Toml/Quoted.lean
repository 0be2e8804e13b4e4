import Drafting.Toml.Scalar

/-!
# Strings of TOML

A string stands between quotes, in which escapes count, or between apostrophes,
in which nothing is escaped.  With the mark tripled it may run over several
lines; a line end directly after the opening mark is left out, and every line end
inside becomes a line feed.  Up to two marks may stand directly before the
closing three.

Control characters other than the tab may not stand in strings and comments.
-/

namespace Drafting
namespace Toml

def isPlain (c : Char) : Bool :=
  c = '\t' || (32 ≤ c.toNat && c.toNat ≠ 127)

/-- The character of a number, which must not be one of a surrogate. -/
def charOf? (digits : List Char) : Option Char :=
  if digits.all isHexDigit then
    let n := inBase 16 digits
    if n.isValidChar then some (Char.ofNat n) else none
  else none

def escaped? (c : Char) : Option Char :=
  if c = 'b' then some (Char.ofNat 8)
  else if c = 't' then some '\t'
  else if c = 'n' then some '\n'
  else if c = 'f' then some (Char.ofNat 12)
  else if c = 'r' then some '\r'
  else if c = '"' || c = '\\' then some c
  else none

def push (c : Option Char) (found : Option (List Char × List Char)) :
    Option (List Char × List Char) :=
  match c, found with
  | some c, some (cs, rest) => some (c :: cs, rest)
  | _, _ => none

def takeQuoted : List Char -> Option (List Char × List Char)
  | [] => none
  | '"' :: rest => some ([], rest)
  | '\\' :: 'u' :: a :: b :: c :: d :: rest => push (charOf? [a, b, c, d]) (takeQuoted rest)
  | '\\' :: 'U' :: a :: b :: c :: d :: e :: f :: g :: h :: rest =>
      push (charOf? [a, b, c, d, e, f, g, h]) (takeQuoted rest)
  | '\\' :: c :: rest => push (escaped? c) (takeQuoted rest)
  | c :: rest => if isPlain c then push (some c) (takeQuoted rest) else none

def endsLine : List Char -> Bool
  | '\n' :: _ => true
  | '\r' :: '\n' :: _ => true
  | ' ' :: rest => endsLine rest
  | '\t' :: rest => endsLine rest
  | _ => false

/-- What is left of a run of marks after the first three: up to two belong to the text. -/
def closeMarks (mark : Char) : List Char -> List Char × List Char
  | [] => ([], [])
  | [c] => if c = mark then ([mark], []) else ([], [c])
  | c :: d :: rest =>
      if c = mark then
        if d = mark then ([mark, mark], rest) else ([mark], d :: rest)
      else ([], c :: d :: rest)

/--
The text up to the closing three quotes.  While `skipping`, after a backslash at
the end of a line, blanks and line ends are left out.
-/
def takeQuotedLines (skipping : Bool) : List Char -> Option (List Char × List Char)
  | [] => none
  | '"' :: '"' :: '"' :: rest => some (closeMarks '"' rest)
  | '\\' :: 'u' :: a :: b :: c :: d :: rest =>
      push (charOf? [a, b, c, d]) (takeQuotedLines false rest)
  | '\\' :: 'U' :: a :: b :: c :: d :: e :: f :: g :: h :: rest =>
      push (charOf? [a, b, c, d, e, f, g, h]) (takeQuotedLines false rest)
  | '\r' :: '\n' :: rest =>
      if skipping then takeQuotedLines true rest
      else push (some '\n') (takeQuotedLines false rest)
  | '\n' :: rest =>
      if skipping then takeQuotedLines true rest
      else push (some '\n') (takeQuotedLines false rest)
  | '\\' :: c :: rest =>
      if endsLine (c :: rest) then takeQuotedLines true (c :: rest)
      else push (escaped? c) (takeQuotedLines false rest)
  | c :: rest =>
      if skipping && (c = ' ' || c = '\t') then takeQuotedLines true rest
      else if isPlain c then push (some c) (takeQuotedLines false rest)
      else none

def takeLiteral : List Char -> Option (List Char × List Char)
  | [] => none
  | '\'' :: rest => some ([], rest)
  | c :: rest => if isPlain c then push (some c) (takeLiteral rest) else none

def takeLiteralLines : List Char -> Option (List Char × List Char)
  | [] => none
  | '\'' :: '\'' :: '\'' :: rest => some (closeMarks '\'' rest)
  | '\r' :: '\n' :: rest => push (some '\n') (takeLiteralLines rest)
  | '\n' :: rest => push (some '\n') (takeLiteralLines rest)
  | c :: rest => if isPlain c then push (some c) (takeLiteralLines rest) else none

def dropLineEnd : List Char -> List Char
  | '\n' :: rest => rest
  | '\r' :: '\n' :: rest => rest
  | cs => cs

def takeString : List Char -> Option (String × List Char)
  | '"' :: '"' :: '"' :: rest =>
      (takeQuotedLines false (dropLineEnd rest)).map fun (cs, rest) => (String.ofList cs, rest)
  | '"' :: rest => (takeQuoted rest).map fun (cs, rest) => (String.ofList cs, rest)
  | '\'' :: '\'' :: '\'' :: rest =>
      (takeLiteralLines (dropLineEnd rest)).map fun (cs, rest) => (String.ofList cs, rest)
  | '\'' :: rest => (takeLiteral rest).map fun (cs, rest) => (String.ofList cs, rest)
  | _ => none

end Toml
end Drafting
