import Drafting.Text.Unprinted

/-!
# Texts in quotes

Messages name files and shapes in quotes.  Quotes, backslashes, and the common
controls inside are escaped by a backslash, and characters that are not printed
as they are appear by their number in hexadecimal.
-/

namespace Drafting
namespace Text

def shownNumber (n : Nat) : List Char :=
  ['\\', 'u', '{'] ++ Nat.toDigits 16 n ++ ['}']

def shownChar (c : Char) : List Char :=
  if c = '"' then ['\\', '"']
  else if c = '\\' then ['\\', '\\']
  else if c = '\t' then ['\\', 't']
  else if c = '\r' then ['\\', 'r']
  else if c = '\n' then ['\\', 'n']
  else if c.toNat = 0 then ['\\', '0']
  else if isUnprinted c then shownNumber c.toNat
  else [c]

def quoted (s : String) : String :=
  String.ofList ('"' :: (s.toList.flatMap shownChar ++ ['"']))

end Text
end Drafting
