import Drafting.Text.Blank

/-!
# Styles: colors, text alignment, and line caps

Colors are chosen from a fixed list of names; alignments and caps have both a
name, used in documents, and a code of two letters, used in drawings.  Names
and codes are looked up without the blanks around them and without regard to
the case of ASCII letters.
-/

namespace Drafting

inductive Color where
  | transparent | black | white | red | green | blue | yellow | cyan | magenta | orange
  | purple | brown | pink | gray | darkGray | lightGray | darkRed | darkGreen | darkBlue | navy
deriving DecidableEq

inductive TextAlign where
  | topLeft | topCenter | topRight
  | middleLeft | middleCenter | middleRight
  | bottomLeft | bottomCenter | bottomRight
deriving DecidableEq

inductive CapStyle where
  | none | hollowCircle | filledCircle | hollowSquare | filledSquare | hollowArrow | filledArrow
deriving DecidableEq

inductive CodeKind where
  | alignment
  | cap
deriving DecidableEq

inductive StyleError where
  | unknownColor (name : String)
  | unknownCode (kind : CodeKind) (code : String)
deriving DecidableEq

namespace CodeKind

def text : CodeKind -> String
  | alignment => "text alignment"
  | cap => "cap style"

end CodeKind

namespace StyleError

def message : StyleError -> String
  | unknownColor name => "unknown color name \"" ++ name ++ "\""
  | unknownCode kind code => "unknown " ++ kind.text ++ " code \"" ++ code ++ "\""

end StyleError

/-- The first of `candidates` whose label agrees with `wanted` up to ASCII case. -/
def lookUpLabel (candidates : List α) (label : α -> String) (wanted : String) : Option α :=
  candidates.find? fun candidate => (label candidate).toLower = wanted.toLower

def readLabel (unknown : String -> StyleError) (candidates : List α) (label : α -> String)
    (raw : String) : Except StyleError α :=
  let wanted := Text.trimmed raw
  match lookUpLabel candidates label wanted with
  | some found => .ok found
  | none => .error (unknown wanted)

/-!
## Colors

A color has one name for drawings and documents.
-/

namespace Color

def all : List Color :=
  [transparent, black, white, red, green, blue, yellow, cyan, magenta, orange,
   purple, brown, pink, gray, darkGray, lightGray, darkRed, darkGreen, darkBlue, navy]

def name : Color -> String
  | transparent => "Transparent"
  | black => "Black"
  | white => "White"
  | red => "Red"
  | green => "Green"
  | blue => "Blue"
  | yellow => "Yellow"
  | cyan => "Cyan"
  | magenta => "Magenta"
  | orange => "Orange"
  | purple => "Purple"
  | brown => "Brown"
  | pink => "Pink"
  | gray => "Gray"
  | darkGray => "DarkGray"
  | lightGray => "LightGray"
  | darkRed => "DarkRed"
  | darkGreen => "DarkGreen"
  | darkBlue => "DarkBlue"
  | navy => "Navy"

def ofName? : String -> Except StyleError Color :=
  readLabel .unknownColor all name

theorem mem_all (c : Color) : c ∈ all := by
  cases c <;> decide

end Color

/-!
## Text alignment

Alignment says where the text of a shape stands.  The first letter of a code
gives the row (top, center, bottom), and the second the column.
-/

namespace TextAlign

def all : List TextAlign :=
  [topLeft, topCenter, topRight, middleLeft, middleCenter, middleRight,
   bottomLeft, bottomCenter, bottomRight]

def name : TextAlign -> String
  | topLeft => "TopLeft"
  | topCenter => "TopCenter"
  | topRight => "TopRight"
  | middleLeft => "MiddleLeft"
  | middleCenter => "MiddleCenter"
  | middleRight => "MiddleRight"
  | bottomLeft => "BottomLeft"
  | bottomCenter => "BottomCenter"
  | bottomRight => "BottomRight"

def code : TextAlign -> String
  | topLeft => "TL"
  | topCenter => "TC"
  | topRight => "TR"
  | middleLeft => "CL"
  | middleCenter => "CC"
  | middleRight => "CR"
  | bottomLeft => "BL"
  | bottomCenter => "BC"
  | bottomRight => "BR"

def ofCode? : String -> Except StyleError TextAlign :=
  readLabel (.unknownCode .alignment) all code

theorem mem_all (a : TextAlign) : a ∈ all := by
  cases a <;> decide

end TextAlign

/-!
## Line caps

A cap is what is drawn at an end of a line.  The first letter of a code gives
the figure, and the second tells hollow from filled.
-/

namespace CapStyle

def all : List CapStyle :=
  [none, hollowCircle, filledCircle, hollowSquare, filledSquare, hollowArrow, filledArrow]

def name : CapStyle -> String
  | none => "None"
  | hollowCircle => "HollowCircle"
  | filledCircle => "FilledCircle"
  | hollowSquare => "HollowSquare"
  | filledSquare => "FilledSquare"
  | hollowArrow => "HollowArrow"
  | filledArrow => "FilledArrow"

def code : CapStyle -> String
  | none => "NO"
  | hollowCircle => "CO"
  | filledCircle => "CF"
  | hollowSquare => "SO"
  | filledSquare => "SF"
  | hollowArrow => "AO"
  | filledArrow => "AF"

def ofCode? : String -> Except StyleError CapStyle :=
  readLabel (.unknownCode .cap) all code

theorem mem_all (c : CapStyle) : c ∈ all := by
  cases c <;> decide

end CapStyle

end Drafting
