import Drafting.Expression
import Drafting.Shape

/-!
# Why a statement fails

Each failure of a statement is recorded as its cause.  The causes fall into four
kinds, and each has one message.
-/

namespace Drafting

inductive Keyword where
  | page
  | rect
  | line
deriving DecidableEq

inductive PageMeasure where
  | grid
  | width
  | height
  | snap
deriving DecidableEq

inductive StatementError where
  | expression (cause : ExpressionError)
  | malformedField (field value : String)
  | unrecognized (head : String)
  | unnamedAssignment
  | missingField (keyword : Keyword) (field : String)
  | scaleNotPositive (scale : Int)
  | measureNotPositive (measure : PageMeasure) (value : Float)
  | rectTooSmall (id : String) (width height : Float)
  | shape (cause : ShapeError)
  | style (cause : StyleError)
deriving DecidableEq

inductive ErrorKind where
  | malformed
  | missingField
  | validation
  | lookup
deriving DecidableEq

namespace Keyword

def all : List Keyword := [page, rect, line]

def name : Keyword -> String
  | page => "page"
  | rect => "rect"
  | line => "line"

def ofHead? (head : String) : Option Keyword :=
  lookUpLabel all name head

end Keyword

namespace PageMeasure

def label : PageMeasure -> String
  | grid => "page grid"
  | width => "page width"
  | height => "page height"
  | snap => "page snap"

end PageMeasure

namespace StatementError

def kind : StatementError -> ErrorKind
  | expression _ => .malformed
  | malformedField _ _ => .malformed
  | unrecognized _ => .malformed
  | unnamedAssignment => .malformed
  | missingField _ _ => .missingField
  | scaleNotPositive _ => .validation
  | measureNotPositive _ _ => .validation
  | rectTooSmall _ _ _ => .validation
  | shape _ => .validation
  | style _ => .lookup

def message : StatementError -> String
  | expression cause => cause.message
  | malformedField field value =>
      "malformed value \"" ++ value ++ "\" for field " ++ field
  | unrecognized head =>
      "malformed statement: \"" ++ head ++ "\" is neither a keyword nor an assignment"
  | unnamedAssignment => "malformed statement: assignment has no name"
  | missingField keyword field =>
      keyword.name ++ " statement is missing required field \"" ++ field ++ "\""
  | scaleNotPositive scale =>
      "validation failed: page scale must be a positive whole number, got " ++
        Decimal.whole scale
  | measureNotPositive measure value =>
      "validation failed: " ++ measure.label ++ " must be positive, got " ++
        Decimal.shown value
  | rectTooSmall id width height =>
      "validation failed: rect \"" ++ id ++
        "\" needs width and height of at least 1, got " ++
        Decimal.shown width ++ " x " ++ Decimal.shown height
  | shape cause => "validation failed: " ++ cause.message
  | style cause => cause.message

end StatementError

end Drafting
