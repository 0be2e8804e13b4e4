import Drafting.Decimal.Layout
import Drafting.Geometry.Feature
import Drafting.Style

/-!
# Shapes

A drawing consists of rectangles, lines, and ellipses.  They share an identity,
a layer, a text, and a style; each has its own geometry.  Extents and line
thickness must be positive and finite, which the building functions of this
module check.

The geometry of a shape is its bounding box and its feature points, both
computed anew from its coordinates.
-/

namespace Drafting

inductive ShapeKind where
  | rect
  | line
  | ellipse
deriving DecidableEq

inductive Dimension where
  | width
  | height
deriving DecidableEq

inductive ShapeError where
  | nonPositiveExtent (kind : ShapeKind) (dimension : Dimension) (value : Float)
  | invalidThickness (value : Float)
deriving DecidableEq

namespace ShapeKind

def name : ShapeKind -> String
  | rect => "rect"
  | line => "line"
  | ellipse => "ellipse"

end ShapeKind

namespace Dimension

def name : Dimension -> String
  | width => "width"
  | height => "height"

end Dimension

namespace ShapeError

def message : ShapeError -> String
  | nonPositiveExtent kind dimension value =>
      kind.name ++ " " ++ dimension.name ++ " must be positive and finite, got " ++
        Decimal.shown value
  | invalidThickness value =>
      "line thickness must be positive and finite, got " ++ Decimal.shown value

end ShapeError

def isMeasure (v : Float) : Bool :=
  v.isFinite && decide (0.0 < v)

structure Common where
  id : String
  /-- The layers from 1 to 4 can be hidden; every other layer is always visible. -/
  layer : Int
  text : String
  textAlign : TextAlign
  lineThickness : Float
  lineColor : Color
  fillColor : Color
deriving DecidableEq

namespace Common

def named (id : String) : Common :=
  { id := id
    layer := 0
    text := ""
    textAlign := .middleCenter
    lineThickness := 1.0
    lineColor := .black
    fillColor := .transparent }

def setThickness (c : Common) (thickness : Float) : Except ShapeError Common :=
  if isMeasure thickness then .ok { c with lineThickness := thickness }
  else .error (.invalidThickness thickness)

end Common

/-!
## The three kinds

A rectangle is located by its corner of least coordinates, and an ellipse by its
center, with the extents of the box around it.  Of the extents the width is
checked first.
-/

structure Rect where
  common : Common
  location : Point
  width : Float
  height : Float
deriving DecidableEq

structure Line where
  common : Common
  start : Point
  finish : Point
  startCap : CapStyle
  endCap : CapStyle
deriving DecidableEq

structure Ellipse where
  common : Common
  center : Point
  width : Float
  height : Float
deriving DecidableEq

def checkExtents (kind : ShapeKind) (width height : Float) : Except ShapeError Unit :=
  if ! isMeasure width then .error (.nonPositiveExtent kind .width width)
  else if ! isMeasure height then .error (.nonPositiveExtent kind .height height)
  else .ok ()

theorem checkExtents_eq_ok_iff {kind : ShapeKind} {width height : Float} :
    checkExtents kind width height = .ok () ↔
      isMeasure width = true ∧ isMeasure height = true := by
  unfold checkExtents
  cases isMeasure width <;> cases isMeasure height <;> simp

/-!
## Geometry

Feature points come in clockwise order, those of a rectangle from its location
and those of an ellipse from the top.  The first feature point of a line is its
start and the second its end.  Positions of feature points are counted from one.
-/

namespace Rect

def make (common : Common) (location : Point) (width height : Float) :
    Except ShapeError Rect :=
  (checkExtents .rect width height).map fun _ =>
    { common := common, location := location, width := width, height := height }

def boundingBox (r : Rect) : Box :=
  Box.ofOriginSize r.location r.width r.height

def features (r : Rect) : List Point :=
  [r.location,
   r.location.translate { dx := r.width, dy := 0.0 },
   r.location.translate { dx := r.width, dy := r.height },
   r.location.translate { dx := 0.0, dy := r.height }]

end Rect

inductive Endpoint where
  | start
  | finish
deriving DecidableEq

namespace Line

def make (common : Common) (start finish : Point) (startCap endCap : CapStyle) : Line :=
  { common := common, start := start, finish := finish, startCap := startCap, endCap := endCap }

def boundingBox (l : Line) : Box :=
  (Box.empty.includePoint l.start).includePoint l.finish

def features (l : Line) : List Point :=
  [l.start, l.finish]

def length (l : Line) : Float :=
  (Offset.between l.start l.finish).length

def endpoint? : Nat -> Option Endpoint
  | 1 => some .start
  | 2 => some .finish
  | _ => none

end Line

namespace Ellipse

def make (common : Common) (center : Point) (width height : Float) :
    Except ShapeError Ellipse :=
  (checkExtents .ellipse width height).map fun _ =>
    { common := common, center := center, width := width, height := height }

def boundingBox (e : Ellipse) : Box :=
  let half : Offset := { dx := e.width * 0.5, dy := e.height * 0.5 }
  { min := e.center.translate { dx := -half.dx, dy := -half.dy }
    max := e.center.translate half }

def features (e : Ellipse) : List Point :=
  let halfWidth := e.width * 0.5
  let halfHeight := e.height * 0.5
  [e.center.translate { dx := 0.0, dy := -halfHeight },
   e.center.translate { dx := halfWidth, dy := 0.0 },
   e.center.translate { dx := 0.0, dy := halfHeight },
   e.center.translate { dx := -halfWidth, dy := 0.0 }]

end Ellipse

inductive Shape where
  | rect (r : Rect)
  | line (l : Line)
  | ellipse (e : Ellipse)
deriving DecidableEq

namespace Shape

def kind : Shape -> ShapeKind
  | rect _ => .rect
  | line _ => .line
  | ellipse _ => .ellipse

def common : Shape -> Common
  | rect r => r.common
  | line l => l.common
  | ellipse e => e.common

def id (s : Shape) : String :=
  s.common.id

def layer (s : Shape) : Int :=
  s.common.layer

def boundingBox : Shape -> Box
  | rect r => r.boundingBox
  | line l => l.boundingBox
  | ellipse e => e.boundingBox

def features : Shape -> List Point
  | rect r => r.features
  | line l => l.features
  | ellipse e => e.features

def containedIn (s : Shape) (area : Box) (mode : ContainMode) : Bool :=
  Feature.containedIn s.features area mode

def featureAt? (s : Shape) (p : Point) (radius : Float) : Option Nat :=
  Feature.lastCovering s.features p radius

end Shape

end Drafting
