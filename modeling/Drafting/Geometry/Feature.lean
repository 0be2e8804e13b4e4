import Drafting.Geometry.Box

/-!
# Feature points

A shape is known to queries by its feature points: the corners of a rectangle,
the ends of a line, the extreme points of an ellipse.  Their order is fixed and
has a meaning.  A shape lies in an area when any, or all, of its feature points
do, and it is hit at a point by the last feature point close to that point.
-/

namespace Drafting

inductive ContainMode where
  | any
  | all
deriving DecidableEq

namespace ContainMode

def default : ContainMode := any

def holds (mode : ContainMode) (test : Point -> Bool) (features : List Point) : Bool :=
  match mode with
  | any => features.any test
  | all => features.all test

end ContainMode

namespace Feature

def containedIn (features : List Point) (area : Box) (mode : ContainMode) : Bool :=
  mode.holds area.contains features

def covers (radius : Float) (p feature : Point) : Bool :=
  (Box.around feature radius).contains p

/--
The position, counted from one, of the last feature that covers the point.  The
last one wins, not the nearest.
-/
def lastCovering (features : List Point) (p : Point) (radius : Float) : Option Nat :=
  features.zipIdx.foldl
    (fun found (feature, i) => if covers radius p feature then some (i + 1) else found)
    none

end Feature

end Drafting
