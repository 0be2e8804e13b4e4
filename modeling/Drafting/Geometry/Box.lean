/-!
# Points and boxes of the page

The page has x growing to the right and y growing downwards.  A box is an
axis-parallel rectangle given by its corners of least and of greatest
coordinates.  A box whose corners are the wrong way round on some axis is
empty; the empty box of this module is the neutral one, with both corners
infinitely far away.

Minimum and maximum are taken per coordinate by a single comparison in which
the present box comes first.  For numbers this is the usual minimum; when one
of the two is not a number, the new coordinate is taken.
-/

namespace Drafting

structure Point where
  x : Float
  y : Float
deriving DecidableEq

structure Offset where
  dx : Float
  dy : Float
deriving DecidableEq

structure Box where
  min : Point
  max : Point
deriving DecidableEq

namespace Point

def translate (p : Point) (o : Offset) : Point :=
  { x := p.x + o.dx, y := p.y + o.dy }

end Point

namespace Offset

def between (start finish : Point) : Offset :=
  { dx := finish.x - start.x, dy := finish.y - start.y }

def length (o : Offset) : Float :=
  (o.dx * o.dx + o.dy * o.dy).sqrt

end Offset

/-- The lesser coordinate; `b` when the two cannot be compared. -/
def lesser (a b : Float) : Float :=
  if a < b then a else b

def greater (a b : Float) : Float :=
  if b < a then a else b

namespace Point

def lower (p q : Point) : Point :=
  { x := lesser p.x q.x, y := lesser p.y q.y }

def upper (p q : Point) : Point :=
  { x := greater p.x q.x, y := greater p.y q.y }

end Point

/-!
## Boxes

A box is made from a corner and the displacement to the opposite one, of either
sign.  It is widened so that it reaches a point or another box; an empty box
becomes the point itself.
-/

namespace Box

def ofOriginSize (origin : Point) (width height : Float) : Box :=
  let far := origin.translate { dx := width, dy := height }
  { min := origin.lower far, max := origin.upper far }

def empty : Box :=
  let infinite : Float := 1.0 / 0.0
  { min := { x := infinite, y := infinite }, max := { x := -infinite, y := -infinite } }

def isEmpty (b : Box) : Bool :=
  decide (b.max.x < b.min.x) || decide (b.max.y < b.min.y)

def includePoint (b : Box) (p : Point) : Box :=
  if b.isEmpty then { min := p, max := p }
  else { min := b.min.lower p, max := b.max.upper p }

def includeBox (b other : Box) : Box :=
  if other.isEmpty then b
  else (b.includePoint other.min).includePoint other.max

/-- Points on the border are contained. -/
def contains (b : Box) (p : Point) : Bool :=
  decide (b.min.x ≤ p.x) && decide (p.x ≤ b.max.x) &&
    decide (b.min.y ≤ p.y) && decide (p.y ≤ b.max.y)

def corners (b : Box) : List Point :=
  [b.min, { x := b.max.x, y := b.min.y }, b.max, { x := b.min.x, y := b.max.y }]

def hull? : List Box -> Option Box
  | [] => none
  | boxes => some (boxes.foldl includeBox empty)

def around (centre : Point) (radius : Float) : Box :=
  { min := { x := centre.x - radius, y := centre.y - radius }
    max := { x := centre.x + radius, y := centre.y + radius } }

theorem includeBox_of_isEmpty {b other : Box} (h : other.isEmpty = true) :
    b.includeBox other = b := by
  simp [includeBox, h]

theorem includePoint_of_isEmpty {b : Box} (p : Point) (h : b.isEmpty = true) :
    b.includePoint p = { min := p, max := p } := by
  simp [includePoint, h]

end Box

end Drafting
