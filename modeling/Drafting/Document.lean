import Drafting.Shape

/-!
# Documents

A document is a page and the shapes on it, in one list per kind.  Shapes are
only ever added at the end of their list, and are visited in the order
rectangles, lines, ellipses.  Identities need not be unique, and the first shape
with an identity is the one that is found.  The units of a page are only shown.
-/

namespace Drafting

structure Page where
  width : Float
  height : Float
  grid : Float
  snap : Float
  units : String
  scale : Nat
deriving DecidableEq

namespace Page

def standard : Page :=
  { width := 297.0, height := 210.0, grid := 10.0, snap := 1.0, units := "", scale := 1 }

end Page

structure Document where
  page : Page
  rects : List Rect
  lines : List Line
  ellipses : List Ellipse
deriving DecidableEq

namespace Document

def blank : Document :=
  { page := .standard, rects := [], lines := [], ellipses := [] }

def setPage (d : Document) (page : Page) : Document :=
  { d with page := page }

def add (d : Document) : Shape -> Document
  | .rect r => { d with rects := d.rects ++ [r] }
  | .line l => { d with lines := d.lines ++ [l] }
  | .ellipse e => { d with ellipses := d.ellipses ++ [e] }

def shapes (d : Document) : List Shape :=
  d.rects.map .rect ++ d.lines.map .line ++ d.ellipses.map .ellipse

def shapeCount (d : Document) : Nat :=
  d.rects.length + d.lines.length + d.ellipses.length

def isEmpty (d : Document) : Bool :=
  d.shapeCount == 0

def find? (d : Document) (id : String) : Option Shape :=
  d.shapes.find? fun s => s.id = id

def bounds? (d : Document) : Option Box :=
  Box.hull? (d.shapes.map Shape.boundingBox)

theorem length_shapes (d : Document) : d.shapes.length = d.shapeCount := by
  simp [shapes, shapeCount, Nat.add_assoc]

@[simp] theorem page_setPage (d : Document) (page : Page) :
    (d.setPage page).page = page := rfl

@[simp] theorem shapes_setPage (d : Document) (page : Page) :
    (d.setPage page).shapes = d.shapes := rfl

@[simp] theorem page_add (d : Document) (s : Shape) : (d.add s).page = d.page := by
  cases s <;> rfl

theorem shapeCount_add (d : Document) (s : Shape) :
    (d.add s).shapeCount = d.shapeCount + 1 := by
  cases s <;> simp [add, shapeCount] <;> omega

end Document

end Drafting
