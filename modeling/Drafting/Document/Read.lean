import Drafting.Document
import Drafting.Json.Field

/-!
# Reading documents from JSON

Page, lists of shapes, and units may be missing from a document; names that are
not known are passed over.  A page or a document may also be an array of its
fields in order.

A shape is always an object.  Its own geometry is read where it stands in the
text, all other members are kept, and only when the object is complete the
common properties are read from what was kept, the own fields being demanded
first.  Thickness is checked before the extents.
-/

namespace Drafting

open Json (Field Outline Values)

namespace Page

def maxScale : Int := 4294967295

def fields : List Field :=
  [.of "width" true Json.takeFloat,
   .of "height" true Json.takeFloat,
   .of "grid" true Json.takeFloat,
   .of "snap" true Json.takeFloat,
   .of "units" false Json.takeText,
   .of "scale" true (Json.takeWhole 0 maxScale)]

def ofOutline (o : Outline) : Except Fault Page := do
  let values ← Json.takeRecord fields o
  let width ← values.required "width" Json.takeFloat
  let height ← values.required "height" Json.takeFloat
  let grid ← values.required "grid" Json.takeFloat
  let snap ← values.required "snap" Json.takeFloat
  let units ← values.optional "units" Json.takeText ""
  let scale ← values.required "scale" (Json.takeWhole 0 maxScale)
  .ok
    { width := width, height := height, grid := grid, snap := snap
      units := units, scale := scale.toNat }

end Page

/-!
## Shapes

Containers of a document may be nested 127 levels deep.  The document itself is
the first level and shapes stand on the third, which leaves the rest for values
inside of them.

Rectangles and ellipses are read in one way: each has a point, under a name of
its own, and a width and a height.
-/

namespace Common

def takeLayer : Outline -> Except Fault Int :=
  Json.takeWhole (-2147483648) 2147483647

def takeAlign : Outline -> Except Fault TextAlign :=
  Json.takeKeptChoice TextAlign.all TextAlign.name

def takeColor : Outline -> Except Fault Color :=
  Json.takeKeptChoice Color.all Color.name

def fields : List Field :=
  [.of "id" true Json.takeText,
   .of "layer" false takeLayer,
   .of "text" false Json.takeText,
   .of "text_align" false takeAlign,
   .of "line_thickness" true Json.takeFloat,
   .of "line_color" true takeColor,
   .of "fill_color" true takeColor]

def ofMembers (members : List (Option String × Outline)) : Except Fault Common := do
  Json.surveyMembers fields (fun _ => .ok ()) [] members
  let values := Json.namedMembers members
  let id ← values.required "id" Json.takeText
  let layer ← values.optional "layer" takeLayer 0
  let text ← values.optional "text" Json.takeText ""
  let align ← values.optional "text_align" takeAlign .middleCenter
  let thickness ← values.required "line_thickness" Json.takeFloat
  let lineColor ← values.required "line_color" takeColor
  let fillColor ← values.required "fill_color" takeColor
  let unchecked : Common :=
    { id := id, layer := layer, text := text, textAlign := align
      lineThickness := (Common.named "").lineThickness
      lineColor := lineColor, fillColor := fillColor }
  (unchecked.setThickness thickness).mapError .shape

end Common

namespace Shape

def deepestLevel : Nat := 127

def roomInside : Nat := deepestLevel - 3

/-- A member of a shape that is not its own has to be a value that can be kept. -/
def kept (o : Outline) : Except Fault Unit :=
  if o.keeps roomInside then .ok () else .error .illFormed

def takeOwn (fields : List Field) :
    Outline -> Except Fault (Values × List (Option String × Outline))
  | .object members closed => do
      let values ← Json.takeObject fields kept members closed
      .ok (values, members)
  | o => .error (Json.typeFault o)

def sizedFields (point : String) : List Field :=
  [.of point true Json.takePoint,
   .of "width" true Json.takeFloat,
   .of "height" true Json.takeFloat]

def takeSized (point : String) (make : Common -> Point -> Float -> Float -> Except ShapeError α)
    (o : Outline) : Except Fault α := do
  let (values, members) ← takeOwn (sizedFields point) o
  let place ← values.required point Json.takePoint
  let width ← values.required "width" Json.takeFloat
  let height ← values.required "height" Json.takeFloat
  let common ← Common.ofMembers members
  (make common place width height).mapError .shape

end Shape

namespace Rect

def fields : List Field :=
  Shape.sizedFields "location"

def ofOutline : Outline -> Except Fault Rect :=
  Shape.takeSized "location" Rect.make

end Rect

namespace Line

def takeCap : Outline -> Except Fault CapStyle :=
  Json.takeChoice CapStyle.all CapStyle.name

def fields : List Field :=
  [.of "start" true Json.takePoint,
   .of "end" true Json.takePoint,
   .of "start_cap" false takeCap,
   .of "end_cap" false takeCap]

def ofOutline (o : Outline) : Except Fault Line := do
  let (values, members) ← Shape.takeOwn fields o
  let start ← values.required "start" Json.takePoint
  let finish ← values.required "end" Json.takePoint
  let startCap ← values.optional "start_cap" takeCap .none
  let endCap ← values.optional "end_cap" takeCap .none
  let common ← Common.ofMembers members
  .ok (Line.make common start finish startCap endCap)

end Line

namespace Ellipse

def fields : List Field :=
  Shape.sizedFields "center"

def ofOutline : Outline -> Except Fault Ellipse :=
  Shape.takeSized "center" Ellipse.make

end Ellipse

/-!
## Documents

Nothing but blanks may follow the document in its text.
-/

namespace Document

def fields : List Field :=
  [.of "page" false Page.ofOutline,
   .of "rects" false (Json.takeList Rect.ofOutline),
   .of "lines" false (Json.takeList Line.ofOutline),
   .of "ellipses" false (Json.takeList Ellipse.ofOutline)]

def ofOutline (o : Outline) : Except Fault Document := do
  let values ← Json.takeRecord fields o
  let page ← values.optional "page" Page.ofOutline .standard
  let rects ← values.optional "rects" (Json.takeList Rect.ofOutline) []
  let lines ← values.optional "lines" (Json.takeList Line.ofOutline) []
  let ellipses ← values.optional "ellipses" (Json.takeList Ellipse.ofOutline) []
  .ok { page := page, rects := rects, lines := lines, ellipses := ellipses }

def ofText (text : String) : Except Fault Document := do
  let reading := Json.Reading.ofText text
  let document ← ofOutline reading.outline
  if reading.trailing then .error .illFormed else .ok document

end Document

end Drafting
