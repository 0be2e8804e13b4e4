import Drafting.Decimal.Layout
import Drafting.Document
import Drafting.Json.Written

/-!
# Documents as JSON

A document is written as an object with a page and one array per kind of shape;
the array of ellipses is left out when there are none.  Members come in a fixed
order, common properties of a shape before its own.  Colors, alignments, and
caps are written by name, points as arrays of two numbers, and floats by their
shortest digits.  What is not a finite number is written as null.
-/

namespace Drafting

namespace Json

def ofFloat (v : Float) : Json :=
  match Decimal.Layout.document.numeral? v with
  | some n => .number n
  | none => .null

def ofPoint (p : Point) : Json :=
  .array [ofFloat p.x, ofFloat p.y]

end Json

namespace Page

def json (p : Page) : Json :=
  .object
    [("width", .ofFloat p.width), ("height", .ofFloat p.height), ("grid", .ofFloat p.grid),
     ("snap", .ofFloat p.snap), ("units", .string p.units),
     ("scale", .number (.ofNat p.scale))]

end Page

namespace Common

def jsonMembers (c : Common) : List (String × Json) :=
  [("id", .string c.id), ("layer", .number (.ofInt c.layer)), ("text", .string c.text),
   ("text_align", .string c.textAlign.name), ("line_thickness", .ofFloat c.lineThickness),
   ("line_color", .string c.lineColor.name), ("fill_color", .string c.fillColor.name)]

end Common

namespace Shape

def sizedMembers (point : String) (place : Point) (width height : Float) : List (String × Json) :=
  [(point, .ofPoint place), ("width", .ofFloat width), ("height", .ofFloat height)]

end Shape

namespace Rect

def json (r : Rect) : Json :=
  .object (r.common.jsonMembers ++ Shape.sizedMembers "location" r.location r.width r.height)

end Rect

namespace Line

def json (l : Line) : Json :=
  .object (l.common.jsonMembers ++
    [("start", .ofPoint l.start), ("end", .ofPoint l.finish),
     ("start_cap", .string l.startCap.name), ("end_cap", .string l.endCap.name)])

end Line

namespace Ellipse

def json (e : Ellipse) : Json :=
  .object (e.common.jsonMembers ++ Shape.sizedMembers "center" e.center e.width e.height)

end Ellipse

namespace Document

def json (d : Document) : Json :=
  .object
    ([("page", d.page.json), ("rects", .array (d.rects.map Rect.json)),
      ("lines", .array (d.lines.map Line.json))] ++
     (if d.ellipses.isEmpty then []
      else [("ellipses", .array (d.ellipses.map Ellipse.json))]))

def text (form : Json.Form) (d : Document) : String :=
  Json.written form d.json

end Document

end Drafting
