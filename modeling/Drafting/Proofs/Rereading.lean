import Drafting.Document.Read
import Drafting.Proofs.Bindings
import Drafting.Proofs.Json.Fields
import Drafting.Proofs.Shapes

/-!
# What a saved document is read as

Each record of a document is written by one function and read by another one.
This module says for each of them which records reading can give for a record
that has been written: those that agree with it in everything but floats, whose
floats are what reading makes of the written ones, and whose thickness and
extents are measures.  There are no others, and if there is none at all, the
text cannot be read.
-/

namespace Drafting

open Json (Outline checkOf)

/-!
## Points and pages

The survey of a record that has been written comes down to the checks of its
fields, and each value is found under its name.  So a record is taken exactly if
each of its fields is.
-/

namespace Point

structure Rereads (p q : Point) : Prop where
  x : Json.Rereads p.x q.x
  y : Json.Rereads p.y q.y

theorem takePoint_ofPoint {p q : Point} :
    Json.takePoint (.ofJson (.ofPoint p)) = .ok q ↔ p.Rereads q := by
  have hrereads : p.Rereads q ↔ Json.Rereads p.x q.x ∧ Json.Rereads p.y q.y := by
    constructor
    · intro h
      exact ⟨h.x, h.y⟩
    · intro h
      exact ⟨h.1, h.2⟩
  rw [hrereads]
  unfold Json.Rereads
  simp only [Json.ofPoint, Outline.ofJson, Outline.ofItems, Json.takePoint]
  cases Json.takeFloat (.ofJson (Json.ofFloat p.x)) with
  | error e => simp
  | ok x =>
      cases Json.takeFloat (.ofJson (Json.ofFloat p.y)) with
      | error e => simp
      | ok y =>
          rcases q with ⟨qx, qy⟩
          simp

end Point

namespace Page

structure Rereads (p q : Page) : Prop where
  width : Json.Rereads p.width q.width
  height : Json.Rereads p.height q.height
  grid : Json.Rereads p.grid q.grid
  snap : Json.Rereads p.snap q.snap
  units : q.units = p.units
  scale : q.scale = p.scale

theorem ofOutline_json {p q : Page} (h : p.scale ≤ maxScale) :
    ofOutline (.ofJson p.json) = .ok q ↔ p.Rereads q := by
  have hscale := Json.takeWhole_ofNat h (by decide)
  have hnames : (p.json.members.map Prod.fst).Nodup := by
    simp [json, Json.members]
  show ofOutline (.object (Outline.ofMembers p.json.members) true) = _ ↔ _
  rw [ofOutline]
  simp only [bind_eq_ok_iff, Json.takeRecord, Json.takeObject_ofMembers_eq_ok_iff hnames, and_assoc,
    exists_and_left, exists_eq_left]
  simp only [json, Json.members, List.mem_cons, List.not_mem_nil, or_false, fields,
    Json.checkOf_cons, Json.name_of, Json.checkOf_nil, forall_eq_or_imp, String.reduceEq,
    ↓reduceIte, forall_eq, Json.check_of_eq_ok_iff, Outline.ofJson, Json.takeText,
    Except.ok.injEq, exists_eq', hscale, and_self, and_true, Json.required_ofMembers,
    Json.optional_ofMembers, List.lookup, BEq.rfl, String.reduceBEq, exists_eq_left',
    Int.toNat_natCast]
  constructor
  · intro hparts
    rcases hparts with ⟨_, width, hwidth, height, hheight, grid, hgrid, snap, hsnap, rfl⟩
    exact ⟨hwidth, hheight, hgrid, hsnap, rfl, rfl⟩
  · intro hparts
    rcases hparts with ⟨hwidth, hheight, hgrid, hsnap, hunits, hscale⟩
    rcases q with ⟨width, height, grid, snap, units, scale⟩
    cases hunits
    cases hscale
    exact ⟨⟨⟨_, hwidth⟩, ⟨_, hheight⟩, ⟨_, hgrid⟩, _, hsnap⟩,
      _, hwidth, _, hheight, _, hgrid, _, hsnap, rfl⟩

end Page

/-!
## Common properties of shapes

The layer has to fit into 32 bits, and this is asked of a record before it is
written.  The thickness is checked when the shape is built, and all the others
are taken as they are.
-/

namespace Common

structure Rereads (c d : Common) : Prop where
  thickness : Json.Rereads c.lineThickness d.lineThickness
  measure : isMeasure d.lineThickness = true
  others : d = { c with lineThickness := d.lineThickness }

def LayerFits (c : Common) : Prop :=
  -2147483648 ≤ c.layer ∧ c.layer ≤ 2147483647

instance (c : Common) : Decidable c.LayerFits :=
  inferInstanceAs (Decidable (_ ∧ _))

theorem takeLayer_ofInt {c : Common} (h : c.LayerFits) :
    takeLayer (.number (.ofInt c.layer)) = .ok c.layer :=
  Json.takeWhole_ofInt h.1 h.2 (by decide) (by decide)

theorem takeAlign_name (a : TextAlign) : takeAlign (.string (some a.name)) = .ok a :=
  Json.chosen_align a

theorem takeColor_name (c : Color) : takeColor (.string (some c.name)) = .ok c :=
  Json.chosen_color c

theorem ofMembers_json {c d : Common} {own : List (String × Json)} (hlayer : c.LayerFits)
    (hnames : ((c.jsonMembers ++ own).map Prod.fst).Nodup) :
    ofMembers (Outline.ofMembers (c.jsonMembers ++ own)) = .ok d ↔ c.Rereads d := by
  -- The own members are no common fields, so the survey of these lets them pass.
  have hrest : forall m, m ∈ own ->
      checkOf fields (fun _ => .ok ()) m.1 (.ofJson m.2) = .ok () := by
    intro m hm
    rw [Json.checkOf_of_not_mem]
    intro hname
    exact Json.disjoint_names hnames hname (List.mem_map_of_mem hm)
  rw [ofMembers, check_eq_ok_iff, Json.surveyMembers_ofMembers_eq_ok_iff hnames,
    List.forall_mem_append, and_iff_left hrest]
  simp only [bind_eq_ok_iff]
  simp only [jsonMembers, List.mem_cons, List.not_mem_nil, or_false, fields, Json.checkOf_cons,
    Json.name_of, Json.checkOf_nil, forall_eq_or_imp, String.reduceEq, ↓reduceIte, forall_eq,
    Outline.ofJson, Json.check_of_eq_ok_iff, Json.takeText, Except.ok.injEq, exists_eq',
    takeLayer_ofInt hlayer, takeAlign_name, takeColor_name, and_self, and_true, true_and,
    List.cons_append, List.nil_append, Json.required_ofMembers, Json.optional_ofMembers,
    List.lookup, BEq.rfl, String.reduceBEq, mapError_eq_ok_iff, setThickness_eq_ok_iff,
    exists_eq_left']
  constructor
  · intro hparts
    rcases hparts with ⟨_, thickness, hthickness, hmeasure, rfl⟩
    exact ⟨hthickness, hmeasure, rfl⟩
  · intro hparts
    rcases hparts with ⟨hthickness, hmeasure, hothers⟩
    exact ⟨⟨_, hthickness⟩, _, hthickness, hmeasure, hothers.symm⟩

theorem kept_jsonMembers {c d : Common} (hlayer : c.LayerFits) (h : c.Rereads d) :
    forall m, m ∈ c.jsonMembers -> Shape.kept (.ofJson m.2) = .ok () := by
  have hthickness := Json.keeps_of_rereads Shape.roomInside h.thickness
  have hint : (Outline.number (.ofInt c.layer)).keeps Shape.roomInside = true :=
    Json.keeps_ofInt _ (Int.le_trans (by decide) hlayer.1) (Int.le_trans hlayer.2 (by decide))
  simp [jsonMembers, Shape.kept, Outline.ofJson, Outline.keeps, hthickness, hint]

end Common

/-!
## Shapes

The common properties of a shape are surveyed together with its own fields, and
read from the members that no field of its own has claimed.  None of their names
is that of an own field, so they are all still there.
-/

namespace Shape

theorem takeOwn_eq_ok_iff {fields : List Json.Field} {members : List (String × Json)}
    (hnames : (members.map Prod.fst).Nodup) {values : Json.Values}
    {found : List (Option String × Outline)} :
    takeOwn fields (.ofJson (.object members)) = .ok (values, found) ↔
      (forall m, m ∈ members -> checkOf fields kept m.1 (.ofJson m.2) = .ok ()) ∧
        values = Json.namedMembers (Outline.ofMembers members) ∧
        found = Outline.ofMembers members := by
  simp only [Outline.ofJson, takeOwn, bind_eq_ok_iff, Json.takeObject_ofMembers_eq_ok_iff hnames]
  constructor
  · intro hparts
    rcases hparts with ⟨_, ⟨hchecks, rfl⟩, heq⟩
    cases heq
    exact ⟨hchecks, rfl, rfl⟩
  · intro hparts
    rcases hparts with ⟨hchecks, rfl, rfl⟩
    exact ⟨_, ⟨hchecks, rfl⟩, rfl⟩

theorem checkOf_common {c d : Common} {own : List (String × Json)} (fields : List Json.Field)
    (hlayer : c.LayerFits) (h : c.Rereads d)
    (hfields : fields.map Json.Field.name = own.map Prod.fst)
    (hnames : ((c.jsonMembers ++ own).map Prod.fst).Nodup) :
    forall m, m ∈ c.jsonMembers -> checkOf fields kept m.1 (.ofJson m.2) = .ok () := by
  intro m hm
  rw [Json.checkOf_of_not_mem _ kept]
  · exact Common.kept_jsonMembers hlayer h m hm
  · intro hname
    rw [hfields] at hname
    exact Json.disjoint_names hnames (List.mem_map_of_mem hm) hname

end Shape

/-!
## Shapes with two extents

The records of rectangles and ellipses hold a point and two extents beside the
common properties, and differ only in the name of the point.  They are read in
one way, provided that this name is not that of another field.
-/

namespace Shape

structure Sized where
  common : Common
  place : Point
  width : Float
  height : Float

namespace Sized

def json (point : String) (s : Sized) : Json :=
  .object (s.common.jsonMembers ++ sizedMembers point s.place s.width s.height)

structure Rereads (s t : Sized) : Prop where
  common : s.common.Rereads t.common
  place : s.place.Rereads t.place
  width : Json.Rereads s.width t.width
  height : Json.Rereads s.height t.height
  width_measure : isMeasure t.width = true
  height_measure : isMeasure t.height = true

end Sized

/-- The name of a point that is taken for nothing else in the record. -/
def IsPointName (point : String) : Prop :=
  point ∉ "width" :: "height" :: Common.fields.map Json.Field.name

instance (point : String) : Decidable (IsPointName point) :=
  inferInstanceAs (Decidable (_ ∉ _))

section Sized

variable {point : String} (hpoint : IsPointName point)

include hpoint

theorem nodup_names (s : Sized) :
    ((s.common.jsonMembers ++
      sizedMembers point s.place s.width s.height).map Prod.fst).Nodup := by
  simp [IsPointName, Common.fields] at hpoint
  simp [Common.jsonMembers, sizedMembers, hpoint, eq_comm]

theorem point_ne : point ≠ "width" ∧ point ≠ "height" := by
  simp only [IsPointName, List.mem_cons, not_or] at hpoint
  exact ⟨hpoint.1, hpoint.2.1⟩

theorem checkOf_sized {s t : Sized} (h : s.Rereads t) :
    forall m, m ∈ sizedMembers point s.place s.width s.height ->
      checkOf (sizedFields point) kept m.1 (.ofJson m.2) = .ok () := by
  rcases point_ne hpoint with ⟨hwidth, hheight⟩
  simp only [sizedMembers, List.forall_mem_cons, sizedFields, Json.checkOf_cons, Json.name_of,
    hwidth, hheight, String.reduceEq, ↓reduceIte, Json.check_of_eq_ok_iff,
    Point.takePoint_ofPoint]
  exact ⟨⟨_, h.place⟩, ⟨_, h.width⟩, ⟨_, h.height⟩, fun _ hm => by cases hm⟩

theorem lookup_sized (s : Sized) {name : String} (hname : name ∈ [point, "width", "height"]) :
    (s.common.jsonMembers ++ sizedMembers point s.place s.width s.height).lookup name =
      (sizedMembers point s.place s.width s.height).lookup name := by
  have hcommon : name ∉ s.common.jsonMembers.map Prod.fst := fun hmem =>
    Json.disjoint_names (nodup_names hpoint s) hmem hname
  rw [List.lookup_append, Binding.lookup_eq_none_iff.mpr hcommon, Option.none_or]

theorem takeSized_json {s t : Sized} (hlayer : s.common.LayerFits)
    {make : Common -> Point -> Float -> Float -> Except ShapeError α} {a : α}
    (hmake : forall u : Sized, make u.common u.place u.width u.height = .ok a ↔
      isMeasure u.width = true ∧ isMeasure u.height = true ∧ u = t) :
    takeSized point make (.ofJson (s.json point)) = .ok a ↔ s.Rereads t := by
  have hnames := nodup_names hpoint s
  rcases point_ne hpoint with ⟨hwidth, hheight⟩
  unfold Sized.json takeSized
  simp only [bind_eq_ok_iff, Prod.exists, takeOwn_eq_ok_iff hnames, mapError_eq_ok_iff,
    and_assoc, exists_and_left, exists_eq_left, Common.ofMembers_json hlayer hnames,
    List.forall_mem_append, Json.required_ofMembers]
  rw [lookup_sized hpoint s (by simp), lookup_sized hpoint s (by simp),
    lookup_sized hpoint s (by simp)]
  simp only [sizedMembers, List.lookup, BEq.rfl, beq_false_of_ne hwidth.symm,
    beq_false_of_ne hheight.symm, String.reduceBEq, Point.takePoint_ofPoint]
  constructor
  · intro hparts
    rcases hparts with ⟨_, _, place, hplace, width, hwidth, height, hheight, common, hcommon, h⟩
    rcases (hmake ⟨common, place, width, height⟩).mp h with ⟨hmwidth, hmheight, rfl⟩
    exact ⟨hcommon, hplace, hwidth, hheight, hmwidth, hmheight⟩
  · intro h
    exact ⟨checkOf_common _ hlayer h.common rfl hnames, checkOf_sized hpoint h,
      _, h.place, _, h.width, _, h.height, _, h.common,
      (hmake t).mpr ⟨h.width_measure, h.height_measure, rfl⟩⟩

end Sized

end Shape

namespace Rect

def sized (r : Rect) : Shape.Sized :=
  { common := r.common, place := r.location, width := r.width, height := r.height }

theorem sized_inj {r s : Rect} : r.sized = s.sized ↔ r = s := by
  constructor
  · intro h
    cases r
    cases s
    cases h
    rfl
  · exact congrArg sized

def Rereads (r s : Rect) : Prop :=
  r.sized.Rereads s.sized

theorem ofOutline_json {r s : Rect} (hlayer : r.common.LayerFits) :
    ofOutline (.ofJson r.json) = .ok s ↔ r.Rereads s := by
  have hpoint : Shape.IsPointName "location" := by decide
  exact Shape.takeSized_json hpoint (s := r.sized) hlayer fun _ =>
    make_eq_ok_iff.trans (and_congr_right' (and_congr_right' sized_inj.symm))

end Rect

namespace Ellipse

def sized (e : Ellipse) : Shape.Sized :=
  { common := e.common, place := e.center, width := e.width, height := e.height }

theorem sized_inj {e s : Ellipse} : e.sized = s.sized ↔ e = s := by
  constructor
  · intro h
    cases e
    cases s
    cases h
    rfl
  · exact congrArg sized

def Rereads (e s : Ellipse) : Prop :=
  e.sized.Rereads s.sized

theorem ofOutline_json {e s : Ellipse} (hlayer : e.common.LayerFits) :
    ofOutline (.ofJson e.json) = .ok s ↔ e.Rereads s := by
  have hpoint : Shape.IsPointName "center" := by decide
  exact Shape.takeSized_json hpoint (s := e.sized) hlayer fun _ =>
    make_eq_ok_iff.trans (and_congr_right' (and_congr_right' sized_inj.symm))

end Ellipse

/-!
## Lines

A line has no extents to be checked, and a cap that is missing is none.
-/

namespace Line

structure Rereads (l s : Line) : Prop where
  common : l.common.Rereads s.common
  start : l.start.Rereads s.start
  finish : l.finish.Rereads s.finish
  startCap : s.startCap = l.startCap
  endCap : s.endCap = l.endCap

def ownMembers (l : Line) : List (String × Json) :=
  [("start", .ofPoint l.start), ("end", .ofPoint l.finish),
   ("start_cap", .string l.startCap.name), ("end_cap", .string l.endCap.name)]

theorem takeCap_name (c : CapStyle) : takeCap (.string (some c.name)) = .ok c :=
  Json.chosen_cap c

theorem ofOutline_json {l s : Line} (hlayer : l.common.LayerFits) :
    ofOutline (.ofJson l.json) = .ok s ↔ l.Rereads s := by
  have hnames : ((l.common.jsonMembers ++ l.ownMembers).map Prod.fst).Nodup := by
    simp [Common.jsonMembers, ownMembers]
  show ofOutline (.ofJson (.object (l.common.jsonMembers ++ l.ownMembers))) = _ ↔ _
  rw [ofOutline]
  simp only [bind_eq_ok_iff, Prod.exists, Shape.takeOwn_eq_ok_iff hnames, and_assoc,
    exists_and_left, exists_eq_left, Common.ofMembers_json hlayer hnames,
    List.forall_mem_append]
  simp only [Common.jsonMembers, ownMembers, List.mem_cons, List.not_mem_nil, or_false, fields,
    Json.checkOf_cons, Json.name_of, Json.checkOf_nil, forall_eq_or_imp, String.reduceEq,
    ↓reduceIte, forall_eq, Json.check_of_eq_ok_iff, Point.takePoint_ofPoint, Outline.ofJson,
    takeCap_name, Except.ok.injEq, exists_eq', and_self, and_true, List.cons_append,
    List.nil_append, Json.required_ofMembers, Json.optional_ofMembers, List.lookup,
    String.reduceBEq, BEq.rfl, make, exists_eq_left']
  constructor
  · intro hparts
    rcases hparts with ⟨_, _, start, hstart, finish, hfinish, common, hcommon, rfl⟩
    exact ⟨hcommon, hstart, hfinish, rfl, rfl⟩
  · intro hparts
    rcases hparts with ⟨hcommon, hstart, hfinish, hstartCap, hendCap⟩
    have hkept := Shape.checkOf_common fields hlayer hcommon rfl hnames
    simp only [Common.jsonMembers, List.mem_cons, List.not_mem_nil, or_false, fields,
      Json.checkOf_cons, Json.name_of, Json.checkOf_nil, forall_eq_or_imp, String.reduceEq,
      ↓reduceIte, forall_eq, Outline.ofJson] at hkept
    rcases s with ⟨common, start, finish, startCap, endCap⟩
    cases hstartCap
    cases hendCap
    exact ⟨hkept, ⟨⟨_, hstart⟩, _, hfinish⟩, _, hstart, _, hfinish, _, hcommon, rfl⟩

end Line

/-!
## The numerals of a document

Finite floats are written as numerals and all others as null, so a document
consists of standard values whatever its floats are.
-/

namespace Json

theorem standard_ofFloat (v : Float) : (ofFloat v).Standard := by
  unfold ofFloat
  split
  · next n hn => exact .number (Decimal.Layout.standard_of_numeral? hn)
  · exact .null

theorem standard_ofPoint (p : Point) : (ofPoint p).Standard := by
  apply Standard.array
  simp [standard_ofFloat]

theorem standard_object_append {first second : List (String × Json)}
    (hfirst : forall m, m ∈ first -> m.2.Standard)
    (hsecond : forall m, m ∈ second -> m.2.Standard) :
    (Json.object (first ++ second)).Standard :=
  .object (List.forall_mem_append.mpr ⟨hfirst, hsecond⟩)

theorem standard_map {json : α -> Json} (h : forall x, (json x).Standard) (xs : List α) :
    (Json.array (xs.map json)).Standard :=
  .array (List.forall_mem_map.mpr fun x _ => h x)

end Json

namespace Page

theorem standard_json (p : Page) : p.json.Standard := by
  apply Json.Standard.object
  simp [Json.standard_ofFloat, Json.Standard.string, Json.Standard.number,
    Decimal.Numeral.standard_ofNat]

end Page

namespace Common

theorem standard_jsonMembers (c : Common) : forall m, m ∈ c.jsonMembers -> m.2.Standard := by
  simp [jsonMembers, Json.standard_ofFloat, Json.Standard.string, Json.Standard.number,
    Decimal.Numeral.standard_ofInt]

end Common

namespace Shape

theorem standard_sized (point : String) (s : Sized) : (s.json point).Standard := by
  apply Json.standard_object_append s.common.standard_jsonMembers
  simp [sizedMembers, Json.standard_ofFloat, Json.standard_ofPoint]

end Shape

namespace Rect

theorem standard_json (r : Rect) : r.json.Standard :=
  Shape.standard_sized "location" r.sized

end Rect

namespace Line

theorem standard_json (l : Line) : l.json.Standard := by
  apply Json.standard_object_append l.common.standard_jsonMembers
  simp [Json.standard_ofPoint, Json.Standard.string]

end Line

namespace Ellipse

theorem standard_json (e : Ellipse) : e.json.Standard :=
  Shape.standard_sized "center" e.sized

end Ellipse

namespace Document

theorem standard_json (d : Document) : d.json.Standard := by
  apply Json.standard_object_append
  · simp [Page.standard_json, Json.standard_map, Rect.standard_json, Line.standard_json]
  · cases d.ellipses with
    | nil => simp
    | cons e ellipses =>
        simp only [List.isEmpty_cons, Bool.false_eq_true, if_false, List.forall_mem_singleton]
        exact Json.standard_map Ellipse.standard_json _

end Document

/-!
## Documents

What is known of points, pages, and shapes carries over to lists of them, and to
the text that the document is written as.
-/

namespace Document

structure Rereads (d e : Document) : Prop where
  page : d.page.Rereads e.page
  rects : List.Forall₂ Rect.Rereads d.rects e.rects
  lines : List.Forall₂ Line.Rereads d.lines e.lines
  ellipses : List.Forall₂ Ellipse.Rereads d.ellipses e.ellipses

/-- The whole numbers of the document fit into 32 bits. -/
structure Fits (d : Document) : Prop where
  scale : d.page.scale ≤ Page.maxScale
  rects : forall r, r ∈ d.rects -> r.common.LayerFits
  lines : forall l, l ∈ d.lines -> l.common.LayerFits
  ellipses : forall e, e ∈ d.ellipses -> e.common.LayerFits

theorem takeList_rects {d : Document} (h : d.Fits) {found : List Rect} :
    Json.takeList Rect.ofOutline (.ofJson (.array (d.rects.map Rect.json))) = .ok found ↔
      List.Forall₂ Rect.Rereads d.rects found :=
  Json.takeList_map fun r hr _ => Rect.ofOutline_json (h.rects r hr)

theorem takeList_lines {d : Document} (h : d.Fits) {found : List Line} :
    Json.takeList Line.ofOutline (.ofJson (.array (d.lines.map Line.json))) = .ok found ↔
      List.Forall₂ Line.Rereads d.lines found :=
  Json.takeList_map fun l hl _ => Line.ofOutline_json (h.lines l hl)

theorem takeList_ellipses {d : Document} (h : d.Fits) {found : List Ellipse} :
    Json.takeList Ellipse.ofOutline (.ofJson (.array (d.ellipses.map Ellipse.json))) =
        .ok found ↔
      List.Forall₂ Ellipse.Rereads d.ellipses found :=
  Json.takeList_map fun e he _ => Ellipse.ofOutline_json (h.ellipses e he)

theorem ofOutline_json {d e : Document} (h : d.Fits) :
    ofOutline (.ofJson d.json) = .ok e ↔ d.Rereads e := by
  have hpage : forall q, Page.ofOutline (.ofJson d.page.json) = .ok q ↔ d.page.Rereads q :=
    fun _ => Page.ofOutline_json h.scale
  have hnames : (d.json.members.map Prod.fst).Nodup := by
    unfold json Json.members
    cases d.ellipses <;> simp
  show ofOutline (.object (Outline.ofMembers d.json.members) true) = _ ↔ _
  rw [ofOutline]
  simp only [bind_eq_ok_iff, Json.takeRecord, Json.takeObject_ofMembers_eq_ok_iff hnames, and_assoc,
    exists_and_left, exists_eq_left]
  -- Without ellipses there is no list of them to read, and the default stands for it.
  by_cases hempty : d.ellipses.isEmpty = true
  · simp only [json, Json.members, hempty, List.mem_cons, List.not_mem_nil, or_false, fields,
      Json.checkOf_cons, Json.name_of, Json.checkOf_nil, forall_eq_or_imp, String.reduceEq,
      ↓reduceIte, forall_eq, Json.check_of_eq_ok_iff, hpage,
      takeList_rects h, takeList_lines h, Json.optional_ofMembers, List.lookup, BEq.rfl,
      String.reduceBEq, Except.ok.injEq, List.append_nil, List.nil_eq, exists_eq_left]
    rw [List.isEmpty_iff] at hempty
    constructor
    · intro hparts
      rcases hparts with ⟨_, page, hpage, rects, hrects, lines, hlines, rfl⟩
      refine ⟨hpage, hrects, hlines, ?_⟩
      rw [hempty]
      exact List.Forall₂.nil
    · intro hparts
      rcases hparts with ⟨hpage, hrects, hlines, hellipses⟩
      rcases e with ⟨page, rects, lines, ellipses⟩
      rw [hempty, List.forall₂_nil_left_iff] at hellipses
      cases hellipses
      exact ⟨⟨⟨_, hpage⟩, ⟨_, hrects⟩, _, hlines⟩, _, hpage, _, hrects, _, hlines, rfl⟩
  · simp only [json, Json.members, hempty, List.mem_cons, List.not_mem_nil, or_false, fields,
      Json.checkOf_cons, Json.name_of, Json.checkOf_nil, forall_eq_or_imp, String.reduceEq,
      ↓reduceIte, forall_eq, Json.check_of_eq_ok_iff, hpage,
      takeList_rects h, takeList_lines h, takeList_ellipses h, Json.optional_ofMembers,
      List.lookup, BEq.rfl, String.reduceBEq, Except.ok.injEq, Bool.false_eq_true,
      List.cons_append, List.nil_append]
    constructor
    · intro hparts
      rcases hparts with ⟨_, page, hpage, rects, hrects, lines, hlines, ellipses, hellipses, rfl⟩
      exact ⟨hpage, hrects, hlines, hellipses⟩
    · intro h
      exact ⟨⟨⟨_, h.page⟩, ⟨_, h.rects⟩, ⟨_, h.lines⟩, _, h.ellipses⟩,
        _, h.page, _, h.rects, _, h.lines, _, h.ellipses, rfl⟩

/-- Reading the text of a document gives what the relation says, in either form. -/
theorem ofText_text_eq_ok_iff (form : Json.Form) {d e : Document} (h : d.Fits) :
    ofText (d.text form) = .ok e ↔ d.Rereads e := by
  rw [ofText, text, Json.Reading.ofText_written form d.standard_json]
  simp only [bind_eq_ok_iff, ofOutline_json h, Bool.false_eq_true, if_false, Except.ok.injEq,
    exists_eq_right]

end Document

end Drafting
