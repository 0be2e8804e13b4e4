import Drafting.Proofs.Rereading

/-!
# Saved documents come back

A document whose whole numbers fit and whose thickness and extents are measures
is read from its text as it was, provided that every float in it is finite and
its numeral stands for it again.  Both provisos are needed for every single
float.
-/

namespace Drafting

/-!
## The floats of a document

A record is read as it was if and only if each of its floats is, provided that
thickness and extents are measures.  The floats of a record are listed once, so
that this can be said of a whole document in one line.  Whatever can be read at
all has been written with finite floats.
-/

namespace Page

def floats (p : Page) : List Float :=
  [p.width, p.height, p.grid, p.snap]

theorem rereads_self_iff {p : Page} :
    p.Rereads p ↔ forall v, v ∈ p.floats -> Json.Rereads v v := by
  simp only [floats, List.forall_mem_cons, List.not_mem_nil, false_implies, implies_true,
    and_true]
  constructor
  · intro h
    exact ⟨h.width, h.height, h.grid, h.snap⟩
  · intro hparts
    rcases hparts with ⟨hwidth, hheight, hgrid, hsnap⟩
    exact ⟨hwidth, hheight, hgrid, hsnap, rfl, rfl⟩

theorem Rereads.isFinite {p q : Page} (h : p.Rereads q) :
    forall v, v ∈ p.floats -> v.isFinite = true := by
  simp only [floats, List.forall_mem_cons, List.not_mem_nil, false_implies, implies_true,
    and_true]
  exact ⟨Json.isFinite_of_rereads h.width, Json.isFinite_of_rereads h.height,
    Json.isFinite_of_rereads h.grid, Json.isFinite_of_rereads h.snap⟩

end Page

namespace Point

def floats (p : Point) : List Float :=
  [p.x, p.y]

theorem rereads_self_iff {p : Point} :
    p.Rereads p ↔ forall v, v ∈ p.floats -> Json.Rereads v v := by
  simp only [floats, List.forall_mem_cons, List.not_mem_nil, false_implies, implies_true,
    and_true]
  constructor
  · intro h
    exact ⟨h.x, h.y⟩
  · intro hparts
    rcases hparts with ⟨hx, hy⟩
    exact ⟨hx, hy⟩

theorem Rereads.isFinite {p q : Point} (h : p.Rereads q) :
    forall v, v ∈ p.floats -> v.isFinite = true := by
  simp only [floats, List.forall_mem_cons, List.not_mem_nil, false_implies, implies_true,
    and_true]
  exact ⟨Json.isFinite_of_rereads h.x, Json.isFinite_of_rereads h.y⟩

end Point

namespace Common

structure Sound (c : Common) : Prop where
  layer : c.LayerFits
  thickness : isMeasure c.lineThickness = true

theorem rereads_self_iff {c : Common} (h : c.Sound) :
    c.Rereads c ↔ Json.Rereads c.lineThickness c.lineThickness := by
  constructor
  · intro hc
    exact hc.thickness
  · intro hthickness
    exact ⟨hthickness, h.thickness, rfl⟩

end Common

namespace Shape.Sized

def floats (s : Sized) : List Float :=
  s.common.lineThickness :: s.width :: s.height :: s.place.floats

theorem rereads_self_iff {s : Sized} (hcommon : s.common.Sound)
    (hwidth : isMeasure s.width = true) (hheight : isMeasure s.height = true) :
    s.Rereads s ↔ forall v, v ∈ s.floats -> Json.Rereads v v := by
  simp only [floats, List.forall_mem_cons, ← Point.rereads_self_iff,
    ← Common.rereads_self_iff hcommon]
  constructor
  · intro hs
    exact ⟨hs.common, hs.width, hs.height, hs.place⟩
  · intro hparts
    rcases hparts with ⟨hthickness, hwide, hhigh, hplace⟩
    exact ⟨hthickness, hplace, hwide, hhigh, hwidth, hheight⟩

theorem Rereads.isFinite {s t : Sized} (h : s.Rereads t) :
    forall v, v ∈ s.floats -> v.isFinite = true := by
  simp only [floats, List.forall_mem_cons]
  exact ⟨Json.isFinite_of_rereads h.common.thickness, Json.isFinite_of_rereads h.width,
    Json.isFinite_of_rereads h.height, h.place.isFinite⟩

end Shape.Sized

namespace Rect

structure Sound (r : Rect) : Prop where
  common : r.common.Sound
  width : isMeasure r.width = true
  height : isMeasure r.height = true

def floats (r : Rect) : List Float :=
  r.common.lineThickness :: r.width :: r.height :: r.location.floats

theorem rereads_self_iff {r : Rect} (h : r.Sound) :
    r.Rereads r ↔ forall v, v ∈ r.floats -> Json.Rereads v v :=
  Shape.Sized.rereads_self_iff (s := r.sized) h.common h.width h.height

end Rect

namespace Line

def floats (l : Line) : List Float :=
  l.common.lineThickness :: (l.start.floats ++ l.finish.floats)

theorem rereads_self_iff {l : Line} (h : l.common.Sound) :
    l.Rereads l ↔ forall v, v ∈ l.floats -> Json.Rereads v v := by
  simp only [floats, List.forall_mem_cons, List.forall_mem_append, ← Point.rereads_self_iff,
    ← Common.rereads_self_iff h]
  constructor
  · intro hl
    exact ⟨hl.common, hl.start, hl.finish⟩
  · intro hparts
    rcases hparts with ⟨hcommon, hstart, hfinish⟩
    exact ⟨hcommon, hstart, hfinish, rfl, rfl⟩

theorem Rereads.isFinite {l s : Line} (h : l.Rereads s) :
    forall v, v ∈ l.floats -> v.isFinite = true := by
  simp only [floats, List.forall_mem_cons, List.forall_mem_append]
  exact ⟨Json.isFinite_of_rereads h.common.thickness, h.start.isFinite, h.finish.isFinite⟩

end Line

namespace Ellipse

structure Sound (e : Ellipse) : Prop where
  common : e.common.Sound
  width : isMeasure e.width = true
  height : isMeasure e.height = true

def floats (e : Ellipse) : List Float :=
  e.common.lineThickness :: e.width :: e.height :: e.center.floats

theorem rereads_self_iff {e : Ellipse} (h : e.Sound) :
    e.Rereads e ↔ forall v, v ∈ e.floats -> Json.Rereads v v :=
  Shape.Sized.rereads_self_iff (s := e.sized) h.common h.width h.height

end Ellipse

/-!
## Documents

Being sound is what the types of the properties ask for.  It does not depend on
the page measures or on where the shapes are, for which any float will do.
-/

namespace Document

/--
The scale fits into 32 bits without a sign, layers fit into 32 bits with one,
and thickness and extents are measures.
-/
structure Sound (d : Document) : Prop where
  scale : d.page.scale ≤ Page.maxScale
  rects : forall r, r ∈ d.rects -> r.Sound
  lines : forall l, l ∈ d.lines -> l.common.Sound
  ellipses : forall e, e ∈ d.ellipses -> e.Sound

theorem Sound.fits {d : Document} (h : d.Sound) : d.Fits where
  scale := h.scale
  rects := fun r hr => (h.rects r hr).common.layer
  lines := fun l hl => (h.lines l hl).layer
  ellipses := fun e he => (h.ellipses e he).common.layer

def floats (d : Document) : List Float :=
  d.page.floats ++ d.rects.flatMap Rect.floats ++ d.lines.flatMap Line.floats ++
    d.ellipses.flatMap Ellipse.floats

theorem rereads_self_iff {d : Document} (h : d.Sound) :
    d.Rereads d ↔ forall v, v ∈ d.floats -> Json.Rereads v v := by
  simp only [floats, List.forall_mem_append, List.forall_mem_flatMap, ← Page.rereads_self_iff]
  constructor
  · intro hd
    refine ⟨⟨⟨hd.page, ?_⟩, ?_⟩, ?_⟩
    · intro r hr
      exact (Rect.rereads_self_iff (h.rects r hr)).mp (List.forall₂_same.mp hd.rects r hr)
    · intro l hl
      exact (Line.rereads_self_iff (h.lines l hl)).mp (List.forall₂_same.mp hd.lines l hl)
    · intro e he
      exact (Ellipse.rereads_self_iff (h.ellipses e he)).mp
        (List.forall₂_same.mp hd.ellipses e he)
  · intro hparts
    rcases hparts with ⟨⟨⟨hpage, hrects⟩, hlines⟩, hellipses⟩
    refine ⟨hpage, List.forall₂_same.mpr ?_, List.forall₂_same.mpr ?_,
      List.forall₂_same.mpr ?_⟩
    · intro r hr
      exact (Rect.rereads_self_iff (h.rects r hr)).mpr (hrects r hr)
    · intro l hl
      exact (Line.rereads_self_iff (h.lines l hl)).mpr (hlines l hl)
    · intro e he
      exact (Ellipse.rereads_self_iff (h.ellipses e he)).mpr (hellipses e he)

/-- A sound document comes back unchanged exactly if each of its floats does. -/
theorem ofText_text_self_iff (form : Json.Form) {d : Document} (h : d.Sound) :
    ofText (d.text form) = .ok d ↔
      forall v, v ∈ d.floats -> v.isFinite = true ∧ Json.ReadsBack v := by
  simp only [ofText_text_eq_ok_iff form h.fits, rereads_self_iff h, Json.rereads_self_iff]

theorem isFinite_of_ofText_text {form : Json.Form} {d e : Document} (hfits : d.Fits)
    (h : ofText (d.text form) = .ok e) : forall v, v ∈ d.floats -> v.isFinite = true := by
  have hreads := (ofText_text_eq_ok_iff form hfits).mp h
  simp only [floats, List.forall_mem_append, List.forall_mem_flatMap]
  refine ⟨⟨⟨hreads.page.isFinite, ?_⟩, ?_⟩, ?_⟩
  · intro r hr
    rcases Json.exists_of_forall₂ hreads.rects hr with ⟨s, hs⟩
    exact hs.isFinite
  · intro l hl
    rcases Json.exists_of_forall₂ hreads.lines hl with ⟨s, hs⟩
    exact hs.isFinite
  · intro e he
    rcases Json.exists_of_forall₂ hreads.ellipses he with ⟨s, hs⟩
    exact hs.isFinite

theorem ofText_text (form : Json.Form) {d : Document} (hsound : d.Sound)
    (hfinite : forall v, v ∈ d.floats -> v.isFinite = true)
    (hback : forall v, v ∈ d.floats -> Json.ReadsBack v) :
    ofText (d.text form) = .ok d := by
  apply (ofText_text_self_iff form hsound).mpr
  intro v hv
  exact ⟨hfinite v hv, hback v hv⟩

/-- One shape of each kind, with texts that have to be escaped. -/
def sampler : Document :=
  { page :=
      { width := 420.0, height := 297.0, grid := 2.5, snap := 0.1, units := "mm \\"
        scale := 4294967295 }
    rects :=
      [{ common := { Common.named "R\"1\"" with text := "a\tb\n\u0001", layer := -2147483648 }
         location := { x := -0.0, y := 1e-7 }, width := 5e-324, height := 1e22 }]
    lines :=
      [{ common := { Common.named "L/λ𝄞" with lineThickness := 0.35, lineColor := .darkBlue }
         start := { x := 0.0, y := -12.75 }, finish := { x := 1e300, y := 3.0 }
         startCap := .hollowArrow, endCap := .none }]
    ellipses :=
      [{ common := { Common.named "" with layer := 2147483647, textAlign := .topLeft }
         center := { x := 100.0, y := 0.001 }, width := 7.25, height := 7.25 }] }

theorem sound_sampler : sampler.Sound where
  scale := by decide
  rects := by
    simp only [sampler, List.forall_mem_singleton]
    exact ⟨⟨by decide, by decide +kernel⟩, by decide +kernel, by decide +kernel⟩
  lines := by
    simp only [sampler, List.forall_mem_singleton]
    exact ⟨by decide, by decide +kernel⟩
  ellipses := by
    simp only [sampler, List.forall_mem_singleton]
    exact ⟨⟨by decide, by decide +kernel⟩, by decide +kernel, by decide +kernel⟩

theorem ofText_text_sampler :
    sampler.Sound ∧ (forall v, v ∈ sampler.floats -> v.isFinite = true) ∧
      (forall v, v ∈ sampler.floats -> Json.ReadsBack v) ∧
      ofText (sampler.text .spread) = .ok sampler := by
  have hfinite : forall v, v ∈ sampler.floats -> v.isFinite = true := by decide +kernel
  have hback : forall v, v ∈ sampler.floats -> Json.ReadsBack v := by decide +kernel
  exact ⟨sound_sampler, hfinite, hback, ofText_text .spread sound_sampler hfinite hback⟩

end Document

end Drafting
