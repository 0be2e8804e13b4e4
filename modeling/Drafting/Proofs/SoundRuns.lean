import Drafting.Proofs.History
import Drafting.Proofs.Pages
import Drafting.Proofs.RoundTrip
import Drafting.Proofs.Shapes

/-!
# The documents that sources describe

Whatever its rows are, a source describes a sound document: no statement gets a
scale, a layer, a thickness, or an extent into a drawing that a document may not
have.  The default thickness has to be part of the invariant, because shapes
take it over unchecked.

Coordinates and the measures of the page are checked less strictly.  A sum can
leave the range of floats, and then the document holds a value that its text
cannot express.
-/

namespace Drafting

namespace Statement

variable {s : Statement} {session : Session}

theorem GivesCommon.sound {c : Common} (h : s.GivesCommon session c)
    (hdefault : isMeasure session.defaults.lineThickness = true) : c.Sound := by
  refine ⟨?_, h.thickness hdefault⟩
  have hlayer := h.layer
  show -2147483648 ≤ c.layer ∧ c.layer ≤ 2147483647
  omega

theorem scale_le_of_page {symbols : SymbolTable} {current page : Page}
    (h : s.page symbols current = .ok page) : page.scale ≤ 2147483647 := by
  rcases (givesPage_of_page h).scale with ⟨_, _, hscale⟩
  have hsize := natAbs_le_of_wholeNumber hscale
  omega

theorem sound_rect {r : Rect} (hdefault : isMeasure session.defaults.lineThickness = true)
    (h : s.rect session = .ok r) : r.Sound := by
  rcases extents_of_rect h with ⟨⟨hwidth, _⟩, hheight, _⟩
  exact ⟨(givesCommon_of_common (common_of_rect h)).sound hdefault, hwidth, hheight⟩

theorem sound_line {l : Line} (hdefault : isMeasure session.defaults.lineThickness = true)
    (h : s.line session = .ok l) : l.common.Sound :=
  (givesCommon_of_common (common_of_line h)).sound hdefault

end Statement

/-!
## The invariant of a run

The default thickness and the document of a drawing are sound together, and no
row makes them unsound.  A sum of two numbers that leaves the range of floats
can still be the start of a line.
-/

namespace Drawing

structure Sound (d : Drawing) : Prop where
  thickness : isMeasure d.session.defaults.lineThickness = true
  document : d.document.Sound

theorem sound_blank : blank.Sound where
  thickness := by decide +kernel
  document :=
    { scale := by decide
      rects := fun _ hr => by cases hr
      lines := fun _ hl => by cases hl
      ellipses := fun _ he => by cases he }

theorem sound_add {d : Document} {s : Statement} {session : Session} {shape : Shape}
    (hdefault : isMeasure session.defaults.lineThickness = true) (hd : d.Sound)
    (h : s.Builds session shape) : (d.add shape).Sound := by
  cases shape with
  | rect r =>
      refine { hd with rects := ?_ }
      show forall other, other ∈ d.rects ++ [r] -> other.Sound
      rw [List.forall_mem_append, List.forall_mem_singleton]
      exact ⟨hd.rects, Statement.sound_rect hdefault h.2⟩
  | line l =>
      refine { hd with lines := ?_ }
      show forall other, other ∈ d.lines ++ [l] -> other.common.Sound
      rw [List.forall_mem_append, List.forall_mem_singleton]
      exact ⟨hd.lines, Statement.sound_line hdefault h.2⟩
  | ellipse e => cases h

theorem sound_enact {s : Statement} {d : Drawing} {change : Change} (hd : d.Sound)
    (h : s.Asks d change) : (d.enact change).Sound := by
  cases change with
  | page page =>
      have hscale := Statement.scale_le_of_page h.2
      have hfits : page.scale ≤ Page.maxScale := by
        show (page.scale : Int) ≤ 4294967295
        omega
      exact { hd with document := { hd.document with scale := hfits } }
  | shape shape => exact ⟨hd.thickness, sound_add hd.thickness hd.document h⟩
  | default value =>
      refine ⟨?_, hd.document⟩
      -- Of the defaults only the thickness is part of the invariant.
      cases value with
      | lineThickness thickness =>
          rcases h with ⟨_, _, _, _, hvalue⟩
          rcases map_eq_ok_iff.mp hvalue with ⟨_, hread, heq⟩
          cases heq
          exact Statement.isMeasure_of_thickness hread
      | fillColor color => exact hd.thickness
      | lineColor color => exact hd.thickness
      | textAlign align => exact hd.thickness
      | startCap cap => exact hd.thickness
      | endCap cap => exact hd.thickness
  | symbol name value => exact ⟨hd.thickness, hd.document⟩

theorem sound_afterRows {d : Drawing} (hd : d.Sound) (rows : List (Nat × String)) :
    (d.afterRows rows).Sound :=
  invariant_afterRows (fun _ _ _ hbefore hasks => sound_enact hbefore hasks) hd rows

end Drawing

namespace Report

theorem sound_ofSource (source : String) : (ofSource source).document.Sound := by
  rw [document, drawing_ofSource]
  exact (Drawing.sound_afterRows Drawing.sound_blank _).document

/--
The document of a source comes back from its text exactly if all its floats are
finite and come back.  With a float that is not finite nothing can be read from
the text at all.
-/
theorem ofText_text_document_iff (source : String) (form : Json.Form) :
    (Document.ofText ((ofSource source).document.text form) = .ok (ofSource source).document ↔
      forall v, v ∈ (ofSource source).document.floats ->
        v.isFinite = true ∧ Json.ReadsBack v) ∧
    ((exists v, v ∈ (ofSource source).document.floats ∧ v.isFinite = false) ->
      forall d, Document.ofText ((ofSource source).document.text form) ≠ .ok d) := by
  have hsound := sound_ofSource source
  refine ⟨Document.ofText_text_self_iff form hsound, ?_⟩
  rintro ⟨v, hv, hinfinite⟩ d hread
  have hfinite := Document.isFinite_of_ofText_text hsound.fits hread v hv
  rw [hinfinite] at hfinite
  cases hfinite

def overflowing : String :=
  "x=1e308\nL=line: x+x, 0, 1, 1\n"

/-- Both rows are accepted, but the saved document cannot be read again. -/
theorem overflowing_cannot_be_read :
    (ofSource overflowing).errors = [] ∧
      forall d, Document.ofText ((ofSource overflowing).document.text .compact) ≠ .ok d := by
  have hinfinite : exists v, v ∈ (ofSource overflowing).document.floats ∧
      v.isFinite = false := by
    decide +kernel
  refine ⟨by decide +kernel, ?_⟩
  intro d hread
  rcases hinfinite with ⟨v, hv, hnot⟩
  have hfinite :=
    Document.isFinite_of_ofText_text (sound_ofSource overflowing).fits hread v hv
  rw [hnot] at hfinite
  cases hfinite

end Report

end Drafting
