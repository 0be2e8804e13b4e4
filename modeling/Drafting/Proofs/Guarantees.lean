import Drafting.Proofs.Changes
import Drafting.Proofs.Decimal.Order
import Drafting.Proofs.SoundReading
import Drafting.Proofs.SoundRuns

/-!
# What every document is known to have

Measures of shapes are finite and positive wherever a document comes from.  A
document that a source describes has more: rectangles are at least one unit wide
and high, layers and scale are whole numbers of at most 31 bits, and the
measures of the page are positive.  Files are not checked for any of this.

A rectangle is refused if a side is less than one unit, and that lets through a
side that is not a number.  Only the check for measures rules such a side out.
-/

namespace Drafting

theorem isNaN_eq_false_of_isMeasure {v : Float} (h : isMeasure v = true) : v.isNaN = false := by
  rw [isMeasure, Bool.and_eq_true] at h
  exact Decimal.isNaN_eq_false_of_isFinite h.1

theorem one_le_of_isMeasure {v : Float} (h : isMeasure v = true) (hlarge : ¬ v < 1.0) :
    1.0 ≤ v := by
  have hnumber : v.isNaN = false := isNaN_eq_false_of_isMeasure h
  have hone : (1.0 : Float).isNaN = false := isNaN_eq_false_of_isMeasure (by decide +kernel)
  exact Decimal.le_of_not_lt hnumber hone hlarge

/-!
## Regular pages and documents

What a page keeps from the page before it is regular already; what it takes from
a statement has been checked.
-/

structure Page.Regular (p : Page) : Prop where
  scale : 1 ≤ p.scale ∧ p.scale ≤ 2147483647
  floats : forall v, v ∈ p.floats -> 0.0 < v ∧ v.isNaN = false

structure Document.Regular (d : Document) : Prop where
  page : d.page.Regular
  layers : forall s, s ∈ d.shapes ->
    -2147483647 ≤ s.common.layer ∧ s.common.layer ≤ 2147483647
  rects : forall r, r ∈ d.rects -> 1.0 ≤ r.width ∧ 1.0 ≤ r.height

namespace Statement

variable {s : Statement}

theorem positive_of_givesMeasure {symbols : SymbolTable} {key : String} {current v : Float}
    (hcurrent : 0.0 < current) (h : s.GivesMeasure symbols key current v) : 0.0 < v := by
  rcases h with hgiven | hkept
  · rcases hgiven with ⟨_, _, _, hpositive⟩
    exact hpositive
  · rw [hkept.2]
    exact hcurrent

theorem regular_page {symbols : SymbolTable} {current page : Page} (hcurrent : current.Regular)
    (h : s.page symbols current = .ok page) : page.Regular := by
  have hgives : s.GivesPage symbols current page := givesPage_of_page h
  have hold : forall v, v ∈ current.floats -> 0.0 < v :=
    fun v hv => (hcurrent.floats v hv).1
  simp only [Page.floats, List.forall_mem_cons] at hold
  rcases hold with ⟨hwidth, hheight, _, hsnap, _⟩
  have hnew : forall v, v ∈ page.floats -> 0.0 < v := by
    simp only [Page.floats, List.forall_mem_cons]
    refine ⟨?_, ?_, hgives.grid_pos, ?_, fun v hv => by cases hv⟩
    · exact positive_of_givesMeasure hwidth hgives.width
    · exact positive_of_givesMeasure hheight hgives.height
    · exact positive_of_givesMeasure hsnap hgives.snap
  constructor
  · exact ⟨hgives.scale_pos, scale_le_of_page h⟩
  · intro v hv
    exact ⟨hnew v hv, (Decimal.isNaN_eq_false_of_lt (hnew v hv)).2⟩

theorem regular_rect {session : Session} {r : Rect} (h : s.rect session = .ok r) :
    1.0 ≤ r.width ∧ 1.0 ≤ r.height := by
  rcases extents_of_rect h with ⟨⟨hwidth, hwide⟩, hheight, hhigh⟩
  constructor
  · exact one_le_of_isMeasure hwidth hwide
  · exact one_le_of_isMeasure hheight hhigh

end Statement

/-!
## The invariant of a run

A shape is added by a statement that describes it, and a page is set by one that
asks for it.  Defaults and symbols leave the document alone.
-/

namespace Document

theorem regular_add {d : Document} {s : Statement} {session : Session} {shape : Shape}
    (hd : d.Regular) (h : s.Builds session shape) : (d.add shape).Regular := by
  constructor
  · rw [page_add]
    exact hd.page
  · intro other hother
    rcases mem_shapes_add.mp hother with hold | rfl
    · exact hd.layers other hold
    · have hlayer := (Statement.givesCommon_of_builds h).layer
      omega
  · cases shape with
    | rect r =>
        show forall other, other ∈ d.rects ++ [r] -> 1.0 ≤ other.width ∧ 1.0 ≤ other.height
        rw [List.forall_mem_append, List.forall_mem_singleton]
        exact ⟨hd.rects, Statement.regular_rect h.2⟩
    | line l => exact hd.rects
    | ellipse e => exact hd.rects

end Document

namespace Drawing

theorem regular_enact {s : Statement} {d : Drawing} {change : Change}
    (hd : d.document.Regular) (h : s.Asks d change) : (d.enact change).document.Regular := by
  cases change with
  | page page => exact { hd with page := Statement.regular_page hd.page h.2 }
  | shape shape => exact Document.regular_add hd h
  | default value => exact hd
  | symbol name value => exact hd

theorem regular_blank : blank.document.Regular where
  page := by
    constructor
    · decide
    · decide +kernel
  layers := fun _ hs => by cases hs
  rects := fun _ hr => by cases hr

theorem regular_afterRows {d : Drawing} (hd : d.document.Regular) (rows : List (Nat × String)) :
    (d.afterRows rows).document.Regular :=
  invariant_afterRows (P := fun d => d.document.Regular)
    (fun _ _ _ hbefore hasks => regular_enact hbefore hasks) hd rows

end Drawing

namespace Report

/--
Every document that a source describes is sound and regular, its default
thickness is a measure, and every document that is read from a text is sound.
-/
theorem sound_and_regular :
    (forall source, (ofSource source).document.Sound ∧ (ofSource source).document.Regular ∧
      isMeasure (ofSource source).defaults.lineThickness = true) ∧
    forall text d, Document.ofText text = .ok d -> d.Sound := by
  constructor
  · intro source
    have hsound := Drawing.sound_afterRows Drawing.sound_blank (numbered 1 source)
    have hregular := Drawing.regular_afterRows Drawing.regular_blank (numbered 1 source)
    rw [← drawing_ofSource] at hsound hregular
    exact ⟨hsound.document, hregular, hsound.thickness⟩
  · intro text d hread
    exact Document.sound_of_ofText hread

def square : String :=
  "B=rect: 0, 0, 1, 1, lt=0.5\n"

def squareText : String :=
  "\x7b\"rects\":[\x7b\"id\":\"B\",\"location\":[0,0],\"width\":1,\"height\":1," ++
    "\"line_thickness\":0.5,\"line_color\":\"Black\",\"fill_color\":\"Transparent\"\x7d]\x7d"

theorem sound_and_regular_square :
    Document.ofText squareText = .ok (ofSource square).document ∧
      (ofSource square).document.rects.length = 1 ∧
      (ofSource square).document.Sound ∧ (ofSource square).document.Regular := by
  have hread : Document.ofText squareText = .ok (ofSource square).document := by
    decide +kernel
  have hone : (ofSource square).document.rects.length = 1 := by
    decide +kernel
  have hsound := sound_and_regular.2 squareText (ofSource square).document hread
  exact ⟨hread, hone, hsound, (sound_and_regular.1 square).2.1⟩

end Report

end Drafting
