import Drafting.Proofs.Outcomes
import Drafting.Statement.Plan

/-!
# What a page statement gives

Scale and grid have to be given, and the units are empty unless they are.  Each
of width, height, and snap is taken from its field if the statement has that
field, and from the present page if not.
-/

namespace Drafting

namespace Statement

theorem required_eq_ok_iff {s : Statement} {keyword : Keyword} {key : String} {position : Nat}
    {raw : String} :
    s.required keyword key position = .ok raw ↔ s.fieldOrPosition? key position = some raw := by
  unfold required
  cases s.fieldOrPosition? key position <;> simp

theorem requiredNumber_eq_ok_iff {s : Statement} {symbols : SymbolTable} {keyword : Keyword}
    {key : String} {position : Nat} {v : Float} :
    s.requiredNumber symbols keyword key position = .ok v ↔
      exists raw, s.fieldOrPosition? key position = some raw ∧ number symbols raw = .ok v := by
  simp only [requiredNumber, bind_eq_ok_iff, required_eq_ok_iff]

theorem positive_eq_ok_iff {measure : PageMeasure} {v w : Float} :
    positive measure v = .ok w ↔ 0.0 < w ∧ v = w := by
  unfold positive
  split
  · next hpositive =>
      constructor
      · intro h
        cases h
        exact ⟨hpositive, rfl⟩
      · intro h
        rw [h.2]
  · next hnot =>
      constructor
      · intro h
        cases h
      · intro h
        rw [h.2] at hnot
        exact absurd h.1 hnot

theorem pageMeasure_eq_ok_iff {symbols : SymbolTable} {measure : PageMeasure} {raw : String}
    {v : Float} :
    pageMeasure symbols measure raw = .ok v ↔ number symbols raw = .ok v ∧ 0.0 < v := by
  simp only [pageMeasure, bind_eq_ok_iff, positive_eq_ok_iff]
  constructor
  · intro hparts
    rcases hparts with ⟨_, hnumber, hpositive, rfl⟩
    exact ⟨hnumber, hpositive⟩
  · intro hparts
    exact ⟨v, hparts.1, hparts.2, rfl⟩

def GivesMeasure (s : Statement) (symbols : SymbolTable) (key : String)
    (current v : Float) : Prop :=
  (exists raw, s.field? key = some raw ∧ number symbols raw = .ok v ∧ 0.0 < v) ∨
    (s.field? key = none ∧ v = current)

theorem override_measure_eq_ok_iff {s : Statement} {symbols : SymbolTable} {key : String}
    {measure : PageMeasure} {current v : Float} :
    override (s.field? key) (pageMeasure symbols measure) current = .ok v ↔
      s.GivesMeasure symbols key current v := by
  unfold override GivesMeasure
  cases s.field? key with
  | none => simp [eq_comm]
  | some raw => simp [pageMeasure_eq_ok_iff]

/-- What stands behind each property of a new page. -/
structure GivesPage (s : Statement) (symbols : SymbolTable) (current page : Page) : Prop where
  scale : exists raw, s.fieldOrPosition? "sc" 0 = some raw ∧
    wholeNumber "sc" symbols raw = .ok (page.scale : Int)
  scale_pos : 0 < page.scale
  grid : exists raw, s.fieldOrPosition? "gr" 1 = some raw ∧ number symbols raw = .ok page.grid
  grid_pos : 0.0 < page.grid
  units : page.units = (s.fieldOrPosition? "un" 2).getD ""
  width : s.GivesMeasure symbols "w" current.width page.width
  height : s.GivesMeasure symbols "h" current.height page.height
  snap : s.GivesMeasure symbols "sn" current.snap page.snap

theorem givesPage_of_page {s : Statement} {symbols : SymbolTable} {current page : Page}
    (h : s.page symbols current = .ok page) : s.GivesPage symbols current page := by
  simp only [Statement.page, bind_eq_ok_iff, required_eq_ok_iff] at h
  rcases h with ⟨rawScale, hrawScale, scale, hscale, h⟩
  split at h
  · cases h
  · next hpositive =>
      simp only [bind_eq_ok_iff, requiredNumber_eq_ok_iff, positive_eq_ok_iff,
        override_measure_eq_ok_iff, Except.ok.injEq] at h
      rcases h with ⟨_, hgrid, grid, ⟨hgridPositive, rfl⟩, width, hwidth, height, hheight,
        snap, hsnap, rfl⟩
      have hwhole : (scale.toNat : Int) = scale := Int.toNat_of_nonneg (by omega)
      exact
        { scale := ⟨rawScale, hrawScale, by rw [hwhole]; exact hscale⟩
          scale_pos := by show 0 < scale.toNat; omega
          grid := hgrid
          grid_pos := hgridPositive
          units := rfl
          width := hwidth
          height := hheight
          snap := hsnap }

end Statement

end Drafting
