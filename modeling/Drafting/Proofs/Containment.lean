import Drafting.Proofs.Hulls

/-!
# Shapes inside areas

A shape lies wholly inside an area when all its feature points do.  That can be
asked of its bounding box instead: it is the same as if the area contained the
least and the greatest corner of the box, although these corners are in general
no feature points.

Nothing is asked of the area.  It may be the wrong way round, or have corners
that are no numbers; then it contains nothing, neither features nor corners.
-/

namespace Drafting

theorem Spans.forall_between_iff {lo hi a b : Float} {vs : List Float} (h : Spans lo hi vs) :
    (forall v, v ∈ vs -> a ≤ v ∧ v ≤ b) ↔ (a ≤ lo ∧ lo ≤ b) ∧ a ≤ hi ∧ hi ≤ b := by
  constructor
  · intro hall
    have hoccurs : forall {u : Float}, Occurs u vs -> a ≤ u ∧ u ≤ b := by
      rintro u ⟨v, hv, hsame⟩
      rcases hall v hv with ⟨hlow, hhigh⟩
      exact ⟨Decimal.le_of_le_of_le hlow (Decimal.le_of_beq (Decimal.beq_symm hsame)),
        Decimal.le_of_le_of_le (Decimal.le_of_beq hsame) hhigh⟩
    exact ⟨hoccurs h.lowest, hoccurs h.highest⟩
  · rintro ⟨⟨hlow, _⟩, _, hhigh⟩ v hv
    exact ⟨Decimal.le_of_le_of_le hlow (h.lower v hv),
      Decimal.le_of_le_of_le (h.upper v hv) hhigh⟩

theorem Box.IsHull.forall_contains_iff {b : Box} {ps : List Point} (h : b.IsHull ps)
    (area : Box) :
    (forall p, p ∈ ps -> area.contains p = true) ↔
      area.contains b.min = true ∧ area.contains b.max = true := by
  have haxes : (forall p, p ∈ ps -> area.contains p = true) ↔
      (forall x, x ∈ ps.map Point.x -> area.min.x ≤ x ∧ x ≤ area.max.x) ∧
        forall y, y ∈ ps.map Point.y -> area.min.y ≤ y ∧ y ≤ area.max.y := by
    simp only [contains_iff, List.forall_mem_map, forall_and]
  rw [haxes, h.x.forall_between_iff, h.y.forall_between_iff, contains_iff, contains_iff]
  exact and_and_and_comm

namespace Shape

theorem containedIn_all_iff_forall (s : Shape) (area : Box) :
    s.containedIn area .all = true ↔ forall p, p ∈ s.features -> area.contains p = true :=
  List.all_eq_true

theorem features_ne_nil (s : Shape) : s.features ≠ [] := by
  cases s <;> exact List.cons_ne_nil _ _

theorem containedIn_any_of_all {s : Shape} {area : Box} (h : s.containedIn area .all = true) :
    s.containedIn area .any = true := by
  rw [containedIn_all_iff_forall] at h
  rcases List.exists_mem_of_ne_nil _ s.features_ne_nil with ⟨p, hp⟩
  exact List.any_eq_true.mpr ⟨p, hp, h p hp⟩

/--
A shape lies in an area with all its feature points exactly if the area contains
both corners of its bounding box.  So it always lies in its own bounding box, and
what lies in an area with all its features does so with some.
-/
theorem containedIn_all_by_corners (s : Shape) (hlocated : s.Located) (hmeasured : s.Measured) :
    (forall area : Box, s.containedIn area .all = true ↔
      area.contains s.boundingBox.min = true ∧ area.contains s.boundingBox.max = true) ∧
    s.containedIn s.boundingBox .all = true ∧
    forall area : Box, s.containedIn area .all = true -> s.containedIn area .any = true := by
  have hhull := isHull_boundingBox hlocated hmeasured
  refine ⟨?_, ?_, fun area => containedIn_any_of_all⟩
  · intro area
    exact (s.containedIn_all_iff_forall area).trans (hhull.forall_contains_iff area)
  · exact (s.containedIn_all_iff_forall s.boundingBox).mpr fun p hp => hhull.contains hp

def sliver : Shape :=
  .ellipse
    { common := Common.named "E", center := { x := 1.7e308, y := -4.0 }, width := 1e308
      height := 5e-324 }

def strip : Box :=
  { min := { x := 0.0, y := -4.0 }, max := { x := 1.0 / 0.0, y := -4.0 } }

theorem containedIn_all_by_corners_sliver :
    sliver.Located ∧ sliver.Measured ∧ sliver.containedIn strip .all = true ∧
      strip.contains sliver.boundingBox.min = true ∧
      strip.contains sliver.boundingBox.max = true := by
  have hlocated : sliver.Located := by
    simp only [sliver, Located, Point.IsNumber]
    decide +kernel
  have hmeasured : sliver.Measured := by
    simp only [sliver, Measured]
    decide +kernel
  have hin : sliver.containedIn strip .all = true := by decide +kernel
  exact ⟨hlocated, hmeasured, hin,
    ((containedIn_all_by_corners sliver hlocated hmeasured).1 strip).mp hin⟩

end Shape

end Drafting
