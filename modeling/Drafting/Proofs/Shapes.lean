import Drafting.Proofs.Plans

/-!
# What a shape statement gives

Rectangles and lines take what they have in common from the same reading of the
statement, so that identity, layer, and thickness need to be looked at only
there.  Extents are the business of rectangles alone.

Layers, thicknesses, and extents that can be read are never out of bounds, and
the default thickness is the only value that a shape takes over unchecked.
-/

namespace Drafting

/-!
## Building shapes

A shape can be built exactly if its thickness and its extents are measures, and
then it is made of what it has been given.
-/

namespace Common

theorem setThickness_eq_ok_iff {c d : Common} {thickness : Float} :
    c.setThickness thickness = .ok d ↔
      isMeasure thickness = true ∧ { c with lineThickness := thickness } = d := by
  unfold setThickness
  split <;> simp [*]

end Common

theorem map_checkExtents_eq_ok_iff {kind : ShapeKind} {width height : Float} {f : Unit -> α}
    {a : α} :
    (checkExtents kind width height).map f = .ok a ↔
      isMeasure width = true ∧ isMeasure height = true ∧ f () = a := by
  rw [map_eq_ok_iff]
  constructor
  · intro hparts
    rcases hparts with ⟨_, hextents, hmade⟩
    have hmeasures := checkExtents_eq_ok_iff.mp hextents
    exact ⟨hmeasures.1, hmeasures.2, hmade⟩
  · intro hparts
    rcases hparts with ⟨hwidth, hheight, hmade⟩
    exact ⟨(), checkExtents_eq_ok_iff.mpr ⟨hwidth, hheight⟩, hmade⟩

namespace Rect

theorem make_eq_ok_iff {common : Common} {location : Point} {width height : Float} {r : Rect} :
    make common location width height = .ok r ↔
      isMeasure width = true ∧ isMeasure height = true ∧
        { common := common, location := location, width := width, height := height } = r :=
  map_checkExtents_eq_ok_iff

end Rect

namespace Ellipse

theorem make_eq_ok_iff {common : Common} {center : Point} {width height : Float} {e : Ellipse} :
    make common center width height = .ok e ↔
      isMeasure width = true ∧ isMeasure height = true ∧
        { common := common, center := center, width := width, height := height } = e :=
  map_checkExtents_eq_ok_iff

end Ellipse

namespace Statement

/-!
## Fields of shapes

A field that is missing leaves the default in place.  What holds of the default
and of everything that can be read therefore holds of what the field gives.
-/

theorem override_of (P : α -> Prop) {raw : Option String}
    {read : String -> Except StatementError α} {otherwise a : α}
    (hread : forall raw a, read raw = .ok a -> P a) (hotherwise : P otherwise)
    (h : override raw read otherwise = .ok a) : P a := by
  cases raw with
  | none =>
      cases h
      exact hotherwise
  | some raw => exact hread raw a h

theorem natAbs_le_of_wholeNumber {field : String} {symbols : SymbolTable} {raw : String}
    {n : Int} (h : wholeNumber field symbols raw = .ok n) : n.natAbs ≤ 2147483647 := by
  rw [wholeNumber, bind_eq_ok_iff] at h
  rcases h with ⟨value, _, hvalue⟩
  unfold boundedWhole? at hvalue
  cases hwhole : (Decimal.Binary.ofFloat value).whole? with
  | none => simp [hwhole] at hvalue
  | some m =>
      by_cases hsize : m.natAbs ≤ 2147483647
      · simp only [hwhole, if_pos hsize, Except.ok.injEq] at hvalue
        rw [← hvalue]
        exact hsize
      · simp [hwhole, hsize] at hvalue

theorem isMeasure_of_thickness {symbols : SymbolTable} {raw : String} {v : Float}
    (h : thickness symbols raw = .ok v) : isMeasure v = true := by
  simp only [thickness, bind_eq_ok_iff, mapError_eq_ok_iff, Common.setThickness_eq_ok_iff,
    Except.ok.injEq] at h
  rcases h with ⟨value, _, checked, ⟨hmeasure, rfl⟩, rfl⟩
  exact hmeasure

/-!
## Common properties

A rectangle or a line takes over the common properties as they are read, so what
is known of these is known of every shape that a statement describes.
-/

variable {s : Statement} {session : Session}

/-- What is known of the common properties that a statement gives. -/
structure GivesCommon (s : Statement) (session : Session) (c : Common) : Prop where
  id : c.id = s.name.getD ""
  layer : c.layer.natAbs ≤ 2147483647
  thickness : isMeasure session.defaults.lineThickness = true ->
    isMeasure c.lineThickness = true

theorem givesCommon_of_common {c : Common} (h : s.common session = .ok c) :
    s.GivesCommon session c := by
  simp only [common, bind_eq_ok_iff, Except.ok.injEq] at h
  rcases h with ⟨layer, hlayer, thickness, hthickness, _, _, _, _, _, _, rfl⟩
  refine ⟨rfl, ?_, ?_⟩
  · exact override_of (fun n => n.natAbs ≤ 2147483647)
      (fun _ _ hread => natAbs_le_of_wholeNumber hread) (by decide) hlayer
  · intro hdefault
    exact override_of (fun v => isMeasure v = true)
      (fun _ _ hread => isMeasure_of_thickness hread) hdefault hthickness

theorem common_of_rect {r : Rect} (h : s.rect session = .ok r) :
    s.common session = .ok r.common := by
  simp only [rect, bind_eq_ok_iff] at h
  rcases h with ⟨common, hcommon, _, _, _, _, _, _, _, _, h⟩
  split at h
  · cases h
  · rw [mapError_eq_ok_iff, Rect.make_eq_ok_iff] at h
    rcases h with ⟨_, _, rfl⟩
    exact hcommon

theorem common_of_line {l : Line} (h : s.line session = .ok l) :
    s.common session = .ok l.common := by
  simp only [line, bind_eq_ok_iff, Except.ok.injEq] at h
  rcases h with ⟨common, hcommon, _, _, _, _, _, _, _, _, _, _, _, _, rfl⟩
  exact hcommon

theorem common_of_builds {shape : Shape} (h : s.Builds session shape) :
    s.common session = .ok shape.common := by
  cases shape with
  | rect r => exact common_of_rect h.2
  | line l => exact common_of_line h.2
  | ellipse e => cases h

theorem givesCommon_of_builds {shape : Shape} (h : s.Builds session shape) :
    s.GivesCommon session shape.common :=
  givesCommon_of_common (common_of_builds h)

/-!
## Extents

The extents of a rectangle are checked twice: they are measures, as everywhere,
and the statement asks for at least one unit of each.
-/

theorem extents_of_rect {r : Rect} (h : s.rect session = .ok r) :
    (isMeasure r.width = true ∧ ¬ r.width < 1.0) ∧
      isMeasure r.height = true ∧ ¬ r.height < 1.0 := by
  simp only [rect, bind_eq_ok_iff] at h
  rcases h with ⟨common, _, _, _, _, _, width, _, height, _, h⟩
  split at h
  · cases h
  · next hlarge =>
      rw [mapError_eq_ok_iff, Rect.make_eq_ok_iff] at h
      rcases h with ⟨hwidth, hheight, rfl⟩
      rw [not_or] at hlarge
      exact ⟨⟨hwidth, hlarge.1⟩, hheight, hlarge.2⟩

end Statement

end Drafting
