import Drafting.Proofs.Decimal.Differences
import Drafting.Proofs.Hulls
import Drafting.Scene

/-!
# Hits

A shape is hit by the last of its feature points whose square covers the point
asked for.  A larger radius makes every square larger, so that a shape which has
been hit stays hit, by the same feature or by a later one.  The hits of a scene
come in the order of its shapes, and those for a smaller radius are found again
among those for a larger one.
-/

namespace Drafting

/-!
## Squares

The point lies in the square around a feature if it is no further off than the
radius on each axis.  Rounding keeps the order of floats, so a larger radius
makes a square that contains the smaller one.
-/

namespace Decimal

variable {a b r s : Float}

theorem neg_le_neg (hr : r.isFinite = true) (hs : s.isFinite = true) (h : r ≤ s) : -s ≤ -r := by
  have hnumber : forall v : Float, v.isFinite = true -> (-v).isNaN = false := by
    intro v hv
    apply isNaN_eq_false_of_isFinite
    rw [isFinite_neg]
    exact hv
  rw [le_iff_steps (isNaN_eq_false_of_isFinite hr) (isNaN_eq_false_of_isFinite hs)] at h
  rw [le_iff_steps (hnumber s hs) (hnumber r hr), steps_neg, steps_neg]
  omega

theorem add_le_add_left (ha : a.isNaN = false) (hr : r.isFinite = true) (hs : s.isFinite = true)
    (h : r ≤ s) : a + r ≤ a + s :=
  add_le_add (le_self ha) h (isNaN_add_of_isFinite ha hr) (isNaN_add_of_isFinite ha hs)

theorem sub_le_sub_left (ha : a.isNaN = false) (hr : r.isFinite = true) (hs : s.isFinite = true)
    (h : r ≤ s) : a - s ≤ a - r := by
  rw [sub_eq_add_neg, sub_eq_add_neg]
  exact add_le_add_left ha (by rw [isFinite_neg]; exact hs) (by rw [isFinite_neg]; exact hr)
    (neg_le_neg hr hs h)

end Decimal

namespace Feature

variable {radius : Float} {p : Point} {features : List Point}

def InSquare (radius : Float) (p feature : Point) : Prop :=
  (feature.x - radius ≤ p.x ∧ p.x ≤ feature.x + radius) ∧
    feature.y - radius ≤ p.y ∧ p.y ≤ feature.y + radius

theorem covers_iff {feature : Point} :
    covers radius p feature = true ↔ InSquare radius p feature :=
  Box.contains_iff

theorem InSquare.mono {larger : Float} {feature : Point} (hnumber : feature.IsNumber)
    (hradius : radius.isFinite = true) (hlarger : larger.isFinite = true) (hle : radius ≤ larger)
    (h : InSquare radius p feature) : InSquare larger p feature := by
  have haxis : forall {f v : Float}, f.isNaN = false -> f - radius ≤ v ∧ v ≤ f + radius ->
      f - larger ≤ v ∧ v ≤ f + larger := by
    intro f v hf hv
    exact ⟨Decimal.le_of_le_of_le (Decimal.sub_le_sub_left hf hradius hlarger hle) hv.1,
      Decimal.le_of_le_of_le hv.2 (Decimal.add_le_add_left hf hradius hlarger hle)⟩
  exact ⟨haxis hnumber.1 h.1, haxis hnumber.2 h.2⟩

/-!
## The last feature that covers a point

Whatever the outcome of the scan, it is settled by the last feature: either that
one covers the point, or the others decide.
-/

/-- The feature at this position, counted from one, has the point in its square. -/
def CoversAt (features : List Point) (radius : Float) (p : Point) (position : Nat) : Prop :=
  exists f, (f, position) ∈ features.zipIdx 1 ∧ InSquare radius p f

theorem CoversAt.range {position : Nat} (h : CoversAt features radius p position) :
    1 ≤ position ∧ position ≤ features.length := by
  rcases h with ⟨f, hf, _⟩
  have hlow := List.le_snd_of_mem_zipIdx hf
  have hhigh := List.snd_lt_add_of_mem_zipIdx hf
  omega

theorem coversAt_concat {f : Point} {position : Nat} :
    CoversAt (features ++ [f]) radius p position ↔
      CoversAt features radius p position ∨
        position = features.length + 1 ∧ InSquare radius p f := by
  simp only [CoversAt, List.zipIdx_append, List.zipIdx_cons, List.zipIdx_nil, List.mem_append,
    List.mem_singleton, Prod.mk.injEq, Nat.add_comm 1]
  constructor
  · rintro ⟨g, hg | ⟨rfl, rfl⟩, hsquare⟩
    · exact .inl ⟨g, hg, hsquare⟩
    · exact .inr ⟨rfl, hsquare⟩
  · rintro (⟨g, hg, hsquare⟩ | ⟨rfl, hsquare⟩)
    · exact ⟨g, .inl hg, hsquare⟩
    · exact ⟨f, .inr ⟨rfl, rfl⟩, hsquare⟩

theorem lastCovering_concat (features : List Point) (f p : Point) (radius : Float) :
    lastCovering (features ++ [f]) p radius =
      if covers radius p f then some (features.length + 1) else lastCovering features p radius := by
  rw [lastCovering, List.zipIdx_append, List.foldl_append, Nat.zero_add]
  rfl

theorem lastCovering_cases (features : List Point) (p : Point) (radius : Float) :
    (lastCovering features p radius = none ∧
        forall position, ¬ CoversAt features radius p position) ∨
      exists last, lastCovering features p radius = some last ∧
        IsGreatest {position | CoversAt features radius p position} last := by
  induction features using List.reverseRecOn with
  | nil =>
      refine .inl ⟨rfl, ?_⟩
      rintro position ⟨f, hf, _⟩
      cases hf
  | append_singleton features f ih =>
      rw [lastCovering_concat]
      by_cases hf : covers radius p f = true
      · -- The new feature is behind all others, so it is the last one.
        rw [if_pos hf]
        refine .inr ⟨features.length + 1, rfl, ?_, ?_⟩
        · exact coversAt_concat.mpr (.inr ⟨rfl, covers_iff.mp hf⟩)
        · intro position hposition
          have hle := (CoversAt.range hposition).2
          rw [List.length_append] at hle
          exact hle
      · rw [if_neg hf]
        have hsame : forall position, CoversAt (features ++ [f]) radius p position ↔
            CoversAt features radius p position := by
          intro position
          rw [coversAt_concat, ← covers_iff]
          simp [hf]
        simp only [hsame]
        exact ih

theorem lastCovering_eq_some_iff {last : Nat} :
    lastCovering features p radius = some last ↔
      IsGreatest {position | CoversAt features radius p position} last := by
  rcases lastCovering_cases features p radius with ⟨hnone, hno⟩ | ⟨found, hsome, hfound⟩
  · rw [hnone]
    constructor
    · intro h
      cases h
    · intro h
      exact absurd h.1 (hno last)
  · rw [hsome, Option.some.injEq]
    constructor
    · rintro rfl
      exact hfound
    · exact hfound.unique

theorem lastCovering_eq_none_iff :
    lastCovering features p radius = none ↔
      forall position, ¬ CoversAt features radius p position := by
  rcases lastCovering_cases features p radius with ⟨hnone, hno⟩ | ⟨found, hsome, hfound⟩
  · exact iff_of_true hnone hno
  · rw [hsome]
    exact iff_of_false (by simp) fun hno => hno found hfound.1

theorem lastCovering_mono (hnumbers : forall f, f ∈ features -> f.IsNumber) {larger : Float}
    (hradius : radius.isFinite = true) (hlarger : larger.isFinite = true) (hle : radius ≤ larger)
    {last : Nat} (h : lastCovering features p radius = some last) :
    exists later, lastCovering features p larger = some later ∧ last ≤ later := by
  rcases (lastCovering_eq_some_iff.mp h).1 with ⟨f, hf, hsquare⟩
  have hnumber := hnumbers f (List.fst_mem_of_mem_zipIdx hf)
  have hstill : CoversAt features larger p last :=
    ⟨f, hf, hsquare.mono hnumber hradius hlarger hle⟩
  rcases lastCovering_cases features p larger with ⟨_, hno⟩ | ⟨later, hsome, hlater⟩
  · exact absurd hstill (hno last)
  · exact ⟨later, hsome, hlater.2 hstill⟩

end Feature

/-!
## Shapes and scenes

A hit moves on if it is one of the same shape, by the same feature or a later
one.
-/

theorem Shape.isNumber_of_mem_features {s : Shape} (hlocated : s.Located) (hmeasured : s.Measured) :
    forall f, f ∈ s.features -> f.IsNumber :=
  fun _ hf => (Shape.isHull_boundingBox hlocated hmeasured).isNumber_of_mem hf

/-- What one function selects from a list is found again in what the other one selects. -/
theorem sublistForall₂_filterMap {R : β -> γ -> Prop} {f : α -> Option β} {g : α -> Option γ}
    {l : List α} (h : forall a, a ∈ l -> forall b, f a = some b -> exists c, g a = some c ∧ R b c) :
    (l.filterMap f).SublistForall₂ R (l.filterMap g) := by
  induction l with
  | nil => exact .nil
  | cons a l ih =>
      rw [List.forall_mem_cons] at h
      have hrest := ih h.2
      cases hf : f a with
      | some b =>
          rcases h.1 b hf with ⟨c, hg, hR⟩
          rw [List.filterMap_cons_some hf, List.filterMap_cons_some hg]
          exact .cons hR hrest
      | none =>
          rw [List.filterMap_cons_none hf]
          cases hg : g a with
          | none =>
              rw [List.filterMap_cons_none hg]
              exact hrest
          | some c =>
              rw [List.filterMap_cons_some hg]
              exact .cons_right hrest

def Hit.MovesOn (hit other : Hit) : Prop :=
  other.kind = hit.kind ∧ other.id = hit.id ∧ hit.feature ≤ other.feature

namespace Scene

theorem mem_shapes_of_visible {s : Scene} {shape : Shape} (h : shape ∈ s.visibleShapes) :
    shape ∈ s.document.shapes :=
  (List.mem_filter.mp h).1

/--
A shape is hit by the last feature that has the point in its square, and by none
if there is no such feature.  When the radius grows, each shape that is hit is
still hit, by a feature that is not earlier; so every hit of the scene is there
again, in the same order.
-/
theorem hits_by_last_feature :
    (forall (shape : Shape) (p : Point) (radius : Float),
      (forall last, shape.featureAt? p radius = some last ↔
        IsGreatest {position | Feature.CoversAt shape.features radius p position} last) ∧
      (shape.featureAt? p radius = none ↔
        forall position, ¬ Feature.CoversAt shape.features radius p position) ∧
      forall last, shape.featureAt? p radius = some last ->
        1 ≤ last ∧ last ≤ shape.features.length) ∧
    forall (s : Scene), s.document.Placed -> forall (p : Point) (radius larger : Float),
      radius.isFinite = true -> larger.isFinite = true -> radius ≤ larger ->
      (forall shape, shape ∈ s.visibleShapes -> forall last,
        shape.featureAt? p radius = some last ->
          exists later, shape.featureAt? p larger = some later ∧ last ≤ later) ∧
      (s.hits p radius).SublistForall₂ Hit.MovesOn (s.hits p larger) := by
  constructor
  · intro shape p radius
    refine ⟨fun last => Feature.lastCovering_eq_some_iff, Feature.lastCovering_eq_none_iff, ?_⟩
    intro last h
    exact (Feature.lastCovering_eq_some_iff.mp h).1.range
  · intro s hplaced p radius larger hradius hlarger hle
    have hshapes : forall shape, shape ∈ s.visibleShapes -> forall last,
        shape.featureAt? p radius = some last ->
          exists later, shape.featureAt? p larger = some later ∧ last ≤ later := by
      intro shape hshape last hlast
      rcases hplaced shape (mem_shapes_of_visible hshape) with ⟨hlocated, hmeasured⟩
      exact Feature.lastCovering_mono (Shape.isNumber_of_mem_features hlocated hmeasured)
        hradius hlarger hle hlast
    refine ⟨hshapes, ?_⟩
    apply sublistForall₂_filterMap
    intro shape hshape hit hhit
    rcases Option.map_eq_some_iff.mp hhit with ⟨last, hlast, rfl⟩
    rcases hshapes shape hshape last hlast with ⟨later, hlater, hle⟩
    exact ⟨_, Option.map_eq_some_iff.mpr ⟨later, hlater, rfl⟩, rfl, rfl, hle⟩

def crossing : Scene :=
  { document :=
      { page := .standard
        rects :=
          [{ common := Common.named "R", location := { x := 2.0, y := -1.0 }, width := 4.0
             height := 2.0 }]
        lines :=
          [{ common := Common.named "L", start := { x := 0.0, y := 0.0 }
             finish := { x := 3.0, y := 0.0 }, startCap := .none, endCap := .none },
           { common := { Common.named "M" with layer := 1 }, start := { x := 1.0, y := 0.0 }
             finish := { x := 1.0, y := 1.0 }, startCap := .none, endCap := .none }]
        ellipses := [] }
    hidden := [.one] }

def meeting : Point :=
  { x := 1.0, y := 0.0 }

theorem hits_by_last_feature_crossing :
    crossing.document.Placed ∧ (1.0 : Float).isFinite = true ∧ (2.5 : Float).isFinite = true ∧
      (1.0 : Float) ≤ 2.5 ∧
      crossing.hits meeting 1.0 = [⟨.rect, "R", 4⟩, ⟨.line, "L", 1⟩] ∧
      crossing.hits meeting 2.5 = [⟨.rect, "R", 4⟩, ⟨.line, "L", 2⟩] ∧
      (crossing.hits meeting 1.0).SublistForall₂ Hit.MovesOn (crossing.hits meeting 2.5) := by
  have hplaced : crossing.document.Placed := by
    simp only [Document.Placed, Document.shapes, crossing, List.map_cons, List.map_nil,
      List.cons_append, List.nil_append, List.append_nil, List.forall_mem_cons, List.not_mem_nil,
      false_implies, implies_true, and_true, Shape.Located, Shape.Measured, Point.IsNumber]
    decide +kernel
  have hsmall : (1.0 : Float).isFinite = true := by decide +kernel
  have hlarge : (2.5 : Float).isFinite = true := by decide +kernel
  have hle : (1.0 : Float) ≤ 2.5 := by decide +kernel
  exact ⟨hplaced, hsmall, hlarge, hle, by decide +kernel, by decide +kernel,
    (hits_by_last_feature.2 crossing hplaced meeting 1.0 2.5 hsmall hlarge hle).2⟩

end Scene

end Drafting
