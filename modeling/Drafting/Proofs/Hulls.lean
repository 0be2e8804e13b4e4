import Drafting.Proofs.Decimal.Sums
import Drafting.Proofs.RoundTrip

/-!
# Bounds are hulls

The bounding box of a shape is computed from its location and extents, the
bounds of a document from the bounding boxes of its shapes.  Neither looks at
the feature points of the shapes, and yet both are the hulls of these points:
on each axis they reach from the least to the greatest coordinate.

Floats that compare equal need not be the same, since there are two zeros; so
boxes are only said to be numerically the same.
-/

namespace Drafting

open Decimal (le_self le_of_le_of_le beq_of_le_of_le le_of_beq beq_symm)

/-!
## Coordinates on one axis

A number occurs among others if it compares equal to one of them.  Numbers may
be put in and left out as long as they occur; so lists in which the same numbers
occur have the same least and the same greatest one.
-/

section Choices

variable {a b : Float} (ha : a.isNaN = false) (hb : b.isNaN = false)

include ha hb

theorem lesser_le : lesser a b ≤ a ∧ lesser a b ≤ b := by
  unfold lesser
  split
  · next h => exact ⟨le_self ha, Decimal.le_of_lt h⟩
  · next h => exact ⟨Decimal.le_of_not_lt ha hb h, le_self hb⟩

theorem le_greater : a ≤ greater a b ∧ b ≤ greater a b := by
  unfold greater
  split
  · next h => exact ⟨le_self ha, Decimal.le_of_lt h⟩
  · next h => exact ⟨Decimal.le_of_not_lt hb ha h, le_self hb⟩

end Choices

theorem lesser_eq_or (a b : Float) : lesser a b = a ∨ lesser a b = b := by
  unfold lesser
  split
  · exact .inl rfl
  · exact .inr rfl

theorem greater_eq_or (a b : Float) : greater a b = a ∨ greater a b = b := by
  unfold greater
  split
  · exact .inl rfl
  · exact .inr rfl

def Occurs (v : Float) (vs : List Float) : Prop :=
  exists w, w ∈ vs ∧ (v == w) = true

theorem Occurs.mono {v : Float} {vs ws : List Float} (h : Occurs v vs)
    (hsub : forall w, w ∈ vs -> w ∈ ws) : Occurs v ws := by
  rcases h with ⟨w, hw, hsame⟩
  exact ⟨w, hsub w hw, hsame⟩

theorem occurs_of_beq {u v : Float} {vs : List Float} (huv : (u == v) = true)
    (h : Occurs v vs) : Occurs u vs := by
  rcases h with ⟨w, hw, hvw⟩
  exact ⟨w, hw, beq_of_le_of_le (le_of_le_of_le (le_of_beq huv) (le_of_beq hvw))
    (le_of_le_of_le (le_of_beq (beq_symm hvw)) (le_of_beq (beq_symm huv)))⟩

theorem occurs_of_mem {v : Float} {vs : List Float} (hv : v.isNaN = false) (h : v ∈ vs) :
    Occurs v vs :=
  ⟨v, h, beq_of_le_of_le (le_self hv) (le_self hv)⟩

/-- The numbers reach from `lo` to `hi`, and no further. -/
structure Spans (lo hi : Float) (vs : List Float) : Prop where
  lower : forall v, v ∈ vs -> lo ≤ v
  upper : forall v, v ∈ vs -> v ≤ hi
  lowest : Occurs lo vs
  highest : Occurs hi vs

namespace Spans

variable {lo hi : Float} {vs : List Float} (h : Spans lo hi vs)

include h

theorem le : lo ≤ hi := by
  rcases h.lowest with ⟨v, hv, _⟩
  exact le_of_le_of_le (h.lower v hv) (h.upper v hv)

theorem isNaN_lo : lo.isNaN = false :=
  (Decimal.isNaN_eq_false_of_le h.le).1

theorem isNaN_hi : hi.isNaN = false :=
  (Decimal.isNaN_eq_false_of_le h.le).2

theorem lower_of_occurs {v : Float} (hv : Occurs v vs) : lo ≤ v := by
  rcases hv with ⟨w, hw, hsame⟩
  exact le_of_le_of_le (h.lower w hw) (le_of_beq (beq_symm hsame))

theorem upper_of_occurs {v : Float} (hv : Occurs v vs) : v ≤ hi := by
  rcases hv with ⟨w, hw, hsame⟩
  exact le_of_le_of_le (le_of_beq hsame) (h.upper w hw)

theorem same {lo' hi' : Float} {ws : List Float} (h' : Spans lo' hi' ws)
    (hsub : forall v, v ∈ vs -> v ∈ ws) (hsup : forall v, v ∈ ws -> v ∈ vs) :
    (lo == lo') = true ∧ (hi == hi') = true := by
  constructor
  · exact beq_of_le_of_le (h.lower_of_occurs (h'.lowest.mono hsup))
      (h'.lower_of_occurs (h.lowest.mono hsub))
  · exact beq_of_le_of_le (h'.upper_of_occurs (h.highest.mono hsub))
      (h.upper_of_occurs (h'.highest.mono hsup))

theorem congr {ws : List Float} (hsub : forall v, v ∈ vs -> Occurs v ws)
    (hsup : forall w, w ∈ ws -> Occurs w vs) : Spans lo hi ws := by
  rcases h.lowest with ⟨v, hv, hlo⟩
  rcases h.highest with ⟨u, hu, hhi⟩
  constructor
  · exact fun w hw => h.lower_of_occurs (hsup w hw)
  · exact fun w hw => h.upper_of_occurs (hsup w hw)
  · exact occurs_of_beq hlo (hsub v hv)
  · exact occurs_of_beq hhi (hsub u hu)

theorem concat {v : Float} (hv : v.isNaN = false) :
    Spans (lesser lo v) (greater hi v) (vs ++ [v]) := by
  have hold : forall w, w ∈ vs -> w ∈ vs ++ [v] := fun w hw => List.mem_append_left _ hw
  have hnew : v ∈ vs ++ [v] := List.mem_append_right _ (List.mem_singleton_self v)
  have hleast := lesser_le h.isNaN_lo hv
  have hgreatest := le_greater h.isNaN_hi hv
  constructor
  · rw [List.forall_mem_append, List.forall_mem_singleton]
    exact ⟨fun w hw => le_of_le_of_le hleast.1 (h.lower w hw), hleast.2⟩
  · rw [List.forall_mem_append, List.forall_mem_singleton]
    exact ⟨fun w hw => le_of_le_of_le (h.upper w hw) hgreatest.1, hgreatest.2⟩
  · rcases lesser_eq_or lo v with heq | heq
    · rw [heq]
      exact h.lowest.mono hold
    · rw [heq]
      exact occurs_of_mem hv hnew
  · rcases greater_eq_or hi v with heq | heq
    · rw [heq]
      exact h.highest.mono hold
    · rw [heq]
      exact occurs_of_mem hv hnew

theorem occurs_of_ends {v : Float} {ws : List Float}
    (hv : Occurs v (ws ++ [lo] ++ [hi])) : Occurs v (ws ++ vs) := by
  have hright : forall u, Occurs u vs -> Occurs u (ws ++ vs) :=
    fun u hu => hu.mono fun w hw => List.mem_append_right _ hw
  rcases hv with ⟨w, hw, hsame⟩
  simp only [List.mem_append, List.mem_singleton] at hw
  rcases hw with (hw | rfl) | rfl
  · exact ⟨w, List.mem_append_left _ hw, hsame⟩
  · exact occurs_of_beq hsame (hright _ h.lowest)
  · exact occurs_of_beq hsame (hright _ h.highest)

theorem of_ends {lo' hi' : Float} {ws : List Float}
    (hends : Spans lo' hi' (ws ++ [lo] ++ [hi])) : Spans lo' hi' (ws ++ vs) := by
  have hlo : lo ∈ ws ++ [lo] ++ [hi] := by simp
  have hhi : hi ∈ ws ++ [lo] ++ [hi] := by simp
  have hold : forall w, w ∈ ws -> w ∈ ws ++ [lo] ++ [hi] := fun w hw => by simp [hw]
  constructor
  · rw [List.forall_mem_append]
    exact ⟨fun w hw => hends.lower w (hold w hw),
      fun v hv => le_of_le_of_le (hends.lower lo hlo) (h.lower v hv)⟩
  · rw [List.forall_mem_append]
    exact ⟨fun w hw => hends.upper w (hold w hw),
      fun v hv => le_of_le_of_le (h.upper v hv) (hends.upper hi hhi)⟩
  · exact h.occurs_of_ends hends.lowest
  · exact h.occurs_of_ends hends.highest

end Spans

theorem spans_singleton {v : Float} (hv : v.isNaN = false) : Spans v v [v] := by
  have hoccurs := occurs_of_mem hv (List.mem_singleton_self v)
  constructor
  · rw [List.forall_mem_singleton]
    exact le_self hv
  · rw [List.forall_mem_singleton]
    exact le_self hv
  · exact hoccurs
  · exact hoccurs

/-!
## Boxes

A hull is widened as its list of points grows.  The two corners of a box do for
all the points that it is the hull of, and so the hull of boxes is the hull of
what the boxes are hulls of.
-/

namespace Point

def IsNumber (p : Point) : Prop :=
  p.x.isNaN = false ∧ p.y.isNaN = false

end Point

namespace Box

/-- On each axis the points reach from one side of the box to the other. -/
structure IsHull (b : Box) (ps : List Point) : Prop where
  x : Spans b.min.x b.max.x (ps.map Point.x)
  y : Spans b.min.y b.max.y (ps.map Point.y)

structure Same (b c : Box) : Prop where
  minX : (b.min.x == c.min.x) = true
  minY : (b.min.y == c.min.y) = true
  maxX : (b.max.x == c.max.x) = true
  maxY : (b.max.y == c.max.y) = true

theorem contains_iff {b : Box} {p : Point} :
    b.contains p = true ↔
      (b.min.x ≤ p.x ∧ p.x ≤ b.max.x) ∧ b.min.y ≤ p.y ∧ p.y ≤ b.max.y := by
  simp only [contains, Bool.and_eq_true, decide_eq_true_eq, and_assoc]

theorem mem_map_of_subset {f : Point -> Float} {ps qs : List Point}
    (h : forall p, p ∈ ps -> p ∈ qs) : forall v, v ∈ ps.map f -> v ∈ qs.map f := by
  intro v hv
  rcases List.mem_map.mp hv with ⟨p, hp, rfl⟩
  exact List.mem_map_of_mem (h p hp)

theorem isHull_singleton {p : Point} (hp : p.IsNumber) :
    IsHull { min := p, max := p } [p] :=
  ⟨spans_singleton hp.1, spans_singleton hp.2⟩

theorem isEmpty_empty : empty.isEmpty = true := by
  decide

theorem isHull_empty_includePoint {p : Point} (hp : p.IsNumber) :
    (empty.includePoint p).IsHull [p] := by
  rw [includePoint_of_isEmpty p isEmpty_empty]
  exact isHull_singleton hp

namespace IsHull

variable {b c : Box} {p : Point} {ps qs : List Point} (h : b.IsHull ps)

include h

theorem isEmpty_eq_false : b.isEmpty = false := by
  simp [isEmpty, Decimal.not_lt_of_le h.x.le, Decimal.not_lt_of_le h.y.le]

theorem includePoint (hp : p.IsNumber) : (b.includePoint p).IsHull (ps ++ [p]) := by
  rw [Box.includePoint, if_neg (by simp [h.isEmpty_eq_false])]
  constructor
  · rw [List.map_append]
    exact h.x.concat hp.1
  · rw [List.map_append]
    exact h.y.concat hp.2

theorem isNumber_min : b.min.IsNumber :=
  ⟨h.x.isNaN_lo, h.y.isNaN_lo⟩

theorem isNumber_max : b.max.IsNumber :=
  ⟨h.x.isNaN_hi, h.y.isNaN_hi⟩

theorem of_corners (hcorners : c.IsHull (qs ++ [b.min] ++ [b.max])) : c.IsHull (qs ++ ps) := by
  have hx := hcorners.x
  have hy := hcorners.y
  simp only [List.map_append, List.map_cons, List.map_nil] at hx hy
  constructor
  · rw [List.map_append]
    exact h.x.of_ends hx
  · rw [List.map_append]
    exact h.y.of_ends hy

theorem includeBox (hc : c.IsHull qs) : (b.includeBox c).IsHull (ps ++ qs) := by
  -- Only two of the corners are taken in, but they have all the extreme coordinates.
  rw [Box.includeBox, if_neg (by simp [hc.isEmpty_eq_false])]
  exact hc.of_corners ((h.includePoint hc.isNumber_min).includePoint hc.isNumber_max)

theorem empty_includeBox : (Box.empty.includeBox b).IsHull ps := by
  rw [Box.includeBox, if_neg (by simp [h.isEmpty_eq_false])]
  exact @of_corners _ _ _ [] h
    ((isHull_empty_includePoint h.isNumber_min).includePoint h.isNumber_max)

theorem foldl {α : Type} {box : α -> Box} {points : α -> List Point} {shapes : List α}
    (hshapes : forall s, s ∈ shapes -> (box s).IsHull (points s)) :
    ((shapes.map box).foldl Box.includeBox b).IsHull (ps ++ shapes.flatMap points) := by
  induction shapes generalizing b ps with
  | nil =>
      rw [List.flatMap_nil, List.append_nil]
      exact h
  | cons s shapes ih =>
      rw [List.forall_mem_cons] at hshapes
      rw [List.map_cons, List.foldl_cons, List.flatMap_cons, ← List.append_assoc]
      exact ih (h.includeBox hshapes.1) hshapes.2

theorem contains_of_occurs (hx : Occurs p.x (ps.map Point.x)) (hy : Occurs p.y (ps.map Point.y)) :
    b.contains p = true := by
  simp [Box.contains, h.x.lower_of_occurs hx, h.x.upper_of_occurs hx, h.y.lower_of_occurs hy,
    h.y.upper_of_occurs hy]

theorem isNumber_of_mem (hp : p ∈ ps) : p.IsNumber :=
  ⟨(Decimal.isNaN_eq_false_of_le (h.x.lower _ (List.mem_map_of_mem hp))).2,
    (Decimal.isNaN_eq_false_of_le (h.y.lower _ (List.mem_map_of_mem hp))).2⟩

theorem contains (hp : p ∈ ps) : b.contains p = true :=
  h.contains_of_occurs (occurs_of_mem (h.isNumber_of_mem hp).1 (List.mem_map_of_mem hp))
    (occurs_of_mem (h.isNumber_of_mem hp).2 (List.mem_map_of_mem hp))

theorem contains_min (hc : c.IsHull qs) (hsub : forall q, q ∈ qs -> q ∈ ps) :
    b.contains c.min = true :=
  h.contains_of_occurs (hc.x.lowest.mono (mem_map_of_subset hsub))
    (hc.y.lowest.mono (mem_map_of_subset hsub))

theorem contains_max (hc : c.IsHull qs) (hsub : forall q, q ∈ qs -> q ∈ ps) :
    b.contains c.max = true :=
  h.contains_of_occurs (hc.x.highest.mono (mem_map_of_subset hsub))
    (hc.y.highest.mono (mem_map_of_subset hsub))

theorem same (hc : c.IsHull qs) (hsame : forall p, p ∈ ps ↔ p ∈ qs) : b.Same c := by
  have hsub : forall p, p ∈ ps -> p ∈ qs := fun p => (hsame p).mp
  have hsup : forall p, p ∈ qs -> p ∈ ps := fun p => (hsame p).mpr
  have hx := h.x.same hc.x (mem_map_of_subset hsub) (mem_map_of_subset hsup)
  have hy := h.y.same hc.y (mem_map_of_subset hsub) (mem_map_of_subset hsup)
  exact ⟨hx.1, hy.1, hx.2, hy.2⟩

end IsHull

theorem isHull_of_hull?_eq_some {α : Type} {box : α -> Box} {points : α -> List Point}
    {shapes : List α} {b : Box} (hshapes : forall s, s ∈ shapes -> (box s).IsHull (points s))
    (h : hull? (shapes.map box) = some b) : b.IsHull (shapes.flatMap points) := by
  cases shapes with
  | nil => cases h
  | cons s shapes =>
      rw [List.forall_mem_cons] at hshapes
      cases h
      -- The first box takes the place of the empty one, which is the hull of no points.
      exact hshapes.1.empty_includeBox.foldl hshapes.2

end Box

/-!
## Shapes

The ends of a side come in either order, and a rectangle has corners at which
nothing is added to a coordinate.  An ellipse has its centre among the
coordinates of its features, between two ends that are half an extent away.
-/

section Sides

variable {x w : Float} {vs : List Float}

theorem beq_add_zero (hx : x.isNaN = false) : (x + 0.0 == x) = true :=
  (Decimal.beq_iff_steps (Decimal.isNaN_add_of_isFinite hx Decimal.isFinite_zero) hx).mpr
    (Decimal.steps_add_zero hx)

theorem spans_side (hx : x.isNaN = false) (hw : w.isFinite = true) (hstart : x ∈ vs)
    (hfinish : x + w ∈ vs) (hvs : forall v, v ∈ vs -> v = x ∨ v = x + w ∨ v = x + 0.0) :
    Spans (lesser x (x + w)) (greater x (x + w)) vs := by
  have hsum := Decimal.isNaN_add_of_isFinite hx hw
  apply ((spans_singleton hx).concat hsum).congr
  · intro v hv
    simp only [List.cons_append, List.nil_append, List.mem_cons, List.not_mem_nil, or_false] at hv
    rcases hv with rfl | rfl
    · exact occurs_of_mem hx hstart
    · exact occurs_of_mem hsum hfinish
  · intro v hv
    rcases hvs v hv with rfl | rfl | rfl
    · exact occurs_of_mem hx (by simp)
    · exact occurs_of_mem hsum (by simp)
    · exact occurs_of_beq (beq_add_zero hx) (occurs_of_mem hx (by simp))

theorem spans_diameter (hx : x.isNaN = false) (hw : w.isFinite = true)
    (hpos : 0 ≤ Decimal.steps w) (hlow : x + -w ∈ vs) (hhigh : x + w ∈ vs)
    (hvs : forall v, v ∈ vs -> v = x + -w ∨ v = x + 0.0 ∨ v = x + w) :
    Spans (x + -w) (x + w) vs := by
  have hnan := Decimal.isNaN_eq_false_of_isFinite hw
  have hopposite : (-w).isFinite = true := by
    rw [Decimal.isFinite_neg]
    exact hw
  have hnanOpposite := Decimal.isNaN_eq_false_of_isFinite hopposite
  have hsum : forall u : Float, u.isFinite = true -> (x + u).isNaN = false :=
    fun u hu => Decimal.isNaN_add_of_isFinite hx hu
  have hle : forall u v : Float, u.isFinite = true -> v.isFinite = true -> u ≤ v ->
      x + u ≤ x + v :=
    fun u v hu hv huv => Decimal.add_le_add (le_self hx) huv (hsum u hu) (hsum v hv)
  have hzero : (0.0 : Float).isFinite = true := Decimal.isFinite_zero
  -- The three offsets are in order, and adding them to `x` keeps it.
  have hdown : -w ≤ 0.0 := by
    rw [Decimal.le_iff_steps hnanOpposite (Decimal.isNaN_eq_false_of_isFinite hzero),
      Decimal.steps_neg, Decimal.steps_zero]
    omega
  have hup : 0.0 ≤ w := by
    rw [Decimal.le_iff_steps (Decimal.isNaN_eq_false_of_isFinite hzero) hnan, Decimal.steps_zero]
    exact hpos
  constructor
  · intro v hv
    rcases hvs v hv with rfl | rfl | rfl
    · exact le_self (hsum _ hopposite)
    · exact hle _ _ hopposite hzero hdown
    · exact hle _ _ hopposite hw (le_of_le_of_le hdown hup)
  · intro v hv
    rcases hvs v hv with rfl | rfl | rfl
    · exact hle _ _ hopposite hw (le_of_le_of_le hdown hup)
    · exact hle _ _ hzero hw hup
    · exact le_self (hsum _ hw)
  · exact occurs_of_mem (hsum _ hopposite) hlow
  · exact occurs_of_mem (hsum _ hw) hhigh

theorem isFinite_of_isMeasure (h : isMeasure w = true) : w.isFinite = true :=
  ((Bool.and_eq_true _ _).mp h).1

theorem half_of_isMeasure (h : isMeasure w = true) :
    (w * 0.5).isFinite = true ∧ 0 ≤ Decimal.steps (w * 0.5) := by
  have hfinite := isFinite_of_isMeasure h
  have hpos : 0.0 < w := of_decide_eq_true ((Bool.and_eq_true _ _).mp h).2
  apply Decimal.half_of_steps_pos hfinite
  rw [← Decimal.steps_zero]
  exact (Decimal.lt_iff_steps (Decimal.isNaN_eq_false_of_isFinite Decimal.isFinite_zero)
    (Decimal.isNaN_eq_false_of_isFinite hfinite)).mp hpos

end Sides

namespace Shape

/-- The coordinates are numbers, possibly infinite ones. -/
def Located : Shape -> Prop
  | rect r => r.location.IsNumber
  | line l => l.start.IsNumber ∧ l.finish.IsNumber
  | ellipse e => e.center.IsNumber

/-- The extents are measures, as the checks of all shapes ask for. -/
def Measured : Shape -> Prop
  | rect r => isMeasure r.width = true ∧ isMeasure r.height = true
  | line _ => True
  | ellipse e => isMeasure e.width = true ∧ isMeasure e.height = true

theorem isHull_boundingBox {s : Shape} (hlocated : s.Located) (hmeasured : s.Measured) :
    s.boundingBox.IsHull s.features := by
  cases s with
  | rect r =>
      rcases hmeasured with ⟨hwidth, hheight⟩
      constructor
      · exact spans_side hlocated.1 (isFinite_of_isMeasure hwidth)
          (by simp [features, Rect.features])
          (by simp [features, Rect.features, Point.translate])
          (by simp [features, Rect.features, Point.translate])
      · exact spans_side hlocated.2 (isFinite_of_isMeasure hheight)
          (by simp [features, Rect.features])
          (by simp [features, Rect.features, Point.translate])
          (by simp [features, Rect.features, Point.translate])
  | line l => exact (Box.isHull_empty_includePoint hlocated.1).includePoint hlocated.2
  | ellipse e =>
      rcases hmeasured with ⟨hwidth, hheight⟩
      rcases half_of_isMeasure hwidth with ⟨hwidthFinite, hwidthPos⟩
      rcases half_of_isMeasure hheight with ⟨hheightFinite, hheightPos⟩
      constructor
      · exact spans_diameter hlocated.1 hwidthFinite hwidthPos
          (by simp [features, Ellipse.features, Point.translate])
          (by simp [features, Ellipse.features, Point.translate])
          (by simp [features, Ellipse.features, Point.translate])
      · exact spans_diameter hlocated.2 hheightFinite hheightPos
          (by simp [features, Ellipse.features, Point.translate])
          (by simp [features, Ellipse.features, Point.translate])
          (by simp [features, Ellipse.features, Point.translate])

end Shape

/-!
## Documents

For the documents that can be built, nothing is asked of the extents.  Shapes in
another order have numerically the same hull.
-/

namespace Document

def addAll (d : Document) (shapes : List Shape) : Document :=
  shapes.foldl add d

def features (d : Document) : List Point :=
  d.shapes.flatMap Shape.features

def Placed (d : Document) : Prop :=
  forall s, s ∈ d.shapes -> s.Located ∧ s.Measured

theorem Sound.placed {d : Document} (h : d.Sound) (hlocated : forall s, s ∈ d.shapes -> s.Located) :
    d.Placed := by
  intro s hs
  refine ⟨hlocated s hs, ?_⟩
  simp only [shapes, List.mem_append, List.mem_map] at hs
  rcases hs with (⟨r, hr, rfl⟩ | ⟨l, hl, rfl⟩) | ⟨e, he, rfl⟩
  · exact ⟨(h.rects r hr).width, (h.rects r hr).height⟩
  · exact True.intro
  · exact ⟨(h.ellipses e he).width, (h.ellipses e he).height⟩

theorem bounds?_eq_none_iff (d : Document) : d.bounds? = none ↔ d.shapes = [] := by
  unfold bounds?
  cases d.shapes with
  | nil => simp [Box.hull?]
  | cons s shapes => simp [Box.hull?]

theorem isHull_of_bounds? {d : Document} (h : d.Placed) {b : Box} (hb : d.bounds? = some b) :
    b.IsHull d.features :=
  Box.isHull_of_hull?_eq_some
    (fun s hs => Shape.isHull_boundingBox (h s hs).1 (h s hs).2) hb

theorem shapes_add_perm (d : Document) (s : Shape) : (d.add s).shapes.Perm (s :: d.shapes) := by
  cases s with
  | rect r =>
      simp only [add, shapes, List.map_append, List.append_assoc, List.map_cons, List.map_nil]
      exact List.perm_middle
  | line l =>
      simp only [add, shapes, List.map_append, List.append_assoc, List.map_cons, List.map_nil]
      exact (List.perm_middle.append_left _).trans List.perm_middle
  | ellipse e =>
      simp only [add, shapes, List.map_append, List.map_cons, List.map_nil, ← List.append_assoc]
      exact List.perm_append_singleton _ _

theorem shapes_addAll_perm (d : Document) (added : List Shape) :
    (d.addAll added).shapes.Perm (added ++ d.shapes) := by
  induction added generalizing d with
  | nil => exact List.Perm.refl _
  | cons s added ih =>
      have hlater : (d.addAll (s :: added)).shapes.Perm (added ++ (d.add s).shapes) := ih (d.add s)
      exact (hlater.trans ((shapes_add_perm d s).append_left added)).trans List.perm_middle

theorem bounds?_of_perm {d e : Document} (hd : d.Placed) (h : d.shapes.Perm e.shapes) :
    Option.Rel Box.Same d.bounds? e.bounds? := by
  have he : e.Placed := fun s hs => hd s (h.mem_iff.mpr hs)
  have hfeatures : forall p, p ∈ d.features ↔ p ∈ e.features := by
    intro p
    simp only [features, List.mem_flatMap, h.mem_iff]
  cases hb : d.bounds? with
  | none =>
      rw [bounds?_eq_none_iff] at hb
      rw [hb] at h
      rw [(bounds?_eq_none_iff e).mpr h.nil_eq.symm]
      exact .none
  | some b =>
      cases hc : e.bounds? with
      | none =>
          rw [bounds?_eq_none_iff] at hc
          rw [hc] at h
          rw [(bounds?_eq_none_iff d).mpr h.eq_nil] at hb
          cases hb
      | some c =>
          exact .some ((isHull_of_bounds? hd hb).same (isHull_of_bounds? he hc) hfeatures)

/--
The bounds of a document are the hull of its feature points.  So they hold the
bounding boxes and the feature points of all shapes, and do not depend on the
order in which the shapes have been added.
-/
theorem bounds?_is_hull (d : Document) (h : d.Placed) :
    (d.bounds? = none ↔ d.shapes = []) ∧
      (forall b, d.bounds? = some b ->
        b.IsHull d.features ∧
          forall s, s ∈ d.shapes ->
            b.contains s.boundingBox.min = true ∧ b.contains s.boundingBox.max = true ∧
              forall p, p ∈ s.features -> b.contains p = true) ∧
      forall (start : Document) (added reordered : List Shape), d = start.addAll added ->
        added.Perm reordered -> Option.Rel Box.Same d.bounds? (start.addAll reordered).bounds? := by
  refine ⟨bounds?_eq_none_iff d, ?_, ?_⟩
  · intro b hb
    have hhull := isHull_of_bounds? h hb
    refine ⟨hhull, ?_⟩
    intro s hs
    have hbox := Shape.isHull_boundingBox (h s hs).1 (h s hs).2
    have hsub : forall p, p ∈ s.features -> p ∈ d.features :=
      fun p hp => List.mem_flatMap.mpr ⟨s, hs, hp⟩
    exact ⟨hhull.contains_min hbox hsub, hhull.contains_max hbox hsub,
      fun p hp => hhull.contains (hsub p hp)⟩
  · intro start added reordered hd hperm
    apply bounds?_of_perm h
    rw [hd]
    exact ((shapes_addAll_perm start added).trans (hperm.append_right _)).trans
      (shapes_addAll_perm start reordered).symm

/-- Shapes with both zeros, an infinite coordinate, and an extent whose half vanishes. -/
def scattered : Document :=
  { page := .standard
    rects :=
      [{ common := Common.named "R", location := { x := -0.0, y := 3.5 }, width := 1e308
         height := 0.1 }]
    lines :=
      [{ common := Common.named "L", start := { x := 0.0, y := -1.0 / 0.0 }
         finish := { x := 1e308, y := 2.0 }, startCap := .none, endCap := .none }]
    ellipses :=
      [{ common := Common.named "E", center := { x := 1.7e308, y := -4.0 }, width := 1e308
         height := 5e-324 }] }

def scatteredBounds : Box :=
  { min := { x := 0.0, y := -1.0 / 0.0 }, max := { x := 1.0 / 0.0, y := 3.6 } }

theorem bounds?_is_hull_scattered :
    scattered.Placed ∧ scattered.bounds? = some scatteredBounds ∧
      scatteredBounds.IsHull scattered.features := by
  have hplaced : scattered.Placed := by
    simp only [Placed, shapes, scattered, List.map_cons, List.map_nil, List.cons_append,
      List.nil_append, List.forall_mem_cons, List.not_mem_nil, false_implies, implies_true,
      and_true, Shape.Located, Shape.Measured, Point.IsNumber]
    decide +kernel
  have hbounds : scattered.bounds? = some scatteredBounds := by decide +kernel
  exact ⟨hplaced, hbounds, ((bounds?_is_hull scattered hplaced).2.1 _ hbounds).1⟩

end Document

end Drafting
