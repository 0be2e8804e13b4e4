import Drafting.Proofs.Hulls

/-!
# Boxes that grow

A box is widened by points and by other boxes, one after the other.  It stands
for a list of points: an empty box for none, and any other box for the points
that it is the hull of.  Widening a box puts further points on that list.

So two boxes that are put together in different ways, or in a different order,
come out numerically the same as long as the same points are on their lists.
Only empty boxes have to be told apart: whichever of them came first is kept.
-/

namespace Drafting

theorem spans_of_le {lo hi : Float} {vs : List Float} (h : lo ≤ hi) (hlo : lo ∈ vs)
    (hhi : hi ∈ vs) (hvs : forall v, v ∈ vs -> v = lo ∨ v = hi) : Spans lo hi vs := by
  rcases Decimal.isNaN_eq_false_of_le h with ⟨hnanLo, hnanHi⟩
  constructor
  · intro v hv
    rcases hvs v hv with rfl | rfl
    · exact Decimal.le_self hnanLo
    · exact h
  · intro v hv
    rcases hvs v hv with rfl | rfl
    · exact h
    · exact Decimal.le_self hnanHi
  · exact occurs_of_mem hnanLo hlo
  · exact occurs_of_mem hnanHi hhi

namespace Box

def IsNumber (b : Box) : Prop :=
  b.min.IsNumber ∧ b.max.IsNumber

theorem Same.refl {b : Box} (h : b.IsNumber) : b.Same b := by
  have hself : forall {v : Float}, v.isNaN = false -> (v == v) = true := fun hv =>
    Decimal.beq_of_le_of_le (Decimal.le_self hv) (Decimal.le_self hv)
  exact ⟨hself h.1.1, hself h.1.2, hself h.2.1, hself h.2.2⟩

/-- The points that a box adds to what it is put together with. -/
def extremes (b : Box) : List Point :=
  if b.isEmpty then [] else b.corners

theorem extremes_of_isEmpty {b : Box} (h : b.isEmpty = true) : b.extremes = [] :=
  if_pos h

theorem extremes_eq_nil_iff {b : Box} : b.extremes = [] ↔ b.isEmpty = true := by
  constructor
  · intro h
    by_contra hne
    rw [extremes, if_neg hne] at h
    cases h
  · exact extremes_of_isEmpty

theorem isHull_corners {b : Box} (h : b.IsNumber) (hne : b.isEmpty = false) :
    b.IsHull b.corners := by
  simp only [isEmpty, Bool.or_eq_false_iff, decide_eq_false_iff_not] at hne
  constructor
  · exact spans_of_le (Decimal.le_of_not_lt h.2.1 h.1.1 hne.1) (by simp [corners])
      (by simp [corners]) (by simp [corners])
  · exact spans_of_le (Decimal.le_of_not_lt h.2.2 h.1.2 hne.2) (by simp [corners])
      (by simp [corners]) (by simp [corners])

/-!
## What a box stands for

Boxes that stand for the same points are numerically the same, unless there are
no points.  The points of two boxes that are put together are those of both.
-/

/-- The box is the hull of the points, and empty when there are none. -/
def StandsFor (b : Box) (ps : List Point) : Prop :=
  (b.isEmpty = true ∧ ps = []) ∨ b.IsHull ps

theorem standsFor_of_isEmpty {b : Box} (h : b.isEmpty = true) : b.StandsFor [] :=
  .inl ⟨h, rfl⟩

theorem standsFor_extremes {b : Box} (h : b.IsNumber) : b.StandsFor b.extremes := by
  by_cases hempty : b.isEmpty = true
  · rw [extremes_of_isEmpty hempty]
    exact standsFor_of_isEmpty hempty
  · rw [extremes, if_neg hempty]
    exact .inr (isHull_corners h (Bool.eq_false_iff.mpr hempty))

theorem IsHull.ne_nil {b : Box} {ps : List Point} (h : b.IsHull ps) : ps ≠ [] := by
  rintro rfl
  rcases h.x.lowest with ⟨v, hv, _⟩
  cases hv

namespace StandsFor

variable {b c : Box} {p : Point} {ps qs : List Point} (h : b.StandsFor ps)

include h

theorem isEmpty_iff : b.isEmpty = true ↔ ps = [] := by
  rcases h with ⟨hempty, hnil⟩ | hhull
  · exact iff_of_true hempty hnil
  · exact iff_of_false (Bool.eq_false_iff.mp hhull.isEmpty_eq_false) hhull.ne_nil

theorem isHull (hne : ps ≠ []) : b.IsHull ps :=
  h.resolve_left fun hnone => hne hnone.2

theorem includePoint (hp : p.IsNumber) : (b.includePoint p).IsHull (ps ++ [p]) := by
  rcases h with ⟨hempty, rfl⟩ | hhull
  · rw [includePoint_of_isEmpty p hempty]
    exact isHull_singleton hp
  · exact hhull.includePoint hp

theorem includeBox (hc : c.StandsFor qs) : (b.includeBox c).StandsFor (ps ++ qs) := by
  rcases hc with ⟨hempty, rfl⟩ | hhull
  · rw [includeBox_of_isEmpty hempty, List.append_nil]
    exact h
  · -- The first corner may replace an empty box, and the second one widens what is there then.
    have hfirst : (b.includePoint c.min).IsHull (ps ++ [c.min]) := h.includePoint hhull.isNumber_min
    rw [Box.includeBox, if_neg (by simp [hhull.isEmpty_eq_false])]
    exact .inr (hhull.of_corners (hfirst.includePoint hhull.isNumber_max))

theorem same (hc : c.StandsFor qs) (hpoints : forall q, q ∈ ps ↔ q ∈ qs) (hne : ps ≠ []) :
    b.Same c := by
  rcases List.exists_mem_of_ne_nil ps hne with ⟨q, hq⟩
  have hqs : qs ≠ [] := List.ne_nil_of_mem ((hpoints q).mp hq)
  exact (h.isHull hne).same (hc.isHull hqs) hpoints

end StandsFor

/-!
## Laws of putting boxes together

Each law compares two lists of points.  Where the lists are empty nothing has
been taken in, and the boxes are the same for that reason.
-/

section Laws

variable {a b c : Box}

theorem includeBox_self (ha : a.IsNumber) : (a.includeBox a).Same a := by
  have hstands := standsFor_extremes ha
  by_cases hempty : a.isEmpty = true
  · rw [includeBox_of_isEmpty hempty]
    exact Same.refl ha
  · exact (hstands.includeBox hstands).same hstands (by simp)
      (by simp [extremes_eq_nil_iff, hempty])

theorem includeBox_comm (ha : a.IsNumber) (hb : b.IsNumber)
    (hsome : ¬ (a.isEmpty = true ∧ b.isEmpty = true)) :
    (a.includeBox b).Same (b.includeBox a) := by
  have hleft := (standsFor_extremes ha).includeBox (standsFor_extremes hb)
  have hright := (standsFor_extremes hb).includeBox (standsFor_extremes ha)
  refine hleft.same hright ?_ ?_
  · intro q
    rw [List.mem_append, List.mem_append, or_comm]
  · simp only [Ne, List.append_eq_nil_iff, extremes_eq_nil_iff]
    exact hsome

theorem empty_includeBox_same (ha : a.isEmpty = true) (hb : b.IsNumber) (hne : b.isEmpty = false) :
    (a.includeBox b).Same b := by
  have hstands := (standsFor_of_isEmpty ha).includeBox (standsFor_extremes hb)
  exact hstands.same (standsFor_extremes hb) (by simp) (by simp [extremes_eq_nil_iff, hne])

theorem includeBox_assoc (ha : a.IsNumber) (hb : b.IsNumber) (hc : c.IsNumber) :
    ((a.includeBox b).includeBox c).Same (a.includeBox (b.includeBox c)) := by
  have hleft := ((standsFor_extremes ha).includeBox (standsFor_extremes hb)).includeBox
    (standsFor_extremes hc)
  have hright := (standsFor_extremes ha).includeBox
    ((standsFor_extremes hb).includeBox (standsFor_extremes hc))
  rw [List.append_assoc] at hleft
  -- With two empty boxes on the right nothing happens, and the first box may be empty as well.
  by_cases hnone : b.isEmpty = true ∧ c.isEmpty = true
  · rw [includeBox_of_isEmpty hnone.2, includeBox_of_isEmpty hnone.2,
      includeBox_of_isEmpty hnone.1]
    exact Same.refl ha
  · refine hleft.same hright (fun q => Iff.rfl) ?_
    simp only [Ne, List.append_eq_nil_iff, extremes_eq_nil_iff]
    exact fun hall => hnone hall.2

end Laws

/-!
## Runs

A step takes in a point itself, or the corners of a box that is not empty.
Whatever a box stands for before a run, after it there are the points of all
steps as well.
-/

inductive Step where
  | point (p : Point)
  | box (b : Box)
deriving DecidableEq

namespace Step

def apply (b : Box) : Step -> Box
  | point p => b.includePoint p
  | box c => b.includeBox c

def points : Step -> List Point
  | point p => [p]
  | box b => b.extremes

def IsNumber : Step -> Prop
  | point p => p.IsNumber
  | box b => b.IsNumber

def IsVoid : Step -> Prop
  | point _ => False
  | box b => b.isEmpty = true

theorem points_eq_nil_iff {s : Step} : s.points = [] ↔ s.IsVoid := by
  cases s with
  | point p => exact iff_of_false (List.cons_ne_nil p []) id
  | box b => exact extremes_eq_nil_iff

theorem apply_of_isVoid {s : Step} (h : s.IsVoid) (b : Box) : s.apply b = b := by
  cases s with
  | point p => cases h
  | box c => exact includeBox_of_isEmpty h

theorem standsFor_apply {s : Step} {b : Box} {ps : List Point} (hs : s.IsNumber)
    (h : b.StandsFor ps) : (s.apply b).StandsFor (ps ++ s.points) := by
  cases s with
  | point p => exact .inr (h.includePoint hs)
  | box c => exact h.includeBox (standsFor_extremes hs)

end Step

def widened (b : Box) (steps : List Step) : Box :=
  steps.foldl (fun b s => s.apply b) b

theorem widened_cons (b : Box) (s : Step) (steps : List Step) :
    b.widened (s :: steps) = (s.apply b).widened steps := rfl

theorem standsFor_widened {b : Box} {ps : List Point} (h : b.StandsFor ps) {steps : List Step}
    (hsteps : forall s, s ∈ steps -> s.IsNumber) :
    (b.widened steps).StandsFor (ps ++ steps.flatMap Step.points) := by
  induction steps generalizing b ps with
  | nil =>
      rw [List.flatMap_nil, List.append_nil]
      exact h
  | cons s steps ih =>
      rw [List.forall_mem_cons] at hsteps
      rw [widened_cons, List.flatMap_cons, ← List.append_assoc]
      exact ih (Step.standsFor_apply hsteps.1 h) hsteps.2

theorem widened_of_isVoid {steps : List Step} (h : forall s, s ∈ steps -> s.IsVoid) (b : Box) :
    b.widened steps = b := by
  induction steps with
  | nil => rfl
  | cons s steps ih =>
      rw [List.forall_mem_cons] at h
      rw [widened_cons, Step.apply_of_isVoid h.1, ih h.2]

theorem flatMap_points_eq_nil_iff {steps : List Step} :
    steps.flatMap Step.points = [] ↔ forall s, s ∈ steps -> s.IsVoid := by
  simp only [List.flatMap_eq_nil_iff, Step.points_eq_nil_iff]

/--
Putting boxes together is idempotent, associative, and commutative, up to
numerical equality and unless both boxes are empty; empty boxes change nothing.
A box that starts empty stays as it is when nothing is taken in.  Otherwise it
becomes the hull of all points taken in, in whatever order and however often
that is done.
-/
theorem accumulation_is_semilattice :
    (forall a b c : Box, a.IsNumber -> b.IsNumber -> c.IsNumber ->
      (a.includeBox a).Same a ∧
      ((a.includeBox b).includeBox c).Same (a.includeBox (b.includeBox c)) ∧
      (¬ (a.isEmpty = true ∧ b.isEmpty = true) -> (a.includeBox b).Same (b.includeBox a)) ∧
      (b.isEmpty = true -> a.includeBox b = a) ∧
      (a.isEmpty = true -> b.isEmpty = false -> (a.includeBox b).Same b)) ∧
    forall (start : Box) (steps : List Step), start.isEmpty = true ->
      (forall s, s ∈ steps -> s.IsNumber) ->
      ((start.widened steps).isEmpty = true ↔ forall s, s ∈ steps -> s.IsVoid) ∧
      ((forall s, s ∈ steps -> s.IsVoid) -> start.widened steps = start) ∧
      ((¬ forall s, s ∈ steps -> s.IsVoid) ->
        (start.widened steps).IsHull (steps.flatMap Step.points) ∧
        forall (other : Box) (others : List Step), other.isEmpty = true ->
          (forall s, s ∈ others ↔ s ∈ steps) ->
          (other.widened others).Same (start.widened steps)) := by
  constructor
  · intro a b c ha hb hc
    exact ⟨includeBox_self ha, includeBox_assoc ha hb hc, includeBox_comm ha hb,
      includeBox_of_isEmpty, fun hempty => empty_includeBox_same hempty hb⟩
  · intro start steps hstart hsteps
    have hstands := standsFor_widened (standsFor_of_isEmpty hstart) hsteps
    rw [List.nil_append] at hstands
    refine ⟨?_, fun hvoid => widened_of_isVoid hvoid start, ?_⟩
    · rw [hstands.isEmpty_iff, flatMap_points_eq_nil_iff]
    · intro hsome
      rw [← flatMap_points_eq_nil_iff] at hsome
      refine ⟨hstands.isHull hsome, ?_⟩
      intro other others hother hsame
      have hothers : forall s, s ∈ others -> s.IsNumber := fun s hs => hsteps s ((hsame s).mp hs)
      -- A hull depends on which points there are, not on their order or how often they occur.
      have hpoints : forall p, p ∈ others.flatMap Step.points ↔ p ∈ steps.flatMap Step.points := by
        intro p
        simp only [List.mem_flatMap, hsame]
      have hlater := standsFor_widened (standsFor_of_isEmpty hother) hothers
      refine hlater.same hstands hpoints ?_
      rintro hnone
      rw [List.nil_append, flatMap_points_eq_nil_iff] at hnone
      exact hsome (flatMap_points_eq_nil_iff.mpr fun s hs => hnone s ((hsame s).mpr hs))

def folded : Box :=
  { min := { x := 0.0, y := 5.0 }, max := { x := 2.0, y := 3.0 } }

def tile : Box :=
  { min := { x := -1.0, y := -0.0 }, max := { x := 1.0, y := 4.0 } }

def corner : Point :=
  { x := 3.0, y := -1.0 / 0.0 }

theorem accumulation_is_semilattice_tile :
    folded.IsNumber ∧ tile.IsNumber ∧ folded.isEmpty = true ∧ tile.isEmpty = false ∧
      (folded.includeBox tile).Same tile ∧
      ((folded.includeBox tile).includeBox folded).Same
        (folded.includeBox (tile.includeBox folded)) ∧
      (folded.widened [.box folded, .point corner, .box tile]).IsHull (corner :: tile.corners) ∧
      (empty.widened [.box tile, .point corner, .box folded, .box tile]).Same
        (folded.widened [.box folded, .point corner, .box tile]) := by
  have hfolded : folded.IsNumber := by
    simp only [IsNumber, Point.IsNumber]
    decide +kernel
  have htile : tile.IsNumber := by
    simp only [IsNumber, Point.IsNumber]
    decide +kernel
  have hcorner : corner.IsNumber := by
    simp only [Point.IsNumber]
    decide +kernel
  have hempty : folded.isEmpty = true := by decide +kernel
  have hsome : tile.isEmpty = false := by decide +kernel
  have hlaws := accumulation_is_semilattice.1 folded tile folded hfolded htile hfolded
  have hruns := accumulation_is_semilattice.2 folded [.box folded, .point corner, .box tile] hempty
    (by simp [Step.IsNumber, hfolded, hcorner, htile])
  have hhull := hruns.2.2 (by simp [Step.IsVoid])
  have hpoints : [Step.box folded, .point corner, .box tile].flatMap Step.points =
      corner :: tile.corners := by
    simp [Step.points, extremes, hempty, hsome]
  have hmembers : forall r s t u : Step, u ∈ [t, s, r, t] ↔ u ∈ [r, s, t] := by
    intro r s t u
    simp only [List.mem_cons, List.not_mem_nil, or_false]
    constructor
    · rintro (h | h | h | h) <;> simp [h]
    · rintro (h | h | h) <;> simp [h]
  rw [hpoints] at hhull
  have hsame := hhull.2 empty [.box tile, .point corner, .box folded, .box tile] isEmpty_empty
    (hmembers (.box folded) (.point corner) (.box tile))
  exact ⟨hfolded, htile, hempty, hsome, hlaws.2.2.2.2 hempty hsome, hlaws.2.1, hhull.1, hsame⟩

end Box

end Drafting
