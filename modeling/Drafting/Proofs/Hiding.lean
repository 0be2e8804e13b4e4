import Drafting.Scene

/-!
# Hidden layers

For every question that is asked of a scene, a shape on a hidden layer might as
well not be there: the answers are those for the document from which all such
shapes have been taken out.  Which shapes these are depends on the number of
their layer alone, and it is never a shape outside the four layers.
-/

namespace Drafting

namespace Document

def withoutLayers (d : Document) (layers : List Int) : Document :=
  { d with
    rects := d.rects.filter fun r => r.common.layer ∉ layers
    lines := d.lines.filter fun l => l.common.layer ∉ layers
    ellipses := d.ellipses.filter fun e => e.common.layer ∉ layers }

theorem shapes_withoutLayers (d : Document) (layers : List Int) :
    (d.withoutLayers layers).shapes = d.shapes.filter fun shape => shape.layer ∉ layers := by
  simp only [shapes, withoutLayers, List.filter_append, List.filter_map]
  rfl

end Document

namespace Layer

theorem number_inj {l other : Layer} : l.number = other.number ↔ l = other := by
  constructor
  · intro h
    have hsome := ofNumber?_number l
    rw [h, ofNumber?_number] at hsome
    exact (Option.some.inj hsome).symm
  · intro h
    rw [h]

theorem number_range (l : Layer) : 1 ≤ l.number ∧ l.number ≤ 4 := by
  cases l <;> decide

theorem ofNumber?_eq_none_iff {n : Int} : ofNumber? n = none ↔ ¬ (1 ≤ n ∧ n ≤ 4) := by
  constructor
  · intro h hrange
    have hcases : n = 1 ∨ n = 2 ∨ n = 3 ∨ n = 4 := by omega
    rcases hcases with rfl | rfl | rfl | rfl <;> cases h
  · intro h
    cases hlayer : ofNumber? n with
    | none => rfl
    | some l =>
        have hrange := l.number_range
        rw [← ofNumber?_eq_some_iff.mp hlayer] at hrange
        exact absurd hrange h

end Layer

namespace Scene

def hiddenNumbers (s : Scene) : List Int :=
  s.hidden.map Layer.number

theorem mem_hiddenNumbers {s : Scene} {l : Layer} : l.number ∈ s.hiddenNumbers ↔ l ∈ s.hidden := by
  simp only [hiddenNumbers, List.mem_map, Layer.number_inj, exists_eq_right]

theorem range_of_mem_hiddenNumbers {s : Scene} {n : Int} (h : n ∈ s.hiddenNumbers) :
    1 ≤ n ∧ n ≤ 4 := by
  rcases List.mem_map.mp h with ⟨l, _, rfl⟩
  exact l.number_range

theorem isLayerVisible_iff (s : Scene) (n : Int) :
    s.isLayerVisible n = true ↔ n ∉ s.hiddenNumbers := by
  unfold isLayerVisible
  cases hlayer : Layer.ofNumber? n with
  | none =>
      have hnot : n ∉ s.hiddenNumbers := by
        intro hmem
        exact Layer.ofNumber?_eq_none_iff.mp hlayer (range_of_mem_hiddenNumbers hmem)
      simp [hnot]
  | some l =>
      rw [Layer.ofNumber?_eq_some_iff.mp hlayer, mem_hiddenNumbers]
      simp

theorem visibleShapes_eq (s : Scene) :
    s.visibleShapes = (s.document.withoutLayers s.hiddenNumbers).shapes := by
  rw [Document.shapes_withoutLayers, visibleShapes]
  apply List.filter_congr
  intro shape _
  rw [Bool.eq_iff_iff, isLayerVisible_iff, decide_eq_true_iff]

theorem visibleShapes_ofDocument (d : Document) : (ofDocument d).visibleShapes = d.shapes := by
  rw [visibleShapes_eq]
  show (d.withoutLayers []).shapes = d.shapes
  simp [Document.shapes_withoutLayers]

/-!
## Questions

A question looks at nothing but the visible shapes, so scenes with the same
visible shapes give the same answers.
-/

section Questions

variable {s t : Scene} (h : s.visibleShapes = t.visibleShapes)

include h

theorem hits_of_visibleShapes_eq (p : Point) (radius : Float) :
    s.hits p radius = t.hits p radius := by
  rw [hits, hits, h]

theorem within_of_visibleShapes_eq (area : Box) (mode : ContainMode) :
    s.within area mode = t.within area mode := by
  rw [within, within, h]

theorem visibleBounds?_of_visibleShapes_eq : s.visibleBounds? = t.visibleBounds? := by
  rw [visibleBounds?, visibleBounds?, h]

end Questions

/--
A scene answers every question as a scene in which nothing is hidden does, whose
document is without the shapes on the hidden layers.  Shapes outside the four
layers are all still there, and if nothing is hidden, the visible shapes have the
bounds of the document.
-/
theorem hidden_is_deleted (s : Scene) :
    let remaining := s.document.withoutLayers s.hiddenNumbers
    let bare := ofDocument remaining
    (forall n, s.isLayerVisible n = false ↔ n ∈ s.hiddenNumbers) ∧
      remaining.shapes =
        s.document.shapes.filter (fun shape => shape.layer ∉ s.hiddenNumbers) ∧
      (s.visibleShapes = bare.visibleShapes ∧
        (forall p radius, s.hits p radius = bare.hits p radius) ∧
        (forall area mode, s.within area mode = bare.within area mode) ∧
        s.visibleBounds? = bare.visibleBounds?) ∧
      (remaining.shapes.filter fun shape => shape.layer < 1 ∨ 4 < shape.layer) =
        (s.document.shapes.filter fun shape => shape.layer < 1 ∨ 4 < shape.layer) ∧
      (ofDocument s.document).visibleBounds? = s.document.bounds? := by
  intro remaining bare
  have hremaining := s.document.shapes_withoutLayers s.hiddenNumbers
  have hvisible : s.visibleShapes = bare.visibleShapes := by
    rw [visibleShapes_eq, visibleShapes_ofDocument]
  refine ⟨?_, hremaining, ⟨hvisible, hits_of_visibleShapes_eq hvisible,
    within_of_visibleShapes_eq hvisible, visibleBounds?_of_visibleShapes_eq hvisible⟩, ?_, ?_⟩
  · intro n
    rw [← Bool.not_eq_true, isLayerVisible_iff, Decidable.not_not]
  · rw [hremaining, List.filter_filter]
    apply List.filter_congr
    intro shape _
    -- Only numbers of the four layers are ever hidden.
    by_cases houtside : shape.layer < 1 ∨ 4 < shape.layer
    · have hnot : shape.layer ∉ s.hiddenNumbers := by
        intro hmem
        have hrange := range_of_mem_hiddenNumbers hmem
        omega
      simp [houtside, hnot]
    · simp [houtside]
  · rw [visibleBounds?, visibleShapes_ofDocument, Document.bounds?]

end Scene

end Drafting
