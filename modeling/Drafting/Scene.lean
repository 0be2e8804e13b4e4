import Drafting.Document
import Drafting.Text.Quoted

/-!
# Scenes

A scene is a document to ask questions about.  Its four numbered layers can be
hidden one by one; shapes on any other layer are always visible.  Questions are
answered for the visible shapes, in the order of the document, and never change
the document.

Numbers that are no such layer are passed over when a list of layers is hidden.
A shape is looked up by its identity whether it is visible or not, and the first
one counts.  A hit names the position of its feature, counted from one.
-/

namespace Drafting

inductive Layer where
  | one
  | two
  | three
  | four
deriving DecidableEq

namespace Layer

def number : Layer -> Int
  | one => 1
  | two => 2
  | three => 3
  | four => 4

def ofNumber? (n : Int) : Option Layer :=
  if n = 1 then some one
  else if n = 2 then some two
  else if n = 3 then some three
  else if n = 4 then some four
  else none

theorem ofNumber?_number (l : Layer) : ofNumber? l.number = some l := by
  cases l <;> rfl

theorem ofNumber?_eq_some_iff {n : Int} {l : Layer} :
    ofNumber? n = some l ↔ n = l.number := by
  constructor
  · intro h
    unfold ofNumber? at h
    split at h
    · cases h; assumption
    · split at h
      · cases h; assumption
      · split at h
        · cases h; assumption
        · split at h
          · cases h; assumption
          · cases h
  · intro h
    rw [h]
    exact ofNumber?_number l

end Layer

inductive SceneError where
  | layerOutOfRange (layer : Int)
  | shapeNotFound (id : String)
deriving DecidableEq

namespace SceneError

def message : SceneError -> String
  | layerOutOfRange layer =>
      "layer " ++ Decimal.whole layer ++
        " is outside the visibility range 1..=4"
  | shapeNotFound id => "shape with id " ++ Text.quoted id ++ " not found"

end SceneError

structure Hit where
  kind : ShapeKind
  id : String
  feature : Nat
deriving DecidableEq

structure Scene where
  document : Document
  hidden : List Layer
deriving DecidableEq

namespace Scene

def ofDocument (d : Document) : Scene :=
  { document := d, hidden := [] }

def isLayerVisible (s : Scene) (layer : Int) : Bool :=
  match Layer.ofNumber? layer with
  | none => true
  | some l => ! decide (l ∈ s.hidden)

def setLayer (s : Scene) (l : Layer) (visible : Bool) : Scene :=
  let others := s.hidden.filter fun other => other ≠ l
  { s with hidden := if visible then others else l :: others }

def setLayerVisible (s : Scene) (layer : Int) (visible : Bool) : Except SceneError Scene :=
  match Layer.ofNumber? layer with
  | none => .error (.layerOutOfRange layer)
  | some l => .ok (s.setLayer l visible)

def hideAll (s : Scene) (layers : List Int) : Scene :=
  layers.foldl
    (fun s layer =>
      match s.setLayerVisible layer false with
      | .ok s => s
      | .error _ => s)
    s

def visibleShapes (s : Scene) : List Shape :=
  s.document.shapes.filter fun shape => s.isLayerVisible shape.layer

def hits (s : Scene) (p : Point) (radius : Float) : List Hit :=
  s.visibleShapes.filterMap fun shape =>
    (shape.featureAt? p radius).map fun feature =>
      { kind := shape.kind, id := shape.id, feature := feature }

def within (s : Scene) (area : Box) (mode : ContainMode) : List Shape :=
  s.visibleShapes.filter fun shape => shape.containedIn area mode

def visibleBounds? (s : Scene) : Option Box :=
  Box.hull? (s.visibleShapes.map Shape.boundingBox)

def shape (s : Scene) (id : String) : Except SceneError Shape :=
  match s.document.find? id with
  | some shape => .ok shape
  | none => .error (.shapeNotFound id)

@[simp] theorem document_setLayer (s : Scene) (l : Layer) (visible : Bool) :
    (s.setLayer l visible).document = s.document := rfl

/-- Setting a layer decides its visibility and leaves the other layers alone. -/
theorem mem_hidden_setLayer (s : Scene) (l other : Layer) (visible : Bool) :
    other ∈ (s.setLayer l visible).hidden ↔
      if other = l then visible = false else other ∈ s.hidden := by
  unfold setLayer
  by_cases h : other = l <;> cases visible <;> simp [h]

end Scene

end Drafting
