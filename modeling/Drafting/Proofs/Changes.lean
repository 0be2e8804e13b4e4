import Drafting.Proofs.Plans

/-!
# Statements change what they report

A statement either fails and leaves the drawing alone, or reports one effect.
The effect names the part of the drawing that has changed, and everything else
in the session and in the document is as it was before.
-/

namespace Drafting

namespace StyleDefaults

def value (d : StyleDefaults) : DefaultKey -> DefaultValue
  | .fillColor => .fillColor d.fillColor
  | .lineColor => .lineColor d.lineColor
  | .lineThickness => .lineThickness d.lineThickness
  | .textAlign => .textAlign d.textAlign
  | .startCap => .startCap d.startCap
  | .endCap => .endCap d.endCap

theorem value_set_key (d : StyleDefaults) (value : DefaultValue) :
    (d.set value).value value.key = value := by
  cases value <;> rfl

theorem value_set_of_ne (d : StyleDefaults) {value : DefaultValue} {key : DefaultKey}
    (h : key ≠ value.key) : (d.set value).value key = d.value key := by
  cases value <;> cases key <;>
    first
      | rfl
      | exact absurd rfl h

end StyleDefaults

namespace Document

theorem mem_shapes_add {d : Document} {s other : Shape} :
    other ∈ (d.add s).shapes ↔ other ∈ d.shapes ∨ other = s := by
  cases s <;> simp [add, shapes, or_assoc, or_comm]

def shapesOf (d : Document) : ShapeKind -> List Shape
  | .rect => d.rects.map .rect
  | .line => d.lines.map .line
  | .ellipse => d.ellipses.map .ellipse

theorem shapesOf_setPage (d : Document) (page : Page) (kind : ShapeKind) :
    (d.setPage page).shapesOf kind = d.shapesOf kind := by
  cases kind <;> rfl

theorem shapesOf_add_kind (d : Document) (s : Shape) :
    (d.add s).shapesOf s.kind = d.shapesOf s.kind ++ [s] := by
  cases s <;> simp [add, shapesOf, Shape.kind]

theorem shapesOf_add_of_ne (d : Document) {s : Shape} {kind : ShapeKind}
    (h : kind ≠ s.kind) : (d.add s).shapesOf kind = d.shapesOf kind := by
  cases s <;> cases kind <;>
    first
      | rfl
      | exact absurd rfl h

end Document

namespace Effect

/--
What an effect claims about the drawings before and after a statement: the part
it names is what the statement asks for, and the rest has not changed.
-/
def Accounts (s : Statement) (before after : Drawing) : Effect -> Prop
  | .pageSet =>
      after.session = before.session ∧
        (forall kind, after.document.shapesOf kind = before.document.shapesOf kind) ∧
        s.page before.session.symbols before.document.page = .ok after.document.page
  | .shapeAdded kind id =>
      after.session = before.session ∧
        after.document.page = before.document.page ∧
        (exists shape, shape.kind = kind ∧ shape.id = id ∧
          s.Builds before.session shape ∧
          after.document.shapesOf kind = before.document.shapesOf kind ++ [shape]) ∧
        forall other, other ≠ kind ->
          after.document.shapesOf other = before.document.shapesOf other
  | .defaultUpdated key =>
      after.document = before.document ∧
        after.session.symbols = before.session.symbols ∧
        s.name.bind Statement.defaultKey? = some key ∧
        Statement.defaultValue before.session.symbols key s.head =
          .ok (after.session.defaults.value key) ∧
        forall other, other ≠ key ->
          after.session.defaults.value other = before.session.defaults.value other
  | .symbolAssigned name value =>
      after.document = before.document ∧
        after.session.defaults = before.session.defaults ∧
        s.name = some name ∧
        Statement.number before.session.symbols s.head = .ok value ∧
        after.session.symbols.get? name = some value ∧
        forall other, other ≠ name ->
          after.session.symbols.get? other = before.session.symbols.get? other

end Effect

namespace Drawing

theorem accounts_enact {s : Statement} {d : Drawing} {change : Change}
    (h : s.Asks d change) : change.effect.Accounts s d (d.enact change) := by
  cases change with
  | page page =>
      rcases h with ⟨_, hpage⟩
      exact ⟨rfl, d.document.shapesOf_setPage page, hpage⟩
  | shape shape =>
      refine ⟨rfl, d.document.page_add shape, ?_, ?_⟩
      · exact ⟨shape, rfl, rfl, h, d.document.shapesOf_add_kind shape⟩
      · intro other hother
        exact d.document.shapesOf_add_of_ne hother
  | default value =>
      rcases h with ⟨_, name, hname, hkey, hvalue⟩
      refine ⟨rfl, rfl, ?_, ?_, ?_⟩
      · rw [hname]
        exact hkey
      · rw [hvalue]
        exact congrArg Except.ok (d.session.defaults.value_set_key value).symm
      · intro other hother
        exact d.session.defaults.value_set_of_ne hother
  | symbol name value =>
      rcases h with ⟨_, hname, _, _, hnumber⟩
      refine ⟨rfl, rfl, hname, hnumber, ?_, ?_⟩
      · exact (d.session.symbols.get?_set name name value).trans (if_pos rfl)
      · intro other hother
        exact (d.session.symbols.get?_set name other value).trans (if_neg hother)

/--
A statement that fails changes nothing, and one that succeeds changes exactly
what its effect reports.
-/
theorem execute_changes_what_it_reports (d : Drawing) (s : Statement) :
    match d.execute s with
    | (.error _, after) => after = d
    | (.ok effect, after) => effect.Accounts s d after := by
  unfold execute
  cases hplan : s.plan d with
  | error e => rfl
  | ok change => exact accounts_enact (Statement.plan_eq_ok_iff.mp hplan)

end Drawing

end Drafting
