import Drafting.Proofs.Outcomes
import Drafting.Scene.Request

/-!
# Understanding requests

Arguments are looked up by position only after their number has been checked, so
a look-up never fails, whatever has been typed.  And a request is understood as
one that sets a layer if it has the name for it and a single argument that is a
whole number, and in no other case.
-/

namespace Drafting

namespace Request

/-!
## Looking up arguments

As many values are read as there are arguments, and positions are asked for only
within the number of arguments that a request allows.
-/

theorem length_numbers {arguments : List String} {values : List Float}
    (h : numbers arguments = .ok values) : values.length = arguments.length := by
  induction arguments generalizing values with
  | nil =>
      cases h
      rfl
  | cons argument rest ih =>
      simp only [numbers, bind_eq_ok_iff, Except.ok.injEq] at h
      rcases h with ⟨v, _, more, hmore, rfl⟩
      rw [List.length_cons, List.length_cons, ih hmore]

/-- The error, if there is one, is no defect. -/
def Sane (x : Except RequestError α) : Prop :=
  forall e, x = .error e -> e.isDefect = false

theorem sane_ok (a : α) : Sane (.ok a : Except RequestError α) := by
  intro e h
  cases h

theorem sane_bind {x : Except RequestError α} {f : α -> Except RequestError β} (hx : Sane x)
    (hf : forall a, x = .ok a -> Sane (f a)) : Sane (x >>= f) := by
  cases x with
  | error e =>
      intro e' h
      cases h
      exact hx e rfl
  | ok a => exact hf a rfl

theorem sane_number (argument : String) : Sane (number argument) := by
  unfold number
  split <;> intro e h <;> cases h
  rfl

theorem sane_numbers (arguments : List String) : Sane (numbers arguments) := by
  induction arguments with
  | nil => exact sane_ok []
  | cons argument rest ih =>
      apply sane_bind (sane_number argument)
      intro v _
      apply sane_bind ih
      intro more _
      exact sane_ok _

theorem sane_numericArguments (name : String) (low high : Nat) (arguments : List String) :
    Sane (numericArguments name low high arguments) := by
  unfold numericArguments
  split
  · intro e h
    cases h
    rfl
  · exact sane_numbers arguments

theorem le_length_of_numericArguments {name : String} {low high : Nat} {arguments : List String}
    {values : List Float} (h : numericArguments name low high arguments = .ok values) :
    low ≤ values.length := by
  unfold numericArguments at h
  split at h
  · cases h
  · next hrange =>
      rw [length_numbers h]
      omega

theorem valueAt_of_lt {values : List Float} {position : Nat} (h : position < values.length) :
    valueAt values position = .ok values[position] := by
  unfold valueAt
  rw [List.getElem?_eq_getElem h]

theorem sane_valueAt {values : List Float} {position : Nat} (h : position < values.length) :
    Sane (valueAt values position) := by
  rw [valueAt_of_lt h]
  exact sane_ok _

theorem sane_pickOf (defaultRadius : Float) (arguments : List String) :
    Sane (pickOf defaultRadius arguments) := by
  apply sane_bind (sane_numericArguments "pick" 2 3 arguments)
  intro values hvalues
  have hlength := le_length_of_numericArguments hvalues
  apply sane_bind (sane_valueAt (by omega))
  intro x _
  apply sane_bind (sane_valueAt (by omega))
  intro y _
  exact sane_ok _

theorem sane_windowOf (arguments : List String) (mode : ContainMode) :
    Sane (windowOf arguments mode) := by
  apply sane_bind (sane_numericArguments "within" 4 4 arguments)
  intro values hvalues
  have hlength := le_length_of_numericArguments hvalues
  apply sane_bind (sane_valueAt (by omega))
  intro x _
  apply sane_bind (sane_valueAt (by omega))
  intro y _
  apply sane_bind (sane_valueAt (by omega))
  intro width _
  apply sane_bind (sane_valueAt (by omega))
  intro height _
  exact sane_ok _

theorem sane_modeOf (raw : String) : Sane (modeOf raw) := by
  unfold modeOf
  split
  · exact sane_ok _
  · split
    · exact sane_ok _
    · intro e h
      cases h
      rfl

theorem sane_withinOf (arguments : List String) : Sane (withinOf arguments) := by
  unfold withinOf
  split
  · exact sane_windowOf _ _
  · next mode =>
      apply sane_bind (sane_modeOf mode)
      intro m _
      exact sane_windowOf _ m
  · intro e h
    cases h
    rfl

theorem sane_layerOf (name : String) (visible : Bool) (arguments : List String) :
    Sane (layerOf name visible arguments) := by
  unfold layerOf
  split
  · split
    · exact sane_ok _
    · intro e h
      cases h
      rfl
  · intro e h
    cases h
    rfl

theorem sane_ofArguments (defaultRadius : Float) (name : String) (arguments : List String) :
    Sane (ofArguments defaultRadius name arguments) := by
  unfold ofArguments
  split
  · exact sane_pickOf defaultRadius arguments
  · split
    · exact sane_withinOf arguments
    · split
      · exact sane_ok _
      · split
        · exact sane_layerOf _ false arguments
        · split
          · exact sane_layerOf _ true arguments
          · intro e h
            cases h
            rfl

/-!
## Requests that set a layer

A layer is hidden or shown by its whole number and nothing else.  The other
requests never come out as one of these two.
-/

theorem layerOf_eq_ok_iff {name : String} {visible : Bool} {arguments : List String}
    {request : Request} :
    layerOf name visible arguments = .ok request ↔
      exists raw layer, arguments = [raw] ∧ Decimal.readInt32 (Text.trim raw.toList) = some layer ∧
        request = .setLayer layer visible := by
  unfold layerOf
  split
  · next raw =>
      cases hread : Decimal.readInt32 (Text.trim raw.toList) with
      | none => simp [hread]
      | some layer => simp [hread, eq_comm]
  · next hmany =>
      constructor
      · intro h
        cases h
      · intro h
        rcases h with ⟨raw, _, rfl, _⟩
        exact absurd rfl (hmany raw)

theorem ne_setLayer_of_pickOf {defaultRadius : Float} {arguments : List String}
    {request : Request} (h : pickOf defaultRadius arguments = .ok request) (layer : Int)
    (visible : Bool) : request ≠ .setLayer layer visible := by
  simp only [pickOf, bind_eq_ok_iff, Except.ok.injEq] at h
  rcases h with ⟨values, _, x, _, y, _, rfl⟩
  intro heq
  cases heq

theorem ne_setLayer_of_windowOf {arguments : List String} {mode : ContainMode}
    {request : Request} (h : windowOf arguments mode = .ok request) (layer : Int)
    (visible : Bool) : request ≠ .setLayer layer visible := by
  simp only [windowOf, bind_eq_ok_iff, Except.ok.injEq] at h
  rcases h with ⟨values, _, x, _, y, _, width, _, height, _, rfl⟩
  intro heq
  cases heq

theorem ne_setLayer_of_withinOf {arguments : List String} {request : Request}
    (h : withinOf arguments = .ok request) (layer : Int) (visible : Bool) :
    request ≠ .setLayer layer visible := by
  unfold withinOf at h
  split at h
  · exact ne_setLayer_of_windowOf h layer visible
  · rw [bind_eq_ok_iff] at h
    rcases h with ⟨mode, _, h⟩
    exact ne_setLayer_of_windowOf h layer visible
  · cases h

def settingName (visible : Bool) : String :=
  if visible then "show_layer" else "hide_layer"

/-- Only the two requests for it set the visibility of a layer, and each its own way. -/
theorem ofArguments_eq_setLayer_iff {defaultRadius : Float} {name : String}
    {arguments : List String} {layer : Int} {visible : Bool} :
    ofArguments defaultRadius name arguments = .ok (.setLayer layer visible) ↔
      name = settingName visible ∧
        exists raw, arguments = [raw] ∧
          Decimal.readInt32 (Text.trim raw.toList) = some layer := by
  have hnames : "pick" ≠ settingName visible ∧ "within" ≠ settingName visible ∧
      "bounds" ≠ settingName visible := by
    cases visible <;> decide
  -- The requests that ask for something come first, and none of them sets a layer.
  by_cases hpick : name = "pick"
  · subst hpick
    constructor
    · intro h
      exact absurd rfl (ne_setLayer_of_pickOf h layer visible)
    · intro h
      exact absurd h.1 hnames.1
  by_cases hwithin : name = "within"
  · subst hwithin
    constructor
    · intro h
      exact absurd rfl (ne_setLayer_of_withinOf h layer visible)
    · intro h
      exact absurd h.1 hnames.2.1
  by_cases hbounds : name = "bounds"
  · subst hbounds
    constructor
    · intro h
      cases h
    · intro h
      exact absurd h.1 hnames.2.2
  rw [ofArguments, if_neg hpick, if_neg hwithin, if_neg hbounds]
  by_cases hhide : name = "hide_layer"
  · rw [if_pos hhide, layerOf_eq_ok_iff]
    cases visible <;> simp [hhide, settingName]
  rw [if_neg hhide]
  by_cases hshow : name = "show_layer"
  · rw [if_pos hshow, layerOf_eq_ok_iff]
    cases visible <;> simp [hshow, settingName]
  · cases visible <;> simp [hhide, hshow, settingName]

end Request

end Drafting
