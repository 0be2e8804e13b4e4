import Drafting.Proofs.Plans

/-!
# More symbols do no harm

An expression that has a value keeps it when more names are bound: numbers are
read before names, and a name that is bound already stays bound to the same
number.  So whatever can be read off a statement under some symbols can be read
off it under more of them, and the statement asks for the same change.
-/

namespace Drafting

/-- Whatever the first computation gives, the second gives as well. -/
def Keeps (x y : Except ε α) : Prop :=
  forall a, x = .ok a -> y = .ok a

namespace Keeps

theorem refl (x : Except ε α) : Keeps x x :=
  fun _ h => h

theorem bind {x y : Except ε α} {f g : α -> Except ε β} (h : Keeps x y)
    (hrest : forall a, Keeps (f a) (g a)) : Keeps (x >>= f) (y >>= g) := by
  intro b hb
  rcases bind_eq_ok_iff.mp hb with ⟨a, ha, hf⟩
  exact bind_eq_ok_iff.mpr ⟨a, h a ha, hrest a b hf⟩

theorem map {x y : Except ε α} (f : α -> β) (h : Keeps x y) : Keeps (x.map f) (y.map f) := by
  intro b hb
  rcases map_eq_ok_iff.mp hb with ⟨a, ha, hf⟩
  exact map_eq_ok_iff.mpr ⟨a, h a ha, hf⟩

theorem mapError {x y : Except ε α} (f : ε -> δ) (h : Keeps x y) :
    Keeps (x.mapError f) (y.mapError f) := by
  intro a ha
  exact mapError_eq_ok_iff.mpr (h a (mapError_eq_ok_iff.mp ha))

end Keeps

namespace SymbolTable

def Within (t u : SymbolTable) : Prop :=
  forall name v, t.get? name = some v -> u.get? name = some v

end SymbolTable

variable {t u : SymbolTable}

namespace Expression

theorem resolve?_within (h : t.Within u) {text : List Char} {v : Float}
    (hv : resolve? t text = some v) : resolve? u text = some v := by
  unfold resolve? at hv ⊢
  cases hliteral : literal? text with
  | some w =>
      rw [hliteral] at hv
      exact hv
  | none =>
      rw [hliteral] at hv
      exact h _ v hv

theorem step_within (h : t.Within u) (c : Chain) (token : Token) :
    Keeps (c.step t token) (c.step u token) := by
  intro next hnext
  cases token with
  | sign s => exact hnext
  | operand text =>
      cases hresolve : resolve? t text with
      | none => simp [Chain.step, hresolve] at hnext
      | some v =>
          simp only [Chain.step, hresolve] at hnext
          simp only [Chain.step, resolve?_within h hresolve]
          exact hnext

theorem run_within (h : t.Within u) (c : Chain) (tokens : List Token) :
    Keeps (Chain.run t c tokens) (Chain.run u c tokens) := by
  induction tokens generalizing c with
  | nil => exact Keeps.refl _
  | cons token rest ih =>
      intro chain hchain
      unfold Chain.run at hchain ⊢
      cases hstep : c.step t token with
      | error e => simp [hstep] at hchain
      | ok next =>
          rw [hstep] at hchain
          rw [step_within h c token next hstep]
          exact ih next chain hchain

theorem evaluate_within (h : t.Within u) (raw : String) :
    Keeps (evaluate t raw) (evaluate u raw) := by
  intro v hv
  unfold evaluate at hv ⊢
  cases hliteral : literal? raw.toList with
  | some w =>
      rw [hliteral] at hv
      exact hv
  | none =>
      rw [hliteral] at hv
      cases hrun : Chain.run t .start (tokens raw.toList) with
      | error e => simp [hrun] at hv
      | ok chain =>
          rw [run_within h .start _ chain hrun]
          rw [hrun] at hv
          exact hv

end Expression

namespace Statement

/-!
## Fields

Every reader of a field evaluates an expression, or does not look at symbols.
-/

theorem number_within (h : t.Within u) (raw : String) :
    Keeps (number t raw) (number u raw) :=
  (Expression.evaluate_within h raw).mapError _

theorem wholeNumber_within (h : t.Within u) (field raw : String) :
    Keeps (wholeNumber field t raw) (wholeNumber field u raw) :=
  (number_within h raw).bind fun _ => Keeps.refl _

theorem thickness_within (h : t.Within u) (raw : String) :
    Keeps (thickness t raw) (thickness u raw) :=
  (number_within h raw).bind fun _ => Keeps.refl _

theorem requiredNumber_within (h : t.Within u) (s : Statement) (keyword : Keyword)
    (key : String) (position : Nat) :
    Keeps (s.requiredNumber t keyword key position) (s.requiredNumber u keyword key position) :=
  (Keeps.refl _).bind fun raw => number_within h raw

theorem pageMeasure_within (h : t.Within u) (measure : PageMeasure) (raw : String) :
    Keeps (pageMeasure t measure raw) (pageMeasure u measure raw) :=
  (number_within h raw).bind fun _ => Keeps.refl _

theorem override_within {read more : String -> Except StatementError α}
    (h : forall raw, Keeps (read raw) (more raw)) (raw : Option String) (otherwise : α) :
    Keeps (override raw read otherwise) (override raw more otherwise) := by
  cases raw with
  | none => exact Keeps.refl _
  | some raw => exact h raw

theorem defaultValue_within (h : t.Within u) (key : DefaultKey) (raw : String) :
    Keeps (defaultValue t key raw) (defaultValue u key raw) := by
  cases key with
  | lineThickness => exact (thickness_within h raw).map _
  | fillColor => exact Keeps.refl _
  | lineColor => exact Keeps.refl _
  | textAlign => exact Keeps.refl _
  | startCap => exact Keeps.refl _
  | endCap => exact Keeps.refl _

/-!
## Pages and shapes

What is built from fields asks for the same fields in the same order.
-/

theorem page_within (h : t.Within u) (s : Statement) (current : Page) :
    Keeps (s.page t current) (s.page u current) := by
  apply (Keeps.refl _).bind
  intro rawScale
  apply (wholeNumber_within h "sc" rawScale).bind
  intro scale
  split
  · exact Keeps.refl _
  · apply (requiredNumber_within h s .page "gr" 1).bind
    intro gridValue
    apply (Keeps.refl _).bind
    intro grid
    apply (override_within (pageMeasure_within h .width) _ _).bind
    intro width
    apply (override_within (pageMeasure_within h .height) _ _).bind
    intro height
    apply (override_within (pageMeasure_within h .snap) _ _).bind
    intro snap
    exact Keeps.refl _

variable {defaults : StyleDefaults}

theorem common_within (h : t.Within u) (s : Statement) :
    Keeps (s.common { symbols := t, defaults := defaults })
      (s.common { symbols := u, defaults := defaults }) := by
  apply (override_within (wholeNumber_within h "lr") _ _).bind
  intro layer
  apply (override_within (thickness_within h) _ _).bind
  intro thickness
  exact Keeps.refl _

theorem rect_within (h : t.Within u) (s : Statement) :
    Keeps (s.rect { symbols := t, defaults := defaults })
      (s.rect { symbols := u, defaults := defaults }) := by
  apply (common_within h s).bind
  intro common
  apply (requiredNumber_within h s .rect "x" 0).bind
  intro x
  apply (requiredNumber_within h s .rect "y" 1).bind
  intro y
  apply (requiredNumber_within h s .rect "w" 2).bind
  intro width
  apply (requiredNumber_within h s .rect "h" 3).bind
  intro height
  exact Keeps.refl _

theorem line_within (h : t.Within u) (s : Statement) :
    Keeps (s.line { symbols := t, defaults := defaults })
      (s.line { symbols := u, defaults := defaults }) := by
  apply (common_within h s).bind
  intro common
  apply (requiredNumber_within h s .line "sx" 0).bind
  intro startX
  apply (requiredNumber_within h s .line "sy" 1).bind
  intro startY
  apply (requiredNumber_within h s .line "ex" 2).bind
  intro finishX
  apply (requiredNumber_within h s .line "ey" 3).bind
  intro finishY
  exact Keeps.refl _

theorem builds_within (h : t.Within u) {s : Statement} {shape : Shape}
    (hbuilds : s.Builds { symbols := t, defaults := defaults } shape) :
    s.Builds { symbols := u, defaults := defaults } shape := by
  cases shape with
  | rect r => exact ⟨hbuilds.1, rect_within h s r hbuilds.2⟩
  | line l => exact ⟨hbuilds.1, line_within h s l hbuilds.2⟩
  | ellipse e => cases hbuilds

/-- With more symbols a statement still asks for the same change. -/
theorem asks_within {document : Document} (h : t.Within u) {s : Statement} {change : Change}
    (hasks : s.Asks
      { session := { symbols := t, defaults := defaults }, document := document } change) :
    s.Asks { session := { symbols := u, defaults := defaults }, document := document }
      change := by
  cases change with
  | page page => exact ⟨hasks.1, page_within h s _ page hasks.2⟩
  | shape shape => exact builds_within h hasks
  | default value =>
      rcases hasks with ⟨hhead, name, hname, hkey, hvalue⟩
      exact ⟨hhead, name, hname, hkey, defaultValue_within h _ _ value hvalue⟩
  | symbol name value =>
      rcases hasks with ⟨hhead, hname, hkey, hne, hnumber⟩
      exact ⟨hhead, hname, hkey, hne, number_within h _ value hnumber⟩

end Statement

end Drafting
