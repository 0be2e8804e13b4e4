import Drafting.Proofs.Chains
import Drafting.Proofs.OneLine
import Drafting.Proofs.Pages
import Drafting.Proofs.Shapes

/-!
# Messages of one line

The causes of a failure are told with texts that the row has given: an operand,
a value, a head, an identity.  For each step of planning a change, whatever it
fails with takes one line, and so does the plan as a whole.
-/

namespace Drafting

open Text

/-!
## Causes

A chain fails at an operand that is neither a number nor a name, and that
operand is made of characters of the chain.  All other causes name kinds,
numbers, and texts.
-/

namespace Expression

theorem of_mem_prepend {c d : Char} {text : List Char} {toks : List Token}
    (h : Token.operand text ∈ prepend d toks) (hc : c ∈ text) :
    c = d ∨ exists shorter, Token.operand shorter ∈ toks ∧ c ∈ shorter := by
  unfold prepend at h
  split at h
  · next first more =>
      rcases List.mem_cons.mp h with hfirst | hmem
      · cases hfirst
        exact (List.mem_cons.mp hc).imp_right fun hold => ⟨first, List.mem_cons_self, hold⟩
      · exact .inr ⟨text, List.mem_cons_of_mem _ hmem, hc⟩
  · rcases List.mem_cons.mp h with hfirst | hmem
    · cases hfirst
      exact .inl (List.mem_singleton.mp hc)
    · exact .inr ⟨text, hmem, hc⟩

theorem mem_of_mem_tokens {c : Char} {cs text : List Char} (h : Token.operand text ∈ tokens cs)
    (hc : c ∈ text) : c ∈ cs := by
  induction cs generalizing text with
  | nil => cases h
  | cons d rest ih =>
      by_cases hsign : isSign d = true
      · rw [tokens_cons_of_isSign hsign] at h
        rcases List.mem_cons.mp h with hfirst | hmem
        · cases hfirst
        · exact List.mem_cons_of_mem d (ih hmem hc)
      · rw [Bool.not_eq_true] at hsign
        by_cases hblank : isBlank d = true
        · rw [tokens_cons_of_isBlank hblank] at h
          exact List.mem_cons_of_mem d (ih h hc)
        · rw [Bool.not_eq_true] at hblank
          rw [tokens_cons_of_plain hsign hblank] at h
          rcases of_mem_prepend h hc with rfl | ⟨shorter, hmem, hold⟩
          · exact List.mem_cons_self
          · exact List.mem_cons_of_mem d (ih hmem hold)

theorem exists_operand_of_run_eq_error {symbols : SymbolTable} {chain : Chain}
    {toks : List Token} {e : ExpressionError} (h : Chain.run symbols chain toks = .error e) :
    exists text, Token.operand text ∈ toks ∧ e = .undefinedSymbol (String.ofList text) := by
  induction toks generalizing chain with
  | nil => cases h
  | cons token rest ih =>
      unfold Chain.run at h
      cases hstep : chain.step symbols token with
      | ok next =>
          rw [hstep] at h
          rcases ih h with ⟨text, hmem, he⟩
          exact ⟨text, List.mem_cons_of_mem token hmem, he⟩
      | error cause =>
          rw [hstep] at h
          cases h
          -- A sign is only kept for later; it is operands that are looked up.
          cases token with
          | sign s => cases hstep
          | operand text =>
              refine ⟨text, List.mem_cons_self, ?_⟩
              unfold Chain.step at hstep
              cases hvalue : resolve? symbols text with
              | some v => simp [hvalue] at hstep
              | none =>
                  simp only [hvalue, Except.error.injEq] at hstep
                  exact hstep.symm

theorem oneLine_message {symbols : SymbolTable} {raw : String} (hraw : OneLine raw)
    {e : ExpressionError} (h : evaluate symbols raw = .error e) : OneLine e.message := by
  have hmalformed : OneLine (ExpressionError.malformed (trimmed raw)).message :=
    (oneLine_literal rfl).append (oneLine_trimmed hraw) |>.append (oneLine_literal rfl)
  unfold evaluate at h
  split at h
  · cases h
  · split at h
    · next cause hrun =>
        cases h
        rcases exists_operand_of_run_eq_error hrun with ⟨text, hmem, rfl⟩
        have hname : OneLine (String.ofList text) :=
          oneLine_ofList.mpr fun hc => hraw (mem_of_mem_tokens hmem hc)
        exact (oneLine_literal rfl).append hname |>.append (oneLine_literal rfl)
    · split at h
      · cases h
      · cases h
        exact hmalformed

end Expression

theorem ShapeKind.oneLine_name (kind : ShapeKind) : OneLine kind.name := by
  cases kind <;> exact oneLine_literal rfl

theorem Dimension.oneLine_name (dimension : Dimension) : OneLine dimension.name := by
  cases dimension <;> exact oneLine_literal rfl

theorem ShapeError.oneLine_message (e : ShapeError) : OneLine e.message := by
  cases e with
  | nonPositiveExtent kind dimension value =>
      exact kind.oneLine_name |>.append (oneLine_literal rfl) |>.append dimension.oneLine_name
        |>.append (oneLine_literal rfl) |>.append (Decimal.oneLine_shown value)
  | invalidThickness value =>
      exact (oneLine_literal rfl).append (Decimal.oneLine_shown value)

theorem CodeKind.oneLine_text (kind : CodeKind) : OneLine kind.text := by
  cases kind <;> exact oneLine_literal rfl

theorem StyleError.oneLine_unknownColor {name : String} (h : OneLine name) :
    OneLine (unknownColor name).message :=
  (oneLine_literal rfl).append h |>.append (oneLine_literal rfl)

theorem StyleError.oneLine_unknownCode (kind : CodeKind) {code : String} (h : OneLine code) :
    OneLine (unknownCode kind code).message :=
  (oneLine_literal rfl).append kind.oneLine_text |>.append (oneLine_literal rfl) |>.append h
    |>.append (oneLine_literal rfl)

namespace Statement

def FailsInOneLine (x : Except StatementError α) : Prop :=
  forall e, x = .error e -> Text.OneLine e.message

section Failures

variable {x : Except StatementError α}

theorem failsInOneLine_ok (a : α) : FailsInOneLine (.ok a) := by
  intro e he
  cases he

theorem failsInOneLine_error {e : StatementError} (h : Text.OneLine e.message) :
    FailsInOneLine (.error e : Except StatementError α) := by
  intro f hf
  cases hf
  exact h

theorem failsInOneLine_bind {f : α -> Except StatementError β} (hx : FailsInOneLine x)
    (hf : forall a, x = .ok a -> FailsInOneLine (f a)) : FailsInOneLine (x >>= f) := by
  cases x with
  | error e => exact failsInOneLine_error (hx e rfl)
  | ok a => exact hf a rfl

theorem failsInOneLine_map (f : α -> β) (hx : FailsInOneLine x) : FailsInOneLine (x.map f) := by
  cases x with
  | error e => exact failsInOneLine_error (hx e rfl)
  | ok a => exact failsInOneLine_ok (f a)

theorem failsInOneLine_mapError {y : Except ε α} {f : ε -> StatementError}
    (h : forall e, y = .error e -> Text.OneLine (f e).message) :
    FailsInOneLine (y.mapError f) := by
  cases y with
  | error e => exact failsInOneLine_error (h e rfl)
  | ok a => exact failsInOneLine_ok a

theorem failsInOneLine_override {raw : Option String}
    {read : String -> Except StatementError α} (otherwise : α)
    (h : forall r, raw = some r -> FailsInOneLine (read r)) :
    FailsInOneLine (override raw read otherwise) := by
  cases raw with
  | none => exact failsInOneLine_ok otherwise
  | some r => exact h r rfl

end Failures

/-!
## Fields

A field is told by its key and by what stands in it.  The readers of fields fail
on their own or pass on the failure of the expression.
-/

section Fields

variable {symbols : SymbolTable} {raw : String} (hraw : Text.OneLine raw)

include hraw

theorem failsInOneLine_number : FailsInOneLine (number symbols raw) :=
  failsInOneLine_mapError fun _ he => Expression.oneLine_message hraw he

theorem failsInOneLine_wholeNumber {field : String} (hfield : Text.OneLine field) :
    FailsInOneLine (wholeNumber field symbols raw) := by
  refine failsInOneLine_bind (failsInOneLine_number hraw) fun v _ => ?_
  split
  · exact failsInOneLine_ok _
  · apply failsInOneLine_error
    exact (oneLine_literal rfl).append hraw |>.append (oneLine_literal rfl) |>.append hfield

theorem failsInOneLine_thickness : FailsInOneLine (thickness symbols raw) := by
  refine failsInOneLine_bind (failsInOneLine_number hraw) fun v _ => ?_
  refine failsInOneLine_bind ?_ fun _ _ => failsInOneLine_ok _
  apply failsInOneLine_mapError
  intro e _
  exact (oneLine_literal rfl).append e.oneLine_message

theorem failsInOneLine_label {unknown : String -> StyleError} {candidates : List α}
    {label : α -> String}
    (hunknown : forall {text : String}, Text.OneLine text -> Text.OneLine (unknown text).message) :
    FailsInOneLine ((readLabel unknown candidates label raw).mapError .style) := by
  apply failsInOneLine_mapError
  intro e he
  unfold readLabel at he
  dsimp only at he
  split at he
  · cases he
  · cases he
    exact hunknown (oneLine_trimmed hraw)

theorem failsInOneLine_color : FailsInOneLine (color raw) :=
  failsInOneLine_label hraw StyleError.oneLine_unknownColor

theorem failsInOneLine_textAlign : FailsInOneLine (textAlign raw) :=
  failsInOneLine_label hraw (StyleError.oneLine_unknownCode .alignment)

theorem failsInOneLine_capStyle : FailsInOneLine (capStyle raw) :=
  failsInOneLine_label hraw (StyleError.oneLine_unknownCode .cap)

theorem failsInOneLine_defaultValue (key : DefaultKey) :
    FailsInOneLine (defaultValue symbols key raw) := by
  cases key with
  | fillColor => exact failsInOneLine_map _ (failsInOneLine_color hraw)
  | lineColor => exact failsInOneLine_map _ (failsInOneLine_color hraw)
  | lineThickness => exact failsInOneLine_map _ (failsInOneLine_thickness hraw)
  | textAlign => exact failsInOneLine_map _ (failsInOneLine_textAlign hraw)
  | startCap => exact failsInOneLine_map _ (failsInOneLine_capStyle hraw)
  | endCap => exact failsInOneLine_map _ (failsInOneLine_capStyle hraw)

end Fields

/-!
## Plans

Each plan reads its fields one after another, and the first failure is its own.
-/

section Plans

variable {s : Statement}

theorem failsInOneLine_required (keyword : Keyword) {key : String} (position : Nat)
    (hkey : Text.OneLine key) : FailsInOneLine (s.required keyword key position) := by
  have hname : Text.OneLine keyword.name := by
    cases keyword <;> exact oneLine_literal rfl
  unfold required
  split
  · exact failsInOneLine_ok _
  · apply failsInOneLine_error
    exact hname |>.append (oneLine_literal rfl) |>.append hkey |>.append (oneLine_literal rfl)

theorem failsInOneLine_positive (measure : PageMeasure) (v : Float) :
    FailsInOneLine (positive measure v) := by
  have hlabel : Text.OneLine measure.label := by
    cases measure <;> exact oneLine_literal rfl
  unfold positive
  split
  · exact failsInOneLine_ok _
  · apply failsInOneLine_error
    exact (oneLine_literal rfl).append hlabel |>.append (oneLine_literal rfl)
      |>.append (Decimal.oneLine_shown v)

variable (h : s.OneLine)

include h

theorem failsInOneLine_requiredNumber (symbols : SymbolTable) (keyword : Keyword) {key : String}
    (position : Nat) (hkey : Text.OneLine key) :
    FailsInOneLine (s.requiredNumber symbols keyword key position) := by
  refine failsInOneLine_bind (failsInOneLine_required keyword position hkey) fun raw hraw => ?_
  exact failsInOneLine_number (h.fieldOrPosition? (required_eq_ok_iff.mp hraw))

theorem failsInOneLine_measure (symbols : SymbolTable) (measure : PageMeasure) (key : String)
    (current : Float) :
    FailsInOneLine (override (s.field? key) (pageMeasure symbols measure) current) := by
  refine failsInOneLine_override current fun raw hraw => ?_
  exact failsInOneLine_bind (failsInOneLine_number (h.field? hraw)) fun v _ =>
    failsInOneLine_positive measure v

theorem failsInOneLine_page (symbols : SymbolTable) (current : Page) :
    FailsInOneLine (s.page symbols current) := by
  refine failsInOneLine_bind (failsInOneLine_required .page 0 (oneLine_literal rfl))
    fun rawScale hrawScale => ?_
  have hraw := h.fieldOrPosition? (required_eq_ok_iff.mp hrawScale)
  refine failsInOneLine_bind (failsInOneLine_wholeNumber hraw (oneLine_literal rfl))
    fun scale _ => ?_
  split
  · apply failsInOneLine_error
    exact (oneLine_literal rfl).append (Decimal.oneLine_whole scale)
  · refine failsInOneLine_bind
      (failsInOneLine_requiredNumber h symbols .page 1 (oneLine_literal rfl)) fun v _ => ?_
    refine failsInOneLine_bind (failsInOneLine_positive .grid v) fun grid _ => ?_
    refine failsInOneLine_bind (failsInOneLine_measure h symbols .width "w" _) fun width _ => ?_
    refine failsInOneLine_bind (failsInOneLine_measure h symbols .height "h" _) fun height _ => ?_
    refine failsInOneLine_bind (failsInOneLine_measure h symbols .snap "sn" _) fun snap _ => ?_
    exact failsInOneLine_ok _

theorem failsInOneLine_common (session : Session) : FailsInOneLine (s.common session) := by
  refine failsInOneLine_bind (failsInOneLine_override _ fun raw hraw =>
    failsInOneLine_wholeNumber (h.field? hraw) (oneLine_literal rfl)) fun layer _ => ?_
  refine failsInOneLine_bind (failsInOneLine_override _ fun raw hraw =>
    failsInOneLine_thickness (h.field? hraw)) fun thickness _ => ?_
  refine failsInOneLine_bind (failsInOneLine_override _ fun raw hraw =>
    failsInOneLine_color (h.field? hraw)) fun lineColor _ => ?_
  refine failsInOneLine_bind (failsInOneLine_override _ fun raw hraw =>
    failsInOneLine_color (h.field? hraw)) fun fillColor _ => ?_
  refine failsInOneLine_bind (failsInOneLine_override _ fun raw hraw =>
    failsInOneLine_textAlign (h.field? hraw)) fun align _ => ?_
  exact failsInOneLine_ok _

theorem failsInOneLine_rect (session : Session) : FailsInOneLine (s.rect session) := by
  refine failsInOneLine_bind (failsInOneLine_common h session) fun common hcommon => ?_
  have hid : Text.OneLine common.id := by
    rw [(givesCommon_of_common hcommon).id]
    exact oneLine_getD h.name
  have hnumber : forall {key : String} (position : Nat), Text.OneLine key ->
      FailsInOneLine (s.requiredNumber session.symbols .rect key position) := fun position hkey =>
    failsInOneLine_requiredNumber h session.symbols .rect position hkey
  refine failsInOneLine_bind (hnumber 0 (oneLine_literal rfl)) fun x _ => ?_
  refine failsInOneLine_bind (hnumber 1 (oneLine_literal rfl)) fun y _ => ?_
  refine failsInOneLine_bind (hnumber 2 (oneLine_literal rfl)) fun width _ => ?_
  refine failsInOneLine_bind (hnumber 3 (oneLine_literal rfl)) fun height _ => ?_
  -- Only extents that are not positive are told with the identity of the shape.
  split
  · apply failsInOneLine_error
    exact (oneLine_literal rfl).append hid |>.append (oneLine_literal rfl)
      |>.append (Decimal.oneLine_shown width) |>.append (oneLine_literal rfl)
      |>.append (Decimal.oneLine_shown height)
  · exact failsInOneLine_mapError fun e _ => (oneLine_literal rfl).append e.oneLine_message

theorem failsInOneLine_line (session : Session) : FailsInOneLine (s.line session) := by
  have hnumber : forall {key : String} (position : Nat), Text.OneLine key ->
      FailsInOneLine (s.requiredNumber session.symbols .line key position) := fun position hkey =>
    failsInOneLine_requiredNumber h session.symbols .line position hkey
  refine failsInOneLine_bind (failsInOneLine_common h session) fun common _ => ?_
  refine failsInOneLine_bind (hnumber 0 (oneLine_literal rfl)) fun startX _ => ?_
  refine failsInOneLine_bind (hnumber 1 (oneLine_literal rfl)) fun startY _ => ?_
  refine failsInOneLine_bind (hnumber 2 (oneLine_literal rfl)) fun finishX _ => ?_
  refine failsInOneLine_bind (hnumber 3 (oneLine_literal rfl)) fun finishY _ => ?_
  refine failsInOneLine_bind (failsInOneLine_override _ fun raw hraw =>
    failsInOneLine_capStyle (h.field? hraw)) fun startCap _ => ?_
  refine failsInOneLine_bind (failsInOneLine_override _ fun raw hraw =>
    failsInOneLine_capStyle (h.field? hraw)) fun endCap _ => ?_
  exact failsInOneLine_ok _

theorem failsInOneLine_assignment (symbols : SymbolTable) :
    FailsInOneLine (s.assignment symbols) := by
  unfold assignment
  split
  · apply failsInOneLine_error
    exact (oneLine_literal rfl).append h.head |>.append (oneLine_literal rfl)
  · split
    · next key _ => exact failsInOneLine_map _ (failsInOneLine_defaultValue h.head key)
    · split
      · exact failsInOneLine_error (oneLine_literal rfl)
      · exact failsInOneLine_map _ (failsInOneLine_number h.head)

/-- Every way in which a statement can fail is told in one line. -/
theorem failsInOneLine_plan (d : Drawing) : FailsInOneLine (s.plan d) := by
  unfold plan
  split
  · exact failsInOneLine_map _ (failsInOneLine_page h _ _)
  · exact failsInOneLine_map _ (failsInOneLine_rect h _)
  · exact failsInOneLine_map _ (failsInOneLine_line h _)
  · exact failsInOneLine_assignment h _

end Plans

end Statement

end Drafting
