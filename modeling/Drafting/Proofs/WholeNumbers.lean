import Drafting.Proofs.Decimal.WholeFloats
import Drafting.Proofs.Overrides
import Drafting.Proofs.Pages
import Drafting.Proofs.Shapes

/-!
# Whole numbers in fields

Layers and scales are whole numbers.  An expression gives one exactly if its
value is whole and no larger than `2 ^ 31 - 1`, and then it is that value, which
no conversion to a word of 32 bits can change.  All other values are errors, and
leave the drawing as it was.
-/

namespace Drafting

namespace Statement

/-- The float is this whole number, which has room in a word of 32 bits. -/
def IsBoundedWhole (v : Float) (n : Int) : Prop :=
  Decimal.IsWhole v n ∧ n.natAbs ≤ 2147483647

theorem boundedWhole?_eq_some_iff {v : Float} {n : Int} :
    boundedWhole? v = some n ↔ IsBoundedWhole v n := by
  unfold boundedWhole? IsBoundedWhole
  rw [← Decimal.whole?_eq_some_iff]
  cases (Decimal.Binary.ofFloat v).whole? with
  | none => simp
  | some m =>
      simp only [Option.ite_none_right_eq_some, Option.some.injEq]
      constructor
      · rintro ⟨hbound, rfl⟩
        exact ⟨rfl, hbound⟩
      · rintro ⟨rfl, hbound⟩
        exact ⟨hbound, rfl⟩

theorem boundedWhole?_eq_none_iff {v : Float} :
    boundedWhole? v = none ↔ forall n, ¬ IsBoundedWhole v n := by
  simp only [Option.eq_none_iff_forall_ne_some, ne_eq, boundedWhole?_eq_some_iff]

/-- What becomes of the number in the words of integers that it goes through. -/
structure IsKept (v : Float) (n : Int) : Prop where
  finite : v.isFinite = true
  same : (v == .ofModel (.ofInt n)) = true
  long : v.toModel.toInt64.toInt = n
  signed : v.toModel.toInt64.toInt32.toInt = n
  unsigned : 0 ≤ n -> (v.toModel.toInt64.toUInt64.toUInt32.toNat : Int) = n

theorem IsBoundedWhole.isKept {v : Float} {n : Int} (h : IsBoundedWhole v n) : IsKept v n where
  finite := h.1.1
  same := h.1.beq_ofInt
  long := h.1.toInt_toInt64 h.2
  signed := h.1.toInt_toInt32 h.2
  unsigned := h.1.toNat_toUInt32 h.2

/-- The same, asked of the arithmetic of floats: no fraction, and not too large. -/
theorem exists_isBoundedWhole_iff {v : Float} :
    (exists n, IsBoundedWhole v n) ↔
      (v - Decimal.cutOff v == 0.0) = true ∧ v.abs ≤ 2147483647.0 := by
  rw [Decimal.sub_cutOff_beq_zero_iff]
  constructor
  · rintro ⟨n, hwhole, hbound⟩
    exact ⟨⟨n, hwhole⟩, hwhole.abs_le_iff.mpr hbound⟩
  · rintro ⟨⟨n, hwhole⟩, habs⟩
    exact ⟨n, hwhole, hwhole.abs_le_iff.mp habs⟩

/-!
## Reading a whole number

The value of the expression settles which whole number is read, or that none is.
The field then is malformed, whatever else the value is.
-/

variable {field raw : String} {symbols : SymbolTable} {v : Float} {n : Int}

theorem number_eq_ok_iff : number symbols raw = .ok v ↔ Expression.evaluate symbols raw = .ok v :=
  mapError_eq_ok_iff

theorem wholeNumber_of_evaluate (h : Expression.evaluate symbols raw = .ok v) :
    wholeNumber field symbols raw =
      match boundedWhole? v with
      | some n => .ok n
      | none => .error (.malformedField field raw) := by
  have hnumber : number symbols raw = .ok v := number_eq_ok_iff.mpr h
  rw [wholeNumber, hnumber]
  rfl

theorem wholeNumber_of_isBoundedWhole (h : Expression.evaluate symbols raw = .ok v)
    (hwhole : IsBoundedWhole v n) : wholeNumber field symbols raw = .ok n := by
  rw [wholeNumber_of_evaluate h, boundedWhole?_eq_some_iff.mpr hwhole]

theorem wholeNumber_of_not_isBoundedWhole (h : Expression.evaluate symbols raw = .ok v)
    (hnone : forall n, ¬ IsBoundedWhole v n) :
    wholeNumber field symbols raw = .error (.malformedField field raw) := by
  rw [wholeNumber_of_evaluate h, boundedWhole?_eq_none_iff.mpr hnone]

theorem wholeNumber_eq_ok_iff :
    wholeNumber field symbols raw = .ok n ↔
      exists v, Expression.evaluate symbols raw = .ok v ∧ IsBoundedWhole v n := by
  constructor
  · intro h
    rw [wholeNumber, bind_eq_ok_iff] at h
    rcases h with ⟨v, hnumber, h⟩
    refine ⟨v, number_eq_ok_iff.mp hnumber, ?_⟩
    rw [← boundedWhole?_eq_some_iff]
    cases hwhole : boundedWhole? v with
    | none => simp [hwhole] at h
    | some m =>
        simp only [hwhole, Except.ok.injEq] at h
        rw [h]
  · rintro ⟨v, h, hwhole⟩
    exact wholeNumber_of_isBoundedWhole h hwhole

/-!
## Layers

The layer is read before everything else of a shape, so its error is the error
of the statement.
-/

section Layers

variable {s : Statement} {session : Session}

theorem wholeNumber_of_common {c : Common} (hfield : s.field? "lr" = some raw)
    (h : s.common session = .ok c) : wholeNumber "lr" session.symbols raw = .ok c.layer := by
  simp only [common, bind_eq_ok_iff, Except.ok.injEq, hfield, override] at h
  rcases h with ⟨layer, hlayer, _, _, _, _, _, _, _, _, rfl⟩
  exact hlayer

theorem common_of_wholeNumber_eq_error {e : StatementError} (hfield : s.field? "lr" = some raw)
    (h : wholeNumber "lr" session.symbols raw = .error e) : s.common session = .error e := by
  simp only [common, hfield, override, h]
  rfl

theorem plan_of_common_eq_error {d : Drawing} {e : StatementError} (hs : s.IsShape)
    (h : s.common d.session = .error e) : s.plan d = .error e := by
  unfold plan
  rcases hs with hrect | hline
  · have hhead : Keyword.ofHead? s.head = some .rect := hrect
    rw [hhead]
    simp only [rect, h]
    rfl
  · have hhead : Keyword.ofHead? s.head = some .line := hline
    rw [hhead]
    simp only [line, h]
    rfl

theorem exists_shape_of_asks {d : Drawing} {change : Change} (hs : s.IsShape)
    (h : s.Asks d change) : exists shape, change = .shape shape ∧ s.Builds d.session shape := by
  have hhead : Keyword.ofHead? s.head = some .rect ∨ Keyword.ofHead? s.head = some .line := hs
  cases change with
  | shape shape => exact ⟨shape, rfl, h⟩
  | page page => rcases hhead with heq | heq <;> rw [h.1] at heq <;> cases heq
  | default value => rcases hhead with heq | heq <;> rw [h.1] at heq <;> cases heq
  | symbol name value => rcases hhead with heq | heq <;> rw [h.1] at heq <;> cases heq

end Layers

/-!
## Scales

The scale is the first field of a page, and has to be positive besides.
-/

section Scales

variable {s : Statement} {current : Page}

theorem page_of_wholeNumber_eq_error {e : StatementError}
    (hfield : s.fieldOrPosition? "sc" 0 = some raw)
    (h : wholeNumber "sc" symbols raw = .error e) : s.page symbols current = .error e := by
  simp only [page, required, hfield]
  show (wholeNumber "sc" symbols raw >>= _) = _
  rw [h]
  rfl

theorem page_of_scale_not_positive (hfield : s.fieldOrPosition? "sc" 0 = some raw)
    (h : wholeNumber "sc" symbols raw = .ok n) (hn : n ≤ 0) :
    s.page symbols current = .error (.scaleNotPositive n) := by
  simp only [page, required, hfield]
  show (wholeNumber "sc" symbols raw >>= _) = _
  rw [h]
  exact if_pos hn

theorem plan_page_eq {d : Drawing} (hs : s.keyword? = some .page) :
    s.plan d = (s.page d.session.symbols d.document.page).map .page := by
  have hhead : Keyword.ofHead? s.head = some .page := hs
  rw [plan, hhead]

end Scales

end Statement

namespace Drawing

open Statement

variable {d : Drawing} {s : Statement} {raw : String} {effect : Effect}

theorem execute_of_plan_eq_error {e : StatementError} (h : s.plan d = .error e) :
    d.execute s = (.error e, d) := by
  rw [execute, h]

theorem exists_asks_of_execute (h : (d.execute s).1 = .ok effect) :
    exists change, s.Asks d change ∧ (d.execute s).2 = d.enact change := by
  unfold execute at h ⊢
  cases hplan : s.plan d with
  | error e => simp [hplan] at h
  | ok change => exact ⟨change, plan_eq_ok_iff.mp hplan, rfl⟩

theorem layer_of_execute (hs : s.IsShape) (hfield : s.field? "lr" = some raw)
    (h : (d.execute s).1 = .ok effect) :
    exists shape v, (d.execute s).2.document = d.document.add shape ∧
      Expression.evaluate d.session.symbols raw = .ok v ∧
        IsBoundedWhole v shape.common.layer := by
  rcases exists_asks_of_execute h with ⟨change, hasks, hafter⟩
  rcases exists_shape_of_asks hs hasks with ⟨shape, rfl, hbuilds⟩
  have hread := wholeNumber_of_common hfield (common_of_builds hbuilds)
  rcases wholeNumber_eq_ok_iff.mp hread with ⟨v, hvalue, hwhole⟩
  exact ⟨shape, v, by rw [hafter]; rfl, hvalue, hwhole⟩

theorem scale_of_execute (hs : s.keyword? = some .page) (h : (d.execute s).1 = .ok effect) :
    exists raw v, s.fieldOrPosition? "sc" 0 = some raw ∧
      Expression.evaluate d.session.symbols raw = .ok v ∧
        IsBoundedWhole v (d.execute s).2.document.page.scale ∧
          1 ≤ (d.execute s).2.document.page.scale := by
  rw [execute, plan_page_eq hs] at h ⊢
  cases hpage : s.page d.session.symbols d.document.page with
  | error e =>
      rw [hpage] at h
      cases h
  | ok page =>
      have hgives := givesPage_of_page hpage
      rcases hgives.scale with ⟨raw, hfield, hread⟩
      rcases wholeNumber_eq_ok_iff.mp hread with ⟨v, hvalue, hwhole⟩
      exact ⟨raw, v, hfield, hvalue, hwhole, hgives.scale_pos⟩

/--
No whole number is ever cut or wrapped.  A field reads as one exactly if its
expression has that value, and a layer or a scale that is stored is that value;
whatever has another value is rejected, and nothing is changed.
-/
theorem whole_numbers_are_exact :
    (forall field symbols raw,
      (forall n, wholeNumber field symbols raw = .ok n ↔
        exists v, Expression.evaluate symbols raw = .ok v ∧ IsBoundedWhole v n) ∧
      forall v, Expression.evaluate symbols raw = .ok v -> (forall n, ¬ IsBoundedWhole v n) ->
        wholeNumber field symbols raw = .error (.malformedField field raw)) ∧
    (forall v : Float,
      ((exists n, IsBoundedWhole v n) ↔
        (v - Decimal.cutOff v == 0.0) = true ∧ v.abs ≤ 2147483647.0) ∧
      forall n, IsBoundedWhole v n -> IsKept v n) ∧
    (forall (d : Drawing) (s : Statement) raw, s.IsShape -> s.field? "lr" = some raw ->
      (forall effect, (d.execute s).1 = .ok effect ->
        exists shape v, (d.execute s).2.document = d.document.add shape ∧
          Expression.evaluate d.session.symbols raw = .ok v ∧
          IsBoundedWhole v shape.common.layer) ∧
      forall v, Expression.evaluate d.session.symbols raw = .ok v ->
        (forall n, ¬ IsBoundedWhole v n) ->
        d.execute s = (.error (.malformedField "lr" raw), d)) ∧
    forall (d : Drawing) (s : Statement), s.keyword? = some .page ->
      (forall effect, (d.execute s).1 = .ok effect ->
        exists raw v, s.fieldOrPosition? "sc" 0 = some raw ∧
          Expression.evaluate d.session.symbols raw = .ok v ∧
          IsBoundedWhole v (d.execute s).2.document.page.scale ∧
          1 ≤ (d.execute s).2.document.page.scale) ∧
      forall raw v, s.fieldOrPosition? "sc" 0 = some raw ->
        Expression.evaluate d.session.symbols raw = .ok v ->
        ((forall n, ¬ IsBoundedWhole v n) ->
          d.execute s = (.error (.malformedField "sc" raw), d)) ∧
        forall n, IsBoundedWhole v n -> n ≤ 0 ->
          d.execute s = (.error (.scaleNotPositive n), d) ∧
          (StatementError.scaleNotPositive n).kind = .validation := by
  refine ⟨?_, ?_, ?_, ?_⟩
  · intro field symbols raw
    exact ⟨fun n => wholeNumber_eq_ok_iff, fun v => wholeNumber_of_not_isBoundedWhole⟩
  · intro v
    exact ⟨exists_isBoundedWhole_iff, fun n h => h.isKept⟩
  · intro d s raw hs hfield
    refine ⟨fun effect => layer_of_execute hs hfield, ?_⟩
    intro v hvalue hnone
    have hread : wholeNumber "lr" d.session.symbols raw = .error (.malformedField "lr" raw) :=
      wholeNumber_of_not_isBoundedWhole hvalue hnone
    exact execute_of_plan_eq_error
      (plan_of_common_eq_error hs (common_of_wholeNumber_eq_error hfield hread))
  · intro d s hs
    refine ⟨fun effect => scale_of_execute hs, ?_⟩
    intro raw v hfield hvalue
    constructor
    · intro hnone
      have hread : wholeNumber "sc" d.session.symbols raw = .error (.malformedField "sc" raw) :=
        wholeNumber_of_not_isBoundedWhole hvalue hnone
      apply execute_of_plan_eq_error
      rw [plan_page_eq hs, page_of_wholeNumber_eq_error hfield hread]
      rfl
    · intro n hwhole hn
      have hread : wholeNumber "sc" d.session.symbols raw = .ok n :=
        wholeNumber_of_isBoundedWhole hvalue hwhole
      refine ⟨execute_of_plan_eq_error ?_, rfl⟩
      rw [plan_page_eq hs, page_of_scale_not_positive hfield hread hn]
      rfl

def lowest : Statement :=
  Statement.ofLine "R = rect: 0, 0, 2, 2, lr = 1 - 2147483648"

def overflowing : Statement :=
  Statement.ofLine "page: 1e308 + 1e308, 1"

theorem whole_numbers_are_exact_ends :
    (exists shape v, (blank.execute lowest).2.document = blank.document.add shape ∧
      Expression.evaluate blank.session.symbols "1 - 2147483648" = .ok v ∧
      IsBoundedWhole v shape.common.layer) ∧
    (forall n, ¬ IsBoundedWhole (1.0 / 0.0) n) ∧
    blank.execute overflowing = (.error (.malformedField "sc" "1e308 + 1e308"), blank) ∧
    blank.execute (Statement.ofLine "page: -0, 1") = (.error (.scaleNotPositive 0), blank) := by
  have hwide : forall n, ¬ IsBoundedWhole (1.0 / 0.0) n := by
    intro n h
    have htest := (whole_numbers_are_exact.2.1 (1.0 / 0.0)).1.mp ⟨n, h⟩
    have hnot : (1.0 / 0.0 - Decimal.cutOff (1.0 / 0.0) == 0.0) = false := by decide +kernel
    rw [hnot] at htest
    cases htest.1
  have hzero : IsBoundedWhole (-0.0) 0 := by
    have hread : wholeNumber "sc" blank.session.symbols "-0" = .ok 0 := by decide +kernel
    have hvalue : Expression.evaluate blank.session.symbols "-0" = .ok (-0.0) := by
      decide +kernel
    rcases ((whole_numbers_are_exact.1 "sc" blank.session.symbols "-0").1 0).mp hread with
      ⟨v, hv, hwhole⟩
    rw [hvalue] at hv
    cases hv
    exact hwhole
  refine ⟨?_, hwide, ?_, ?_⟩
  · exact (whole_numbers_are_exact.2.2.1 blank lowest "1 - 2147483648" (by decide +kernel)
      (by decide +kernel)).1 (.shapeAdded .rect "R") (by decide +kernel)
  · exact ((whole_numbers_are_exact.2.2.2 blank overflowing (by decide +kernel)).2
      "1e308 + 1e308" (1.0 / 0.0) (by decide +kernel) (by decide +kernel)).1 hwide
  · exact (((whole_numbers_are_exact.2.2.2 blank (Statement.ofLine "page: -0, 1")
      (by decide +kernel)).2 "-0" (-0.0) (by decide +kernel) (by decide +kernel)).2 0 hzero
        (by decide)).1

end Drawing

end Drafting
