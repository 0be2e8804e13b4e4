import Drafting.Proofs.Changes
import Drafting.Proofs.History
import Drafting.Proofs.Shapes
import Mathlib

/-!
# Every row is accounted for

Each row of a source is skipped, has failed, or has succeeded.  The failed rows
make up the list of errors, and the rows that succeed with the keyword of a
shape make up the shapes of that kind.  Every other row that succeeds sets the
page, a default, or a symbol.  No row counts twice, and none gets lost.
-/

namespace Drafting

namespace RowOutcome

def isSkipped : RowOutcome -> Bool
  | skipped => true
  | _ => false

def isFailed : RowOutcome -> Bool
  | failed _ => true
  | _ => false

def isDone : RowOutcome -> Bool
  | done _ => true
  | _ => false

theorem one_of_three (o : RowOutcome) :
    o.isSkipped.toNat + o.isFailed.toNat + o.isDone.toNat = 1 := by
  cases o <;> rfl

def isSetting : RowOutcome -> Bool
  | done .pageSet => true
  | done (.defaultUpdated _) => true
  | done (.symbolAssigned _ _) => true
  | _ => false

end RowOutcome

namespace Keyword

def shapeKind? : Keyword -> Option ShapeKind
  | page => none
  | rect => some .rect
  | line => some .line

end Keyword

namespace Change

def shapeKind? : Change -> Option ShapeKind
  | shape s => some s.kind
  | _ => none

end Change

namespace Statement

def shapeKind? (s : Statement) : Option ShapeKind :=
  (Keyword.ofHead? s.head).bind Keyword.shapeKind?

theorem shapeKind_of_asks {s : Statement} {d : Drawing} {change : Change}
    (h : s.Asks d change) : s.shapeKind? = change.shapeKind? := by
  unfold shapeKind?
  cases change with
  | page page =>
      rw [h.1]
      rfl
  | shape shape =>
      cases shape with
      | rect r =>
          rw [h.1]
          rfl
      | line l =>
          rw [h.1]
          rfl
      | ellipse e => cases h
  | default value =>
      rw [h.1]
      rfl
  | symbol name value =>
      rw [h.1]
      rfl

theorem shapeKind_ne_ellipse (s : Statement) : s.shapeKind? ≠ some .ellipse := by
  unfold shapeKind?
  cases Keyword.ofHead? s.head with
  | none => simp
  | some keyword => cases keyword <;> simp [Keyword.shapeKind?]

end Statement

namespace Turn

def describes (kind : ShapeKind) (t : Turn) : Bool :=
  t.outcome.isDone && decide (t.statement?.bind Statement.shapeKind? = some kind)

def Builds (t : Turn) (shape : Shape) : Prop :=
  exists s, t.statement? = some s ∧ s.Builds t.before.session shape ∧
    shape.id = s.name.getD ""

theorem describes_eq (kind : ShapeKind) {s : Statement} {t : Turn} {change : Change}
    (hs : t.statement? = some s) (hasks : s.Asks t.before change)
    (hdone : t.outcome = .done change.effect) :
    t.describes kind = decide (change.shapeKind? = some kind) := by
  simp [describes, hdone, RowOutcome.isDone, hs, Statement.shapeKind_of_asks hasks]

theorem describes_of_not_done (kind : ShapeKind) {t : Turn}
    (h : forall effect, t.outcome ≠ .done effect) : t.describes kind = false := by
  unfold describes
  cases houtcome : t.outcome with
  | skipped => rfl
  | failed e => rfl
  | done effect => exact absurd houtcome (h effect)

theorem not_describes_ellipse (t : Turn) : ¬ t.describes .ellipse = true := by
  unfold describes
  cases t.statement? with
  | none => simp
  | some s => simp [s.shapeKind_ne_ellipse]

theorem shape_added {kind : ShapeKind} {t : Turn} (h : t.describes kind = true) :
    exists shape, t.after.document.shapesOf kind = t.before.document.shapesOf kind ++ [shape] ∧
      t.Builds shape := by
  rcases t.unchanged_or_enacted with ⟨hnone, _⟩ | ⟨s, change, hs, hasks, hdone, hafter⟩
  · rw [describes_of_not_done kind hnone] at h
    cases h
  · have hkind : change.shapeKind? = some kind := by
      rw [describes_eq kind hs hasks hdone] at h
      exact of_decide_eq_true h
    cases change with
    | shape shape =>
        cases hkind
        refine ⟨shape, ?_, s, hs, hasks, (Statement.givesCommon_of_builds hasks).id⟩
        rw [hafter]
        exact t.before.document.shapesOf_add_kind shape
    | page page => cases hkind
    | default value => cases hkind
    | symbol name value => cases hkind

theorem shapes_kept {kind : ShapeKind} {t : Turn} (h : t.describes kind = false) :
    t.after.document.shapesOf kind = t.before.document.shapesOf kind := by
  rcases t.unchanged_or_enacted with ⟨_, hafter⟩ | ⟨s, change, hs, hasks, hdone, hafter⟩
  · rw [hafter]
  · have hkind : change.shapeKind? ≠ some kind := by
      rw [describes_eq kind hs hasks hdone] at h
      exact of_decide_eq_false h
    rw [hafter]
    cases change with
    | shape shape =>
        apply Document.shapesOf_add_of_ne
        rintro rfl
        exact hkind rfl
    | page page => exact t.before.document.shapesOf_setPage page kind
    | default value => rfl
    | symbol name value => rfl

theorem one_fate (t : Turn) :
    t.outcome.isFailed.toNat + (t.describes .rect).toNat + (t.describes .line).toNat +
      t.outcome.isSetting.toNat = (! t.outcome.isSkipped).toNat := by
  rcases t.unchanged_or_enacted with ⟨hnone, _⟩ | ⟨s, change, hs, hasks, hdone, _⟩
  · rw [describes_of_not_done .rect hnone, describes_of_not_done .line hnone]
    cases houtcome : t.outcome with
    | skipped => rfl
    | failed e => rfl
    | done effect => exact absurd houtcome (hnone effect)
  · rw [describes_eq .rect hs hasks hdone, describes_eq .line hs hasks hdone, hdone]
    cases change with
    | shape shape =>
        cases shape with
        | rect r => rfl
        | line l => rfl
        | ellipse e => cases hasks
    | page page => rfl
    | default value => rfl
    | symbol name value => rfl

theorem countP_outcomes (turns : List Turn) :
    turns.countP (fun t => t.outcome.isSkipped) + turns.countP (fun t => t.outcome.isFailed) +
        turns.countP (fun t => t.outcome.isDone) =
      turns.length := by
  induction turns with
  | nil => rfl
  | cons t rest ih =>
      have hone := t.outcome.one_of_three
      simp only [Bool.toNat, Bool.cond_eq_ite] at hone
      simp only [List.countP_cons, List.length_cons]
      omega

theorem countP_fates (turns : List Turn) :
    turns.countP (fun t => t.outcome.isFailed) + turns.countP (describes .rect) +
        turns.countP (describes .line) + turns.countP (fun t => t.outcome.isSetting) =
      turns.countP (fun t => ! t.outcome.isSkipped) := by
  induction turns with
  | nil => rfl
  | cons t rest ih =>
      have hfate := one_fate t
      simp only [Bool.toNat, Bool.cond_eq_ite] at hfate
      simp only [List.countP_cons]
      omega

end Turn

namespace Drawing

/-- A list that grows by one at certain rows, over a whole run. -/
theorem forall₂_turns (part : Drawing -> List α) {adds : Turn -> Bool}
    {builds : Turn -> α -> Prop}
    (hadds : forall t, adds t = true ->
      exists a, part t.after = part t.before ++ [a] ∧ builds t a)
    (hkeeps : forall t, adds t = false -> part t.after = part t.before)
    (d : Drawing) (rows : List (Nat × String)) :
    exists added, part (d.afterRows rows) = part d ++ added ∧
      List.Forall₂ builds ((d.turns rows).filter adds) added := by
  induction rows generalizing d with
  | nil => exact ⟨[], (List.append_nil _).symm, List.Forall₂.nil⟩
  | cons first rest ih =>
      rcases first with ⟨row, text⟩
      let t : Turn := { row := row, text := text, before := d }
      rcases ih t.after with ⟨added, hpart, hbuilt⟩
      -- This row puts one item in front of what the others add, or none.
      cases hadd : adds t with
      | true =>
          rcases hadds t hadd with ⟨a, ha, hbuilds⟩
          refine ⟨a :: added, ?_, ?_⟩
          · show part (t.after.afterRows rest) = _
            rw [hpart, ha, List.append_assoc]
            rfl
          · rw [turns_cons, List.filter_cons_of_pos hadd]
            exact List.Forall₂.cons hbuilds hbuilt
      | false =>
          refine ⟨added, ?_, ?_⟩
          · show part (t.after.afterRows rest) = _
            rw [hpart, hkeeps t hadd]
          · rw [turns_cons, List.filter_cons_of_neg (Bool.eq_false_iff.mp hadd)]
            exact hbuilt

end Drawing

namespace Report

theorem shapesOf_ofSource (source : String) (kind : ShapeKind) :
    List.Forall₂ Turn.Builds ((history source).filter (Turn.describes kind))
      ((ofSource source).document.shapesOf kind) := by
  rcases Drawing.forall₂_turns (fun d => d.document.shapesOf kind) (fun _ => Turn.shape_added)
    (fun _ => Turn.shapes_kept) .blank (numbered 1 source) with ⟨added, hshapes, hbuilt⟩
  have hblank : Drawing.blank.document.shapesOf kind = [] := by
    cases kind <;> rfl
  rw [document, drawing_ofSource, history_eq_turns, hshapes, hblank]
  exact hbuilt

theorem length_shapesOf (source : String) (kind : ShapeKind) :
    ((ofSource source).document.shapesOf kind).length =
      (history source).countP (Turn.describes kind) := by
  rw [List.countP_eq_length_filter]
  exact (shapesOf_ofSource source kind).length_eq.symm

theorem ellipses_ofSource (source : String) : (ofSource source).document.ellipses = [] := by
  have hnone : (history source).countP (Turn.describes .ellipse) = 0 :=
    List.countP_eq_zero.mpr fun t _ => t.not_describes_ellipse
  have hlength := length_shapesOf source .ellipse
  rw [hnone] at hlength
  simpa [Document.shapesOf] using hlength

theorem shapeCount_ofSource (source : String) :
    (ofSource source).document.shapeCount =
      (history source).countP (Turn.describes .rect) +
        (history source).countP (Turn.describes .line) := by
  have hrects := length_shapesOf source .rect
  have hlines := length_shapesOf source .line
  simp only [Document.shapesOf, List.length_map] at hrects hlines
  rw [Document.shapeCount, hrects, hlines, ellipses_ofSource]
  rfl

theorem map_row_history (source : String) :
    (history source).map Turn.row = List.range' 1 (Text.rows source.toList).length := by
  have hrows := congrArg (List.map Prod.fst) (Drawing.map_turns .blank (numbered 1 source))
  rw [← map_fst_numbered, ← hrows, history_eq_turns, List.map_map]
  rfl

theorem map_text_history (source : String) :
    (history source).map Turn.text = (Text.rows source.toList).map String.ofList := by
  have hrows := congrArg (List.map Prod.snd) (Drawing.map_turns .blank (numbered 1 source))
  have htexts : (numbered 1 source).map Prod.snd =
      (Text.rows source.toList).map String.ofList := by
    rw [numbered, List.map_map]
    show List.map (String.ofList ∘ Prod.fst) _ = _
    rw [← List.map_map, List.zipIdx_map_fst]
  rw [← htexts, ← hrows, history_eq_turns, List.map_map]
  rfl

theorem rows_of_errors (source : String) :
    (ofSource source).errors.map RowError.row =
      ((history source).filter fun t => t.outcome.isFailed).map Turn.row := by
  rw [errors_eq_filterMap]
  induction history source with
  | nil => rfl
  | cons t rest ih =>
      cases houtcome : t.outcome <;>
        simp [Turn.failure?, houtcome, RowOutcome.failure?, RowOutcome.isFailed, ih]

theorem errors_ascend (source : String) :
    ((ofSource source).errors.map RowError.row).Pairwise (· < ·) := by
  rw [rows_of_errors]
  apply List.Pairwise.sublist (List.filter_sublist.map Turn.row)
  rw [map_row_history]
  exact List.pairwise_lt_range'

theorem length_errors (source : String) :
    (ofSource source).errors.length =
      (history source).countP (fun t => t.outcome.isFailed) := by
  have hlength := congrArg List.length (rows_of_errors source)
  simpa [List.countP_eq_length_filter] using hlength

theorem length_history (source : String) :
    (history source).length = (Text.rows source.toList).length := by
  simpa using congrArg List.length (map_row_history source)

/--
Each row of a source is skipped, failed, or done.  The errors are those of the
failed rows, by number, and the shapes those of the rows that describe one, by
name; with the rows that set something they are all the rows that are not
skipped.
-/
theorem ofSource_accounts_for_rows (source : String) :
    (history source).map Turn.text = (Text.rows source.toList).map String.ofList ∧
    (history source).map Turn.row = List.range' 1 (Text.rows source.toList).length ∧
    (history source).countP (fun t => t.outcome.isSkipped) +
        (history source).countP (fun t => t.outcome.isFailed) +
        (history source).countP (fun t => t.outcome.isDone) =
      (Text.rows source.toList).length ∧
    (ofSource source).errors = (history source).filterMap Turn.failure? ∧
    (ofSource source).errors.map RowError.row =
      ((history source).filter fun t => t.outcome.isFailed).map Turn.row ∧
    ((ofSource source).errors.map RowError.row).Pairwise (· < ·) ∧
    List.Forall₂ Turn.Builds ((history source).filter (Turn.describes .rect))
      ((ofSource source).document.rects.map .rect) ∧
    List.Forall₂ Turn.Builds ((history source).filter (Turn.describes .line))
      ((ofSource source).document.lines.map .line) ∧
    (ofSource source).document.shapeCount + (ofSource source).errors.length +
        (history source).countP (fun t => t.outcome.isSetting) =
      (history source).countP (fun t => ! t.outcome.isSkipped) := by
  refine ⟨map_text_history source, map_row_history source, ?_, errors_eq_filterMap source,
    rows_of_errors source, errors_ascend source, shapesOf_ofSource source .rect,
    shapesOf_ofSource source .line, ?_⟩
  · rw [← length_history]
    exact Turn.countP_outcomes (history source)
  · rw [shapeCount_ofSource, length_errors, ← Turn.countP_fates]
    omega

end Report

end Drafting
