import Drafting.Proofs.FailedRows
import Drafting.Proofs.Plans

/-!
# Histories

A run reads one row after the other.  Its history keeps every row together with
the drawing that the row finds, so that one can say of a whole run which row a
value comes from, and what that row knew.

What a single row can do is said once: it leaves the drawing alone, or it enacts
one change that its statement asks for.  Everything about whole runs follows
from this by induction on the rows.
-/

namespace Drafting

structure Turn where
  row : Nat
  text : String
  before : Drawing
deriving DecidableEq

namespace Turn

def outcome (t : Turn) : RowOutcome :=
  (t.before.readRow t.text).1

def after (t : Turn) : Drawing :=
  (t.before.readRow t.text).2

def symbols (t : Turn) : SymbolTable :=
  t.before.session.symbols

def statement? (t : Turn) : Option Statement :=
  (Row.content? t.text).map Statement.ofLine

def failure? (t : Turn) : Option RowError :=
  t.outcome.failure? t.row

theorem exists_change_of_done {t : Turn} {effect : Effect} (h : t.outcome = .done effect) :
    exists s change, t.statement? = some s ∧ s.Asks t.before change ∧
      change.effect = effect ∧ t.after = t.before.enact change := by
  unfold outcome Drawing.readRow at h
  unfold after statement? Drawing.readRow
  cases hcontent : Row.content? t.text with
  | none => simp [hcontent] at h
  | some content =>
      cases hplan : (Statement.ofLine content).plan t.before with
      | error e => simp [hcontent, Drawing.execute, hplan] at h
      | ok change =>
          refine ⟨Statement.ofLine content, change, rfl, ?_, ?_, ?_⟩
          · exact Statement.plan_eq_ok_iff.mp hplan
          · simpa [hcontent, Drawing.execute, hplan] using h
          · simp [Drawing.execute, hplan]

theorem after_of_not_done {t : Turn} (h : forall effect, t.outcome ≠ .done effect) :
    t.after = t.before := by
  unfold outcome Drawing.readRow at h
  unfold after Drawing.readRow
  cases hcontent : Row.content? t.text with
  | none => rfl
  | some content =>
      cases hplan : (Statement.ofLine content).plan t.before with
      | error e => simp [Drawing.execute, hplan]
      | ok change =>
          have hdone := h change.effect
          simp [hcontent, Drawing.execute, hplan] at hdone

/-- All that a row can do to a drawing. -/
theorem unchanged_or_enacted (t : Turn) :
    ((forall effect, t.outcome ≠ .done effect) ∧ t.after = t.before) ∨
      exists s change, t.statement? = some s ∧ s.Asks t.before change ∧
        t.outcome = .done change.effect ∧ t.after = t.before.enact change := by
  by_cases hdone : exists effect, t.outcome = .done effect
  · rcases hdone with ⟨effect, heffect⟩
    rcases exists_change_of_done heffect with ⟨s, change, hs, hasks, rfl, hafter⟩
    exact Or.inr ⟨s, change, hs, hasks, heffect, hafter⟩
  · have hnone : forall effect, t.outcome ≠ .done effect := by
      intro effect heffect
      exact hdone ⟨effect, heffect⟩
    exact Or.inl ⟨hnone, after_of_not_done hnone⟩

theorem exists_plan_of_failure {t : Turn} {e : RowError} (h : t.failure? = some e) :
    exists s, t.statement? = some s ∧ s.plan t.before = .error e.error := by
  unfold failure? outcome Drawing.readRow at h
  unfold statement?
  cases hcontent : Row.content? t.text with
  | none => simp [hcontent, RowOutcome.failure?] at h
  | some content =>
      refine ⟨Statement.ofLine content, rfl, ?_⟩
      cases hplan : (Statement.ofLine content).plan t.before with
      | ok change => simp [hcontent, Drawing.execute, hplan, RowOutcome.failure?] at h
      | error cause =>
          simp only [hcontent, Drawing.execute, hplan, RowOutcome.failure?,
            Option.some.injEq] at h
          rw [← h]

end Turn

namespace Drawing

def turns (d : Drawing) : List (Nat × String) -> List Turn
  | [] => []
  | (row, text) :: rest =>
      { row := row, text := text, before := d } :: turns (d.readRow text).2 rest

theorem turns_cons (d : Drawing) (row : Nat) (text : String) (rest : List (Nat × String)) :
    d.turns ((row, text) :: rest) =
      { row := row, text := text, before := d } :: (d.readRow text).2.turns rest := rfl

theorem map_turns (d : Drawing) (rows : List (Nat × String)) :
    (d.turns rows).map (fun t => (t.row, t.text)) = rows := by
  induction rows generalizing d with
  | nil => rfl
  | cons first rest ih =>
      rw [turns_cons, List.map_cons, ih]

theorem text_of_mem_turns {d : Drawing} {rows : List (Nat × String)} {t : Turn}
    (h : t ∈ d.turns rows) : t.text ∈ rows.map Prod.snd := by
  rw [← map_turns d rows, List.map_map]
  exact List.mem_map.mpr ⟨t, h, rfl⟩

/-- What a row finds is what the rows strictly before it have made. -/
theorem turns_eq_mapIdx (d : Drawing) (rows : List (Nat × String)) :
    d.turns rows =
      rows.mapIdx fun i (row, text) =>
        { row := row, text := text, before := d.afterRows (rows.take i) } := by
  induction rows generalizing d with
  | nil => rfl
  | cons first rest ih =>
      rw [turns_cons, List.mapIdx_cons, ih]
      rfl

theorem failures_eq_filterMap (d : Drawing) (rows : List (Nat × String)) :
    d.failures rows = (d.turns rows).filterMap Turn.failure? := by
  induction rows generalizing d with
  | nil => rfl
  | cons first rest ih =>
      rw [failures, turns_cons, List.filterMap_cons, ih]
      show (Turn.failure? { row := first.1, text := first.2, before := d }).toList ++ _ = _
      cases Turn.failure? { row := first.1, text := first.2, before := d } <;> rfl

/-- What none of these rows destroys holds at the end of a run if it holds at its start. -/
theorem invariant_of_rows {P : Drawing -> Prop} {rows : List (Nat × String)}
    (hstep : forall t : Turn, t.text ∈ rows.map Prod.snd -> P t.before -> P t.after)
    {d : Drawing} (hd : P d) : P (d.afterRows rows) := by
  induction rows generalizing d with
  | nil => exact hd
  | cons first rest ih =>
      have hnext : P (Turn.after { row := first.1, text := first.2, before := d }) :=
        hstep _ List.mem_cons_self hd
      exact ih (fun t ht => hstep t (List.mem_cons_of_mem _ ht)) hnext

theorem invariant_afterRows {P : Drawing -> Prop}
    (hstep : forall (s : Statement) d change, P d -> s.Asks d change -> P (d.enact change))
    {d : Drawing} (hd : P d) (rows : List (Nat × String)) : P (d.afterRows rows) := by
  refine invariant_of_rows (fun t _ hbefore => ?_) hd
  rcases t.unchanged_or_enacted with ⟨_, hafter⟩ | ⟨s, change, _, hasks, _, hafter⟩
  · rw [hafter]
    exact hbefore
  · rw [hafter]
    exact hstep s t.before change hbefore hasks

end Drawing

namespace Report

def history (source : String) : List Turn :=
  (numbered 1 source).mapIdx fun i (row, text) =>
    { row := row, text := text
      before := (blank.feedAll ((numbered 1 source).take i)).drawing }

theorem history_eq_turns (source : String) :
    history source = Drawing.blank.turns (numbered 1 source) := by
  rw [Drawing.turns_eq_mapIdx, history]
  simp only [feedAll_eq]
  rfl

theorem errors_eq_filterMap (source : String) :
    (ofSource source).errors = (history source).filterMap Turn.failure? := by
  rw [errors_ofSource, history_eq_turns]
  exact Drawing.failures_eq_filterMap Drawing.blank (numbered 1 source)

end Report

end Drafting
