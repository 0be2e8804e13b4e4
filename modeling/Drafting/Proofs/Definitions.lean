import Drafting.Proofs.LastWriters
import Drafting.Proofs.MoreSymbols
import Drafting.Proofs.Rows

/-!
# Definitions in front of a source

A source that reads without errors describes the same drawing when definitions
of symbols are put in front of it.  The two readings go side by side.  All along
they agree on the document and on the defaults, and the second one knows the
symbols of the first one and, behind them, those defined in front: a name that
the source assigns itself hides the one defined before it.
-/

namespace Drafting

namespace Drawing

/-- The second drawing is the first one with the symbols of `base` behind its own. -/
structure Over (base : SymbolTable) (d e : Drawing) : Prop where
  document : e.document = d.document
  defaults : e.session.defaults = d.session.defaults
  symbols : forall name,
    e.session.symbols.get? name = (d.session.symbols.get? name).or (base.get? name)

variable {base : SymbolTable} {d e : Drawing}

theorem Over.within (h : Over base d e) : d.session.symbols.Within e.session.symbols := by
  intro name v hv
  rw [h.symbols, hv]
  rfl

theorem Over.asks (h : Over base d e) {s : Statement} {change : Change}
    (hasks : s.Asks d change) : s.Asks e change := by
  rcases d with ⟨⟨symbols, defaults⟩, document⟩
  rcases e with ⟨⟨more, otherDefaults⟩, otherDocument⟩
  cases h.document
  cases h.defaults
  exact Statement.asks_within h.within hasks

theorem Over.enact (h : Over base d e) (change : Change) :
    Over base (d.enact change) (e.enact change) := by
  cases change with
  | page page => exact { h with document := congrArg (fun x => x.setPage page) h.document }
  | shape s => exact { h with document := congrArg (fun x => x.add s) h.document }
  | default value => exact { h with defaults := congrArg (fun x => x.set value) h.defaults }
  | symbol name value =>
      refine { h with symbols := ?_ }
      intro other
      have hsecond := e.session.symbols.get?_set name other value
      have hfirst := d.session.symbols.get?_set name other value
      show (e.session.symbols.set name value).get? other =
        ((d.session.symbols.set name value).get? other).or (base.get? other)
      by_cases hsame : other = name
      · rw [hsecond, hfirst, if_pos hsame, if_pos hsame]
        rfl
      · rw [hsecond, hfirst, if_neg hsame, if_neg hsame]
        exact h.symbols other

theorem Over.readRow (h : Over base d e) {text : String} {row : Nat}
    (hclean : (d.readRow text).1.failure? row = none) :
    (e.readRow text).1 = (d.readRow text).1 ∧
      Over base (d.readRow text).2 (e.readRow text).2 := by
  unfold Drawing.readRow at hclean ⊢
  cases hcontent : Row.content? text with
  | none => exact ⟨rfl, h⟩
  | some content =>
      cases hplan : (Statement.ofLine content).plan d with
      | error cause => simp [hcontent, execute, hplan, RowOutcome.failure?] at hclean
      | ok change =>
          have hother : (Statement.ofLine content).plan e = .ok change :=
            Statement.plan_eq_ok_iff.mpr (h.asks (Statement.plan_eq_ok_iff.mp hplan))
          simp only [execute, hplan, hother]
          exact ⟨trivial, h.enact change⟩

theorem Over.afterRows (h : Over base d e) (i j : Nat) (rows : List (List Char))
    (hclean : d.failures (Report.numberRows i rows) = []) :
    e.failures (Report.numberRows j rows) = [] ∧
      Over base (d.afterRows (Report.numberRows i rows))
        (e.afterRows (Report.numberRows j rows)) := by
  induction rows generalizing d e i j with
  | nil => exact ⟨rfl, h⟩
  | cons row rest ih =>
      rw [Report.numberRows_cons, Drawing.failures, List.append_eq_nil_iff,
        Option.toList_eq_nil_iff] at hclean
      rcases h.readRow hclean.1 with ⟨houtcome, hnext⟩
      rcases ih hnext (i + 1) (j + 1) hclean.2 with ⟨hfailures, hrest⟩
      rw [Report.numberRows_cons, Report.numberRows_cons]
      refine ⟨?_, hrest⟩
      rw [Drawing.failures, houtcome, List.append_eq_nil_iff, Option.toList_eq_nil_iff]
      refine ⟨?_, hfailures⟩
      cases hrow : (d.readRow (String.ofList row)).1 with
      | failed cause => simp [hrow, RowOutcome.failure?] at hclean
      | skipped => rfl
      | done effect => rfl

end Drawing

namespace Turn

def Defines (t : Turn) : Prop :=
  t.outcome = .skipped ∨ exists name, t.Assigns name

instance (t : Turn) : Decidable t.Defines :=
  match h : t.outcome with
  | .skipped => .isTrue (Or.inl h)
  | .done (.symbolAssigned name value) => .isTrue (Or.inr ⟨name, value, h⟩)
  | .failed _ => .isFalse (by simp [Defines, Assigns, h])
  | .done .pageSet => .isFalse (by simp [Defines, Assigns, h])
  | .done (.shapeAdded _ _) => .isFalse (by simp [Defines, Assigns, h])
  | .done (.defaultUpdated _) => .isFalse (by simp [Defines, Assigns, h])

theorem document_of_defines {t : Turn} (h : t.Defines) :
    t.after.document = t.before.document ∧
      t.after.session.defaults = t.before.session.defaults := by
  rcases h with hskipped | ⟨name, value, hdone⟩
  · have hsame : t.after = t.before := by
      apply after_of_not_done
      intro effect heffect
      rw [hskipped] at heffect
      cases heffect
    rw [hsame]
    exact ⟨rfl, rfl⟩
  · rcases exists_change_of_done hdone with ⟨s, change, _, _, heffect, hafter⟩
    rw [hafter]
    cases change with
    | symbol other v => exact ⟨rfl, rfl⟩
    | page page => cases heffect
    | shape shape => cases heffect
    | default v => cases heffect

end Turn

namespace Drawing

theorem document_of_definitions {d : Drawing} {rows : List (Nat × String)}
    (h : forall t, t ∈ d.turns rows -> t.Defines) :
    (d.afterRows rows).document = d.document ∧
      (d.afterRows rows).session.defaults = d.session.defaults := by
  induction rows generalizing d with
  | nil => exact ⟨rfl, rfl⟩
  | cons first rest ih =>
      rw [turns_cons, List.forall_mem_cons] at h
      have hfirst := Turn.document_of_defines h.1
      have hrest := ih h.2
      exact ⟨hrest.1.trans hfirst.1, hrest.2.trans hfirst.2⟩

theorem failures_of_definitions {d : Drawing} {rows : List (Nat × String)}
    (h : forall t, t ∈ d.turns rows -> t.Defines) : d.failures rows = [] := by
  rw [failures_eq_filterMap, List.filterMap_eq_nil_iff]
  intro t ht
  unfold Turn.failure?
  rcases h t ht with hskipped | ⟨name, value, hdone⟩
  · rw [hskipped]
    rfl
  · rw [hdone]
    rfl

end Drawing

namespace Report

def Assigned (source name : String) : Prop :=
  exists t, t ∈ history source ∧ t.Assigns name

theorem over_of_definitions {p s : String} (hclosed : Text.Closed p.toList)
    (hdefines : forall t, t ∈ history p -> t.Defines) (hclean : (ofSource s).errors = []) :
    (ofSource (p ++ s)).errors = [] ∧
      Drawing.Over (ofSource p).symbols (ofSource s).drawing (ofSource (p ++ s)).drawing := by
  rw [history_eq_turns] at hdefines
  have hfirst := Drawing.document_of_definitions hdefines
  have hstart : Drawing.Over (ofSource p).symbols .blank
      (Drawing.blank.afterRows (numbered 1 p)) := by
    refine ⟨hfirst.1, hfirst.2, ?_⟩
    intro name
    rw [symbols, drawing_ofSource]
    rfl
  rw [errors_ofSource] at hclean
  have hrest := hstart.afterRows 1 (1 + (Text.rows p.toList).length) (Text.rows s.toList) hclean
  rw [errors_ofSource, drawing_ofSource, drawing_ofSource, numbered_append hclosed,
    Drawing.failures_append, Drawing.afterRows_append, Drawing.failures_of_definitions hdefines]
  exact hrest

theorem isSome_get?_iff {source name : String} :
    ((ofSource source).symbols.get? name).isSome = true ↔ Assigned source name := by
  cases last_writer_of_symbol source name with
  | untouched hnone hfinal =>
      rw [hfinal]
      constructor
      · intro h
        cases h
      · intro h
        rcases h with ⟨t, ht, hassigns⟩
        exact absurd hassigns (hnone t ht)
  | written earlier later t hturns hassigns hgives _ =>
      rcases hgives with ⟨_, v, _, _, _, _, hv⟩
      rw [hv]
      constructor
      · intro _
        refine ⟨t, ?_, hassigns⟩
        rw [hturns]
        exact List.mem_append_right _ List.mem_cons_self
      · intro _
        rfl

/--
Definitions in front of a source without errors change nothing of its drawing.
They are known afterwards under the names that the source does not assign.
-/
theorem ofSource_append_of_definitions {p s : String} (hclosed : Text.Closed p.toList)
    (hdefines : forall t, t ∈ history p -> t.Defines) (hclean : (ofSource s).errors = []) :
    (ofSource (p ++ s)).errors = [] ∧
      (ofSource (p ++ s)).document = (ofSource s).document ∧
      (ofSource (p ++ s)).defaults = (ofSource s).defaults ∧
      (forall name, Assigned s name ->
        (ofSource (p ++ s)).symbols.get? name = (ofSource s).symbols.get? name) ∧
      (forall name, ¬ Assigned s name ->
        (ofSource (p ++ s)).symbols.get? name = (ofSource p).symbols.get? name) := by
  rcases over_of_definitions hclosed hdefines hclean with ⟨herrors, hover⟩
  refine ⟨herrors, hover.document, hover.defaults, ?_, ?_⟩
  · intro name hname
    rcases Option.isSome_iff_exists.mp (isSome_get?_iff.mpr hname) with ⟨v, hv⟩
    apply (hover.symbols name).trans
    show ((ofSource s).symbols.get? name).or _ = _
    rw [hv]
    rfl
  · intro name hname
    have hnone := Option.not_isSome_iff_eq_none.mp (mt isSome_get?_iff.mp hname)
    apply (hover.symbols name).trans
    show ((ofSource s).symbols.get? name).or _ = _
    rw [hnone]
    rfl

def front : String :=
  "a = 7 // replaced\r\n\n  c=a+1\n"

def behind : String :=
  "a=2\n$lt=a\nR=rect: a, 1, w=a+3, h=4\n"

theorem ofSource_front_append_behind :
    Text.Closed front.toList ∧ (forall t, t ∈ history front -> t.Defines) ∧
      (ofSource behind).errors = [] ∧ Assigned behind "a" ∧ ¬ Assigned behind "c" ∧
      (ofSource (front ++ behind)).errors = [] ∧
      (ofSource (front ++ behind)).document = (ofSource behind).document ∧
      (ofSource (front ++ behind)).defaults = (ofSource behind).defaults ∧
      (ofSource (front ++ behind)).symbols.get? "a" = (ofSource behind).symbols.get? "a" ∧
      (ofSource (front ++ behind)).symbols.get? "c" = (ofSource front).symbols.get? "c" := by
  have hclosed : Text.Closed front.toList := by decide +kernel
  have hdefines : forall t, t ∈ history front -> t.Defines := by decide +kernel
  have hclean : (ofSource behind).errors = [] := by decide +kernel
  have ha : Assigned behind "a" := isSome_get?_iff.mp (by decide +kernel)
  have hc : ¬ Assigned behind "c" := mt isSome_get?_iff.mpr (by decide +kernel)
  rcases ofSource_append_of_definitions hclosed hdefines hclean with
    ⟨herrors, hdocument, hdefaults, hassigned, hothers⟩
  exact ⟨hclosed, hdefines, hclean, ha, hc, herrors, hdocument, hdefaults, hassigned "a" ha,
    hothers "c" hc⟩

end Report

end Drafting
