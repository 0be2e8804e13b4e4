import Drafting.Proofs.Changes
import Drafting.Proofs.History
import Drafting.Proofs.Pages

/-!
# Where final values come from

Every symbol, every default, and every property of the page is at the end of a
run what the last row gave that wrote it, or what it was at the start if no row
did.  What a row gives is read off its own statement, under the symbols that the
rows before it have made.

Page rows are the reason why writing has to be told apart for each property: all
of them write scale, grid, and units, but width, height, and snap are written
only by those that have the field.
-/

namespace Drafting

/--
The final value of a part of the drawing is what the last of the rows that write
it gives, or else the initial value.
-/
inductive LastWriter (writes : Turn -> Prop) (gives : Turn -> α -> Prop) (initial : α)
    (turns : List Turn) (final : α) : Prop where
  | untouched :
      (forall t, t ∈ turns -> ¬ writes t) -> final = initial ->
      LastWriter writes gives initial turns final
  | written (earlier later : List Turn) (t : Turn) :
      turns = earlier ++ t :: later -> writes t -> gives t final ->
      (forall u, u ∈ later -> ¬ writes u) -> LastWriter writes gives initial turns final

namespace LastWriter

variable {writes : Turn -> Prop} {gives : Turn -> α -> Prop} {initial next final : α}

theorem cons {t : Turn} {turns : List Turn} (hwrites : writes t -> gives t next)
    (hkeeps : ¬ writes t -> next = initial) (h : LastWriter writes gives next turns final) :
    LastWriter writes gives initial (t :: turns) final := by
  cases h with
  | untouched hlater hfinal =>
      by_cases hfirst : writes t
      · apply written [] turns t rfl hfirst
        · rw [hfinal]
          exact hwrites hfirst
        · exact hlater
      · apply untouched
        · intro u hu
          rcases List.mem_cons.mp hu with rfl | hu
          · exact hfirst
          · exact hlater u hu
        · rw [hfinal]
          exact hkeeps hfirst
  | written earlier later u hturns hu hgives hlater =>
      apply written (t :: earlier) later u _ hu hgives hlater
      rw [hturns, List.cons_append]

/-- A part that rows write or leave alone, one by one, is settled by its last writer. -/
theorem turns (part : Drawing -> α) (hwrites : forall t, writes t -> gives t (part t.after))
    (hkeeps : forall t, ¬ writes t -> part t.after = part t.before) (d : Drawing)
    (rows : List (Nat × String)) :
    LastWriter writes gives (part d) (d.turns rows) (part (d.afterRows rows)) := by
  induction rows generalizing d with
  | nil =>
      apply untouched
      · intro t ht
        cases ht
      · rfl
  | cons first rest ih =>
      rcases first with ⟨row, text⟩
      exact cons (hwrites { row := row, text := text, before := d })
        (hkeeps { row := row, text := text, before := d }) (ih (d.readRow text).2)

theorem history (part : Drawing -> α) (hwrites : forall t, writes t -> gives t (part t.after))
    (hkeeps : forall t, ¬ writes t -> part t.after = part t.before) (source : String) :
    LastWriter writes gives (part .blank) (Report.history source)
      (part (Report.ofSource source).drawing) := by
  rw [Report.history_eq_turns, Report.drawing_ofSource]
  exact turns part hwrites hkeeps .blank (Report.numbered 1 source)

end LastWriter

namespace Turn

/-!
## Symbols

A row gives a symbol if it binds the name to the value of its head and reports
that value.
-/

def Assigns (name : String) (t : Turn) : Prop :=
  exists value, t.outcome = .done (.symbolAssigned name value)

def GivesSymbol (name : String) (t : Turn) (binding : Option Float) : Prop :=
  exists s value, t.statement? = some s ∧ s.name = some name ∧
    Expression.evaluate t.symbols s.head = .ok value ∧
    t.outcome = .done (.symbolAssigned name value) ∧ binding = some value

theorem givesSymbol_after {name : String} {t : Turn} (h : t.Assigns name) :
    t.GivesSymbol name (t.after.session.symbols.get? name) := by
  rcases h with ⟨value, hdone⟩
  rcases exists_change_of_done hdone with ⟨s, change, hs, hasks, heffect, hafter⟩
  cases change with
  | symbol other v =>
      cases heffect
      rcases hasks with ⟨_, hname, _, _, hnumber⟩
      refine ⟨s, value, hs, hname, mapError_eq_ok_iff.mp hnumber, hdone, ?_⟩
      rw [hafter]
      exact (t.before.session.symbols.get?_set name name value).trans (if_pos rfl)
  | page page => cases heffect
  | shape shape => cases heffect
  | default v => cases heffect

theorem get?_after_of_not_assigns {name : String} {t : Turn} (h : ¬ t.Assigns name) :
    t.after.session.symbols.get? name = t.before.session.symbols.get? name := by
  rcases t.unchanged_or_enacted with ⟨_, hafter⟩ | ⟨s, change, _, _, hdone, hafter⟩
  · rw [hafter]
  · rw [hafter]
    cases change with
    | symbol other v =>
        have hne : name ≠ other := by
          rintro rfl
          exact h ⟨v, hdone⟩
        exact (t.before.session.symbols.get?_set other name v).trans (if_neg hne)
    | page page => rfl
    | shape shape => rfl
    | default v => rfl

/-!
## Defaults

A row gives a default if it names it, and its head is read as the value.
-/

def Sets (key : DefaultKey) (t : Turn) : Prop :=
  t.outcome = .done (.defaultUpdated key)

def GivesDefault (key : DefaultKey) (t : Turn) (value : DefaultValue) : Prop :=
  exists s, t.statement? = some s ∧ s.name.bind Statement.defaultKey? = some key ∧
    Statement.defaultValue t.symbols key s.head = .ok value

theorem givesDefault_after {key : DefaultKey} {t : Turn} (h : t.Sets key) :
    t.GivesDefault key (t.after.session.defaults.value key) := by
  rcases exists_change_of_done h with ⟨s, change, hs, hasks, heffect, hafter⟩
  cases change with
  | default v =>
      rcases hasks with ⟨_, name, hname, hkey, hvalue⟩
      cases heffect
      refine ⟨s, hs, ?_, ?_⟩
      · rw [hname]
        exact hkey
      · rw [hafter]
        exact hvalue.trans (congrArg Except.ok (StyleDefaults.value_set_key _ v).symm)
  | page page => cases heffect
  | shape shape => cases heffect
  | symbol name v => cases heffect

theorem value_after_of_not_sets {key : DefaultKey} {t : Turn} (h : ¬ t.Sets key) :
    t.after.session.defaults.value key = t.before.session.defaults.value key := by
  rcases t.unchanged_or_enacted with ⟨_, hafter⟩ | ⟨s, change, _, _, hdone, hafter⟩
  · rw [hafter]
  · rw [hafter]
    cases change with
    | default v =>
        have hne : key ≠ v.key := by
          rintro rfl
          exact h hdone
        exact StyleDefaults.value_set_of_ne _ hne
    | page page => rfl
    | shape shape => rfl
    | symbol name v => rfl

/-!
## The page

Every page row sets the sheet: scale and grid from their fields, and units,
which are empty if they are not given.  A page row carries a measure if it has
the field of it, and the measure is read from that field or kept.
-/

def SetsPage (t : Turn) : Prop :=
  t.outcome = .done .pageSet

def Carries (key : String) (t : Turn) : Prop :=
  t.SetsPage ∧ exists s raw, t.statement? = some s ∧ s.field? key = some raw

def GivesSheet (t : Turn) : Nat × Float × String -> Prop
  | (scale, grid, units) =>
      exists s rawScale rawGrid, t.statement? = some s ∧
        s.fieldOrPosition? "sc" 0 = some rawScale ∧
        Statement.wholeNumber "sc" t.symbols rawScale = .ok (scale : Int) ∧
        s.fieldOrPosition? "gr" 1 = some rawGrid ∧
        Expression.evaluate t.symbols rawGrid = .ok grid ∧
        units = (s.fieldOrPosition? "un" 2).getD ""

def GivesField (key : String) (t : Turn) (v : Float) : Prop :=
  exists s raw, t.statement? = some s ∧ s.field? key = some raw ∧
    Expression.evaluate t.symbols raw = .ok v

end Turn

namespace Page

def sheet (p : Page) : Nat × Float × String :=
  (p.scale, p.grid, p.units)

end Page

namespace Turn

theorem givesPage_of_setsPage {t : Turn} (h : t.SetsPage) :
    exists s, t.statement? = some s ∧
      s.GivesPage t.symbols t.before.document.page t.after.document.page := by
  rcases exists_change_of_done h with ⟨s, change, hs, hasks, heffect, hafter⟩
  cases change with
  | page page =>
      refine ⟨s, hs, ?_⟩
      rw [hafter]
      exact Statement.givesPage_of_page hasks.2
  | shape shape => cases heffect
  | default v => cases heffect
  | symbol name v => cases heffect

theorem page_after_of_not_setsPage {t : Turn} (h : ¬ t.SetsPage) :
    t.after.document.page = t.before.document.page := by
  rcases t.unchanged_or_enacted with ⟨_, hafter⟩ | ⟨s, change, _, _, hdone, hafter⟩
  · rw [hafter]
  · rw [hafter]
    cases change with
    | page page => exact absurd hdone h
    | shape shape => exact t.before.document.page_add shape
    | default v => rfl
    | symbol name v => rfl

theorem givesSheet_after {t : Turn} (h : t.SetsPage) :
    t.GivesSheet t.after.document.page.sheet := by
  rcases givesPage_of_setsPage h with ⟨s, hs, hpage⟩
  rcases hpage.scale with ⟨rawScale, hrawScale, hscale⟩
  rcases hpage.grid with ⟨rawGrid, hrawGrid, hgrid⟩
  exact ⟨s, rawScale, rawGrid, hs, hrawScale, hscale, hrawGrid, mapError_eq_ok_iff.mp hgrid,
    hpage.units⟩

def ReadFrom (key : String) (measure : Page -> Float) : Prop :=
  forall (s : Statement) symbols current page, s.GivesPage symbols current page ->
    s.GivesMeasure symbols key (measure current) (measure page)

theorem givesField_after {key : String} {measure : Page -> Float}
    (hmeasure : ReadFrom key measure) {t : Turn} (h : t.Carries key) :
    t.GivesField key (measure t.after.document.page) := by
  rcases h with ⟨hsets, s, raw, hs, hraw⟩
  rcases givesPage_of_setsPage hsets with ⟨_, hs', hpage⟩
  cases hs.symm.trans hs'
  rcases hmeasure s _ _ _ hpage with ⟨found, hfound, hnumber, _⟩ | ⟨hnone, _⟩
  · exact ⟨s, found, hs, hfound, mapError_eq_ok_iff.mp hnumber⟩
  · rw [hraw] at hnone
    cases hnone

theorem measure_after_of_not_carries {key : String} {measure : Page -> Float}
    (hmeasure : ReadFrom key measure) {t : Turn} (h : ¬ t.Carries key) :
    measure t.after.document.page = measure t.before.document.page := by
  by_cases hsets : t.SetsPage
  · rcases givesPage_of_setsPage hsets with ⟨s, hs, hpage⟩
    rcases hmeasure s _ _ _ hpage with ⟨raw, hraw, _, _⟩ | ⟨_, hkept⟩
    · exact absurd ⟨hsets, s, raw, hs, hraw⟩ h
    · exact hkept
  · rw [page_after_of_not_setsPage hsets]

end Turn

namespace Report

theorem last_writer_of_symbol (source name : String) :
    LastWriter (Turn.Assigns name) (Turn.GivesSymbol name) none (history source)
      ((ofSource source).symbols.get? name) :=
  LastWriter.history (fun d => d.session.symbols.get? name)
    (fun _ => Turn.givesSymbol_after) (fun _ => Turn.get?_after_of_not_assigns) source

theorem last_writer_of_default (source : String) (key : DefaultKey) :
    LastWriter (Turn.Sets key) (Turn.GivesDefault key) (StyleDefaults.initial.value key)
      (history source) ((ofSource source).defaults.value key) :=
  LastWriter.history (fun d => d.session.defaults.value key)
    (fun _ => Turn.givesDefault_after) (fun _ => Turn.value_after_of_not_sets) source

theorem last_writer_of_sheet (source : String) :
    LastWriter Turn.SetsPage Turn.GivesSheet Page.standard.sheet (history source)
      (ofSource source).document.page.sheet :=
  LastWriter.history (fun d => d.document.page.sheet)
    (fun _ => Turn.givesSheet_after)
    (fun _ h => congrArg Page.sheet (Turn.page_after_of_not_setsPage h)) source

theorem last_writer_of_measure {key : String} {measure : Page -> Float}
    (hmeasure : Turn.ReadFrom key measure) (source : String) :
    LastWriter (Turn.Carries key) (Turn.GivesField key) (measure .standard) (history source)
      (measure (ofSource source).document.page) :=
  LastWriter.history (fun d => measure d.document.page)
    (fun _ => Turn.givesField_after hmeasure)
    (fun _ => Turn.measure_after_of_not_carries hmeasure) source

/--
After the reading of a source, each symbol, each default, and each property of
the page is what the last row has given that wrote it.
-/
theorem ofSource_last_writers (source : String) :
    (forall name,
      LastWriter (Turn.Assigns name) (Turn.GivesSymbol name) none (history source)
        ((ofSource source).symbols.get? name)) ∧
    (forall key,
      LastWriter (Turn.Sets key) (Turn.GivesDefault key) (StyleDefaults.initial.value key)
        (history source) ((ofSource source).defaults.value key)) ∧
    LastWriter Turn.SetsPage Turn.GivesSheet Page.standard.sheet (history source)
      (ofSource source).document.page.sheet ∧
    LastWriter (Turn.Carries "w") (Turn.GivesField "w") Page.standard.width (history source)
      (ofSource source).document.page.width ∧
    LastWriter (Turn.Carries "h") (Turn.GivesField "h") Page.standard.height (history source)
      (ofSource source).document.page.height ∧
    LastWriter (Turn.Carries "sn") (Turn.GivesField "sn") Page.standard.snap (history source)
      (ofSource source).document.page.snap := by
  refine ⟨last_writer_of_symbol source, last_writer_of_default source,
    last_writer_of_sheet source, ?_, ?_, ?_⟩
  · exact last_writer_of_measure (fun _ _ _ _ h => h.width) source
  · exact last_writer_of_measure (fun _ _ _ _ h => h.height) source
  · exact last_writer_of_measure (fun _ _ _ _ h => h.snap) source

end Report

end Drafting
