import Drafting.Proofs.Changes
import Drafting.Proofs.History
import Drafting.Proofs.Messages
import Drafting.Proofs.Visibility
import Drafting.Summary

/-!
# The lines of a summary

A summary is cut into its lines again at its line feeds.  Ids, texts, units, and
the causes of failures come from the rows of a source, so this needs that none
of them has a line feed, whatever the source is.

The mark of a hidden shape stands at the end of its line.  What stands before the
mark ends in the name of a color or in a bracket, so nothing that a row says can
be mistaken for it.
-/

namespace Drafting

open Text

/-!
## What a run collects

The document shows nothing with a line feed, and neither do the errors: this is
an invariant of the run over rows that have none themselves.
-/

namespace Statement

variable {s : Statement}

theorem OneLine.common (h : s.OneLine) {session : Session} {c : Common}
    (hcommon : s.common session = .ok c) : Text.OneLine c.id ∧ Text.OneLine c.text := by
  simp only [Statement.common, bind_eq_ok_iff, Except.ok.injEq] at hcommon
  rcases hcommon with ⟨_, _, _, _, _, _, _, _, _, _, rfl⟩
  exact ⟨oneLine_getD h.name, oneLine_getD fun _ htext => h.field? htext⟩

end Statement

namespace Document

structure OneLine (d : Document) : Prop where
  units : Text.OneLine d.page.units
  shapes : forall shape, shape ∈ d.shapes ->
    Text.OneLine shape.common.id ∧ Text.OneLine shape.common.text

theorem oneLine_blank : blank.OneLine where
  units := oneLine_literal rfl
  shapes := by
    intro shape hshape
    cases hshape

end Document

namespace Turn

theorem oneLine_of_statement {t : Turn} {s : Statement} (htext : Text.OneLine t.text)
    (h : t.statement? = some s) : s.OneLine := by
  have hread := Row.statement_of_content t.text.toList
  rw [String.ofList_toList] at hread
  rw [statement?, hread] at h
  split at h
  · cases h
  · cases h
    exact Statement.oneLine_ofChars fun hmem => htext (Row.mem_of_mem_core hmem)

theorem oneLine_after {t : Turn} (htext : Text.OneLine t.text)
    (h : t.before.document.OneLine) : t.after.document.OneLine := by
  rcases t.unchanged_or_enacted with ⟨_, hafter⟩ | ⟨s, change, hs, hasks, _, hafter⟩
  · rw [hafter]
    exact h
  · have hs := oneLine_of_statement htext hs
    rw [hafter]
    cases change with
    | default value => exact h
    | symbol name value => exact h
    | page page =>
        refine ⟨?_, h.shapes⟩
        show Text.OneLine page.units
        rw [(Statement.givesPage_of_page hasks.2).units]
        exact oneLine_getD fun _ hunits => hs.fieldOrPosition? hunits
    | shape shape =>
        constructor
        · show Text.OneLine (t.before.document.add shape).page.units
          rw [Document.page_add]
          exact h.units
        · intro other hother
          rcases Document.mem_shapes_add.mp hother with hold | rfl
          · exact h.shapes other hold
          · exact hs.common (Statement.common_of_builds hasks)

theorem oneLine_failure {t : Turn} {e : RowError} (htext : Text.OneLine t.text)
    (h : t.failure? = some e) : Text.OneLine e.message := by
  rcases exists_plan_of_failure h with ⟨s, hs, hplan⟩
  have hcause := Statement.failsInOneLine_plan (oneLine_of_statement htext hs) t.before _ hplan
  exact (oneLine_literal rfl).append (Decimal.oneLine_counted e.row) |>.append (oneLine_literal rfl)
    |>.append hcause

end Turn

namespace Report

theorem oneLine_of_mem_numbered {source text : String} {first : Nat}
    (h : text ∈ (numbered first source).map Prod.snd) : Text.OneLine text := by
  rcases List.mem_map.mp h with ⟨row, hrow, rfl⟩
  rcases exists_of_mem_numberRows hrow with ⟨cs, hcs, hsame⟩
  rw [hsame, oneLine_ofList]
  exact not_mem_of_mem_rows hcs

theorem oneLine_document (source : String) : (ofSource source).document.OneLine := by
  rw [document, drawing_ofSource]
  exact Drawing.invariant_of_rows (P := fun d => d.document.OneLine)
    (fun t ht => Turn.oneLine_after (oneLine_of_mem_numbered ht)) Document.oneLine_blank

theorem oneLine_errors {source : String} {e : RowError} (h : e ∈ (ofSource source).errors) :
    Text.OneLine e.message := by
  rw [errors_eq_filterMap, List.mem_filterMap] at h
  rcases h with ⟨t, ht, hfailure⟩
  rw [history_eq_turns] at ht
  exact Turn.oneLine_failure (oneLine_of_mem_numbered (Drawing.text_of_mem_turns ht)) hfailure

end Report

/-!
## Lines without line feeds

Numbers, names, and codes have no line feeds, and each line of a summary is made
of these and of texts that the document shows.
-/

theorem oneLine_shownLength (v : Float) : OneLine (shownLength v) :=
  Decimal.oneLine_fixed 2 v

theorem Point.oneLine_shown (p : Point) : OneLine p.shown :=
  (oneLine_literal rfl).append (oneLine_shownLength p.x)
    |>.append (oneLine_literal rfl) |>.append (oneLine_shownLength p.y)
    |>.append (oneLine_literal rfl)

theorem Page.oneLine_summary {p : Page} (h : OneLine p.units) : OneLine p.summary := by
  have hunits : OneLine p.shownUnits := by
    unfold shownUnits
    split
    · exact oneLine_literal rfl
    · exact (oneLine_literal rfl).append h
  exact
    (oneLine_literal rfl).append (oneLine_shownLength p.width)
      |>.append (oneLine_literal rfl) |>.append (oneLine_shownLength p.height)
      |>.append hunits |>.append (oneLine_literal rfl)
      |>.append (oneLine_shownLength p.grid) |>.append (oneLine_literal rfl)
      |>.append (oneLine_shownLength p.snap) |>.append (oneLine_literal rfl)
      |>.append (Decimal.oneLine_counted p.scale)

theorem Document.oneLine_countSummary (d : Document) : Text.OneLine d.countSummary :=
  (oneLine_literal rfl).append (Decimal.oneLine_counted _)
    |>.append (oneLine_literal rfl) |>.append (Decimal.oneLine_counted _)
    |>.append (oneLine_literal rfl) |>.append (Decimal.oneLine_counted _)
    |>.append (oneLine_literal rfl) |>.append (Decimal.oneLine_counted _)
    |>.append (oneLine_literal rfl)

theorem Color.oneLine_name (c : Color) : OneLine c.name := by
  cases c <;> exact oneLine_literal rfl

theorem TextAlign.oneLine_code (a : TextAlign) : OneLine a.code := by
  cases a <;> exact oneLine_literal rfl

theorem CapStyle.oneLine_code (c : CapStyle) : OneLine c.code := by
  cases c <;> exact oneLine_literal rfl

theorem Common.oneLine_summary {c : Common} (h : OneLine c.text) : OneLine c.summary := by
  have htext : OneLine c.shownText := by
    unfold shownText
    split
    · exact oneLine_literal rfl
    · exact
        (oneLine_literal rfl).append h |>.append (oneLine_literal rfl)
          |>.append c.textAlign.oneLine_code |>.append (oneLine_literal rfl)
  exact
    (oneLine_literal rfl).append (Decimal.oneLine_whole c.layer)
      |>.append (oneLine_literal rfl) |>.append c.lineColor.oneLine_name
      |>.append (oneLine_literal rfl) |>.append (oneLine_shownLength c.lineThickness)
      |>.append (oneLine_literal rfl) |>.append c.fillColor.oneLine_name |>.append htext

theorem Shape.oneLine_shownExtents (width height : Float) :
    OneLine (shownExtents width height) :=
  (oneLine_literal rfl).append (oneLine_shownLength width)
    |>.append (oneLine_literal rfl) |>.append (oneLine_shownLength height)

theorem Shape.oneLine_summary {shape : Shape} (hid : OneLine shape.common.id)
    (htext : OneLine shape.common.text) : OneLine shape.summary := by
  have hcommon := Common.oneLine_summary htext
  cases shape with
  | rect r =>
      exact
        (oneLine_literal rfl).append hid |>.append (oneLine_literal rfl)
          |>.append r.location.oneLine_shown |>.append (oneLine_literal rfl)
          |>.append (oneLine_shownExtents r.width r.height) |>.append (oneLine_literal rfl)
          |>.append hcommon
  | line l =>
      exact
        (oneLine_literal rfl).append hid |>.append (oneLine_literal rfl)
          |>.append l.start.oneLine_shown |>.append (oneLine_literal rfl)
          |>.append l.finish.oneLine_shown |>.append (oneLine_literal rfl)
          |>.append l.startCap.oneLine_code |>.append (oneLine_literal rfl)
          |>.append l.endCap.oneLine_code |>.append (oneLine_literal rfl) |>.append hcommon
  | ellipse e =>
      exact
        (oneLine_literal rfl).append hid |>.append (oneLine_literal rfl)
          |>.append e.center.oneLine_shown |>.append (oneLine_literal rfl)
          |>.append (oneLine_shownExtents e.width e.height) |>.append (oneLine_literal rfl)
          |>.append hcommon

theorem Scene.oneLine_shapeLine (s : Scene) {shape : Shape} (hid : OneLine shape.common.id)
    (htext : OneLine shape.common.text) : OneLine (s.shapeLine shape) := by
  have hsummary : OneLine ("  - " ++ shape.summary) :=
    (oneLine_literal rfl).append (Shape.oneLine_summary hid htext)
  apply hsummary.append
  split
  · exact oneLine_literal rfl
  · exact oneLine_literal rfl

/-!
## The end of the line of a shape

Whatever the id and the text of a shape, they do not look like the mark, for
they are never at the end.
-/

section Ends

variable {a b : String}

theorem getLast?_append {c : Char} (h : b.toList.getLast? = some c) :
    (a ++ b).toList.getLast? = some c := by
  rw [String.toList_append, List.getLast?_append, h]
  rfl

theorem hiddenMark_suffix (a : String) :
    Scene.hiddenMark.toList <:+ (a ++ Scene.hiddenMark).toList := by
  rw [String.toList_append]
  exact List.suffix_append _ _

theorem Color.exists_last (c : Color) : exists d, c.name.toList.getLast? = some d ∧ d ≠ ']' := by
  cases c <;> exact ⟨_, rfl, by decide⟩

theorem Common.exists_last (c : Common) :
    exists d, c.summary.toList.getLast? = some d ∧ d ≠ ']' := by
  unfold summary shownText
  split
  · rcases c.fillColor.exists_last with ⟨d, hlast, hd⟩
    refine ⟨d, ?_, hd⟩
    rw [String.append_empty]
    exact getLast?_append hlast
  · refine ⟨')', ?_, by decide⟩
    exact getLast?_append (getLast?_append rfl)

theorem Shape.exists_last (shape : Shape) :
    exists d, shape.summary.toList.getLast? = some d ∧ d ≠ ']' := by
  rcases shape.common.exists_last with ⟨d, hlast, hd⟩
  refine ⟨d, ?_, hd⟩
  cases shape with
  | rect r => exact getLast?_append hlast
  | line l => exact getLast?_append hlast
  | ellipse e => exact getLast?_append hlast

theorem not_hiddenMark_suffix (shape : Shape) :
    ¬ Scene.hiddenMark.toList <:+ ("  - " ++ shape.summary).toList := by
  rintro ⟨front, hsplit⟩
  -- The last character decides: the mark ends in a bracket that no summary ends in.
  rcases shape.exists_last with ⟨d, hlast, hd⟩
  have hline : ("  - " ++ shape.summary).toList.getLast? = some d := getLast?_append hlast
  have hmark : Scene.hiddenMark.toList.getLast? = some ']' := rfl
  rw [← hsplit, List.getLast?_append, hmark] at hline
  exact hd (Option.some.inj hline).symm

end Ends

namespace Scene

theorem mem_visibleShapes_iff {s : Scene} {shape : Shape} (h : shape ∈ s.document.shapes) :
    shape ∈ s.visibleShapes ↔ s.isLayerVisible shape.layer = true := by
  rw [visibleShapes, List.mem_filter]
  exact and_iff_right h

theorem shapeLine_of_visible {s : Scene} {shape : Shape}
    (h : s.isLayerVisible shape.layer = true) : s.shapeLine shape = "  - " ++ shape.summary := by
  rw [shapeLine, if_pos h, String.append_empty]

theorem hiddenMark_suffix_shapeLine_iff {s : Scene} {shape : Shape}
    (h : shape ∈ s.document.shapes) :
    hiddenMark.toList <:+ (s.shapeLine shape).toList ↔ shape ∉ s.visibleShapes := by
  rw [mem_visibleShapes_iff h]
  by_cases hvisible : s.isLayerVisible shape.layer = true
  · rw [shapeLine_of_visible hvisible]
    constructor
    · intro hsuffix
      exact absurd hsuffix (not_hiddenMark_suffix shape)
    · intro hnot
      exact absurd hvisible hnot
  · rw [shapeLine, if_neg hvisible]
    constructor
    · intro _
      exact hvisible
    · intro _
      exact hiddenMark_suffix _

end Scene

/-!
## The lines

Lines that make up a summary one after another are found in it where they were
put when it is cut at its line feeds.
-/

namespace Loaded

/-- The rows of a source, loaded under a path. -/
def ofRows (settings : Settings) (path source : String) : Loaded :=
  withSettings settings .rows path (Report.ofSource source).document
    (Report.ofSource source).errors

def lines (l : Loaded) : List String :=
  (pieces '\n' l.summary.toList).map String.ofList

theorem ofContent_eq_ofRows (settings : Settings) {path : String}
    (h : SourceKind.ofPath path = .rows) (source : String) :
    ofContent settings path (.ok source) = .ok (ofRows settings path source) := by
  rw [ofContent, h]
  rfl

theorem lines_eq {l : Loaded} (h : forall line, line ∈ l.summaryLines -> OneLine line) :
    l.lines = l.summaryLines := by
  have hne : l.summaryLines.map String.toList ≠ [] := by simp [summaryLines]
  have hlines : forall cs, cs ∈ l.summaryLines.map String.toList -> '\n' ∉ cs := by
    intro cs hcs
    rcases List.mem_map.mp hcs with ⟨line, hline, rfl⟩
    exact h line hline
  have hfeed : "\n".toList = ['\n'] := rfl
  have hid : String.ofList ∘ String.toList = id := funext fun _ => String.ofList_toList
  rw [lines, summary, String.toList_intercalate, hfeed, pieces_intercalate hne hlines,
    List.map_map, hid, List.map_id]

theorem oneLine_statusLine (l : Loaded) : OneLine l.statusLine := by
  unfold statusLine
  split
  · exact oneLine_literal rfl
  · exact
      (oneLine_literal rfl).append (Decimal.oneLine_counted _)
        |>.append (oneLine_literal rfl)

theorem oneLine_originLine {l : Loaded} (h : OneLine l.path) : OneLine l.originLine := by
  unfold originLine
  split
  · exact (oneLine_literal rfl).append h
  · exact (oneLine_literal rfl).append h

theorem document_ofRows (settings : Settings) (path source : String) :
    (ofRows settings path source).scene.document = (Report.ofSource source).document :=
  document_withSettings settings .rows path _ _

theorem oneLine_of_mem_summaryLines {settings : Settings} {path source line : String}
    (hpath : OneLine path) (h : line ∈ (ofRows settings path source).summaryLines) :
    OneLine line := by
  have hdocument := Report.oneLine_document source
  rw [summaryLines, document_ofRows] at h
  simp only [List.mem_append, List.mem_cons, List.not_mem_nil, or_false, List.mem_map] at h
  rcases h with (((rfl | rfl | rfl) | ⟨shape, hshape, rfl⟩) | rfl | ⟨e, he, rfl⟩)
  · exact oneLine_originLine hpath
  · exact Page.oneLine_summary hdocument.units
  · exact Document.oneLine_countSummary _
  · have htexts := hdocument.shapes shape hshape
    exact Scene.oneLine_shapeLine _ htexts.1 htexts.2
  · exact oneLine_statusLine _
  · exact (oneLine_literal rfl).append (Report.oneLine_errors he)

/--
The summary has a line for each thing: three at the top, one for each shape in
the order of the document, the status, and one for each row that has failed.
The line of a shape ends in the mark exactly if the shape is not visible.
-/
structure IsFaithful (l : Loaded) (document : Document) (errors : List RowError) : Prop where
  length : l.lines.length = 4 + document.shapeCount + errors.length
  top : l.lines.take 3 = [l.originLine, document.page.summary, document.countSummary]
  shapes : (l.lines.drop 3).take document.shapeCount = document.shapes.map l.scene.shapeLine
  bottom : l.lines.drop (3 + document.shapeCount) = l.statusLine :: errors.map errorLine
  marks : forall shape, shape ∈ document.shapes ->
    (Scene.hiddenMark.toList <:+ (l.scene.shapeLine shape).toList ↔
      shape ∉ l.scene.visibleShapes)

theorem isFaithful_of_lines_eq {l : Loaded} {document : Document} {errors : List RowError}
    (hdocument : l.scene.document = document)
    (hlines : l.lines = [l.originLine, document.page.summary, document.countSummary] ++
      document.shapes.map l.scene.shapeLine ++ l.statusLine :: errors.map errorLine) :
    l.IsFaithful document errors := by
  have hbelow : l.lines.drop 3 =
      document.shapes.map l.scene.shapeLine ++ l.statusLine :: errors.map errorLine := by
    rw [hlines, List.append_assoc]
    exact List.drop_left' rfl
  have hcount : (document.shapes.map l.scene.shapeLine).length = document.shapeCount := by
    rw [List.length_map, document.length_shapes]
  constructor
  · rw [hlines]
    simp only [List.length_append, List.length_cons, List.length_nil, hcount, List.length_map]
    omega
  · rw [hlines, List.append_assoc]
    exact List.take_left' rfl
  · rw [hbelow]
    exact List.take_left' hcount
  · rw [← List.drop_drop, hbelow]
    exact List.drop_left' hcount
  · intro shape hshape
    rw [← hdocument] at hshape
    exact Scene.hiddenMark_suffix_shapeLine_iff hshape

/-- Nothing that a source can say breaks a line of its summary or imitates the mark. -/
theorem summary_is_faithful (settings : Settings) {path : String} (hpath : OneLine path)
    (source : String) :
    (ofRows settings path source).IsFaithful (Report.ofSource source).document
      (Report.ofSource source).errors := by
  have hdocument := document_ofRows settings path source
  refine isFaithful_of_lines_eq hdocument ?_
  rw [lines_eq fun line => oneLine_of_mem_summaryLines hpath, summaryLines, hdocument]
  rfl

/-- A hidden shape, a visible one with a text like the mark, and a row that fails. -/
def imitation : String :=
  "A = rect: 0, 0, 1, 1, lr=2\nB = rect: 0, 0, 1, 1, tx=[隐藏]\nC = missing [隐藏]"

def hidingTwo : Settings :=
  { Settings.standard with hiddenLayers := [2, 9] }

theorem summary_is_faithful_imitation :
    OneLine "drawing.txt" ∧ (ofRows hidingTwo "drawing.txt" imitation).lines.length = 7 ∧
      forall shape, shape ∈ (Report.ofSource imitation).document.shapes ->
        (Scene.hiddenMark.toList <:+
            ((ofRows hidingTwo "drawing.txt" imitation).scene.shapeLine shape).toList ↔
          shape.id = "A") := by
  have hpath : OneLine "drawing.txt" := oneLine_literal rfl
  have hfaithful := summary_is_faithful hidingTwo hpath imitation
  have hcounts : (Report.ofSource imitation).document.shapeCount = 2 ∧
      (Report.ofSource imitation).errors.length = 1 := by
    decide +kernel
  have hvisible : forall shape, shape ∈ (Report.ofSource imitation).document.shapes ->
      (shape ∉ (ofRows hidingTwo "drawing.txt" imitation).scene.visibleShapes ↔
        shape.id = "A") := by
    decide +kernel
  refine ⟨hpath, ?_, ?_⟩
  · rw [hfaithful.length, hcounts.1, hcounts.2]
  · intro shape hshape
    exact (hfaithful.marks shape hshape).trans (hvisible shape hshape)

end Loaded

end Drafting
