import Drafting.Proofs.History

/-!
# Reading goes on where it has stopped

A source can be read in two parts if the first one ends with a row: the rows of
the second part are fed to the report of the first, and their numbers go on from
there.  Nothing that has been read is taken back.  Shapes and errors are only
added behind those that are there, and a name that is bound stays bound, though
its number may change.
-/

namespace Drafting

namespace SymbolTable

theorem contains_set {t : SymbolTable} {name : String} (other : String) (value : Float)
    (h : t.contains name = true) : (t.set other value).contains name = true := by
  unfold contains at h ⊢
  rw [get?_set]
  split
  · rfl
  · exact h

end SymbolTable

namespace Drawing

/-- The second drawing has all shapes and all names of the first one, and maybe more. -/
structure Extends (d e : Drawing) : Prop where
  rects : d.document.rects <+: e.document.rects
  lines : d.document.lines <+: e.document.lines
  ellipses : d.document.ellipses <+: e.document.ellipses
  names : forall name, d.session.symbols.contains name = true ->
    e.session.symbols.contains name = true

namespace Extends

theorem refl (d : Drawing) : Extends d d :=
  { rects := List.prefix_rfl
    lines := List.prefix_rfl
    ellipses := List.prefix_rfl
    names := fun _ h => h }

theorem trans {d e f : Drawing} (h : Extends d e) (h' : Extends e f) : Extends d f :=
  { rects := h.rects.trans h'.rects
    lines := h.lines.trans h'.lines
    ellipses := h.ellipses.trans h'.ellipses
    names := fun name hname => h'.names name (h.names name hname) }

theorem enact (d : Drawing) (change : Change) : Extends d (d.enact change) := by
  cases change with
  | page page => exact { refl d with }
  | default value => exact { refl d with }
  | symbol name value =>
      exact { refl d with names := fun _ h => SymbolTable.contains_set name value h }
  | shape s =>
      cases s with
      | rect r => exact { refl d with rects := List.prefix_append _ [r] }
      | line l => exact { refl d with lines := List.prefix_append _ [l] }
      | ellipse e => exact { refl d with ellipses := List.prefix_append _ [e] }

theorem afterRows (d : Drawing) (rows : List (Nat × String)) : Extends d (d.afterRows rows) :=
  invariant_afterRows (fun _ before change h _ => h.trans (enact before change)) (refl d) rows

end Extends

end Drawing

namespace Report

theorem feedAll_append (r : Report) (rows more : List (Nat × String)) :
    r.feedAll (rows ++ more) = (r.feedAll rows).feedAll more :=
  List.foldl_append

theorem ofSource_append_eq_feedAll {p : String} (hclosed : Text.Closed p.toList) (s : String) :
    ofSource (p ++ s) =
      (ofSource p).feedAll (numbered ((Text.rows p.toList).length + 1) s) := by
  rw [ofSource, numbered_append hclosed, feedAll_append, Nat.add_comm]
  rfl

theorem extends_feedAll (r : Report) (rows : List (Nat × String)) :
    r.drawing.Extends (r.feedAll rows).drawing ∧ r.errors <+: (r.feedAll rows).errors := by
  rw [feedAll_eq]
  exact ⟨Drawing.Extends.afterRows r.drawing rows, List.prefix_append _ _⟩

/--
A source that is put behind complete rows is read from where these have left
off.  Their rectangles, lines, and errors stay the first ones, and the names
bound by them stay bound.
-/
theorem ofSource_append_resumes {p : String} (hclosed : Text.Closed p.toList) (s : String) :
    ofSource (p ++ s) =
        (ofSource p).feedAll (numbered ((Text.rows p.toList).length + 1) s) ∧
      (ofSource p).document.rects <+: (ofSource (p ++ s)).document.rects ∧
      (ofSource p).document.lines <+: (ofSource (p ++ s)).document.lines ∧
      (ofSource p).errors <+: (ofSource (p ++ s)).errors ∧
      forall name, (ofSource p).symbols.contains name = true ->
        (ofSource (p ++ s)).symbols.contains name = true := by
  have hresumed := ofSource_append_eq_feedAll hclosed s
  rcases extends_feedAll (ofSource p) (numbered ((Text.rows p.toList).length + 1) s) with
    ⟨hdrawing, herrors⟩
  rw [← hresumed] at hdrawing herrors
  exact ⟨hresumed, hdrawing.rects, hdrawing.lines, herrors, hdrawing.names⟩

def begun : String :=
  "a=1\r\nR=rect: a, 1, 2, 3\n\noops\n"

def continued : String :=
  "a=a+a\r\nL=line: 0, 0, a, a\noops"

theorem ofSource_begun_append_continued :
    Text.Closed begun.toList ∧
      ofSource (begun ++ continued) = (ofSource begun).feedAll (numbered 5 continued) ∧
      (ofSource begun).document.rects <+: (ofSource (begun ++ continued)).document.rects ∧
      (ofSource begun).document.lines <+: (ofSource (begun ++ continued)).document.lines ∧
      (ofSource begun).errors <+: (ofSource (begun ++ continued)).errors ∧
      (ofSource begun).symbols.contains "a" = true ∧
      (ofSource (begun ++ continued)).symbols.contains "a" = true := by
  have hclosed : Text.Closed begun.toList := by decide +kernel
  have hbound : (ofSource begun).symbols.contains "a" = true := by decide +kernel
  rcases ofSource_append_resumes hclosed continued with
    ⟨hresumed, hrects, hlines, herrors, hnames⟩
  exact ⟨hclosed, hresumed, hrects, hlines, herrors, hbound, hnames "a" hbound⟩

end Report

end Drafting
