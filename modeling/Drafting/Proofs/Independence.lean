import Drafting.Proofs.Plans

/-!
# Statements of different keywords do not interfere

A statement with a keyword reads the session, and only a page statement reads
the document as well, namely the present page.  It never changes the session,
and of the document it changes at most one part: the page, the rectangles, or
the lines.  So the statements of each keyword do what they would do if there were
no others, and only their own order matters.
-/

namespace Drafting

namespace Document

def AgreesOn (d e : Document) : Keyword -> Prop
  | .page => d.page = e.page
  | .rect => d.rects = e.rects
  | .line => d.lines = e.lines

end Document

namespace Drawing

/-- The two drawings are the same in all that statements with the keyword read or change. -/
structure AgreesOn (d e : Drawing) (k : Keyword) : Prop where
  session : d.session = e.session
  document : d.document.AgreesOn e.document k

variable {d e : Drawing} {j k : Keyword} {s : Statement}

theorem AgreesOn.refl (d : Drawing) (k : Keyword) : d.AgreesOn d k := by
  refine ⟨rfl, ?_⟩
  cases k <;> rfl

theorem AgreesOn.symm (h : d.AgreesOn e k) : e.AgreesOn d k := by
  refine ⟨h.session.symm, ?_⟩
  cases k with
  | page => exact Eq.symm h.document
  | rect => exact Eq.symm h.document
  | line => exact Eq.symm h.document

theorem AgreesOn.trans {f : Drawing} (h : d.AgreesOn e k) (h' : e.AgreesOn f k) :
    d.AgreesOn f k := by
  refine ⟨h.session.trans h'.session, ?_⟩
  cases k with
  | page => exact Eq.trans h.document h'.document
  | rect => exact Eq.trans h.document h'.document
  | line => exact Eq.trans h.document h'.document

/-!
## One statement

Drawings that agree on what belongs to a keyword are treated alike by its
statements, which leave alone what belongs to another one.
-/

theorem AgreesOn.plan (h : d.AgreesOn e k) (hs : s.keyword? = some k) :
    s.plan d = s.plan e := by
  unfold Statement.keyword? at hs
  unfold Statement.plan
  rw [hs, h.session]
  cases k with
  | page =>
      have hpage : d.document.page = e.document.page := h.document
      rw [hpage]
  | rect => rfl
  | line => rfl

theorem AgreesOn.enact (h : d.AgreesOn e k) (change : Change) :
    (d.enact change).AgreesOn (e.enact change) k := by
  cases change with
  | page page =>
      refine ⟨h.session, ?_⟩
      cases k with
      | page => rfl
      | rect => exact h.document
      | line => exact h.document
  | shape shape =>
      refine ⟨h.session, ?_⟩
      cases k <;> cases shape <;>
        first
          | exact h.document
          | exact congrArg (· ++ [_]) h.document
  | default value =>
      refine ⟨?_, h.document⟩
      show Session.mk _ _ = Session.mk _ _
      rw [h.session]
  | symbol name value =>
      refine ⟨?_, h.document⟩
      show Session.mk _ _ = Session.mk _ _
      rw [h.session]

theorem agreesOn_enact_of_ne {change : Change} (hasks : s.Asks d change)
    (hs : s.keyword? = some j) (hne : j ≠ k) : (d.enact change).AgreesOn d k := by
  unfold Statement.keyword? at hs
  -- The change is one of the keyword `j`, and what belongs to `k` stays as it is.
  cases change with
  | page page =>
      have hj : j = .page := Option.some.inj (hs.symm.trans hasks.1)
      refine ⟨rfl, ?_⟩
      cases k with
      | page => exact absurd hj hne
      | rect => rfl
      | line => rfl
  | shape shape =>
      cases shape with
      | rect r =>
          have hj : j = .rect := Option.some.inj (hs.symm.trans hasks.1)
          refine ⟨rfl, ?_⟩
          cases k with
          | page => rfl
          | rect => exact absurd hj hne
          | line => rfl
      | line l =>
          have hj : j = .line := Option.some.inj (hs.symm.trans hasks.1)
          refine ⟨rfl, ?_⟩
          cases k with
          | page => rfl
          | rect => rfl
          | line => exact absurd hj hne
      | ellipse e => cases hasks
  | default value => cases hs.symm.trans hasks.1
  | symbol name value => cases hs.symm.trans hasks.1

theorem AgreesOn.execute (h : d.AgreesOn e k) (hs : s.keyword? = some k) :
    (d.execute s).1 = (e.execute s).1 ∧ (d.execute s).2.AgreesOn (e.execute s).2 k := by
  unfold Drawing.execute
  rw [h.plan hs]
  cases s.plan e with
  | error cause => exact ⟨rfl, h⟩
  | ok change => exact ⟨rfl, h.enact change⟩

theorem agreesOn_execute_of_ne (d : Drawing) (hs : s.keyword? = some j) (hne : j ≠ k) :
    (d.execute s).2.AgreesOn d k := by
  unfold Drawing.execute
  cases hplan : s.plan d with
  | error cause => exact AgreesOn.refl d k
  | ok change => exact agreesOn_enact_of_ne (Statement.plan_eq_ok_iff.mp hplan) hs hne

theorem ellipses_execute (d : Drawing) (s : Statement) :
    (d.execute s).2.document.ellipses = d.document.ellipses := by
  unfold Drawing.execute
  cases hplan : s.plan d with
  | error cause => rfl
  | ok change =>
      have hasks := Statement.plan_eq_ok_iff.mp hplan
      cases change with
      | page page => rfl
      | default value => rfl
      | symbol name value => rfl
      | shape shape =>
          cases shape with
          | rect r => rfl
          | line l => rfl
          | ellipse e => cases hasks

/-!
## Lists of statements

Each statement of a list reports an effect or an error.  Of the reports and of
the statements those with one keyword are picked out, in their order.
-/

def afterStatements (d : Drawing) : List Statement -> Drawing
  | [] => d
  | s :: rest => afterStatements (d.execute s).2 rest

def outcomes (d : Drawing) :
    List Statement -> List (Statement × Except StatementError Effect)
  | [] => []
  | s :: rest => (s, (d.execute s).1) :: outcomes (d.execute s).2 rest

def withKeyword (k : Keyword) (statements : List Statement) : List Statement :=
  statements.filter fun s => s.keyword? = some k

def outcomesOf (k : Keyword) (d : Drawing) (statements : List Statement) :
    List (Statement × Except StatementError Effect) :=
  (d.outcomes statements).filter fun outcome => outcome.1.keyword? = some k

/--
The statements with one keyword report, and leave behind of what belongs to
them, what they would without the other statements.
-/
theorem AgreesOn.outcomes (h : d.AgreesOn e k) {statements : List Statement}
    (hkeywords : forall s, s ∈ statements -> s.keyword? ≠ none) :
    outcomesOf k d statements = e.outcomes (withKeyword k statements) ∧
      (d.afterStatements statements).AgreesOn
        (e.afterStatements (withKeyword k statements)) k := by
  induction statements generalizing d e with
  | nil => exact ⟨rfl, h⟩
  | cons s rest ih =>
      have hrest : forall s, s ∈ rest -> s.keyword? ≠ none :=
        fun other hother => hkeywords other (List.mem_cons_of_mem s hother)
      by_cases hs : s.keyword? = some k
      · rcases h.execute hs with ⟨houtcome, hnext⟩
        rcases ih hnext hrest with ⟨houtcomes, hafter⟩
        have hfirst : withKeyword k (s :: rest) = s :: withKeyword k rest :=
          List.filter_cons_of_pos (by simpa using hs)
        rw [hfirst]
        refine ⟨?_, hafter⟩
        show ((s, (d.execute s).1) :: (d.execute s).2.outcomes rest).filter _ =
          (s, (e.execute s).1) :: (e.execute s).2.outcomes (withKeyword k rest)
        rw [List.filter_cons_of_pos (by simpa using hs), ← houtcome, ← houtcomes]
        rfl
      -- A statement with another keyword changes nothing that those with `k` read.
      · rcases Option.ne_none_iff_exists'.mp (hkeywords s List.mem_cons_self) with ⟨j, hj⟩
        have hne : j ≠ k := by
          rintro rfl
          exact hs hj
        have hnext : (d.execute s).2.AgreesOn e k := (agreesOn_execute_of_ne d hj hne).trans h
        rcases ih hnext hrest with ⟨houtcomes, hafter⟩
        have hfirst : withKeyword k (s :: rest) = withKeyword k rest :=
          List.filter_cons_of_neg (by simpa using hs)
        rw [hfirst]
        refine ⟨?_, hafter⟩
        rw [← houtcomes]
        exact List.filter_cons_of_neg (by simpa using hs)

theorem ellipses_afterStatements (d : Drawing) (statements : List Statement) :
    (d.afterStatements statements).document.ellipses = d.document.ellipses := by
  induction statements generalizing d with
  | nil => rfl
  | cons s rest ih => exact (ih (d.execute s).2).trans (d.ellipses_execute s)

theorem eq_of_agreesOn (h : forall k, d.AgreesOn e k)
    (hellipses : d.document.ellipses = e.document.ellipses) : d = e := by
  rcases d with ⟨session, ⟨page, rects, lines, ellipses⟩⟩
  rcases e with ⟨otherSession, ⟨otherPage, otherRects, otherLines, otherEllipses⟩⟩
  cases (h .page).session
  cases (h .page).document
  cases (h .rect).document
  cases (h .line).document
  cases hellipses
  rfl

/--
Statements with keywords can be put in any order that keeps the order among the
pages, among the rectangles, and among the lines.  In the end there is the same
drawing, and every statement has reported the same.
-/
theorem execute_reordered (d : Drawing) {statements reordered : List Statement}
    (hkeywords : forall s, s ∈ statements -> s.keyword? ≠ none)
    (hperm : reordered.Perm statements)
    (horder : forall k, withKeyword k reordered = withKeyword k statements) :
    d.afterStatements reordered = d.afterStatements statements ∧
      forall k, outcomesOf k d reordered = outcomesOf k d statements := by
  have hreordered : forall s, s ∈ reordered -> s.keyword? ≠ none :=
    fun s hs => hkeywords s (hperm.mem_iff.mp hs)
  have hfirst := fun k => (AgreesOn.refl d k).outcomes hreordered
  have hsecond := fun k => (AgreesOn.refl d k).outcomes hkeywords
  constructor
  · apply eq_of_agreesOn
    · intro k
      have halone := (hfirst k).2
      rw [horder k] at halone
      exact halone.trans (hsecond k).2.symm
    · rw [ellipses_afterStatements, ellipses_afterStatements]
  · intro k
    rw [(hfirst k).1, (hsecond k).1, horder k]

def mixed : List Statement :=
  ["page: 2, 5, mm", "A=rect: 0, 0, 4, 3", "page: 0, 5", "B=line: 0, 0, 1, 1",
    "C=rect: 0, 0, 1", "page: 3, 5"].map Statement.ofLine

def mixedReordered : List Statement :=
  ["B=line: 0, 0, 1, 1", "A=rect: 0, 0, 4, 3", "page: 2, 5, mm", "C=rect: 0, 0, 1",
    "page: 0, 5", "page: 3, 5"].map Statement.ofLine

theorem execute_mixedReordered :
    (forall s, s ∈ mixed -> s.keyword? ≠ none) ∧ mixedReordered.Perm mixed ∧
      (forall k, withKeyword k mixedReordered = withKeyword k mixed) ∧
      blank.afterStatements mixedReordered = blank.afterStatements mixed ∧
      forall k, outcomesOf k blank mixedReordered = outcomesOf k blank mixed := by
  have hkeywords : forall s, s ∈ mixed -> s.keyword? ≠ none := by decide +kernel
  have hperm : mixedReordered.Perm mixed := by decide +kernel
  have horder : forall k, withKeyword k mixedReordered = withKeyword k mixed := by
    intro k
    cases k <;> decide +kernel
  rcases execute_reordered blank hkeywords hperm horder with ⟨hafter, houtcomes⟩
  exact ⟨hkeywords, hperm, horder, hafter, houtcomes⟩

end Drawing

end Drafting
