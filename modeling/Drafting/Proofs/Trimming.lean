import Drafting.Statement

/-!
# Blanks at the ends of a text

Names, heads, keys, and values are trimmed after a row has been cut into its
pieces.  So blanks at either end of a row do not matter: a blank in front goes
to the first piece, one behind to the last, and both are dropped there.
-/

namespace Drafting
namespace Text

theorem ne_of_isBlank {c mark : Char} (hc : isBlank c = true) (hmark : isBlank mark = false) :
    c ≠ mark := by
  rintro rfl
  rw [hc] at hmark
  cases hmark

theorem trimEnd_concat (cs : List Char) (c : Char) :
    trimEnd (cs ++ [c]) = if isBlank c then trimEnd cs else cs ++ [c] := by
  unfold trimEnd
  rw [List.reverse_concat, List.dropWhile_cons]
  split
  · rfl
  · simp

theorem trim_cons {c : Char} (hc : isBlank c = true) (cs : List Char) :
    trim (c :: cs) = trim cs := by
  unfold trim
  rw [trimStart_cons, if_pos hc]

theorem trim_concat {c : Char} (hc : isBlank c = true) (cs : List Char) :
    trim (cs ++ [c]) = trim cs := by
  induction cs with
  | nil => exact trim_cons hc []
  | cons d rest ih =>
      by_cases hd : isBlank d = true
      · rw [List.cons_append, trim_cons hd, trim_cons hd, ih]
      · unfold trim
        rw [List.cons_append, trimStart_cons, if_neg hd, trimStart_cons, if_neg hd,
          ← List.cons_append, trimEnd_concat, if_pos hc]

/-- What does not see a blank at the front of a text does not see all of them. -/
theorem apply_trimStart {f : List Char -> α}
    (hfront : forall c cs, isBlank c = true -> f (c :: cs) = f cs) (cs : List Char) :
    f (trimStart cs) = f cs := by
  induction cs with
  | nil => rfl
  | cons c rest ih =>
      rw [trimStart_cons]
      split
      · next hc => rw [ih, hfront c rest hc]
      · rfl

theorem apply_trimEnd {f : List Char -> α}
    (hback : forall c cs, isBlank c = true -> f (cs ++ [c]) = f cs) (cs : List Char) :
    f (trimEnd cs) = f cs := by
  have hreversed : (f ∘ List.reverse) (trimStart cs.reverse) = (f ∘ List.reverse) cs.reverse := by
    apply apply_trimStart
    intro c rest hc
    simpa using hback c rest.reverse hc
  simpa [trimEnd, trimStart] using hreversed

theorem apply_trim {f : List Char -> α}
    (hfront : forall c cs, isBlank c = true -> f (c :: cs) = f cs)
    (hback : forall c cs, isBlank c = true -> f (cs ++ [c]) = f cs) (cs : List Char) :
    f (trim cs) = f cs :=
  (apply_trimEnd hback (trimStart cs)).trans (apply_trimStart hfront cs)

theorem apply_append {f : List Char -> α}
    (hfront : forall c cs, isBlank c = true -> f (c :: cs) = f cs)
    (hback : forall c cs, isBlank c = true -> f (cs ++ [c]) = f cs) {front back : List Char}
    (hfrontBlank : allBlank front = true) (hbackBlank : allBlank back = true)
    (cs : List Char) : f (front ++ cs ++ back) = f cs := by
  induction front with
  | nil =>
      induction back generalizing cs with
      | nil => simp
      | cons c rest ih =>
          simp only [allBlank, List.all_cons, Bool.and_eq_true] at hbackBlank
          have hrest := ih hbackBlank.2 (cs ++ [c])
          rw [hback c cs hbackBlank.1] at hrest
          simpa using hrest
  | cons c rest ih =>
      simp only [allBlank, List.all_cons, Bool.and_eq_true] at hfrontBlank
      rw [List.cons_append, List.cons_append, hfront c _ hfrontBlank.1, ih hfrontBlank.2]

theorem trim_append {front back : List Char} (hfront : allBlank front = true)
    (hback : allBlank back = true) (cs : List Char) : trim (front ++ cs ++ back) = trim cs :=
  apply_append (fun _ cs hc => trim_cons hc cs) (fun _ cs hc => trim_concat hc cs) hfront hback cs

theorem trim_trim (cs : List Char) : trim (trim cs) = trim cs :=
  apply_trim (fun _ cs hc => trim_cons hc cs) (fun _ cs hc => trim_concat hc cs) cs

theorem allBlank_trim (cs : List Char) : allBlank (trim cs) = allBlank cs := by
  apply apply_trim
  · intro c cs hc
    simp [allBlank, hc]
  · intro c cs hc
    simp [allBlank, hc]

theorem trim_eq_nil_of_allBlank {cs : List Char} (h : allBlank cs = true) : trim cs = [] := by
  induction cs with
  | nil => rfl
  | cons c rest ih =>
      simp only [allBlank, List.all_cons, Bool.and_eq_true] at h
      rw [trim_cons h.1, ih h.2]

theorem trim_eq_nil_iff {cs : List Char} : trim cs = [] ↔ allBlank cs = true := by
  constructor
  · intro h
    rw [← allBlank_trim, h]
    rfl
  · exact trim_eq_nil_of_allBlank

/-!
## Cutting a text with a blank at one end

A character at the end of a text goes to the last of its pieces, and one in
front to the first, unless it is the mark itself.  No mark of a statement is a
blank, so what reading makes of a statement does not see the blanks around it.
-/

theorem cutAt_concat {mark c : Char} (h : c ≠ mark) (cs : List Char) :
    cutAt mark (cs ++ [c]) =
      match cutAt mark cs with
      | (before, some after) => (before, some (after ++ [c]))
      | (before, none) => (before ++ [c], none) := by
  induction cs with
  | nil => simp [cutAt, h]
  | cons d rest ih =>
      by_cases hd : d = mark
      · subst hd
        simp
      · rw [List.cons_append, cutAt_of_ne _ hd, cutAt_of_ne _ hd, ih]
        rcases cutAt mark rest with ⟨before, _ | after⟩ <;> rfl

theorem pieces_concat {mark c : Char} (h : c ≠ mark) (cs : List Char) :
    exists front last, pieces mark cs = front ++ [last] ∧
      pieces mark (cs ++ [c]) = front ++ [last ++ [c]] := by
  induction cs with
  | nil => exact ⟨[], [], rfl, by simp [pieces, h]⟩
  | cons d rest ih =>
      rcases ih with ⟨front, last, hrest, hlonger⟩
      by_cases hd : d = mark
      · subst hd
        refine ⟨[] :: front, last, ?_, ?_⟩
        · rw [pieces_mark, hrest]
          rfl
        · rw [List.cons_append, pieces_mark, hlonger]
          rfl
      · cases front with
        | nil =>
            refine ⟨[], d :: last, ?_, ?_⟩
            · simp [pieces, hd, hrest]
            · simp [pieces, hd, hlonger]
        | cons first front =>
            refine ⟨(d :: first) :: front, last, ?_, ?_⟩
            · simp [pieces, hd, hrest]
            · simp [pieces, hd, hlonger]

end Text

namespace Statement

open Text

def mainPart (main : List Char) : Option String × String :=
  match cutAt '=' main with
  | (name, some head) => (some (String.ofList (trim name)), String.ofList (trim head))
  | (_, none) => (none, String.ofList (trim main))

theorem ofChars_eq (line : List Char) :
    ofChars line =
      { name := (mainPart (cutAt ':' line).1).1
        head := (mainPart (cutAt ':' line).1).2
        fields := ((cutAt ':' line).2.map fieldsOf).getD [] } := by
  unfold ofChars mainPart
  rcases cutAt ':' line with ⟨main, body⟩
  rcases hmain : cutAt '=' main with ⟨name, _ | head⟩ <;> cases body <;> simp [hmain]

theorem mainPart_cons {c : Char} (hc : isBlank c = true) (main : List Char) :
    mainPart (c :: main) = mainPart main := by
  unfold mainPart
  rw [cutAt_of_ne main (ne_of_isBlank hc rfl)]
  rcases cutAt '=' main with ⟨name, _ | head⟩ <;> simp [trim_cons hc]

theorem mainPart_concat {c : Char} (hc : isBlank c = true) (main : List Char) :
    mainPart (main ++ [c]) = mainPart main := by
  unfold mainPart
  rw [cutAt_concat (ne_of_isBlank hc rfl)]
  rcases cutAt '=' main with ⟨name, _ | head⟩ <;> simp [trim_concat hc]

theorem fieldsOf_concat {c : Char} (hc : isBlank c = true) (body : List Char) :
    fieldsOf (body ++ [c]) = fieldsOf body := by
  have hmark : c ≠ ',' := ne_of_isBlank hc rfl
  rcases pieces_concat hmark body with ⟨front, last, hshort, hlong⟩
  unfold fieldsOf
  rw [hshort, hlong, List.map_append, List.map_append, List.map_singleton, List.map_singleton,
    trim_concat hc]

theorem ofChars_cons {c : Char} (hc : isBlank c = true) (line : List Char) :
    ofChars (c :: line) = ofChars line := by
  rw [ofChars_eq, ofChars_eq, cutAt_of_ne line (ne_of_isBlank hc rfl),
    mainPart_cons hc]

theorem ofChars_concat {c : Char} (hc : isBlank c = true) (line : List Char) :
    ofChars (line ++ [c]) = ofChars line := by
  rw [ofChars_eq, ofChars_eq, cutAt_concat (ne_of_isBlank hc rfl)]
  rcases cutAt ':' line with ⟨main, _ | body⟩
  · simp only [mainPart_concat hc]
  · simp only [Option.map_some, fieldsOf_concat hc]

theorem ofChars_trim (line : List Char) : ofChars (trim line) = ofChars line :=
  apply_trim (fun _ cs hc => ofChars_cons hc cs) (fun _ cs hc => ofChars_concat hc cs) line

end Statement

end Drafting
