import Drafting.Proofs.Json.Fields

/-!
# Changes of an object that leave its reading alone

The members of an object may come in any order, names that are no fields are
passed over, and a field that holds its default may as well be missing.  This
module says so once for all records: which changes of the members are meant is
a relation, and neither the survey of the members nor the value of any field
tells apart what it relates.
-/

namespace Drafting
namespace Json

/-!
## Looking up

If a known name stands at one place only, it does not matter where that is, and
what stands elsewhere does not matter either.
-/

theorem namedMembers_append (ms ns : List Member) :
    namedMembers (ms ++ ns) = namedMembers ms ++ namedMembers ns := by
  simp [namedMembers]

@[simp] theorem namedMembers_cons (name : String) (o : Outline) (ms : List Member) :
    namedMembers ((some name, o) :: ms) = (name, o) :: namedMembers ms := by
  simp [namedMembers]

theorem lookup_eq_none_of_not_mem {known : List String} {ms : List Member} {name : String}
    (hknown : name ∈ known) (h : name ∉ occurring known ms) :
    (namedMembers ms).lookup name = none := by
  rw [List.lookup_eq_none_iff]
  intro p hp
  rcases List.mem_filterMap.mp hp with ⟨⟨other, o⟩, hm, hp⟩
  cases other with
  | none => cases hp
  | some other =>
      cases hp
      simp only [bne_iff_ne, ne_eq]
      rintro rfl
      exact h (mem_occurring.mpr ⟨⟨o, hm⟩, hknown⟩)

theorem lookup_middle_of_ne {before after : List Member} {name other : String}
    (h : name ≠ other) (o : Outline) :
    (namedMembers (before ++ (some other, o) :: after)).lookup name =
      (namedMembers (before ++ after)).lookup name := by
  have hne : (name == other) = false := beq_eq_false_iff_ne.mpr h
  simp only [namedMembers_append, namedMembers_cons, List.lookup_append, List.lookup_cons, hne]

theorem lookup_middle_self {before after : List Member} {known : List String} {name : String}
    (hknown : name ∈ known) {o : Outline} (h : Once known (before ++ (some name, o) :: after)) :
    (namedMembers (before ++ (some name, o) :: after)).lookup name = some o := by
  rw [Once, occurring_append, occurring_cons, if_pos hknown, List.nodup_middle,
    List.nodup_cons, List.mem_append, not_or] at h
  rw [namedMembers_append, List.lookup_append, lookup_eq_none_of_not_mem hknown h.1.1]
  simp

theorem lookup_eq_some_iff {known : List String} {ms : List Member} {name : String}
    (hknown : name ∈ known) (h : Once known ms) {o : Outline} :
    (namedMembers ms).lookup name = some o ↔ (some name, o) ∈ ms := by
  constructor
  · intro hlookup
    rcases List.lookup_eq_some_iff.mp hlookup with ⟨before, after, hsplit, _⟩
    have hmem : (name, o) ∈ namedMembers ms := by
      rw [hsplit]
      exact List.mem_append_right before List.mem_cons_self
    rcases List.mem_filterMap.mp hmem with ⟨⟨other, p⟩, hm, hp⟩
    cases other with
    | none => cases hp
    | some other =>
        cases hp
        exact hm
  · intro hmem
    rcases List.append_of_mem hmem with ⟨before, after, rfl⟩
    exact lookup_middle_self hknown h

theorem occurring_perm (known : List String) {ms ns : List Member} (h : ms.Perm ns) :
    (occurring known ms).Perm (occurring known ns) :=
  (h.filterMap _).filter _

theorem Once.perm {known : List String} {ms ns : List Member} (h : Once known ms)
    (hperm : ms.Perm ns) : Once known ns :=
  (occurring_perm known hperm).nodup_iff.mp h

theorem lookup_perm {known : List String} {ms ns : List Member} {name : String}
    (hknown : name ∈ known) (h : Once known ms) (hperm : ms.Perm ns) :
    (namedMembers ns).lookup name = (namedMembers ms).lookup name := by
  apply Option.ext
  intro o
  rw [lookup_eq_some_iff hknown h, lookup_eq_some_iff hknown (h.perm hperm), hperm.mem_iff]

/-!
## Changes of the members

For each record there are the names of its fields, the values that a member
which is no field may have, the fields and values that may as well be missing,
and the values in a field that do for others.  Members may then be put in
another order, added, left out, or changed inside.  An object changes with its
members, and an array with one of its items.

A survey of some of the fields has to allow for this: what it knows is known, it
lets pass what may be added, and a value that passes it does so after a change.
-/

/-- What the readers of a record let happen to its members. -/
structure Leeway where
  known : List String
  foreign : Outline -> Prop
  default : String -> Outline -> Prop
  within : String -> Outline -> Outline -> Prop

/-- One change of the members of an object. -/
inductive Leeway.Change (w : Leeway) : List Member -> List Member -> Prop where
  | reordered {ms ns : List Member} (h : ms.Perm ns) : Change w ms ns
  | extended (before after : List Member) {name : String} {o : Outline}
      (hname : name ∉ w.known) (ho : w.foreign o) :
      Change w (before ++ after) (before ++ (some name, o) :: after)
  | shortened (before after : List Member) {name : String} {o : Outline}
      (h : w.default name o) :
      Change w (before ++ (some name, o) :: after) (before ++ after)
  | inside (before after : List Member) {name : String} {o p : Outline}
      (h : w.within name o p) :
      Change w (before ++ (some name, o) :: after) (before ++ (some name, p) :: after)

inductive Leeway.Edit (w : Leeway) : Outline -> Outline -> Prop where
  | members {ms ns : List Member} (h : w.Change ms ns) (closed : Bool) :
      Edit w (.object ms closed) (.object ns closed)

inductive ItemEdit (edit : Outline -> Outline -> Prop) : Outline -> Outline -> Prop where
  | item (before after : List Outline) {o p : Outline} (h : edit o p) (closed : Bool) :
      ItemEdit edit (.array (before ++ o :: after) closed) (.array (before ++ p :: after) closed)

/-- What can be read is still read the same after a change. -/
def Survives (edit : Outline -> Outline -> Prop) (read : Outline -> Except Fault α) : Prop :=
  forall o p a, edit o p -> read o = .ok a -> read p = .ok a

theorem survives_check {edit : Outline -> Outline -> Prop} {read : Outline -> Except Fault α}
    (name : String) (required : Bool) (h : Survives edit read) :
    Survives edit (Field.of name required read).check := by
  intro o p _ hedit hcheck
  rcases check_of_eq_ok_iff.mp hcheck with ⟨a, ha⟩
  exact check_of_eq_ok_iff.mpr ⟨a, h o p a hedit ha⟩

theorem survives_false (read : Outline -> Except Fault α) : Survives (fun _ _ => False) read :=
  fun _ _ _ h => h.elim

namespace Leeway

variable {w : Leeway}

structure Suits (w : Leeway) (fields : List Field) (other : Outline -> Except Fault Unit) :
    Prop where
  known : forall name, name ∈ fields.map Field.name -> name ∈ w.known
  foreign : forall o, w.foreign o -> other o = .ok ()
  within : forall name, Survives (w.within name) (checkOf fields other name)

/-- A change of the members as the reader of one field sees it. -/
inductive Seen (w : Leeway) (name : String) : Option Outline -> Option Outline -> Prop where
  | same (o : Option Outline) : Seen w name o o
  | missing {o : Outline} (h : w.default name o) : Seen w name (some o) none
  | inside {o p : Outline} (h : w.within name o p) : Seen w name (some o) (some p)

theorem Change.seen {ms ns : List Member} {known : List String} {name : String}
    (h : w.Change ms ns) (hsub : forall name, name ∈ known -> name ∈ w.known)
    (honce : Once known ms) (hknown : name ∈ known) :
    Seen w name ((namedMembers ms).lookup name) ((namedMembers ns).lookup name) := by
  cases h with
  | reordered hperm =>
      rw [lookup_perm hknown honce hperm]
      exact .same _
  | extended before after hname _ =>
      have hne := ne_of_mem_of_not_mem (hsub _ hknown) hname
      rw [lookup_middle_of_ne hne]
      exact .same _
  | @shortened before after other o hdefault =>
      by_cases heq : name = other
      · subst heq
        -- It was the only member of that name, so now there is none.
        have hgone : name ∉ occurring known (before ++ after) := by
          rw [Once, occurring_append, occurring_cons, if_pos hknown, List.nodup_middle,
            List.nodup_cons, ← occurring_append] at honce
          exact honce.1
        rw [lookup_middle_self hknown honce, lookup_eq_none_of_not_mem hknown hgone]
        exact .missing hdefault
      · rw [lookup_middle_of_ne heq]
        exact .same _
  | @inside before after other o p hwithin =>
      by_cases heq : name = other
      · subst heq
        have honce' : Once known (before ++ (some name, p) :: after) := by
          rw [Once, occurring_append, occurring_cons] at honce ⊢
          exact honce
        rw [lookup_middle_self hknown honce, lookup_middle_self hknown honce']
        exact .inside hwithin
      · rw [lookup_middle_of_ne heq, lookup_middle_of_ne heq]
        exact .same _

theorem Change.once {ms ns : List Member} {known : List String} (h : w.Change ms ns)
    (hsub : forall name, name ∈ known -> name ∈ w.known) (honce : Once known ms) :
    Once known ns := by
  cases h with
  | reordered hperm => exact honce.perm hperm
  | extended before after hname _ =>
      have hother := fun hmem => hname (hsub _ hmem)
      rw [Once, occurring_append, occurring_cons, if_neg hother, ← occurring_append]
      exact honce
  | shortened before after _ =>
      rw [Once, occurring_append] at honce ⊢
      refine List.Nodup.sublist (List.Sublist.append_left ?_ _) honce
      rw [occurring_cons]
      split
      · exact List.sublist_cons_self _ _
      · exact List.Sublist.refl _
  | inside before after _ =>
      rw [Once, occurring_append, occurring_cons] at honce ⊢
      exact honce

section Fields

variable {ms ns : List Member} {fields : List Field} {other : Outline -> Except Fault Unit}

theorem Change.survey (h : w.Change ms ns) (hsuits : w.Suits fields other)
    (hsurvey : surveyMembers fields other [] ms = .ok ()) :
    surveyMembers fields other [] ns = .ok () := by
  rw [survey_eq_ok_iff] at hsurvey ⊢
  rcases hsurvey with ⟨hpass, honce⟩
  refine ⟨?_, h.once hsuits.known honce⟩
  -- Only a member that is new or has another value needs to be looked at.
  cases h with
  | reordered hperm => exact fun m hm => hpass m (hperm.mem_iff.mpr hm)
  | @extended before after name o hname ho =>
      have hother : name ∉ fields.map Field.name := fun hmem => hname (hsuits.known _ hmem)
      have hnew : Passes fields other (some name, o) :=
        ⟨name, rfl, by rw [checkOf_of_not_mem hother]; exact hsuits.foreign o ho⟩
      rw [List.forall_mem_append, List.forall_mem_cons]
      rw [List.forall_mem_append] at hpass
      exact ⟨hpass.1, hnew, hpass.2⟩
  | shortened before after _ =>
      rw [List.forall_mem_append, List.forall_mem_cons] at hpass
      rw [List.forall_mem_append]
      exact ⟨hpass.1, hpass.2.2⟩
  | @inside before after name o p hinside =>
      rw [List.forall_mem_append, List.forall_mem_cons] at hpass ⊢
      rcases hpass with ⟨hbefore, ⟨found, heq, hcheck⟩, hafter⟩
      cases heq
      exact ⟨hbefore, ⟨name, rfl, hsuits.within name o p () hinside hcheck⟩, hafter⟩

variable {name : String} {read : Outline -> Except Fault α} {a : α}

theorem Change.optional (h : w.Change ms ns) (hsuits : w.Suits fields other)
    (hsurvey : surveyMembers fields other [] ms = .ok ()) (hknown : name ∈ fields.map Field.name)
    {otherwise : α} (hdefault : forall o, w.default name o -> read o = .ok otherwise)
    (hwithin : Survives (w.within name) read)
    (hread : (namedMembers ms).optional name read otherwise = .ok a) :
    (namedMembers ns).optional name read otherwise = .ok a := by
  have hseen := h.seen hsuits.known (survey_eq_ok_iff.mp hsurvey).2 hknown
  unfold Values.optional at hread ⊢
  generalize (namedMembers ms).lookup name = x at hseen hread
  generalize (namedMembers ns).lookup name = y at hseen ⊢
  cases hseen with
  | same => exact hread
  | missing hmissing =>
      rw [← hdefault _ hmissing]
      exact hread
  | inside hinside => exact hwithin _ _ a hinside hread

theorem Change.required (h : w.Change ms ns) (hsuits : w.Suits fields other)
    (hsurvey : surveyMembers fields other [] ms = .ok ()) (hknown : name ∈ fields.map Field.name)
    (hdefault : forall o, ¬ w.default name o) (hwithin : Survives (w.within name) read)
    (hread : (namedMembers ms).required name read = .ok a) :
    (namedMembers ns).required name read = .ok a := by
  have hseen := h.seen hsuits.known (survey_eq_ok_iff.mp hsurvey).2 hknown
  unfold Values.required at hread ⊢
  generalize (namedMembers ms).lookup name = x at hseen hread
  generalize (namedMembers ns).lookup name = y at hseen ⊢
  cases hseen with
  | same => exact hread
  | missing hmissing => exact absurd hmissing (hdefault _)
  | inside hinside => exact hwithin _ _ a hinside hread

end Fields

end Leeway

/-!
## Lists after a change

Items are read one after the other, so what is read for the others is not
touched.
-/

theorem takeItems_append (item : Outline -> Except Fault α) (before after : List Outline) :
    takeItems item (before ++ after) = (do
      let first ← takeItems item before
      let second ← takeItems item after
      .ok (first ++ second)) := by
  induction before with
  | nil => cases h : takeItems item after <;> simp [takeItems, h, bind, Except.bind]
  | cons o before ih =>
      rw [List.cons_append, takeItems, ih, takeItems]
      cases item o with
      | error e => rfl
      | ok a =>
          cases takeItems item before with
          | error e => rfl
          | ok first => cases takeItems item after <;> rfl

theorem survives_takeList {edit : Outline -> Outline -> Prop} {item : Outline -> Except Fault α}
    (h : Survives edit item) : Survives (ItemEdit edit) (takeList item) := by
  intro _ _ found hedit hread
  cases hedit with
  | @item before after o p hitem closed =>
      simp only [takeList, takeItems_append, takeItems, bind_eq_ok_iff] at hread ⊢
      rcases hread with ⟨all, ⟨first, hfirst, second, ⟨a, ha, hrest⟩, hall⟩, hclosed⟩
      exact ⟨all, ⟨first, hfirst, second, ⟨a, h o p a hitem ha, hrest⟩, hall⟩, hclosed⟩

end Json
end Drafting
