import Drafting.Proofs.Json.Members
import Drafting.Proofs.RoundTrip
import Mathlib.Logic.Relation

/-!
# Texts that are read as the same document

The texts of documents leave some room.  The members of the document, its page,
and its shapes may come in any order; members with unknown names may be there;
and fields with defaults may be missing when the default is what they say.  A
text that is changed in these ways, as often as one likes, is read as the same
document.
-/

namespace Drafting

open Json (Outline Leeway Survives ItemEdit)

/-!
## Pages

Units may be missing when they are empty, and nothing inside of the fields may
change.
-/

namespace Page

def leeway : Leeway where
  known := fields.map Json.Field.name
  foreign o := o.intact = true
  default name o := name = "units" ∧ Json.takeText o = .ok ""
  within _ _ _ := False

theorem suits_fields : leeway.Suits fields Json.ignored where
  known _ h := h
  foreign _ h := if_pos h
  within _ := Json.survives_false _

theorem survives_ofOutline : Survives leeway.Edit ofOutline := by
  intro _ _ page hedit hread
  cases hedit with
  | @members ms ns h closed =>
      simp only [ofOutline, Json.takeRecord, Json.takeObject_eq_ok_iff,
        bind_eq_ok_iff] at hread ⊢
      rcases hread with ⟨_, ⟨hsurvey, hclosed, rfl⟩, width, hwidth, height, hheight, grid, hgrid,
        snap, hsnap, units, hunits, scale, hscale, hpage⟩
      have hrequired : forall {α : Type} {name : String} {read : Outline -> Except Fault α}
          {a : α}, name ∈ fields.map Json.Field.name -> name ≠ "units" ->
          (Json.namedMembers ms).required name read = .ok a ->
          (Json.namedMembers ns).required name read = .ok a :=
        fun hknown hne => h.required suits_fields hsurvey hknown (fun _ hd => hne hd.1)
          (Json.survives_false _)
      exact ⟨_, ⟨h.survey suits_fields hsurvey, hclosed, rfl⟩,
        width, hrequired (by decide) (by decide) hwidth,
        height, hrequired (by decide) (by decide) hheight,
        grid, hrequired (by decide) (by decide) hgrid,
        snap, hrequired (by decide) (by decide) hsnap,
        units, h.optional suits_fields hsurvey (by decide) (fun _ hd => hd.2)
          (Json.survives_false _) hunits,
        scale, hrequired (by decide) (by decide) hscale, hpage⟩

end Page

/-!
## Shapes

The own fields of a shape and the common ones are read from the same members.

Of the common fields the layer, the text, and its alignment may be missing.
What has to be there is found after a change as before, whatever else has been
moved.
-/

namespace Common

def IsDefault (name : String) (o : Outline) : Prop :=
  (name = "layer" ∧ takeLayer o = .ok 0) ∨
    (name = "text" ∧ Json.takeText o = .ok "") ∨
      (name = "text_align" ∧ takeAlign o = .ok .middleCenter)

end Common

namespace Shape

def leeway (own : List Json.Field) (default : String -> Outline -> Prop) : Leeway where
  known := (own ++ Common.fields).map Json.Field.name
  foreign o := o.keeps roomInside = true
  default name o := Common.IsDefault name o ∨ default name o
  within _ _ _ := False

section Leeway

variable {own : List Json.Field} {default : String -> Outline -> Prop}

theorem suits_own : (leeway own default).Suits own kept where
  known name h := by
    rw [leeway, List.map_append]
    exact List.mem_append_left _ h
  foreign _ h := if_pos h
  within _ := Json.survives_false _

theorem suits_common : (leeway own default).Suits Common.fields fun _ => .ok () where
  known name h := by
    rw [leeway, List.map_append]
    exact List.mem_append_right _ h
  foreign _ _ := rfl
  within _ := Json.survives_false _

variable {ms ns : List Json.Member}

theorem takeOwn_object_eq_ok_iff {closed : Bool} {values : Json.Values}
    {found : List Json.Member} :
    takeOwn own (.object ms closed) = .ok (values, found) ↔
      Json.surveyMembers own kept [] ms = .ok () ∧ closed = true ∧
        values = Json.namedMembers ms ∧ found = ms := by
  simp only [takeOwn, bind_eq_ok_iff, Json.takeObject_eq_ok_iff, Except.ok.injEq,
    Prod.mk.injEq]
  constructor
  · intro h
    rcases h with ⟨_, ⟨hsurvey, hclosed, rfl⟩, rfl, rfl⟩
    exact ⟨hsurvey, hclosed, rfl, rfl⟩
  · intro h
    rcases h with ⟨hsurvey, hclosed, rfl, rfl⟩
    exact ⟨_, ⟨hsurvey, hclosed, rfl⟩, rfl, rfl⟩

theorem required_own (h : (leeway own default).Change ms ns)
    (hsurvey : Json.surveyMembers own kept [] ms = .ok ()) {name : String}
    (hknown : name ∈ own.map Json.Field.name)
    (hdefault : forall o, ¬ (leeway own default).default name o)
    {read : Outline -> Except Fault α} {a : α}
    (hread : (Json.namedMembers ms).required name read = .ok a) :
    (Json.namedMembers ns).required name read = .ok a :=
  h.required suits_own hsurvey hknown hdefault (Json.survives_false _) hread

theorem survives_ofMembers (hdefault : forall name o, name ∈ Common.fields.map Json.Field.name ->
      ¬ default name o) {c : Common} (h : (leeway own default).Change ms ns)
    (hread : Common.ofMembers ms = .ok c) : Common.ofMembers ns = .ok c := by
  simp only [Common.ofMembers, check_eq_ok_iff] at hread ⊢
  rcases hread with ⟨hsurvey, hread⟩
  refine ⟨h.survey suits_common hsurvey, ?_⟩
  simp only [bind_eq_ok_iff] at hread ⊢
  rcases hread with ⟨id, hid, layer, hlayer, text, htext, align, halign, thickness, hthickness,
    lineColor, hlineColor, fillColor, hfillColor, hcommon⟩
  -- Which of the common fields may be missing is not for the own fields of a shape to say.
  have hrequired : forall {α : Type} {name : String} {read : Outline -> Except Fault α} {a : α},
      name ∈ Common.fields.map Json.Field.name ->
      (forall o, ¬ Common.IsDefault name o) ->
      (Json.namedMembers ms).required name read = .ok a ->
      (Json.namedMembers ns).required name read = .ok a :=
    fun hknown hnot => h.required suits_common hsurvey hknown
      (fun o hd => hd.elim (hnot o) (hdefault _ o hknown)) (Json.survives_false _)
  have hoptional : forall {α : Type} {name : String} {read : Outline -> Except Fault α}
      {otherwise a : α}, name ∈ Common.fields.map Json.Field.name ->
      (forall o, Common.IsDefault name o -> read o = .ok otherwise) ->
      (Json.namedMembers ms).optional name read otherwise = .ok a ->
      (Json.namedMembers ns).optional name read otherwise = .ok a :=
    fun hknown hvalue => h.optional suits_common hsurvey hknown
      (fun o hd => hd.elim (hvalue o) fun hown => absurd hown (hdefault _ o hknown))
      (Json.survives_false _)
  exact ⟨id, hrequired (by decide) (by simp [Common.IsDefault]) hid,
    layer, hoptional (by decide) (by simp [Common.IsDefault]) hlayer,
    text, hoptional (by decide) (by simp [Common.IsDefault]) htext,
    align, hoptional (by decide) (by simp [Common.IsDefault]) halign,
    thickness, hrequired (by decide) (by simp [Common.IsDefault]) hthickness,
    lineColor, hrequired (by decide) (by simp [Common.IsDefault]) hlineColor,
    fillColor, hrequired (by decide) (by simp [Common.IsDefault]) hfillColor, hcommon⟩

end Leeway

theorem survives_takeSized {point : String} (hpoint : IsPointName point)
    {make : Common -> Point -> Float -> Float -> Except ShapeError α} :
    Survives (leeway (sizedFields point) fun _ _ => False).Edit (takeSized point make) := by
  intro _ _ a hedit hread
  cases hedit with
  | @members _ ns h closed =>
      simp only [takeSized, bind_eq_ok_iff, Prod.exists, takeOwn_object_eq_ok_iff] at hread ⊢
      rcases hread with ⟨_, ms, ⟨hsurvey, hclosed, rfl, rfl⟩, place, hplace, width, hwidth,
        height, hheight, common, hcommon, hmake⟩
      have hnone : forall name, name ∈ (sizedFields point).map Json.Field.name ->
          forall o, ¬ (leeway (sizedFields point) fun _ _ => False).default name o := by
        simp [IsPointName, Common.fields] at hpoint
        simp [leeway, Common.IsDefault, sizedFields, hpoint]
      have hrequired : forall {β : Type} {name : String} {read : Outline -> Except Fault β} {b : β},
          name ∈ (sizedFields point).map Json.Field.name ->
          (Json.namedMembers ms).required name read = .ok b ->
          (Json.namedMembers ns).required name read = .ok b :=
        fun hown => required_own h hsurvey hown (hnone _ hown)
      exact ⟨_, _, ⟨h.survey suits_own hsurvey, hclosed, rfl, rfl⟩,
        place, hrequired (by simp [sizedFields]) hplace,
        width, hrequired (by simp [sizedFields]) hwidth,
        height, hrequired (by simp [sizedFields]) hheight,
        common, survives_ofMembers (fun _ _ _ => not_false) h hcommon, hmake⟩

end Shape

namespace Rect

def leeway : Leeway :=
  Shape.leeway fields fun _ _ => False

theorem survives_ofOutline : Survives leeway.Edit ofOutline := by
  have hpoint : Shape.IsPointName "location" := by decide
  exact Shape.survives_takeSized hpoint

end Rect

namespace Line

def leeway : Leeway :=
  Shape.leeway fields fun name o =>
    (name = "start_cap" ∨ name = "end_cap") ∧ takeCap o = .ok .none

theorem survives_ofOutline : Survives leeway.Edit ofOutline := by
  intro _ _ line hedit hread
  cases hedit with
  | @members ms ns h closed =>
      simp only [ofOutline, bind_eq_ok_iff, Prod.exists, Shape.takeOwn_object_eq_ok_iff]
        at hread ⊢
      rcases hread with ⟨_, _, ⟨hsurvey, hclosed, rfl, rfl⟩, start, hstart, finish, hfinish,
        startCap, hstartCap, endCap, hendCap, common, hcommon, hline⟩
      have hcap : forall name, name = "start_cap" ∨ name = "end_cap" ->
          forall o, leeway.default name o -> takeCap o = .ok .none := by
        intro name hname o hd
        rcases hd with hd | hd
        · rcases hname with rfl | rfl <;> simp [Common.IsDefault] at hd
        · exact hd.2
      have hown : forall name o, name ∈ Common.fields.map Json.Field.name ->
          ¬ ((name = "start_cap" ∨ name = "end_cap") ∧ takeCap o = .ok .none) := by
        intro name o hname hd
        rcases hd with ⟨rfl | rfl, _⟩ <;> simp [Common.fields] at hname
      exact ⟨_, _, ⟨h.survey Shape.suits_own hsurvey, hclosed, rfl, rfl⟩,
        start, Shape.required_own h hsurvey (by decide)
          (by simp [Shape.leeway, Common.IsDefault]) hstart,
        finish, Shape.required_own h hsurvey (by decide)
          (by simp [Shape.leeway, Common.IsDefault]) hfinish,
        startCap, h.optional Shape.suits_own hsurvey (by decide) (hcap _ (.inl rfl))
          (Json.survives_false _) hstartCap,
        endCap, h.optional Shape.suits_own hsurvey (by decide) (hcap _ (.inr rfl))
          (Json.survives_false _) hendCap,
        common, Shape.survives_ofMembers hown h hcommon, hline⟩

end Line

namespace Ellipse

def leeway : Leeway :=
  Shape.leeway fields fun _ _ => False

theorem survives_ofOutline : Survives leeway.Edit ofOutline := by
  have hpoint : Shape.IsPointName "center" := by decide
  exact Shape.survives_takeSized hpoint

end Ellipse

/-!
## Documents

A missing page is the standard one, and missing lists are empty.  Inside of a
document its page or one of its shapes may change.
-/

namespace Document

def IsDefault (name : String) (o : Outline) : Prop :=
  (name = "page" ∧ Page.ofOutline o = .ok .standard) ∨
    (name = "rects" ∧ Json.takeList Rect.ofOutline o = .ok []) ∨
      (name = "lines" ∧ Json.takeList Line.ofOutline o = .ok []) ∨
        (name = "ellipses" ∧ Json.takeList Ellipse.ofOutline o = .ok [])

def Within (name : String) (o p : Outline) : Prop :=
  (name = "page" ∧ Page.leeway.Edit o p) ∨
    (name = "rects" ∧ ItemEdit Rect.leeway.Edit o p) ∨
      (name = "lines" ∧ ItemEdit Line.leeway.Edit o p) ∨
        (name = "ellipses" ∧ ItemEdit Ellipse.leeway.Edit o p)

def leeway : Leeway where
  known := fields.map Json.Field.name
  foreign o := o.intact = true
  default := IsDefault
  within := Within

theorem survives_page : Survives (Within "page") Page.ofOutline := by
  intro o p a h
  simp only [Within, String.reduceEq, true_and, false_and, or_false] at h
  exact Page.survives_ofOutline o p a h

theorem survives_rects : Survives (Within "rects") (Json.takeList Rect.ofOutline) := by
  intro o p a h
  simp only [Within, String.reduceEq, true_and, false_and, or_false, false_or] at h
  exact Json.survives_takeList Rect.survives_ofOutline o p a h

theorem survives_lines : Survives (Within "lines") (Json.takeList Line.ofOutline) := by
  intro o p a h
  simp only [Within, String.reduceEq, true_and, false_and, or_false, false_or] at h
  exact Json.survives_takeList Line.survives_ofOutline o p a h

theorem survives_ellipses : Survives (Within "ellipses") (Json.takeList Ellipse.ofOutline) := by
  intro o p a h
  simp only [Within, String.reduceEq, true_and, false_and, false_or] at h
  exact Json.survives_takeList Ellipse.survives_ofOutline o p a h

theorem suits_fields : leeway.Suits fields Json.ignored where
  known _ h := h
  foreign _ h := if_pos h
  within name := by
    intro o p a h hcheck
    have hname := h
    rcases hname with ⟨rfl, _⟩ | ⟨rfl, _⟩ | ⟨rfl, _⟩ | ⟨rfl, _⟩
    · exact Json.survives_check "page" false survives_page o p a h hcheck
    · exact Json.survives_check "rects" false survives_rects o p a h hcheck
    · exact Json.survives_check "lines" false survives_lines o p a h hcheck
    · exact Json.survives_check "ellipses" false survives_ellipses o p a h hcheck

theorem survives_ofOutline : Survives leeway.Edit ofOutline := by
  intro _ _ d hedit hread
  cases hedit with
  | @members ms ns h closed =>
      simp only [ofOutline, Json.takeRecord, Json.takeObject_eq_ok_iff,
        bind_eq_ok_iff] at hread ⊢
      rcases hread with ⟨_, ⟨hsurvey, hclosed, rfl⟩, page, hpage, rects, hrects, lines, hlines,
        ellipses, hellipses, hdocument⟩
      exact ⟨_, ⟨h.survey suits_fields hsurvey, hclosed, rfl⟩,
        page, h.optional suits_fields hsurvey (by decide) (by simp [leeway, IsDefault])
          survives_page hpage,
        rects, h.optional suits_fields hsurvey (by decide) (by simp [leeway, IsDefault])
          survives_rects hrects,
        lines, h.optional suits_fields hsurvey (by decide) (by simp [leeway, IsDefault])
          survives_lines hlines,
        ellipses, h.optional suits_fields hsurvey (by decide) (by simp [leeway, IsDefault])
          survives_ellipses hellipses, hdocument⟩

abbrev Edits : Outline -> Outline -> Prop :=
  Relation.ReflTransGen leeway.Edit

theorem ofOutline_of_edits {o p : Outline} {d : Document} (h : Edits o p)
    (hread : ofOutline o = .ok d) : ofOutline p = .ok d := by
  induction h with
  | refl => exact hread
  | tail _ hlast ih => exact survives_ofOutline _ _ d hlast ih

/--
A text that differs from one that can be read only in the order of members, in
foreign members, and in fields left at their defaults is read as the same
document.
-/
theorem ofText_of_edits {text changed : String} {d : Document} (hread : ofText text = .ok d)
    (hedits : Edits (Json.Reading.ofText text).outline (Json.Reading.ofText changed).outline)
    (hwhole : (Json.Reading.ofText changed).trailing = false) : ofText changed = .ok d := by
  rw [ofText, bind_eq_ok_iff] at hread
  rcases hread with ⟨found, hfound, hd⟩
  split at hd
  · cases hd
  · cases hd
    rw [ofText, ofOutline_of_edits hedits hfound]
    simp [hwhole, bind, Except.bind]

end Document

/-!
## An example

One text of a document, and another one that says the same in fewer members and
in another order.

There are no lines and no units in the document, and its rectangle is on layer
zero.  In the other text the rectangles come first, with a note of their own.
-/

namespace Page

def plain : Page :=
  { width := 10.0, height := 8.0, grid := 1.0, snap := 0.5, units := "", scale := 1 }

def unitless (p : Page) : Json :=
  .object (p.json.members.take 4 ++ p.json.members.drop 5)

theorem edit_unitless {p : Page} (h : p.units = "") :
    Page.leeway.Edit (.ofJson p.json) (.ofJson p.unitless) := by
  have hdefault : Page.leeway.default "units" (.string (some p.units)) := by
    rw [h]
    exact ⟨rfl, rfl⟩
  exact .members (.shortened (Outline.ofMembers (p.json.members.take 4))
    (Outline.ofMembers (p.json.members.drop 5)) hdefault) true

end Page

namespace Rect

def plain : Rect :=
  { common := Common.named "R", location := { x := 1.0, y := 2.0 }, width := 3.0, height := 4.0 }

def ownMembers (r : Rect) : List (String × Json) :=
  Shape.sizedMembers "location" r.location r.width r.height

def noted (r : Rect) : Json :=
  .object (("note", .array [.null, .string "?"]) ::
    (r.ownMembers ++ (r.common.jsonMembers.take 1 ++ r.common.jsonMembers.drop 2)))

theorem edits_noted {r : Rect} (h : r.common.layer = 0) :
    Relation.ReflTransGen Rect.leeway.Edit (.ofJson r.json) (.ofJson r.noted) := by
  have hlayer : Rect.leeway.default "layer" (.number (.ofInt r.common.layer)) := by
    rw [h]
    exact .inl (.inl ⟨rfl, by decide⟩)
  have hperm : forall own first others : List Json.Member,
      (first ++ (others ++ own)).Perm (own ++ (first ++ others)) := by
    intro own first others
    rw [← List.append_assoc]
    exact List.perm_append_comm
  refine .head (.members (.shortened (Outline.ofMembers (r.common.jsonMembers.take 1))
    (Outline.ofMembers (r.common.jsonMembers.drop 2) ++ Outline.ofMembers r.ownMembers)
    hlayer) true) ?_
  refine .head (.members (.reordered (hperm _ _ _)) true) ?_
  refine .single (.members (@Leeway.Change.extended _ [] _ "note" _ ?_ ?_) true)
  · decide
  · rfl

end Rect

namespace Document

def plain : Document :=
  { page := .plain, rects := [.plain], lines := [], ellipses := [] }

def rearranged (d : Document) : Json :=
  .object [("rects", .array (d.rects.map Rect.noted)), ("page", d.page.unitless)]

def around (o : Outline) : Outline :=
  .object
    [(some "page", .ofJson Page.plain.unitless), (some "rects", .array [o] true),
     (some "lines", .array [] true)] true

theorem edits_rearranged : Edits (.ofJson plain.json) (.ofJson plain.rearranged) := by
  have hpage : Within "page" (.ofJson Page.plain.json) (.ofJson Page.plain.unitless) :=
    .inl ⟨rfl, Page.edit_unitless rfl⟩
  have hrect : forall o p, Rect.leeway.Edit o p -> leeway.Edit (around o) (around p) := by
    intro o p h
    have hrects : Within "rects" (.array [o] true) (.array [p] true) :=
      .inr (.inl ⟨rfl, .item [] [] h true⟩)
    exact .members (@Leeway.Change.inside leeway [_] [_] _ _ _ hrects) true
  have hlines : IsDefault "lines" (.array [] true) := .inr (.inr (.inl ⟨rfl, rfl⟩))
  have hnoted : Edits (around (.ofJson Rect.plain.json)) (around (.ofJson Rect.plain.noted)) :=
    .lift around hrect _ _ (Rect.edits_noted rfl)
  refine .head (.members (@Leeway.Change.inside leeway [] _ _ _ _ hpage) true) ?_
  refine .trans hnoted ?_
  refine .head (.members (@Leeway.Change.shortened leeway [_, _] [] _ _ hlines) true) ?_
  exact .single (.members (.reordered (.swap _ _ [])) true)

theorem standard_rearranged (d : Document) : d.rearranged.Standard := by
  apply Json.Standard.object
  have hnoted : forall r : Rect, r.noted.Standard := by
    intro r
    apply Json.Standard.object
    simp [Rect.ownMembers, Shape.sizedMembers, Common.jsonMembers, Json.standard_ofFloat, Json.standard_ofPoint,
      Json.Standard.string, Json.Standard.array, Json.Standard.null]
  have hpage : d.page.unitless.Standard := by
    apply Json.Standard.object
    simp [Page.json, Json.members, Json.standard_ofFloat, Json.Standard.number,
      Decimal.Numeral.standard_ofNat]
  simp [hpage, Json.standard_map hnoted]

theorem ofText_of_edits_plain :
    ofText (plain.text .spread) = .ok plain ∧
      ofText (Json.written .compact plain.rearranged) = .ok plain := by
  have hsound : plain.Sound :=
    { scale := by decide
      rects := by
        simp only [plain, List.forall_mem_singleton]
        exact ⟨⟨by decide, by decide +kernel⟩, by decide +kernel, by decide +kernel⟩
      lines := by simp [plain]
      ellipses := by simp [plain] }
  have hread : ofText (plain.text .spread) = .ok plain :=
    (ofText_text_self_iff .spread hsound).mpr (by decide +kernel)
  have hplain := Json.Reading.ofText_written .spread plain.standard_json
  have hchanged := Json.Reading.ofText_written .compact plain.standard_rearranged
  refine ⟨hread, ofText_of_edits hread ?_ ?_⟩
  · rw [text, hplain, hchanged]
    exact edits_rearranged
  · rw [hchanged]

end Document

end Drafting
