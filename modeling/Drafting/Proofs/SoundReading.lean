import Drafting.Proofs.RoundTrip

/-!
# Documents that are read are sound

Whatever a text holds, the document that is read from it has a scale and layers
that fit, and thickness and extents that are measures.  Each shape is built from
its record by the same checks as any other shape, also where the common
properties are read from the members that have been kept.
-/

namespace Drafting

namespace Json

theorem exists_of_required {values : Values} {name : String}
    {read : Outline -> Except Fault α} {a : α} (h : values.required name read = .ok a) :
    exists o, read o = .ok a := by
  unfold Values.required at h
  cases hvalue : values.lookup name with
  | none => simp [hvalue] at h
  | some o =>
      rw [hvalue] at h
      exact ⟨o, h⟩

/-- What holds of the default and of everything that can be read holds of an optional field. -/
theorem optional_of (P : α -> Prop) {values : Values} {name : String}
    {read : Outline -> Except Fault α} {otherwise a : α}
    (hread : forall o a, read o = .ok a -> P a) (hotherwise : P otherwise)
    (h : values.optional name read otherwise = .ok a) : P a := by
  unfold Values.optional at h
  cases hvalue : values.lookup name with
  | none =>
      rw [hvalue] at h
      cases h
      exact hotherwise
  | some o =>
      rw [hvalue] at h
      exact hread o a h

theorem takeItems_of (P : α -> Prop) {item : Outline -> Except Fault α}
    (hitem : forall o a, item o = .ok a -> P a) {items : List Outline} {found : List α}
    (h : takeItems item items = .ok found) : forall a, a ∈ found -> P a := by
  induction items generalizing found with
  | nil =>
      cases h
      intro a ha
      cases ha
  | cons o rest ih =>
      simp only [takeItems, bind_eq_ok_iff, Except.ok.injEq] at h
      rcases h with ⟨first, hfirst, more, hmore, rfl⟩
      rw [List.forall_mem_cons]
      exact ⟨hitem o first hfirst, ih hmore⟩

theorem takeList_of (P : α -> Prop) {item : Outline -> Except Fault α}
    (hitem : forall o a, item o = .ok a -> P a) {o : Outline} {found : List α}
    (h : takeList item o = .ok found) : forall a, a ∈ found -> P a := by
  unfold takeList at h
  split at h
  · rw [bind_eq_ok_iff] at h
    rcases h with ⟨all, hall, h⟩
    split at h
    · cases h
      exact takeItems_of P hitem hall
    · cases h
  · cases h

theorem bounds_of_takeWhole {low high n : Int} {o : Outline} (hlow : low ≤ 0) (hhigh : 0 ≤ high)
    (h : takeWhole low high o = .ok n) : low ≤ n ∧ n ≤ high := by
  unfold takeWhole at h
  split at h
  · split at h
    · cases h
    · cases h
    · next size _ =>
        split at h
        · next hsize =>
            cases h
            exact ⟨by omega, hsize⟩
        · cases h
    · next size _ =>
        split at h
        · next hsize =>
            cases h
            exact ⟨hsize, by omega⟩
        · cases h
  · cases h

end Json

namespace Common

theorem sound_of_ofMembers {members : List (Option String × Json.Outline)} {c : Common}
    (h : ofMembers members = .ok c) : c.Sound := by
  simp only [ofMembers, bind_eq_ok_iff, mapError_eq_ok_iff, setThickness_eq_ok_iff] at h
  rcases h with ⟨_, _, id, _, layer, hlayer, text, _, align, _, thickness, _, lineColor, _,
    fillColor, _, hmeasure, rfl⟩
  refine ⟨?_, hmeasure⟩
  apply Json.optional_of (fun n => -2147483648 ≤ n ∧ n ≤ 2147483647) _ (by decide) hlayer
  intro o n hn
  exact Json.bounds_of_takeWhole (by decide) (by decide) hn

end Common

namespace Shape

theorem sound_of_takeSized {point : String}
    {make : Common -> Point -> Float -> Float -> Except ShapeError α} {o : Json.Outline} {a : α}
    (h : takeSized point make o = .ok a) :
    exists common place width height,
      common.Sound ∧ make common place width height = .ok a := by
  simp only [takeSized, bind_eq_ok_iff, mapError_eq_ok_iff] at h
  rcases h with ⟨_, _, place, _, width, _, height, _, common, hcommon, hmake⟩
  exact ⟨common, place, width, height, Common.sound_of_ofMembers hcommon, hmake⟩

end Shape

namespace Rect

theorem sound_of_ofOutline {o : Json.Outline} {r : Rect} (h : ofOutline o = .ok r) :
    r.Sound := by
  rcases Shape.sound_of_takeSized h with ⟨_, _, _, _, hcommon, hmake⟩
  rw [make_eq_ok_iff] at hmake
  rcases hmake with ⟨hwidth, hheight, rfl⟩
  exact ⟨hcommon, hwidth, hheight⟩

end Rect

namespace Line

theorem sound_of_ofOutline {o : Json.Outline} {l : Line} (h : ofOutline o = .ok l) :
    l.common.Sound := by
  simp only [ofOutline, bind_eq_ok_iff, Except.ok.injEq] at h
  rcases h with ⟨_, _, start, _, finish, _, startCap, _, endCap, _, common, hcommon, rfl⟩
  exact Common.sound_of_ofMembers hcommon

end Line

namespace Ellipse

theorem sound_of_ofOutline {o : Json.Outline} {e : Ellipse} (h : ofOutline o = .ok e) :
    e.Sound := by
  rcases Shape.sound_of_takeSized h with ⟨_, _, _, _, hcommon, hmake⟩
  rw [make_eq_ok_iff] at hmake
  rcases hmake with ⟨hwidth, hheight, rfl⟩
  exact ⟨hcommon, hwidth, hheight⟩

end Ellipse

namespace Page

theorem scale_le_of_ofOutline {o : Json.Outline} {p : Page} (h : ofOutline o = .ok p) :
    p.scale ≤ maxScale := by
  simp only [ofOutline, bind_eq_ok_iff, Except.ok.injEq] at h
  rcases h with ⟨_, _, width, _, height, _, grid, _, snap, _, units, _, scale, hscale, rfl⟩
  rcases Json.exists_of_required hscale with ⟨value, hvalue⟩
  have hbounds := Json.bounds_of_takeWhole (by decide) (by decide) hvalue
  show (scale.toNat : Int) ≤ maxScale
  rw [Int.toNat_of_nonneg hbounds.1]
  exact hbounds.2

end Page

namespace Document

theorem sound_of_ofOutline {o : Json.Outline} {d : Document} (h : ofOutline o = .ok d) :
    d.Sound := by
  simp only [ofOutline, bind_eq_ok_iff, Except.ok.injEq] at h
  rcases h with ⟨_, _, page, hpage, rects, hrects, lines, hlines, ellipses, hellipses, rfl⟩
  constructor
  · exact Json.optional_of (fun p => p.scale ≤ Page.maxScale)
      (fun _ _ => Page.scale_le_of_ofOutline) (by decide) hpage
  · exact Json.optional_of (fun found => forall r, r ∈ found -> r.Sound)
      (fun _ _ => Json.takeList_of Rect.Sound fun _ _ => Rect.sound_of_ofOutline)
      (fun _ hr => by cases hr) hrects
  · exact Json.optional_of (fun found => forall l, l ∈ found -> l.common.Sound)
      (fun _ _ => Json.takeList_of (fun l : Line => l.common.Sound) fun _ _ => Line.sound_of_ofOutline)
      (fun _ hl => by cases hl) hlines
  · exact Json.optional_of (fun found => forall e, e ∈ found -> e.Sound)
      (fun _ _ => Json.takeList_of Ellipse.Sound fun _ _ => Ellipse.sound_of_ofOutline)
      (fun _ he => by cases he) hellipses

/-- Whatever the text, a document that can be read from it is sound. -/
theorem sound_of_ofText {text : String} {d : Document} (h : ofText text = .ok d) : d.Sound := by
  rw [ofText, bind_eq_ok_iff] at h
  rcases h with ⟨document, hdocument, h⟩
  split at h
  · cases h
  · cases h
    exact sound_of_ofOutline hdocument

end Document

end Drafting
