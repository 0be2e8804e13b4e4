import Drafting.Proofs.Bindings
import Drafting.Proofs.Literals
import Drafting.Proofs.Spelling

/-!
# What becomes of the fields of a line

A line has fields, and the statement that is read from it has keys with values.
There may be fewer of these than of the fields: a field without a name is known
by the number of different keys before it, and a field takes the place of an
earlier one that is known by the same key.

This module says for every line which fields are kept.  Nothing is asked of the
line, except where fields with and without names must not be mistaken for each
other: then no name may look like a position.
-/

namespace Drafting

namespace Text

theorem mem_of_mem_trim {c : Char} {cs : List Char} (h : c ∈ trim cs) : c ∈ cs := by
  have hstart : c ∈ trimStart cs :=
    List.mem_reverse.mp ((List.dropWhile_sublist isBlank).subset (List.mem_reverse.mp h))
  exact (List.dropWhile_sublist isBlank).subset hstart

theorem mem_of_mem_cutAt {mark c : Char} {cs : List Char} :
    (c ∈ (cutAt mark cs).1 -> c ∈ cs) ∧
      forall after, (cutAt mark cs).2 = some after -> c ∈ after -> c ∈ cs := by
  induction cs with
  | nil => simp
  | cons d rest ih =>
      by_cases hd : d = mark
      · subst hd
        rw [cutAt_mark]
        refine ⟨by simp, ?_⟩
        intro after hafter hmem
        cases hafter
        exact List.mem_cons_of_mem d hmem
      · rw [cutAt_of_ne rest hd]
        refine ⟨?_, fun after hafter hmem => List.mem_cons_of_mem d (ih.2 after hafter hmem)⟩
        intro hmem
        rcases List.mem_cons.mp hmem with rfl | hmem
        · exact List.mem_cons_self
        · exact List.mem_cons_of_mem d (ih.1 hmem)

theorem not_mem_of_mem_pieces {mark : Char} {cs piece : List Char} (h : piece ∈ pieces mark cs) :
    mark ∉ piece := by
  induction cs generalizing piece with
  | nil =>
      rw [List.mem_singleton.mp h]
      exact List.not_mem_nil
  | cons d rest ih =>
      by_cases hd : d = mark
      · rw [hd, pieces_mark] at h
        rcases List.mem_cons.mp h with rfl | hmem
        · exact List.not_mem_nil
        · exact ih hmem
      · rcases exists_pieces_of_ne hd rest with ⟨first, more, hrest, hpieces⟩
        rw [hpieces] at h
        rw [hrest] at ih
        rcases List.mem_cons.mp h with rfl | hmem
        · rw [List.mem_cons, not_or]
          exact ⟨Ne.symm hd, ih List.mem_cons_self⟩
        · exact ih (List.mem_cons_of_mem first hmem)

theorem trimmed_trim (cs : List Char) : Trimmed (String.ofList (trim cs)) := by
  unfold Trimmed
  rw [String.toList_ofList, trim_trim]

end Text

namespace Statement

open Text

/-!
## Pieces of lines

The main part of a statement and its fields are cut and trimmed in the same way.
-/

theorem trimmed_of_mainPart {cs : List Char} {n : String} (h : (mainPart cs).1 = some n) :
    Trimmed n := by
  unfold mainPart at h
  rcases hcut : cutAt '=' cs with ⟨name, _ | head⟩
  · rw [hcut] at h
    cases h
  · rw [hcut] at h
    cases h
    exact trimmed_trim name

theorem trimmed_mainPart (cs : List Char) : Trimmed (mainPart cs).2 := by
  unfold mainPart
  rcases cutAt '=' cs with ⟨name, _ | head⟩
  · exact trimmed_trim cs
  · exact trimmed_trim head

theorem not_mem_mainPart {mark : Char} {cs : List Char} (h : mark ∉ cs) :
    mark ∉ (mainPart cs).2.toList := by
  unfold mainPart
  rcases hcut : cutAt '=' cs with ⟨name, _ | head⟩
  · simp only [String.toList_ofList]
    exact fun hmem => h (mem_of_mem_trim hmem)
  · simp only [String.toList_ofList]
    exact fun hmem => h (mem_of_mem_cutAt.2 head (by rw [hcut]) (mem_of_mem_trim hmem))

theorem trimmed_positionKey (position : Nat) : Trimmed (positionKey position) := by
  apply trim_eq_self
  intro c hc
  exact isBlank_of_isDigit (List.all_eq_true.mp (isDigit_positionKey position) c hc)

def fieldPieces (line : List Char) : List (List Char) :=
  match (cutAt ':' line).2 with
  | none => []
  | some body => (pieces ',' body).filter fun piece => ! allBlank piece

def keptOf (pieces : List (List Char)) : List (String × String) :=
  pieces.foldl (fun kept piece => addField kept (trim piece)) []

theorem fieldsOf_eq (body : List Char) :
    fieldsOf body = keptOf ((pieces ',' body).filter fun piece => ! allBlank piece) := by
  have hblank : ((fun piece : List Char => ! piece.isEmpty) ∘ trim) =
      fun piece => ! allBlank piece := by
    funext piece
    have hempty : (trim piece).isEmpty = allBlank piece := by
      rw [Bool.eq_iff_iff, List.isEmpty_iff, trim_eq_nil_iff]
    rw [Function.comp_apply, hempty]
  rw [fieldsOf, List.filter_map, List.foldl_map, hblank, keptOf]

theorem fields_ofChars (line : List Char) :
    (ofChars line).fields = keptOf (fieldPieces line) := by
  rw [ofChars_eq, fieldPieces]
  cases (cutAt ':' line).2 with
  | none => rfl
  | some body => exact fieldsOf_eq body

theorem keptOf_concat (pieces : List (List Char)) (piece : List Char) :
    keptOf (pieces ++ [piece]) = addField (keptOf pieces) (trim piece) := by
  rw [keptOf, List.foldl_append]
  rfl

/-- The first field of a line stands behind a colon, and every further one behind a comma. -/
def fieldMark (line : List Char) : Char :=
  if ':' ∈ line then ',' else ':'

theorem cutAt_further (line piece : List Char) :
    (cutAt ':' (line ++ fieldMark line :: piece)).1 = (cutAt ':' line).1 := by
  by_cases hcolon : ':' ∈ line
  · rcases cutAt_append_of_mem hcolon (fieldMark line :: piece) with ⟨_, _, hshort, hlong⟩
    rw [hshort, hlong]
  · rw [fieldMark, if_neg hcolon, cutAt_append hcolon, cutAt_of_not_mem hcolon]

theorem fieldPieces_further (line : List Char) {piece : List Char} (hcomma : ',' ∉ piece)
    (hsome : allBlank piece = false) :
    fieldPieces (line ++ fieldMark line :: piece) = fieldPieces line ++ [piece] := by
  by_cases hcolon : ':' ∈ line
  · rcases cutAt_append_of_mem hcolon (fieldMark line :: piece) with ⟨_, _, hshort, hlong⟩
    have hmark : fieldMark line = ',' := if_pos hcolon
    rw [fieldPieces, fieldPieces, hshort, hlong, hmark]
    simp only [pieces_append_mark, pieces_of_not_mem hcomma, List.filter_append,
      List.filter_singleton, hsome, Bool.not_false, cond_true]
  · have hmark : fieldMark line = ':' := if_neg hcolon
    rw [fieldPieces, fieldPieces, hmark, cutAt_append hcolon, cutAt_of_not_mem hcolon]
    simp [pieces_of_not_mem hcomma, hsome]

/-!
## Fields

The field that a piece of a line holds depends on the fields before it, because
their keys are counted when there is no name.
-/

/--
A field of a line: the name that is written for it, if there is one, the key
that it is known by, and its value.
-/
structure LineField where
  name : Option String
  key : String
  value : String
deriving DecidableEq

namespace LineField

def keys (fields : List LineField) : List String :=
  (fields.map key).eraseDups

def ofPiece (before : List LineField) (piece : List Char) : LineField :=
  { name := (mainPart piece).1
    key := (mainPart piece).1.getD (positionKey (keys before).length)
    value := (mainPart piece).2 }

def ofPieces (pieces : List (List Char)) : List LineField :=
  pieces.foldl (fun before piece => before ++ [ofPiece before piece]) []

def ofLine (line : String) : List LineField :=
  ofPieces (fieldPieces line.toList)

def withKey? (fields : List LineField) (key : String) : Option LineField :=
  fields.findRev? fun f => f.key = key

def withName? (fields : List LineField) (name : String) : Option LineField :=
  fields.findRev? fun f => f.name = some name

theorem ofPieces_concat (pieces : List (List Char)) (piece : List Char) :
    ofPieces (pieces ++ [piece]) = ofPieces pieces ++ [ofPiece (ofPieces pieces) piece] := by
  rw [ofPieces, List.foldl_append]
  rfl

theorem key_of_name {before : List LineField} {piece : List Char} {n : String}
    (h : (ofPiece before piece).name = some n) : (ofPiece before piece).key = n := by
  have hname : (mainPart piece).1 = some n := h
  rw [ofPiece, hname]
  rfl

theorem key_of_no_name {before : List LineField} {piece : List Char}
    (h : (ofPiece before piece).name = none) :
    (ofPiece before piece).key = positionKey (keys before).length := by
  have hname : (mainPart piece).1 = none := h
  rw [ofPiece, hname]
  rfl

theorem mem_keys {fields : List LineField} {key : String} :
    key ∈ keys fields ↔ exists f, f ∈ fields ∧ f.key = key := by
  rw [keys, List.mem_eraseDups, List.mem_map]

theorem keys_concat (fields : List LineField) (f : LineField) :
    keys (fields ++ [f]) = if f.key ∈ keys fields then keys fields else keys fields ++ [f.key] := by
  rw [keys, List.map_append, List.eraseDups_append, List.map_singleton, List.removeAll,
    List.filter_singleton]
  by_cases h : f.key ∈ fields.map key
  · simp [keys, h]
  · simp [keys, List.eraseDups_cons, h]

theorem withKey?_concat (fields : List LineField) (f : LineField) (key : String) :
    withKey? (fields ++ [f]) key = if f.key = key then some f else withKey? fields key := by
  simp only [withKey?, List.findRev?_eq_find?_reverse, List.reverse_append, List.reverse_singleton,
    List.singleton_append, List.find?_cons]
  by_cases h : f.key = key
  · simp [h]
  · simp [h]

theorem mem_of_withKey? {fields : List LineField} {key : String} {f : LineField}
    (h : withKey? fields key = some f) : f ∈ fields ∧ f.key = key := by
  rw [withKey?, List.findRev?_eq_find?_reverse] at h
  have hkey := List.find?_some h
  exact ⟨List.mem_reverse.mp (List.mem_of_find?_eq_some h), of_decide_eq_true hkey⟩

theorem withKey?_eq_none_iff {fields : List LineField} {key : String} :
    withKey? fields key = none ↔ forall f, f ∈ fields -> f.key ≠ key := by
  simp [withKey?, List.findRev?_eq_find?_reverse, List.find?_eq_none]

end LineField

open LineField

/-!
## Which fields are kept

The keys stand in the order in which they first occur, each with the value of
the last field that is known by it.  One more piece is taken in under the key of
its field, and nothing else changes.
-/

/-- The keys with their values are what is kept of the fields. -/
structure Retains (kept : List (String × String)) (fields : List LineField) : Prop where
  keys : kept.map Prod.fst = keys fields
  nodup : (kept.map Prod.fst).Nodup
  lookup : forall key, kept.lookup key = (withKey? fields key).map LineField.value
  named : forall f, f ∈ fields -> forall n, f.name = some n -> f.key = n

theorem retains_nil : Retains [] [] where
  keys := rfl
  nodup := List.nodup_nil
  lookup _ := rfl
  named := by simp

namespace Retains

variable {kept : List (String × String)} {fields : List LineField}

theorem length_eq (h : Retains kept fields) : kept.length = (LineField.keys fields).length := by
  rw [← h.keys, List.length_map]

theorem addField_eq (h : Retains kept fields) (piece : List Char) :
    addField kept (trim piece) =
      Binding.put (ofPiece fields piece).key (ofPiece fields piece).value kept := by
  rw [addField_trim, h.length_eq]
  rfl

theorem concat (h : Retains kept fields) (piece : List Char) :
    Retains (addField kept (trim piece)) (fields ++ [ofPiece fields piece]) := by
  rw [h.addField_eq]
  constructor
  · rw [Binding.map_fst_put, keys_concat, h.keys]
  · exact Binding.nodup_put _ h.nodup
  · intro key
    rw [Binding.lookup_put, withKey?_concat, h.lookup]
    by_cases hkey : key = (ofPiece fields piece).key
    · rw [if_pos hkey, if_pos hkey.symm]
      rfl
    · rw [if_neg hkey, if_neg (Ne.symm hkey)]
  · rw [List.forall_mem_append, List.forall_mem_singleton]
    exact ⟨h.named, fun n hn => key_of_name hn⟩

theorem exists_field (h : Retains kept fields) {entry : String × String} (hentry : entry ∈ kept) :
    exists f, f ∈ fields ∧ (f.key, f.value) = entry := by
  have hlookup := (Binding.lookup_eq_some_iff_mem h.nodup).mpr hentry
  rw [h.lookup] at hlookup
  rcases Option.map_eq_some_iff.mp hlookup with ⟨f, hf, hvalue⟩
  rcases mem_of_withKey? hf with ⟨hmem, hkey⟩
  exact ⟨f, hmem, Prod.ext hkey hvalue⟩

end Retains

theorem retains_ofPieces (pieces : List (List Char)) : Retains (keptOf pieces) (ofPieces pieces) := by
  induction pieces using List.reverseRecOn with
  | nil => exact retains_nil
  | append_singleton pieces piece ih =>
      rw [keptOf_concat, ofPieces_concat]
      exact ih.concat piece

/-!
## Texts of fields

There are no blanks around the key and the value of a field, and no comma is
left in its value.
-/

structure LineField.Tidy (f : LineField) : Prop where
  key : Trimmed f.key
  value : Trimmed f.value
  no_comma : ',' ∉ f.value.toList

theorem tidy_ofPiece (before : List LineField) {piece : List Char} (h : ',' ∉ piece) :
    (ofPiece before piece).Tidy where
  key := by
    unfold ofPiece
    cases hname : (mainPart piece).1 with
    | none => exact trimmed_positionKey _
    | some n => exact trimmed_of_mainPart hname
  value := trimmed_mainPart piece
  no_comma := not_mem_mainPart h

theorem tidy_ofPieces {pieces : List (List Char)} (h : forall piece, piece ∈ pieces -> ',' ∉ piece) :
    forall f, f ∈ ofPieces pieces -> f.Tidy := by
  induction pieces using List.reverseRecOn with
  | nil =>
      intro f hf
      cases hf
  | append_singleton pieces piece ih =>
      rw [List.forall_mem_append, List.forall_mem_singleton] at h
      rw [ofPieces_concat, List.forall_mem_append, List.forall_mem_singleton]
      exact ⟨ih h.1, tidy_ofPiece _ h.2⟩

theorem no_comma_of_mem_fieldPieces {line piece : List Char} (h : piece ∈ fieldPieces line) :
    ',' ∉ piece := by
  unfold fieldPieces at h
  cases hbody : (cutAt ':' line).2 with
  | none =>
      rw [hbody] at h
      cases h
  | some body =>
      rw [hbody] at h
      exact not_mem_of_mem_pieces (List.mem_filter.mp h).1

/-!
## Fields without names

No name may be one that a position could be taken for.  Then the next position
is not among the keys, since nothing stands there yet, and a field that comes in
under it stays the only one with its key.
-/

def LineField.NamesApart (fields : List LineField) : Prop :=
  forall f, f ∈ fields -> forall i, f.name ≠ some (positionKey i)

def LineField.Stands (kept : List (String × String)) (fields : List LineField) (f : LineField) : Prop :=
  (fields.filter fun g => g.key = f.key) = [f] ∧
    exists i, f.key = positionKey i ∧ kept[i]? = some (f.key, f.value)

section Positions

variable {kept : List (String × String)} {fields : List LineField}

theorem name_eq_none (hretains : Retains kept fields) (hapart : NamesApart fields) {f : LineField}
    (hf : f ∈ fields) {i : Nat} (hkey : f.key = positionKey i) : f.name = none := by
  cases hname : f.name with
  | none => rfl
  | some n =>
      have hsame := hretains.named f hf n hname
      rw [hkey] at hsame
      exact absurd (hsame ▸ hname) (hapart f hf i)

theorem LineField.Stands.getElem? {f : LineField} (h : f.Stands kept fields) {i : Nat}
    (hkey : f.key = positionKey i) : kept[i]? = some (f.key, f.value) := by
  rcases h with ⟨_, j, hj, hplace⟩
  rw [positionKey_injective (hkey.symm.trans hj)]
  exact hplace

theorem next_position_fresh (hretains : Retains kept fields) (hapart : NamesApart fields)
    (hstands : forall f, f ∈ fields -> f.name = none -> f.Stands kept fields) :
    positionKey kept.length ∉ keys fields := by
  intro hmem
  rcases mem_keys.mp hmem with ⟨f, hf, hkey⟩
  have hplace := (hstands f hf (name_eq_none hretains hapart hf hkey)).getElem? hkey
  rw [List.getElem?_eq_none (Nat.le_refl _)] at hplace
  cases hplace

theorem LineField.Stands.concat {f : LineField} (h : f.Stands kept fields) {g : LineField}
    (hne : f.key ≠ g.key) : f.Stands (Binding.put g.key g.value kept) (fields ++ [g]) := by
  rcases h with ⟨honly, i, hkey, hplace⟩
  refine ⟨?_, i, hkey, Binding.getElem?_put_of_ne hne g.value hplace⟩
  rw [List.filter_append, honly]
  simp [Ne.symm hne]

theorem stands_of_fresh (hretains : Retains kept fields) {g : LineField}
    (hkey : g.key = positionKey kept.length) (hfresh : g.key ∉ keys fields) :
    g.Stands (Binding.put g.key g.value kept) (fields ++ [g]) := by
  constructor
  · have hnone : (fields.filter fun f => f.key = g.key) = [] := by
      rw [List.filter_eq_nil_iff]
      intro f hf hsame
      exact hfresh (mem_keys.mpr ⟨f, hf, of_decide_eq_true hsame⟩)
    rw [List.filter_append, hnone]
    simp
  · refine ⟨kept.length, hkey, ?_⟩
    rw [Binding.put_of_not_mem (by rwa [hretains.keys])]
    simp

theorem stands_concat (hretains : Retains kept fields) (piece : List Char)
    (hapart : NamesApart (fields ++ [ofPiece fields piece]))
    (hstands : forall f, f ∈ fields -> f.name = none -> f.Stands kept fields) :
    forall f, f ∈ fields ++ [ofPiece fields piece] -> f.name = none ->
      f.Stands (addField kept (trim piece)) (fields ++ [ofPiece fields piece]) := by
  rw [hretains.addField_eq]
  unfold NamesApart at hapart
  rw [List.forall_mem_append, List.forall_mem_singleton] at hapart ⊢
  have hnext := next_position_fresh hretains hapart.1 hstands
  have hkey : (ofPiece fields piece).name = none ->
      (ofPiece fields piece).key = positionKey kept.length := by
    intro hbare
    rw [key_of_no_name hbare, hretains.length_eq]
  constructor
  · intro f hf hname
    have hold := hstands f hf hname
    apply hold.concat
    -- The new key is a position not used so far, or a name and so no position at all.
    intro hsame
    cases hnew : (ofPiece fields piece).name with
    | none =>
        apply hnext
        rw [← hkey hnew, ← hsame]
        exact mem_keys.mpr ⟨f, hf, rfl⟩
    | some n =>
        rcases hold.2 with ⟨i, hposition, _⟩
        have hn : n = positionKey i := by rw [← key_of_name hnew, ← hsame, hposition]
        exact hapart.2 i (hn ▸ hnew)
  · intro hbare
    exact stands_of_fresh hretains (hkey hbare) (by rw [hkey hbare]; exact hnext)

end Positions

theorem stands_ofPieces {pieces : List (List Char)} (hapart : NamesApart (ofPieces pieces)) :
    forall f, f ∈ ofPieces pieces -> f.name = none ->
      f.Stands (keptOf pieces) (ofPieces pieces) := by
  induction pieces using List.reverseRecOn with
  | nil =>
      intro f hf
      cases hf
  | append_singleton pieces piece ih =>
      rw [ofPieces_concat] at hapart ⊢
      rw [keptOf_concat]
      exact stands_concat (retains_ofPieces pieces) piece hapart
        (ih fun f hf => hapart f (List.mem_append_left _ hf))

/-!
## Reading by name or by position

A position finds the field that stands there, if that one has no name.  So
reading by name or by position falls back on a field that was written without
one.
-/

def bareAt? (kept : List (String × String)) (fields : List LineField) (i : Nat) : Option String :=
  match kept[i]? with
  | some (key, value) =>
      if exists f, f ∈ fields ∧ f.name = none ∧ f.key = key then some value else none
  | none => none

section Reading

variable {kept : List (String × String)} {fields : List LineField} (hretains : Retains kept fields)
  (hapart : NamesApart fields)
  (hstands : forall f, f ∈ fields -> f.name = none -> f.Stands kept fields)

include hretains hstands

theorem withKey?_eq_withName? {name : String} (hname : forall i, name ≠ positionKey i) :
    withKey? fields name = withName? fields name := by
  rw [withKey?, withName?, List.findRev?_eq_find?_reverse, List.findRev?_eq_find?_reverse]
  apply List.find?_congr
  intro f hf
  rw [List.mem_reverse] at hf
  rw [decide_eq_decide]
  cases hn : f.name with
  | none =>
      rcases (hstands f hf hn).2 with ⟨i, hkey, _⟩
      rw [hkey]
      simp [Ne.symm (hname i)]
  | some n => rw [hretains.named f hf n hn, Option.some.injEq]

include hapart

theorem lookup_positionKey (i : Nat) : kept.lookup (positionKey i) = bareAt? kept fields i := by
  rw [hretains.lookup, bareAt?]
  cases hfound : withKey? fields (positionKey i) with
  | some f =>
      rcases mem_of_withKey? hfound with ⟨hf, hkey⟩
      have hbare := name_eq_none hretains hapart hf hkey
      have hplace := (hstands f hf hbare).getElem? hkey
      rw [hplace]
      exact (if_pos ⟨f, hf, hbare, rfl⟩).symm
  | none =>
      rw [withKey?_eq_none_iff] at hfound
      cases hplace : kept[i]? with
      | none => rfl
      | some entry =>
          obtain ⟨key, value⟩ := entry
          -- A field without a name that stands here would be known by this very position.
          refine (if_neg ?_).symm
          rintro ⟨f, hf, hbare, rfl⟩
          rcases (hstands f hf hbare).2 with ⟨j, hkey, hstand⟩
          have hlt : i < (kept.map Prod.fst).length := by
            rw [List.length_map]
            exact (List.getElem?_eq_some_iff.mp hplace).1
          have hsame : i = j := by
            apply (List.getElem?_inj hlt hretains.nodup).mp
            rw [List.getElem?_map, List.getElem?_map, hplace, hstand]
            rfl
          exact hfound f hf (hsame ▸ hkey)

end Reading

/--
A statement keeps of the fields of its line the last one for each key, in the
order in which the keys first occur, without blanks around any of its texts.
As long as no name looks like a position, a field without a name never takes the
place of another one nor loses its own.  It stands where its key says, and
reading by name or by position finds it there if no field has the name.
-/
theorem ofLine_keeps_fields (line : String) :
    let fields := LineField.ofLine line
    let s := ofLine line
    (s.fields.map Prod.fst = (fields.map LineField.key).eraseDups ∧
        (s.fields.map Prod.fst).Nodup) ∧
      (forall key, s.field? key = (withKey? fields key).map LineField.value) ∧
      ((forall n, s.name = some n -> Trimmed n) ∧ Trimmed s.head ∧
        forall entry, entry ∈ s.fields ->
          Trimmed entry.1 ∧ Trimmed entry.2 ∧ ',' ∉ entry.2.toList) ∧
      (NamesApart fields ->
        (forall f, f ∈ fields -> f.name = none -> f.Stands s.fields fields) ∧
          forall name, (forall i, name ≠ positionKey i) -> forall i,
            s.fieldOrPosition? name i =
              ((withName? fields name).map LineField.value).or (bareAt? s.fields fields i)) := by
  intro fields s
  have hfields : s.fields = keptOf (fieldPieces line.toList) := fields_ofChars line.toList
  have hretains : Retains s.fields fields := hfields ▸ retains_ofPieces (fieldPieces line.toList)
  have hs : s = ofChars line.toList := rfl
  refine ⟨⟨hretains.keys, hretains.nodup⟩, hretains.lookup, ⟨?_, ?_, ?_⟩, ?_⟩
  · intro n hn
    rw [hs, ofChars_eq] at hn
    exact trimmed_of_mainPart hn
  · rw [hs, ofChars_eq]
    exact trimmed_mainPart _
  · intro entry hentry
    rcases hretains.exists_field hentry with ⟨f, hf, rfl⟩
    have htidy := tidy_ofPieces (fun _ => no_comma_of_mem_fieldPieces) f hf
    exact ⟨htidy.key, htidy.value, htidy.no_comma⟩
  · intro hapart
    have hstands : forall f, f ∈ fields -> f.name = none -> f.Stands s.fields fields :=
      hfields ▸ stands_ofPieces hapart
    refine ⟨hstands, ?_⟩
    intro name hname i
    rw [fieldOrPosition?, ← withKey?_eq_withName? hretains hstands hname, ← hretains.lookup,
      ← lookup_positionKey hretains hapart hstands]
    rfl

def mixedLine : String :=
  "A = rect : 1, y = 2, 3, , fc=Red, 4 , fc = Blue"

theorem fields_mixedLine :
    LineField.ofLine mixedLine =
      [⟨none, "0", "1"⟩, ⟨some "y", "y", "2"⟩, ⟨none, "2", "3"⟩, ⟨some "fc", "fc", "Red"⟩,
        ⟨none, "4", "4"⟩, ⟨some "fc", "fc", "Blue"⟩] := by
  decide +kernel

theorem namesApart_mixedLine : NamesApart (LineField.ofLine mixedLine) := by
  have hy := @ne_positionKey "y" (by decide +kernel)
  have hfc := @ne_positionKey "fc" (by decide +kernel)
  rw [fields_mixedLine]
  simpa [NamesApart] using And.intro hy hfc

theorem ofLine_keeps_fields_mixedLine :
    NamesApart (LineField.ofLine mixedLine) ∧
      (forall i, "w" ≠ positionKey i) ∧ (forall i, "fc" ≠ positionKey i) ∧
      (ofLine mixedLine).fieldOrPosition? "w" 2 = some "3" ∧
      (ofLine mixedLine).fieldOrPosition? "w" 3 = none ∧
      (ofLine mixedLine).fieldOrPosition? "fc" 4 = some "Blue" := by
  have hw := @ne_positionKey "w" (by decide +kernel)
  have hfc := @ne_positionKey "fc" (by decide +kernel)
  have hread := ((ofLine_keeps_fields mixedLine).2.2.2 namesApart_mixedLine).2
  refine ⟨namesApart_mixedLine, hw, hfc, ?_, ?_, ?_⟩
  · exact (hread "w" hw 2).trans (by decide +kernel)
  · exact (hread "w" hw 3).trans (by decide +kernel)
  · exact (hread "fc" hfc 4).trans (by decide +kernel)

end Statement

end Drafting
