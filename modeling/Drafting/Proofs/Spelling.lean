import Drafting.Proofs.Bindings
import Drafting.Proofs.Positions
import Drafting.Proofs.Trimming

/-!
# How statements are written

A statement can be written in many ways.  There may be blanks around each of its
pieces and marks, and fields may be left blank.  This module says which texts are
spellings of a statement, and that the statement is read back from each of them.
-/

namespace Drafting

namespace Text

def Trimmed (s : String) : Prop :=
  trim s.toList = s.toList

instance (s : String) : Decidable (Trimmed s) :=
  inferInstanceAs (Decidable (_ = _))

/-- The characters are those of the text with any blanks around it. -/
def Padded (s : String) (cs : List Char) : Prop :=
  exists front back, allBlank front = true ∧ allBlank back = true ∧
    cs = front ++ s.toList ++ back

theorem Padded.ofList_trim {s : String} {cs : List Char} (h : Padded s cs) (hs : Trimmed s) :
    String.ofList (trim cs) = s := by
  rcases h with ⟨front, back, hfront, hback, rfl⟩
  rw [trim_append hfront hback, hs, String.ofList_toList]

theorem not_mem_of_allBlank {mark : Char} (hmark : isBlank mark = false) {cs : List Char}
    (h : allBlank cs = true) : mark ∉ cs := by
  intro hmem
  have hblank := List.all_eq_true.mp h mark hmem
  rw [hmark] at hblank
  cases hblank

theorem Padded.not_mem {mark : Char} (hmark : isBlank mark = false) {s : String}
    {cs : List Char} (h : Padded s cs) (hs : mark ∉ s.toList) : mark ∉ cs := by
  rcases h with ⟨front, back, hfront, hback, rfl⟩
  simp only [List.mem_append, not_or]
  exact ⟨⟨not_mem_of_allBlank hmark hfront, hs⟩, not_mem_of_allBlank hmark hback⟩

/-!
## Cutting where the marks are

A text is cut at the first mark, and into pieces at all of them.  Pieces without
marks are found again where they have been joined with marks in between.
-/

section Marks

variable {mark : Char}

theorem cutAt_append {before : List Char} (h : mark ∉ before) (after : List Char) :
    cutAt mark (before ++ mark :: after) = (before, some after) := by
  induction before with
  | nil => exact cutAt_mark mark after
  | cons c rest ih =>
      rw [List.mem_cons, not_or] at h
      rw [List.cons_append, cutAt_of_ne _ (Ne.symm h.1), ih h.2]

theorem cutAt_of_not_mem {cs : List Char} (h : mark ∉ cs) : cutAt mark cs = (cs, none) := by
  induction cs with
  | nil => rfl
  | cons c rest ih =>
      rw [List.mem_cons, not_or] at h
      rw [cutAt_of_ne _ (Ne.symm h.1), ih h.2]

theorem pieces_eq_splitOn (cs : List Char) : pieces mark cs = cs.splitOn mark := by
  induction cs with
  | nil => rfl
  | cons c rest ih =>
      rw [List.splitOn_eq_splitOnP] at ih ⊢
      rw [List.splitOnP_cons_eq_if_modifyHead, ← ih]
      by_cases hc : c = mark
      · simp [hc]
      · rcases exists_pieces_of_ne hc rest with ⟨first, more, hrest, hpieces⟩
        simp [hc, hrest, hpieces]

theorem pieces_intercalate {ps : List (List Char)} (hne : ps ≠ [])
    (h : forall p, p ∈ ps -> mark ∉ p) : pieces mark ([mark].intercalate ps) = ps := by
  rw [pieces_eq_splitOn]
  exact List.splitOn_intercalate mark h hne

theorem cutAt_append_of_mem {cs : List Char} (h : mark ∈ cs) (rest : List Char) :
    exists before after, cutAt mark cs = (before, some after) ∧
      cutAt mark (cs ++ rest) = (before, some (after ++ rest)) := by
  rcases List.eq_append_cons_of_mem h with ⟨before, after, rfl, hbefore⟩
  refine ⟨before, after, cutAt_append hbefore after, ?_⟩
  rw [List.append_assoc, List.cons_append, cutAt_append hbefore]

theorem pieces_append_mark (cs rest : List Char) :
    pieces mark (cs ++ mark :: rest) = pieces mark cs ++ pieces mark rest := by
  induction cs with
  | nil =>
      rw [List.nil_append, pieces_mark]
      rfl
  | cons c more ih =>
      by_cases hc : c = mark
      · rw [hc, List.cons_append, pieces_mark, pieces_mark, ih, List.cons_append]
      · rcases exists_pieces_of_ne hc more with ⟨first, others, hmore, hpieces⟩
        rw [List.cons_append, pieces, if_neg hc, ih, hmore, hpieces]
        rfl

theorem pieces_of_not_mem {cs : List Char} (h : mark ∉ cs) : pieces mark cs = [cs] := by
  have hsingle := pieces_intercalate (List.cons_ne_nil cs []) (List.forall_mem_singleton.mpr h)
  simpa using hsingle

end Marks

end Text

namespace Statement

open Text

/-!
## Parts of a statement

The main part and each of the fields consist of a text and maybe a name for it.
The first `=` belongs to the name: behind one the text may have more of them,
and without a name there can be none.  A field is taken in as the main part is,
and what is kept of it is the name, or else the position that it is at.
-/

structure Part where
  name : Option String
  text : String
  name_trimmed : forall n, name = some n -> Trimmed n
  name_plain : forall n, name = some n -> '=' ∉ n.toList
  text_trimmed : Trimmed text
  text_plain : name = none -> '=' ∉ text.toList

namespace Part

def ofText (text : String) (htext : Trimmed text) (hplain : '=' ∉ text.toList) : Part :=
  { name := none
    text := text
    name_trimmed := by simp
    name_plain := by simp
    text_trimmed := htext
    text_plain := fun _ => hplain }

def ofName (name text : String) (hname : Trimmed name) (hplain : '=' ∉ name.toList)
    (htext : Trimmed text) : Part :=
  { name := some name
    text := text
    name_trimmed := by simpa using hname
    name_plain := by simpa using hplain
    text_trimmed := htext
    text_plain := by simp }

def Avoids (p : Part) (mark : Char) : Prop :=
  (forall n, p.name = some n -> mark ∉ n.toList) ∧ mark ∉ p.text.toList

inductive Spells (p : Part) : List Char -> Prop where
  | named {n : String} {front back : List Char} :
      p.name = some n -> Padded n front -> Padded p.text back ->
        Spells p (front ++ '=' :: back)
  | bare {cs : List Char} : p.name = none -> Padded p.text cs -> Spells p cs

theorem Spells.mainPart {p : Part} {cs : List Char} (h : p.Spells cs) :
    mainPart cs = (p.name, p.text) := by
  cases h with
  | named hname hfront hback =>
      have hcut := cutAt_append (hfront.not_mem rfl (p.name_plain _ hname))
      simp only [Statement.mainPart, hcut, hname, hfront.ofList_trim (p.name_trimmed _ hname),
        hback.ofList_trim p.text_trimmed]
  | bare hname hpadded =>
      have hcut := cutAt_of_not_mem (hpadded.not_mem rfl (p.text_plain hname))
      simp only [Statement.mainPart, hcut, hname, hpadded.ofList_trim p.text_trimmed]

theorem Spells.not_mem {mark : Char} (hblank : isBlank mark = false) (hmark : mark ≠ '=')
    {p : Part} {cs : List Char} (h : p.Spells cs) (havoids : p.Avoids mark) : mark ∉ cs := by
  cases h with
  | named hname hfront hback =>
      rw [List.mem_append, List.mem_cons, not_or, not_or]
      exact ⟨hfront.not_mem hblank (havoids.1 _ hname), hmark, hback.not_mem hblank havoids.2⟩
  | bare hname hpadded => exact hpadded.not_mem hblank havoids.2

def entry (p : Part) (position : Nat) : String × String :=
  (p.name.getD (positionKey position), p.text)

end Part

theorem mainPart_trim (cs : List Char) : mainPart (trim cs) = mainPart cs :=
  apply_trim (fun _ cs hc => mainPart_cons hc cs) (fun _ cs hc => mainPart_concat hc cs) cs

theorem addField_trim (fields : List (String × String)) (piece : List Char) :
    addField fields (trim piece) =
      Binding.put ((mainPart piece).1.getD (positionKey fields.length)) (mainPart piece).2
        fields := by
  rw [← mainPart_trim, addField, mainPart]
  rcases hcut : cutAt '=' (trim piece) with ⟨key, _ | value⟩
  · simp [trim_trim]
  · simp

/-!
## Lists of fields

Blank pieces are passed over and do not count as positions.  Every other piece
is kept behind those before it if its key is new.
-/

/-- The ways to write a list of fields as pieces, some of which may be left blank. -/
inductive SpellsFields : List Part -> List (List Char) -> Prop where
  | nil : SpellsFields [] []
  | blank {fields : List Part} {piece : List Char} {pieces : List (List Char)} :
      allBlank piece = true -> SpellsFields fields pieces -> SpellsFields fields (piece :: pieces)
  | field {f : Part} {fields : List Part} {piece : List Char} {pieces : List (List Char)} :
      f.Spells piece -> SpellsFields fields pieces ->
        SpellsFields (f :: fields) (piece :: pieces)

def entriesFrom (position : Nat) (fields : List Part) : List (String × String) :=
  (fields.zipIdx position).map fun (f, i) => f.entry i

theorem entriesFrom_cons (position : Nat) (f : Part) (rest : List Part) :
    entriesFrom position (f :: rest) = f.entry position :: entriesFrom (position + 1) rest := by
  simp [entriesFrom, List.zipIdx_cons]

/-- Only fields with a name may have no text. -/
def Part.IsField (f : Part) : Prop :=
  f.Avoids ',' ∧ (f.name = none -> f.text ≠ "")

theorem Part.Spells.trim_ne_nil {f : Part} {piece : List Char} (h : f.Spells piece)
    (hfield : f.name = none -> f.text ≠ "") : trim piece ≠ [] := by
  cases h with
  | named hname hfront hback =>
      intro hnil
      have hblank := trim_eq_nil_iff.mp hnil
      simp [allBlank, isBlank] at hblank
  | bare hname hpadded =>
      intro hnil
      have htext := hpadded.ofList_trim f.text_trimmed
      rw [hnil] at htext
      exact hfield hname htext.symm

theorem foldl_addField {fields : List Part} {pieces : List (List Char)}
    (h : SpellsFields fields pieces) (hfields : forall f, f ∈ fields -> f.IsField)
    (done : List (String × String))
    (hnodup : ((done ++ entriesFrom done.length fields).map Prod.fst).Nodup) :
    ((pieces.map trim).filter fun piece => ! piece.isEmpty).foldl addField done =
      done ++ entriesFrom done.length fields := by
  induction h generalizing done with
  | nil => simp [entriesFrom]
  | blank hblank _ ih =>
      rw [List.map_cons, trim_eq_nil_of_allBlank hblank]
      exact ih hfields done hnodup
  | @field f fields piece pieces hspells _ ih =>
      rw [List.forall_mem_cons] at hfields
      have hkept : (! (trim piece).isEmpty) = true := by
        simpa using hspells.trim_ne_nil hfields.1.2
      have hentries : done ++ entriesFrom done.length (f :: fields) =
          (done ++ [f.entry done.length]) ++
            entriesFrom (done ++ [f.entry done.length]).length fields := by
        rw [entriesFrom_cons, List.length_append, List.length_singleton]
        exact List.append_cons _ _ _
      rw [hentries] at hnodup ⊢
      -- The key of this field is new, so the field is put behind the others.
      have hfresh : (f.entry done.length).1 ∉ done.map Prod.fst := by
        rw [List.map_append, List.map_append] at hnodup
        intro hmem
        exact (List.nodup_append.mp (List.nodup_append.mp hnodup).1).2.2 _ hmem _
          (List.mem_singleton.mpr rfl) rfl
      have hstep : addField done (trim piece) = done ++ [f.entry done.length] := by
        rw [addField_trim, hspells.mainPart]
        exact Binding.put_of_not_mem hfresh f.text
      rw [List.map_cons, List.filter_cons, if_pos hkept, List.foldl_cons, hstep]
      exact ih hfields.2 _ hnodup

/-!
## The keys of fields

A position is fresh among other positions and among names that are no positions,
so fields with different names have different keys.
-/

theorem key_of_mem_entriesFrom {fields : List Part} {position : Nat} {key : String}
    (h : key ∈ (entriesFrom position fields).map Prod.fst) :
    (exists f, f ∈ fields ∧ f.name = some key) ∨
      exists i, position ≤ i ∧ key = positionKey i := by
  rw [entriesFrom, List.map_map, List.mem_map] at h
  rcases h with ⟨⟨f, i⟩, hmem, rfl⟩
  cases hname : f.name with
  | some n =>
      refine .inl ⟨f, List.fst_mem_of_mem_zipIdx hmem, ?_⟩
      simp [Part.entry, hname]
  | none =>
      refine .inr ⟨i, List.le_snd_of_mem_zipIdx hmem, ?_⟩
      simp [Part.entry, hname]

theorem nodup_keys {fields : List Part} (hnodup : (fields.filterMap Part.name).Nodup)
    (hnames : forall f, f ∈ fields -> forall i, f.name ≠ some (positionKey i))
    (position : Nat) : ((entriesFrom position fields).map Prod.fst).Nodup := by
  induction fields generalizing position with
  | nil => exact List.nodup_nil
  | cons f rest ih =>
      rw [List.forall_mem_cons] at hnames
      rw [entriesFrom_cons, List.map_cons, List.nodup_cons]
      cases hname : f.name with
      | none =>
          rw [List.filterMap_cons, hname] at hnodup
          refine ⟨?_, ih hnodup hnames.2 _⟩
          intro hmem
          have hkey : (f.entry position).1 = positionKey position := by simp [Part.entry, hname]
          rw [hkey] at hmem
          -- Behind this field there are names, which are no positions, and later positions.
          rcases key_of_mem_entriesFrom hmem with ⟨g, hg, hsame⟩ | ⟨i, hi, hsame⟩
          · exact hnames.2 g hg position hsame
          · have := positionKey_injective hsame
            omega
      | some n =>
          rw [List.filterMap_cons, hname] at hnodup
          rcases List.nodup_cons.mp hnodup with ⟨hfresh, hrest⟩
          refine ⟨?_, ih hrest hnames.2 _⟩
          intro hmem
          have hkey : (f.entry position).1 = n := by simp [Part.entry, hname]
          rw [hkey] at hmem
          rcases key_of_mem_entriesFrom hmem with ⟨g, hg, hsame⟩ | ⟨i, _, hsame⟩
          · exact hfresh (List.mem_filterMap.mpr ⟨g, hg, hsame⟩)
          · exact hnames.1 i (by rw [hname, hsame])

/-!
## Whole statements
-/

/--
A statement that can be written down.  Its pieces hold no marks that belong
elsewhere, each name is given to one field, and no name looks like a position.
-/
structure Draft where
  main : Part
  fields : List Part
  main_avoids : main.Avoids ':'
  fields_are : forall f, f ∈ fields -> f.IsField
  names_nodup : (fields.filterMap Part.name).Nodup
  names_are_no_positions : forall f, f ∈ fields -> forall i, f.name ≠ some (positionKey i)

namespace Draft

/-- The ways to write a statement; without fields there need be no colon. -/
inductive Spells (d : Draft) : List Char -> Prop where
  | full {main : List Char} {pieces : List (List Char)} :
      d.main.Spells main -> SpellsFields d.fields pieces ->
        Spells d (main ++ ':' :: [','].intercalate pieces)
  | short {main : List Char} : d.main.Spells main -> d.fields = [] -> Spells d main

theorem not_mem_of_spellsFields {fields : List Part} {pieces : List (List Char)}
    (h : SpellsFields fields pieces) (hfields : forall f, f ∈ fields -> f.IsField) :
    forall piece, piece ∈ pieces -> ',' ∉ piece := by
  induction h with
  | nil => simp
  | blank hblank _ ih =>
      rw [List.forall_mem_cons]
      exact ⟨not_mem_of_allBlank rfl hblank, ih hfields⟩
  | field hspells _ ih =>
      rw [List.forall_mem_cons] at hfields ⊢
      exact ⟨hspells.not_mem rfl (by decide) hfields.1.1, ih hfields.2⟩

theorem fieldsOf_of_spellsFields (d : Draft) {pieces : List (List Char)}
    (h : SpellsFields d.fields pieces) :
    fieldsOf ([','].intercalate pieces) = entriesFrom 0 d.fields := by
  have hfold := foldl_addField h d.fields_are []
    (nodup_keys d.names_nodup d.names_are_no_positions 0)
  by_cases hne : pieces = []
  · subst hne
    exact hfold
  · rw [fieldsOf, pieces_intercalate hne (not_mem_of_spellsFields h d.fields_are)]
    exact hfold

end Draft

/--
A statement is read back from each of its spellings: the name and the head as
they are, and one entry for each field, in order.  A field without a name is
known by its position.
-/
theorem ofLine_of_spelling (d : Draft) {line : String} (h : d.Spells line.toList) :
    ofLine line =
      { name := d.main.name
        head := d.main.text
        fields := d.fields.mapIdx fun i f => (f.name.getD (positionKey i), f.text) } := by
  have hentries : (d.fields.mapIdx fun i f => (f.name.getD (positionKey i), f.text)) =
      entriesFrom 0 d.fields :=
    List.mapIdx_eq_zipIdx_map
  rw [hentries, ofLine, ofChars_eq]
  generalize line.toList = cs at h
  cases h with
  | @full main pieces hmain hfields =>
      have hcolon : ':' ∉ main := hmain.not_mem rfl (by decide) d.main_avoids
      rw [cutAt_append hcolon, hmain.mainPart, Option.map_some, Option.getD_some,
        d.fieldsOf_of_spellsFields hfields]
  | short hmain hnone =>
      have hcolon : ':' ∉ cs := hmain.not_mem rfl (by decide) d.main_avoids
      rw [cutAt_of_not_mem hcolon, hmain.mainPart, hnone]
      rfl

def wall : Draft :=
  { main := .ofName "wall" "Rect" (by decide +kernel) (by decide) (by decide +kernel)
    fields :=
      [.ofName "x" "" (by decide +kernel) (by decide) (by decide +kernel),
       .ofText "b:c" (by decide +kernel) (by decide),
       .ofName "tx" "u = v" (by decide +kernel) (by decide) (by decide +kernel)]
    main_avoids := by simp [Part.ofName, Part.Avoids]
    fields_are := by simp [Part.ofName, Part.ofText, Part.IsField, Part.Avoids]
    names_nodup := by simp [Part.ofName, Part.ofText]
    names_are_no_positions := by
      have hx := @ne_positionKey "x" (by decide +kernel)
      have htx := @ne_positionKey "tx" (by decide +kernel)
      simpa [Part.ofName, Part.ofText] using And.intro hx htx }

def wallLine : String :=
  "wall\t=Rect : x=,, b:c , tx= u = v,"

theorem spells_wall : wall.Spells wallLine.toList := by
  have hline : wallLine.toList =
      ("wall\t".toList ++ '=' :: "Rect ".toList) ++ ':' ::
        [','].intercalate
          [" x".toList ++ '=' :: [], [], " b:c ".toList, " tx".toList ++ '=' :: " u = v".toList,
            []] := by
    decide +kernel
  rw [hline]
  apply Draft.Spells.full
  · exact .named rfl ⟨[], ['\t'], rfl, rfl, by decide +kernel⟩
      ⟨[], [' '], rfl, rfl, by decide +kernel⟩
  · apply SpellsFields.field
    · exact .named rfl ⟨[' '], [], rfl, rfl, by decide +kernel⟩ ⟨[], [], rfl, rfl, rfl⟩
    · apply SpellsFields.blank rfl
      apply SpellsFields.field
      · exact .bare rfl ⟨[' '], [' '], rfl, rfl, by decide +kernel⟩
      · apply SpellsFields.field
        · exact .named rfl ⟨[' '], [], rfl, rfl, by decide +kernel⟩
            ⟨[' '], [], rfl, rfl, by decide +kernel⟩
        · exact .blank rfl .nil

theorem ofLine_wall :
    wall.Spells wallLine.toList ∧
      ofLine wallLine =
        { name := some "wall"
          head := "Rect"
          fields := [("x", ""), ("1", "b:c"), ("tx", "u = v")] } :=
  ⟨spells_wall, ofLine_of_spelling wall spells_wall⟩

end Statement

end Drafting
