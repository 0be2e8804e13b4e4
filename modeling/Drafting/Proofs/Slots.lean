import Drafting.Proofs.NamedFields

/-!
# Names of slots may be left out

The text for a slot is written behind the name of the slot, or bare where the
slot has its position.  A field with a name takes up a position as well as one
without, so each slot can be written in either way, whatever is done with the
others, and the statement is read as if all names were there.  Fields that have
no slot may follow, and even be repeated.
-/

namespace Drafting

namespace Statement

open Text

/-!
## Writing slots

A text for a slot has no marks that would cut it apart, and is not blank.  It
stands bare or behind the name of its slot, and a list of pieces holds the texts
for a list of slots, one after another.  Slots have different names, and none of
these could be taken for a position; this is so for the slots of every keyword,
with texts for all of them or only for the first ones.
-/

structure SlotText where
  chars : List Char
  no_mark : '=' ∉ chars
  no_comma : ',' ∉ chars
  not_blank : allBlank chars = false

namespace SlotText

def value (t : SlotText) : String :=
  String.ofList (trim t.chars)

/-- The ways to write the text for the slot of this name: bare, or behind the name. -/
inductive Spells (t : SlotText) (name : String) : List Char -> Prop where
  | bare : Spells t name t.chars
  | named {before : List Char} : Padded name before -> Spells t name (before ++ '=' :: t.chars)

end SlotText

def SpellsSlots (slots : List (String × SlotText)) (pieces : List (List Char)) : Prop :=
  List.Forall₂ (fun slot piece => slot.2.Spells slot.1 piece) slots pieces

theorem SpellsSlots.concat {slots : List (String × SlotText)} {pieces : List (List Char)}
    {piece : List Char} (h : SpellsSlots slots (pieces ++ [piece])) :
    exists front slot, slots = front ++ [slot] ∧ SpellsSlots front pieces ∧
      slot.2.Spells slot.1 piece := by
  have hfront := List.forall₂_take_append slots pieces [piece] h
  have hlast := List.forall₂_drop_append slots pieces [piece] h
  have hsplit := List.take_append_drop pieces.length slots
  generalize slots.drop pieces.length = rest at hlast hsplit
  cases hlast with
  | cons hslot hnil =>
      cases hnil
      exact ⟨_, _, hsplit.symm, hfront, hslot⟩

structure IsSlotName (name : String) : Prop where
  trimmed : Trimmed name
  no_mark : '=' ∉ name.toList
  no_comma : ',' ∉ name.toList
  no_position : name.toList.all Char.isDigit = false

structure WellNamed (slots : List (String × SlotText)) : Prop where
  nodup : (slots.map Prod.fst).Nodup
  names : forall name, name ∈ slots.map Prod.fst -> IsSlotName name

theorem isSlotName_of_mem {k : Keyword} {name : String} (h : name ∈ k.slots) :
    IsSlotName name := by
  have hplain : forall name, name ∈ k.slots ->
      Trimmed name ∧ '=' ∉ name.toList ∧ ',' ∉ name.toList := by
    cases k <;> decide +kernel
  rcases hplain name h with ⟨htrimmed, hmark, hcomma⟩
  exact ⟨htrimmed, hmark, hcomma, k.not_allDigits_slot name h⟩

theorem map_fst_zip (names : List String) (texts : List SlotText) :
    (names.zip texts).map Prod.fst = names.take texts.length := by
  induction names generalizing texts with
  | nil => simp
  | cons name rest ih =>
      cases texts with
      | nil => rfl
      | cons t texts => simp [ih]

theorem wellNamed_zip (k : Keyword) (texts : List SlotText) : WellNamed (k.slots.zip texts) where
  nodup := by
    rw [map_fst_zip]
    exact (List.take_sublist _ _).nodup k.nodup_slots
  names := by
    intro name hname
    rw [map_fst_zip] at hname
    exact isSlotName_of_mem (List.mem_of_mem_take hname)

theorem WellNamed.front {front : List (String × SlotText)} {slot : String × SlotText}
    (h : WellNamed (front ++ [slot])) :
    WellNamed front ∧ slot.1 ∉ front.map Prod.fst ∧ IsSlotName slot.1 := by
  have hnodup := h.nodup
  have hnames := h.names
  rw [List.map_append, List.map_singleton] at hnodup hnames
  rw [List.forall_mem_append, List.forall_mem_singleton] at hnames
  rcases List.nodup_append.mp hnodup with ⟨hfront, _, hapart⟩
  exact ⟨⟨hfront, hnames.1⟩, fun hmem => hapart _ hmem _ (List.mem_singleton_self _) rfl, hnames.2⟩

namespace SlotText

variable {t : SlotText} {name : String} {piece : List Char}

theorem Spells.is_piece (h : t.Spells name piece) (hname : IsSlotName name) :
    ',' ∉ piece ∧ allBlank piece = false := by
  cases h with
  | bare => exact ⟨t.no_comma, t.not_blank⟩
  | named hpadded =>
      constructor
      · rw [List.mem_append, List.mem_cons, not_or, not_or]
        exact ⟨hpadded.not_mem rfl hname.no_comma, by decide, t.no_comma⟩
      · simp [allBlank, isBlank]

theorem Spells.mainPart (h : t.Spells name piece) (hname : IsSlotName name) :
    Statement.mainPart piece = (none, t.value) ∨
      Statement.mainPart piece = (some name, t.value) := by
  cases h with
  | bare =>
      refine .inl ?_
      rw [Statement.mainPart, cutAt_of_not_mem t.no_mark]
      rfl
  | named hpadded =>
      refine .inr ?_
      rw [Statement.mainPart, cutAt_append (hpadded.not_mem rfl hname.no_mark)]
      simp only [hpadded.ofList_trim hname.trimmed]
      rfl

end SlotText

theorem is_piece_of_slots {slots : List (String × SlotText)} {pieces : List (List Char)}
    (h : SpellsSlots slots pieces) (hnames : WellNamed slots) :
    forall piece, piece ∈ pieces -> ',' ∉ piece ∧ allBlank piece = false := by
  induction pieces using List.reverseRecOn generalizing slots with
  | nil => simp
  | append_singleton pieces piece ih =>
      rcases h.concat with ⟨front, slot, rfl, hfront, hslot⟩
      rcases hnames.front with ⟨hfrontNames, _, hname⟩
      rw [List.forall_mem_append, List.forall_mem_singleton]
      exact ⟨ih hfront hfrontNames, hslot.is_piece hname⟩

/-!
## What is kept of slots

However the slots have been written, their texts are kept in order: each in its
place, under its name or under its position.  For this every key has to be new
when its piece is taken in, or it would replace an earlier one.
-/

/-- Each slot has its text in its place, under its name or its position. -/
structure Fills (kept : List (String × String)) (slots : List (String × SlotText)) : Prop where
  length : kept.length = slots.length
  entry : forall (i : Nat) (slot : String × SlotText), slots[i]? = some slot ->
    exists key, (key = slot.1 ∨ key = positionKey i) ∧ kept[i]? = some (key, slot.2.value)

namespace Fills

variable {kept : List (String × String)} {slots : List (String × SlotText)}

theorem exists_slot (h : Fills kept slots) {entry : String × String} (hentry : entry ∈ kept) :
    exists (i : Nat) (slot : String × SlotText), slots[i]? = some slot ∧
      kept[i]? = some entry ∧ (entry.1 = slot.1 ∨ entry.1 = positionKey i) := by
  rcases List.mem_iff_getElem?.mp hentry with ⟨i, hi⟩
  have hlt : i < slots.length := by
    rw [← h.length]
    exact (List.getElem?_eq_some_iff.mp hi).1
  have hslot : slots[i]? = some slots[i] := List.getElem?_eq_getElem hlt
  rcases h.entry i _ hslot with ⟨key, hkey, hplace⟩
  rw [hi] at hplace
  cases hplace
  exact ⟨i, slots[i], hslot, hi, hkey⟩

theorem fresh (h : Fills kept slots) {slot : String × SlotText} (hnames : WellNamed (slots ++ [slot]))
    {key : String} (hkey : key = slot.1 ∨ key = positionKey kept.length) :
    key ∉ kept.map Prod.fst := by
  intro hmem
  rcases List.mem_map.mp hmem with ⟨entry, hentry, rfl⟩
  rcases h.exists_slot hentry with ⟨i, other, hother, hplace, hown⟩
  rcases hnames.front with ⟨hfront, hnew, hname⟩
  have hmemOther : other.1 ∈ slots.map Prod.fst :=
    List.mem_map_of_mem (List.mem_of_getElem? hother)
  -- Names differ from names, positions from positions, and no name looks like a position.
  rcases hkey with hkey | hkey <;> rcases hown with hown | hown
  · exact hnew (hkey ▸ hown ▸ hmemOther)
  · exact ne_positionKey hname.no_position i (hkey.symm.trans hown)
  · exact ne_positionKey (hfront.names _ hmemOther).no_position kept.length (hown.symm.trans hkey)
  · have hi : i = kept.length := positionKey_injective (hown.symm.trans hkey)
    rw [hi, List.getElem?_eq_none (Nat.le_refl _)] at hplace
    cases hplace

theorem concat (h : Fills kept slots) {slot : String × SlotText} {key : String}
    (hkey : key = slot.1 ∨ key = positionKey kept.length) :
    Fills (kept ++ [(key, slot.2.value)]) (slots ++ [slot]) where
  length := by rw [List.length_append, List.length_append, h.length]; rfl
  entry := by
    intro i other hother
    by_cases hi : i < slots.length
    · rw [List.getElem?_append_left hi] at hother
      rcases h.entry i other hother with ⟨own, hown, hplace⟩
      refine ⟨own, hown, ?_⟩
      rw [List.getElem?_append_left (by rw [h.length]; exact hi), hplace]
    · have hlt := (List.getElem?_eq_some_iff.mp hother).1
      rw [List.length_append, List.length_singleton] at hlt
      have hlast : i = slots.length := by omega
      subst hlast
      rw [List.getElem?_concat_length] at hother
      cases hother
      refine ⟨key, ?_, ?_⟩
      · rw [← h.length]
        exact hkey
      · rw [← h.length, List.getElem?_concat_length]

end Fills

theorem fills_keptOf {slots : List (String × SlotText)} {pieces : List (List Char)}
    (h : SpellsSlots slots pieces) (hnames : WellNamed slots) : Fills (keptOf pieces) slots := by
  induction pieces using List.reverseRecOn generalizing slots with
  | nil =>
      cases h
      exact ⟨rfl, by simp⟩
  | append_singleton pieces piece ih =>
      rcases h.concat with ⟨front, slot, rfl, hfront, hslot⟩
      rcases hnames.front with ⟨hfrontNames, _, hname⟩
      have hkept := ih hfront hfrontNames
      rw [keptOf_concat, addField_trim]
      -- In both ways the key is new, so the slot is put behind the others and the count goes on.
      rcases hslot.mainPart hname with hpart | hpart
      · rw [hpart, Option.getD_none, Binding.put_of_not_mem (hkept.fresh hnames (.inr rfl))]
        exact hkept.concat (.inr rfl)
      · rw [hpart, Option.getD_some, Binding.put_of_not_mem (hkept.fresh hnames (.inl rfl))]
        exact hkept.concat (.inl rfl)

/-!
## Reading slots

Reading asks for the name first, and a slot that is written bare is not found
under its name, so it is found at its position.  Fields without a slot that come
behind hide nothing of this.
-/

namespace Fills

variable {kept : List (String × String)} {slots : List (String × SlotText)}

theorem lookup_eq_none (h : Fills kept slots) {key : String} (hname : key ∉ slots.map Prod.fst)
    (hposition : forall i, i < slots.length -> key ≠ positionKey i) : kept.lookup key = none := by
  rw [List.lookup_eq_none_iff]
  intro entry hentry
  rw [bne_iff_ne]
  rintro rfl
  rcases h.exists_slot hentry with ⟨i, slot, hslot, _, hown | hown⟩
  · exact hname (hown ▸ List.mem_map_of_mem (List.mem_of_getElem? hslot))
  · exact hposition i (List.getElem?_eq_some_iff.mp hslot).1 hown

theorem lookup_name_of_bare (h : Fills kept slots) (hnames : WellNamed slots) {i : Nat}
    {slot : String × SlotText} (hslot : slots[i]? = some slot)
    (hbare : kept[i]? = some (positionKey i, slot.2.value)) : kept.lookup slot.1 = none := by
  have hmem : slot.1 ∈ slots.map Prod.fst := List.mem_map_of_mem (List.mem_of_getElem? hslot)
  -- Of all entries only the one at `i` could have the name, and that one has a position.
  have hdigits := (hnames.names _ hmem).no_position
  rw [List.lookup_eq_none_iff]
  intro entry hentry
  rw [bne_iff_ne]
  intro hkey
  rcases h.exists_slot hentry with ⟨j, other, hother, hplace, hown | hown⟩
  · have hlt : i < (slots.map Prod.fst).length := by
      rw [List.length_map]
      exact (List.getElem?_eq_some_iff.mp hslot).1
    have hsame : i = j := by
      apply (List.getElem?_inj hlt hnames.nodup).mp
      rw [List.getElem?_map, List.getElem?_map, hslot, hother, Option.map_some, Option.map_some,
        hkey, hown]
    subst hsame
    rw [hbare] at hplace
    cases hplace
    exact ne_positionKey hdigits i hkey
  · exact ne_positionKey hdigits j (hkey.trans hown)

theorem lookup_slot (h : Fills kept slots) (hnames : WellNamed slots)
    (hkeys : (kept.map Prod.fst).Nodup) {i : Nat} {slot : String × SlotText}
    (hslot : slots[i]? = some slot) :
    (kept.lookup slot.1).or (kept.lookup (positionKey i)) = some slot.2.value := by
  rcases h.entry i slot hslot with ⟨key, rfl | rfl, hplace⟩
  · rw [(Binding.lookup_eq_some_iff_mem hkeys).mpr (List.mem_of_getElem? hplace), Option.some_or]
  · rw [h.lookup_name_of_bare hnames hslot hplace, Option.none_or,
      (Binding.lookup_eq_some_iff_mem hkeys).mpr (List.mem_of_getElem? hplace)]

end Fills

theorem slot_of_missing {k : Keyword} {texts : List SlotText} {i : Nat} {name : String}
    (hname : k.slots[i]? = some name) (hmissing : (k.slots.zip texts)[i]? = none) :
    name ∉ (k.slots.zip texts).map Prod.fst := by
  rw [map_fst_zip]
  intro hmem
  rcases List.mem_iff_getElem?.mp hmem with ⟨j, hj⟩
  rw [List.getElem?_take] at hj
  split at hj
  · next hlt =>
      have hi := (List.getElem?_eq_some_iff.mp hname).1
      have hsame : i = j := (List.getElem?_inj hi k.nodup_slots).mp (hname.trans hj.symm)
      rw [List.getElem?_eq_none_iff, List.length_zip] at hmissing
      omega
  · cases hj

/-- What is read for a slot is its text, if there is one, in whatever way it has been written. -/
theorem reading_of_slot {k : Keyword} {texts : List SlotText} {pieces : List (List Char)}
    (h : SpellsSlots (k.slots.zip texts) pieces) {i : Nat} {name : String}
    (hname : k.slots[i]? = some name) :
    ((keptOf pieces).lookup name).or ((keptOf pieces).lookup (positionKey i)) =
      ((k.slots.zip texts)[i]?).map fun slot => slot.2.value := by
  have hnames := wellNamed_zip k texts
  have hfills := fills_keptOf h hnames
  cases hslot : (k.slots.zip texts)[i]? with
  | some slot =>
      have hsame : slot.1 = name := by
        have hfirst := (List.getElem?_zip_eq_some.mp hslot).1
        exact Option.some.inj (hfirst.symm.trans hname)
      rw [← hsame]
      exact hfills.lookup_slot hnames (retains_ofPieces pieces).nodup hslot
  | none =>
      -- Without a text for the slot nothing has its name or its position.
      have hdigits := k.not_allDigits_slot name (List.mem_of_getElem? hname)
      have hposition : positionKey i ∉ (k.slots.zip texts).map Prod.fst := by
        intro hmem
        exact ne_positionKey (hnames.names _ hmem).no_position i rfl
      have hlength := List.getElem?_eq_none_iff.mp hslot
      rw [hfills.lookup_eq_none (slot_of_missing hname hslot) fun j _ => ne_positionKey hdigits j,
        hfills.lookup_eq_none hposition fun j hj hsame => by
          have := positionKey_injective hsame
          omega]
      rfl

/-- The field has no slot, and it is not mistaken for one. -/
def NamedField.Further (k : Keyword) (f : NamedField) : Prop :=
  f.key ∉ k.slots ∧ forall i, f.key ≠ positionKey i

theorem lookup_further {k : Keyword} {further : List NamedField}
    (h : forall f, f ∈ further -> f.Further k) {key : String}
    (hkey : key ∈ k.slots ∨ exists i, key = positionKey i) :
    (further.map NamedField.entry).reverse.lookup key = none := by
  rw [List.lookup_eq_none_iff]
  intro entry hentry
  rw [List.mem_reverse, List.mem_map] at hentry
  rcases hentry with ⟨f, hf, rfl⟩
  rw [bne_iff_ne]
  rintro rfl
  rcases hkey with hslot | ⟨i, hposition⟩
  · exact (h f hf).1 hslot
  · exact (h f hf).2 i hposition

theorem readsAlike_of_slots {k : Keyword} {main : List Char} (hmain : ':' ∉ main)
    {texts : List SlotText} {pieces others : List (List Char)}
    (hpieces : SpellsSlots (k.slots.zip texts) pieces)
    (hothers : SpellsSlots (k.slots.zip texts) others) {further : List NamedField}
    (hfurther : forall f, f ∈ further -> f.Further k) :
    ReadsAlike k (ofLine (lineOf main (pieces ++ further.map NamedField.text)))
      (ofLine (lineOf main (others ++ further.map NamedField.text))) := by
  have hare : forall {ps : List (List Char)}, SpellsSlots (k.slots.zip texts) ps ->
      forall piece, piece ∈ ps ++ further.map NamedField.text ->
        ',' ∉ piece ∧ allBlank piece = false := by
    intro ps hps
    rw [List.forall_mem_append]
    exact ⟨is_piece_of_slots hps (wellNamed_zip k texts), NamedField.texts_are_pieces further⟩
  constructor
  · rw [(mainPart_lineOf hmain _).1, (mainPart_lineOf hmain _).1]
  · intro i name hname
    simp only [fieldOrPosition?, field?, fields_lineOf hmain (hare hpieces),
      fields_lineOf hmain (hare hothers), keptOf_append, Binding.lookup_foldl_put,
      lookup_further hfurther (.inl (List.mem_of_getElem? hname)),
      lookup_further hfurther (.inr ⟨i, rfl⟩), Option.none_or]
    rw [reading_of_slot hpieces hname, reading_of_slot hothers hname]
  · intro key hkey hdigits
    -- No slot has such a key, so only a further field can have it.
    have hnone : forall {ps : List (List Char)}, SpellsSlots (k.slots.zip texts) ps ->
        (keptOf ps).lookup key = none := by
      intro ps hps
      apply (fills_keptOf hps (wellNamed_zip k texts)).lookup_eq_none
      · rw [map_fst_zip]
        exact fun hmem => hkey (List.mem_of_mem_take hmem)
      · exact fun i _ => ne_positionKey hdigits i
    simp only [field?, fields_lineOf hmain (hare hpieces), fields_lineOf hmain (hare hothers),
      keptOf_append, Binding.lookup_foldl_put, hnone hpieces, hnone hothers]

end Statement

namespace Drawing

open Statement

/--
In the line of a page, a rectangle, or a line, the texts for the first slots can
be written bare or behind the names of the slots, each in its own way.  What the
line does to a drawing is the same, as it is when all of them have their names,
and so is the reason if it fails.  The fields that follow have to have names of
their own, which may be repeated.
-/
theorem execute_of_slots (d : Drawing) {k : Keyword} {main : List Char} (hmain : ':' ∉ main)
    (hk : Keyword.ofHead? (mainPart main).2 = some k) {texts : List SlotText}
    {pieces others : List (List Char)} (hpieces : SpellsSlots (k.slots.zip texts) pieces)
    (hothers : SpellsSlots (k.slots.zip texts) others) {further : List NamedField}
    (hfurther : forall f, f ∈ further -> f.Further k) :
    d.execute (ofLine (lineOf main (pieces ++ further.map NamedField.text))) =
      d.execute (ofLine (lineOf main (others ++ further.map NamedField.text))) := by
  have halike := readsAlike_of_slots hmain hpieces hothers hfurther
  apply execute_of_plan
  apply halike.plan
  · rw [(mainPart_lineOf hmain _).2, (mainPart_lineOf hmain _).2]
  · rw [keyword?, (mainPart_lineOf hmain _).2, hk]

def squareTexts : List SlotText :=
  [⟨" 1".toList, by decide, by decide, by decide +kernel⟩,
    ⟨" 2".toList, by decide, by decide, by decide +kernel⟩,
    ⟨" 3 + 1 ".toList, by decide, by decide, by decide +kernel⟩,
    ⟨"4".toList, by decide, by decide, by decide +kernel⟩]

def redAndBlue : List NamedField :=
  [⟨" fc".toList, "Red".toList, by decide, by decide⟩,
    ⟨" lt".toList, "0.5".toList, by decide, by decide⟩,
    ⟨" fc".toList, " Blue".toList, by decide, by decide⟩]

def squareMixed : List (List Char) :=
  [" 1".toList, " y ".toList ++ '=' :: " 2".toList, " 3 + 1 ".toList, "h".toList ++ '=' :: "4".toList]

def squareNamed : List (List Char) :=
  ["x".toList ++ '=' :: " 1".toList, "y".toList ++ '=' :: " 2".toList,
    "w".toList ++ '=' :: " 3 + 1 ".toList, "h".toList ++ '=' :: "4".toList]

theorem execute_of_slots_square :
    ':' ∉ "A=rect".toList ∧ Keyword.ofHead? (mainPart "A=rect".toList).2 = some .rect ∧
      SpellsSlots (Keyword.rect.slots.zip squareTexts) squareMixed ∧
      SpellsSlots (Keyword.rect.slots.zip squareTexts) squareNamed ∧
      (forall f, f ∈ redAndBlue -> f.Further .rect) ∧
      blank.execute (ofLine "A=rect: 1, y = 2, 3 + 1 ,h=4, fc=Red, lt=0.5, fc= Blue") =
        blank.execute (ofLine "A=rect:x= 1,y= 2,w= 3 + 1 ,h=4, fc=Red, lt=0.5, fc= Blue") := by
  have hcolon : ':' ∉ "A=rect".toList := by decide
  have hkeyword : Keyword.ofHead? (mainPart "A=rect".toList).2 = some .rect := by decide +kernel
  have hfurther : forall f, f ∈ redAndBlue -> f.Further .rect := by
    have hnames : forall f, f ∈ redAndBlue -> f.key ∉ Keyword.rect.slots ∧
        f.key.toList.all Char.isDigit = false := by decide +kernel
    exact fun f hf => ⟨(hnames f hf).1, ne_positionKey (hnames f hf).2⟩
  have hplain : forall name : String, Text.Padded name name.toList := by
    intro name
    exact ⟨[], [], rfl, rfl, by simp⟩
  have hmixed : SpellsSlots (Keyword.rect.slots.zip squareTexts) squareMixed :=
    .cons .bare (.cons (.named ⟨[' '], [' '], rfl, rfl, by decide +kernel⟩)
      (.cons .bare (.cons (.named (hplain "h")) .nil)))
  have hnamed : SpellsSlots (Keyword.rect.slots.zip squareTexts) squareNamed :=
    .cons (.named (hplain "x")) (.cons (.named (hplain "y")) (.cons (.named (hplain "w"))
      (.cons (.named (hplain "h")) .nil)))
  have hleft : lineOf "A=rect".toList (squareMixed ++ redAndBlue.map NamedField.text) =
      "A=rect: 1, y = 2, 3 + 1 ,h=4, fc=Red, lt=0.5, fc= Blue" := by decide +kernel
  have hright : lineOf "A=rect".toList (squareNamed ++ redAndBlue.map NamedField.text) =
      "A=rect:x= 1,y= 2,w= 3 + 1 ,h=4, fc=Red, lt=0.5, fc= Blue" := by decide +kernel
  have hsame := execute_of_slots blank hcolon hkeyword hmixed hnamed hfurther
  rw [hleft, hright] at hsame
  exact ⟨hcolon, hkeyword, hmixed, hnamed, hfurther, hsame⟩

end Drawing

end Drafting
