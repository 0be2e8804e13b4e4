import Drafting.Proofs.Fields
import Drafting.Proofs.Plans

/-!
# Fields with names may be written in any order

A plan looks up the fields of a statement one by one, in an order of its own, and
does not see how they have been written.  So two statements with the same name
and head are planned alike, down to the fault that is reported, when each of
these look-ups gives the same.  This is the case when fields with different names
change places.

Some fields can also be read by their position.  These are the slots of a
keyword.
-/

namespace Drafting

namespace Keyword

def slots : Keyword -> List String
  | page => ["sc", "gr", "un"]
  | rect => ["x", "y", "w", "h"]
  | line => ["sx", "sy", "ex", "ey"]

theorem nodup_slots (k : Keyword) : k.slots.Nodup := by
  cases k <;> decide

theorem not_allDigits_slot (k : Keyword) :
    forall name, name ∈ k.slots -> name.toList.all Char.isDigit = false := by
  cases k <;> decide +kernel

end Keyword

namespace Statement

open Text

/-!
## Statements that are read alike

A plan depends on a statement through its name, its head, and what is looked up
for its keyword.  None of the common properties of shapes has a slot.
-/

/-- Whatever is looked up in statements of this keyword is the same in both. -/
structure ReadsAlike (k : Keyword) (s t : Statement) : Prop where
  name : s.name = t.name
  slots : forall (i : Nat) (key : String), k.slots[i]? = some key ->
    s.fieldOrPosition? key i = t.fieldOrPosition? key i
  others : forall key, key ∉ k.slots -> key.toList.all Char.isDigit = false ->
    s.field? key = t.field? key

namespace ReadsAlike

variable {k : Keyword} {s t : Statement}

theorem of_fields (hname : s.name = t.name) (hfields : forall key, s.field? key = t.field? key) :
    ReadsAlike k s t where
  name := hname
  slots i key _ := by rw [fieldOrPosition?, fieldOrPosition?, hfields, hfields]
  others key _ _ := hfields key

theorem required (h : ReadsAlike k s t) {i : Nat} {key : String}
    (hslot : k.slots[i]? = some key) : s.required k key i = t.required k key i := by
  unfold Statement.required
  rw [h.slots i key hslot]

theorem requiredNumber (h : ReadsAlike k s t) {i : Nat} {key : String}
    (hslot : k.slots[i]? = some key) (symbols : SymbolTable) :
    s.requiredNumber symbols k key i = t.requiredNumber symbols k key i := by
  unfold Statement.requiredNumber
  rw [h.required hslot]

theorem page (h : ReadsAlike .page s t) (symbols : SymbolTable) (current : Page) :
    s.page symbols current = t.page symbols current := by
  have hscale : s.required .page "sc" 0 = t.required .page "sc" 0 := h.required rfl
  have hgrid : s.requiredNumber symbols .page "gr" 1 = t.requiredNumber symbols .page "gr" 1 :=
    h.requiredNumber rfl symbols
  have hunits : s.fieldOrPosition? "un" 2 = t.fieldOrPosition? "un" 2 := h.slots 2 "un" rfl
  have hwidth : s.field? "w" = t.field? "w" := h.others "w" (by decide) (by decide +kernel)
  have hheight : s.field? "h" = t.field? "h" := h.others "h" (by decide) (by decide +kernel)
  have hsnap : s.field? "sn" = t.field? "sn" := h.others "sn" (by decide) (by decide +kernel)
  simp only [Statement.page, hscale, hgrid, hunits, hwidth, hheight, hsnap]

theorem common (h : ReadsAlike k s t) (session : Session) : s.common session = t.common session := by
  have hother : forall key, key ∈ ["lr", "tx", "lt", "lc", "fc", "tp"] ->
      s.field? key = t.field? key := by
    intro key hkey
    apply h.others key
    · revert key
      cases k <;> decide
    · revert key
      decide +kernel
  simp only [Statement.common, h.name, hother "lr" (by decide), hother "tx" (by decide),
    hother "lt" (by decide), hother "lc" (by decide), hother "fc" (by decide),
    hother "tp" (by decide)]

theorem rect (h : ReadsAlike .rect s t) (session : Session) : s.rect session = t.rect session := by
  have hslot : forall (i : Nat) (key : String), Keyword.rect.slots[i]? = some key ->
      s.requiredNumber session.symbols .rect key i =
        t.requiredNumber session.symbols .rect key i :=
    fun i key hslot => h.requiredNumber hslot session.symbols
  simp only [Statement.rect, h.common, hslot 0 "x" rfl, hslot 1 "y" rfl, hslot 2 "w" rfl,
    hslot 3 "h" rfl]

theorem line (h : ReadsAlike .line s t) (session : Session) : s.line session = t.line session := by
  have hslot : forall (i : Nat) (key : String), Keyword.line.slots[i]? = some key ->
      s.requiredNumber session.symbols .line key i =
        t.requiredNumber session.symbols .line key i :=
    fun i key hslot => h.requiredNumber hslot session.symbols
  have hstart : s.field? "ss" = t.field? "ss" := h.others "ss" (by decide) (by decide +kernel)
  have hend : s.field? "es" = t.field? "es" := h.others "es" (by decide) (by decide +kernel)
  simp only [Statement.line, h.common, hslot 0 "sx" rfl, hslot 1 "sy" rfl, hslot 2 "ex" rfl,
    hslot 3 "ey" rfl, hstart, hend]

theorem plan (h : ReadsAlike k s t) (hhead : s.head = t.head) (hk : s.keyword? = some k)
    (d : Drawing) : s.plan d = t.plan d := by
  unfold keyword? at hk
  unfold Statement.plan
  rw [← hhead, hk]
  cases k with
  | page => simp only [h.page]
  | rect => simp only [h.rect]
  | line => simp only [h.line]

end ReadsAlike

theorem plan_congr {s t : Statement} (hname : s.name = t.name) (hhead : s.head = t.head)
    (hfields : forall key, s.field? key = t.field? key) (d : Drawing) : s.plan d = t.plan d := by
  cases hk : s.keyword? with
  | some k => exact (ReadsAlike.of_fields hname hfields).plan hhead hk d
  | none =>
      unfold keyword? at hk
      simp only [Statement.plan, ← hhead, hk, assignment, ← hname]

/-!
## Lines of pieces

A line is a main part and the pieces behind it.  Fields with names are put after
the fields before them, whatever these are; the first `=` of a piece belongs to
the name.
-/

def lineOf (main : List Char) (pieces : List (List Char)) : String :=
  String.ofList (main ++ ':' :: [','].intercalate pieces)

theorem mainPart_lineOf {main : List Char} (hmain : ':' ∉ main) (pieces : List (List Char)) :
    (ofLine (lineOf main pieces)).name = (mainPart main).1 ∧
      (ofLine (lineOf main pieces)).head = (mainPart main).2 := by
  rw [ofLine, lineOf, String.toList_ofList, ofChars_eq, cutAt_append hmain]
  exact ⟨rfl, rfl⟩

theorem fields_lineOf {main : List Char} (hmain : ':' ∉ main) {pieces : List (List Char)}
    (hpieces : forall piece, piece ∈ pieces -> ',' ∉ piece ∧ allBlank piece = false) :
    (ofLine (lineOf main pieces)).fields = keptOf pieces := by
  rw [ofLine, lineOf, String.toList_ofList, ofChars_eq, cutAt_append hmain, Option.map_some,
    Option.getD_some, fieldsOf_eq]
  by_cases hne : pieces = []
  · subst hne
    rfl
  · have hkept : (pieces.filter fun piece => ! allBlank piece) = pieces := by
      rw [List.filter_eq_self]
      intro piece hmem
      rw [(hpieces piece hmem).2]
      rfl
    rw [pieces_intercalate hne fun piece hmem => (hpieces piece hmem).1, hkept]

structure NamedField where
  before : List Char
  after : List Char
  no_mark : '=' ∉ before
  no_comma : ',' ∉ before ∧ ',' ∉ after

namespace NamedField

def text (f : NamedField) : List Char :=
  f.before ++ '=' :: f.after

def key (f : NamedField) : String :=
  String.ofList (trim f.before)

def value (f : NamedField) : String :=
  String.ofList (trim f.after)

theorem mainPart_text (f : NamedField) : mainPart f.text = (some f.key, f.value) := by
  rw [mainPart, text, cutAt_append f.no_mark]
  rfl

theorem text_is_piece (f : NamedField) : ',' ∉ f.text ∧ allBlank f.text = false := by
  constructor
  · rw [text, List.mem_append, List.mem_cons, not_or, not_or]
    exact ⟨f.no_comma.1, by decide, f.no_comma.2⟩
  · simp [text, allBlank, isBlank]

theorem texts_are_pieces (fields : List NamedField) :
    forall piece, piece ∈ fields.map text -> ',' ∉ piece ∧ Text.allBlank piece = false := by
  rw [List.forall_mem_map]
  exact fun f _ => f.text_is_piece

def entry (f : NamedField) : String × String :=
  (f.key, f.value)

end NamedField

theorem keptOf_append (pieces : List (List Char)) (fields : List NamedField) :
    keptOf (pieces ++ fields.map NamedField.text) =
      (fields.map NamedField.entry).foldl
        (fun bindings entry => Binding.put entry.1 entry.2 bindings) (keptOf pieces) := by
  rw [keptOf, keptOf, List.foldl_append, List.foldl_map, List.foldl_map]
  congr 1
  funext kept f
  rw [addField_trim, f.mainPart_text]
  rfl

theorem field?_of_named {main : List Char} (hmain : ':' ∉ main) (fields : List NamedField)
    (key : String) :
    (ofLine (lineOf main (fields.map NamedField.text))).field? key =
      (fields.map NamedField.entry).reverse.lookup key := by
  rw [field?, fields_lineOf hmain (NamedField.texts_are_pieces fields),
    ← List.nil_append (fields.map NamedField.text), keptOf_append, Binding.lookup_foldl_put]
  exact Option.or_none

end Statement

namespace Drawing

open Statement

theorem execute_of_plan {s t : Statement} {d : Drawing} (h : s.plan d = t.plan d) :
    d.execute s = d.execute t := by
  unfold execute
  rw [h]

/--
A line whose fields all have names, no two of them the same, does the same to a
drawing with its fields in any order, and fails for the same reason if it does.
-/
theorem execute_of_fields_perm (d : Drawing) {main : List Char} (hmain : ':' ∉ main)
    {fields reordered : List NamedField} (hkeys : (fields.map NamedField.key).Nodup)
    (hperm : reordered.Perm fields) :
    d.execute (ofLine (lineOf main (reordered.map NamedField.text))) =
      d.execute (ofLine (lineOf main (fields.map NamedField.text))) := by
  apply execute_of_plan
  apply plan_congr
  · rw [(mainPart_lineOf hmain _).1, (mainPart_lineOf hmain _).1]
  · rw [(mainPart_lineOf hmain _).2, (mainPart_lineOf hmain _).2]
  · intro key
    have hnodup : ((fields.map NamedField.entry).reverse.map Prod.fst).Nodup := by
      rw [List.map_reverse, List.nodup_reverse, List.map_map]
      exact hkeys
    rw [field?_of_named hmain, field?_of_named hmain]
    apply Binding.lookup_of_perm hnodup
    exact (List.reverse_perm _).trans ((hperm.map _).trans (List.reverse_perm _).symm)

def faultyFields : List NamedField :=
  [⟨" x".toList, "0".toList, by decide, by decide⟩, ⟨" y ".toList, " 0".toList, by decide, by decide⟩,
    ⟨" w".toList, "p".toList, by decide, by decide⟩, ⟨" h".toList, "q".toList, by decide, by decide⟩]

theorem execute_of_fields_perm_faulty :
    ':' ∉ "A=rect".toList ∧ (faultyFields.map NamedField.key).Nodup ∧
      faultyFields.reverse.Perm faultyFields ∧
      blank.execute (ofLine "A=rect: h=q, w=p, y = 0, x=0") =
        blank.execute (ofLine "A=rect: x=0, y = 0, w=p, h=q") ∧
      (blank.execute (ofLine "A=rect: h=q, w=p, y = 0, x=0")).1 =
        .error (.expression (.undefinedSymbol "p")) := by
  have hcolon : ':' ∉ "A=rect".toList := by decide
  have hnodup : (faultyFields.map NamedField.key).Nodup := by decide +kernel
  have hperm := List.reverse_perm faultyFields
  have hback : lineOf "A=rect".toList (faultyFields.reverse.map NamedField.text) =
      "A=rect: h=q, w=p, y = 0, x=0" := by decide +kernel
  have hforth : lineOf "A=rect".toList (faultyFields.map NamedField.text) =
      "A=rect: x=0, y = 0, w=p, h=q" := by decide +kernel
  have hsame := execute_of_fields_perm blank hcolon hnodup hperm
  rw [hback, hforth] at hsame
  exact ⟨hcolon, hnodup, hperm, hsame, by decide +kernel⟩

end Drawing

end Drafting
