import Drafting.Proofs.Changes
import Drafting.Proofs.Fields
import Mathlib.Control.Monad.Basic

/-!
# A default is an override that is given in advance

The style of a shape is read in two places: from the fields of its statement,
and from the defaults of the session for the fields that are missing.  Both
places read a value in the same way, so it makes no difference to a shape
whether a value has been set as the default before or stands in a field of the
statement itself.  A field that is there hides the default.
-/

namespace Drafting

open Text

theorem eq_of_map_eq {f : α -> β} (hf : forall a b, f a = f b -> a = b) {x y : Except ε α}
    (h : x.map f = y.map f) : x = y := by
  cases x with
  | error e =>
      cases y with
      | error e' =>
          cases h
          rfl
      | ok b => cases h
  | ok a =>
      cases y with
      | error e' => cases h
      | ok b => rw [hf a b (Except.ok.inj h)]

namespace DefaultKey

theorem code_injective {key other : DefaultKey} (h : key.code = other.code) : key = other := by
  cases key <;> cases other <;>
    first
      | rfl
      | exact absurd h (by decide)

def NotStyle (key : String) : Prop :=
  forall style, style ∈ all -> key ≠ style.code

instance (key : String) : Decidable (NotStyle key) :=
  inferInstanceAs (Decidable (forall style, style ∈ all -> key ≠ style.code))

theorem mem_all (key : DefaultKey) : key ∈ all := by
  cases key <;> decide

theorem not_allDigits_code (key : DefaultKey) : key.code.toList.all Char.isDigit = false := by
  cases key <;> decide +kernel

end DefaultKey

namespace Statement

theorem notStyle_positionKey (position : Nat) : DefaultKey.NotStyle (positionKey position) := by
  intro style _ hsame
  have hdigits := isDigit_positionKey position
  rw [hsame, style.not_allDigits_code] at hdigits
  cases hdigits

/-!
## The style of a shape

The style under a key is that of the field, or else the default.  No style is
found under a position, since positions are written in digits and styles in
letters.
-/

def style (s : Statement) (session : Session) (key : DefaultKey) :
    Except StatementError DefaultValue :=
  match s.field? key.code with
  | some raw => defaultValue session.symbols key raw
  | none => .ok (session.defaults.value key)

variable {s t : Statement} {session other : Session}

/-- One style as it is read for a shape; `make` tags it as the value of a default. -/
theorem override_eq_of_style {key : DefaultKey} (make : α -> DefaultValue)
    (read : SymbolTable -> String -> Except StatementError α) (part : StyleDefaults -> α)
    (hmake : forall a b, make a = make b -> a = b)
    (hread : forall symbols raw, defaultValue symbols key raw = (read symbols raw).map make)
    (hpart : forall defaults : StyleDefaults, defaults.value key = make (part defaults))
    (h : s.style session key = t.style other key) :
    override (s.field? key.code) (read session.symbols) (part session.defaults) =
      override (t.field? key.code) (read other.symbols) (part other.defaults) := by
  have hstyle : forall (s : Statement) (session : Session), s.style session key =
      (override (s.field? key.code) (read session.symbols) (part session.defaults)).map make := by
    intro s session
    unfold style override
    cases s.field? key.code with
    | none => exact congrArg Except.ok (hpart session.defaults)
    | some raw => exact hread session.symbols raw
  rw [hstyle s session, hstyle t other] at h
  exact eq_of_map_eq hmake h

/-- The two statements, each in its own session, say the same about a shape. -/
structure SaysTheSame (s : Statement) (session : Session) (t : Statement) (other : Session) :
    Prop where
  name : s.name = t.name
  head : s.head = t.head
  symbols : session.symbols = other.symbols
  fields : forall key, DefaultKey.NotStyle key -> s.field? key = t.field? key
  styles : forall key, s.style session key = t.style other key

namespace SaysTheSame

variable (h : SaysTheSame s session t other)
include h

theorem requiredNumber (keyword : Keyword) {key : String} (hkey : DefaultKey.NotStyle key)
    (position : Nat) :
    s.requiredNumber session.symbols keyword key position =
      t.requiredNumber other.symbols keyword key position := by
  have hraw : s.fieldOrPosition? key position = t.fieldOrPosition? key position := by
    unfold fieldOrPosition?
    rw [h.fields key hkey, h.fields _ (notStyle_positionKey position)]
  unfold Statement.requiredNumber required
  rw [hraw, h.symbols]

theorem common : s.common session = t.common other := by
  have hlayer : s.field? "lr" = t.field? "lr" := h.fields "lr" (by decide)
  have htext : s.field? "tx" = t.field? "tx" := h.fields "tx" (by decide)
  -- Each style comes from its field or else from the default of the session.
  have hthickness :
      override (s.field? "lt") (thickness session.symbols) session.defaults.lineThickness =
        override (t.field? "lt") (thickness other.symbols) other.defaults.lineThickness :=
    override_eq_of_style .lineThickness thickness StyleDefaults.lineThickness
      (fun _ _ => DefaultValue.lineThickness.inj) (fun _ _ => rfl) (fun _ => rfl)
      (h.styles .lineThickness)
  have hlineColor : override (s.field? "lc") color session.defaults.lineColor =
      override (t.field? "lc") color other.defaults.lineColor :=
    override_eq_of_style .lineColor (fun _ => color) StyleDefaults.lineColor
      (fun _ _ => DefaultValue.lineColor.inj) (fun _ _ => rfl) (fun _ => rfl)
      (h.styles .lineColor)
  have hfillColor : override (s.field? "fc") color session.defaults.fillColor =
      override (t.field? "fc") color other.defaults.fillColor :=
    override_eq_of_style .fillColor (fun _ => color) StyleDefaults.fillColor
      (fun _ _ => DefaultValue.fillColor.inj) (fun _ _ => rfl) (fun _ => rfl)
      (h.styles .fillColor)
  have halign : override (s.field? "tp") textAlign session.defaults.textAlign =
      override (t.field? "tp") textAlign other.defaults.textAlign :=
    override_eq_of_style .textAlign (fun _ => textAlign) StyleDefaults.textAlign
      (fun _ _ => DefaultValue.textAlign.inj) (fun _ _ => rfl) (fun _ => rfl)
      (h.styles .textAlign)
  simp only [Statement.common, hlayer, htext, hthickness, hlineColor, hfillColor, halign, h.name]
  rw [h.symbols]

theorem rect : s.rect session = t.rect other := by
  unfold Statement.rect
  rw [h.common, h.requiredNumber .rect (by decide) 0, h.requiredNumber .rect (by decide) 1,
    h.requiredNumber .rect (by decide) 2, h.requiredNumber .rect (by decide) 3]

theorem line : s.line session = t.line other := by
  have hstartCap : override (s.field? "ss") capStyle session.defaults.startCap =
      override (t.field? "ss") capStyle other.defaults.startCap :=
    override_eq_of_style .startCap (fun _ => capStyle) StyleDefaults.startCap
      (fun _ _ => DefaultValue.startCap.inj) (fun _ _ => rfl) (fun _ => rfl)
      (h.styles .startCap)
  have hendCap : override (s.field? "es") capStyle session.defaults.endCap =
      override (t.field? "es") capStyle other.defaults.endCap :=
    override_eq_of_style .endCap (fun _ => capStyle) StyleDefaults.endCap
      (fun _ _ => DefaultValue.endCap.inj) (fun _ _ => rfl) (fun _ => rfl)
      (h.styles .endCap)
  unfold Statement.line
  rw [h.common, h.requiredNumber .line (by decide) 0, h.requiredNumber .line (by decide) 1,
    h.requiredNumber .line (by decide) 2, h.requiredNumber .line (by decide) 3, hstartCap, hendCap]

end SaysTheSame

/-!
## Setting a default, and overriding it

A field with a new key comes last in the statement.  It stands behind a comma in
the line, or behind the colon if it is the first one.

A default that is set counts for a shape as much as a field with the same text,
and does not count for a shape that has the field already.
-/

def withField (s : Statement) (key value : String) : Statement :=
  { s with fields := s.fields ++ [(key, value)] }

theorem field?_withField_of_ne (s : Statement) {key wanted : String} (value : String)
    (h : wanted ≠ key) : (s.withField key value).field? wanted = s.field? wanted := by
  show (s.fields ++ [(key, value)]).lookup wanted = s.fields.lookup wanted
  rw [List.lookup_append, Binding.lookup_cons_of_ne value [] h]
  simp

theorem field?_withField {s : Statement} {key : String} (value : String)
    (h : s.field? key = none) : (s.withField key value).field? key = some value := by
  show (s.fields ++ [(key, value)]).lookup key = some value
  rw [List.lookup_append, Binding.lookup_cons_of_eq value [] rfl]
  show (s.field? key).or (some value) = some value
  rw [h]
  rfl

theorem ofChars_withField {line name text : List Char} {key : String} (hname : Padded key name)
    (hkey : Trimmed key) (hplain : '=' ∉ key.toList ∧ ',' ∉ key.toList) (htext : ',' ∉ text)
    (hnew : (ofChars line).field? key = none) :
    ofChars (line ++ fieldMark line :: (name ++ '=' :: text)) =
      (ofChars line).withField key (String.ofList (trim text)) := by
  have hcut := cutAt_append (hname.not_mem rfl hplain.1) text
  have hparts : mainPart (name ++ '=' :: text) = (some key, String.ofList (trim text)) := by
    simp only [mainPart, hcut, hname.ofList_trim hkey]
  have hcomma : ',' ∉ name ++ '=' :: text := by
    simp [hname.not_mem rfl hplain.2, htext]
  have hsome : allBlank (name ++ '=' :: text) = false := by
    simp [allBlank, show isBlank '=' = false from rfl]
  have hfresh : key ∉ (ofChars line).fields.map Prod.fst :=
    Binding.lookup_eq_none_iff.mp hnew
  have hfields : (ofChars (line ++ fieldMark line :: (name ++ '=' :: text))).fields =
      (ofChars line).fields ++ [(key, String.ofList (trim text))] := by
    rw [fields_ofChars, fieldPieces_further line hcomma hsome, keptOf_concat, addField_trim,
      hparts, ← fields_ofChars]
    exact Binding.put_of_not_mem hfresh _
  rw [withField, ← hfields, ofChars_eq, ofChars_eq, cutAt_further]

example : (Statement.ofLine "rect: 1, 2, 3, 4").withField "fc" "Red" =
    Statement.ofLine "rect: 1, 2, 3, 4, fc = Red" := by decide +kernel

end Statement

namespace Session

def withDefault (session : Session) (value : DefaultValue) : Session :=
  { session with defaults := session.defaults.set value }

end Session

namespace Statement

variable {s : Statement} {session : Session} {value : DefaultValue} {raw : String}

theorem style_of_field {key : DefaultKey} (h : s.field? key.code = some raw) :
    s.style session key = defaultValue session.symbols key raw := by
  rw [style, h]

theorem style_withDefault (h : s.field? value.key.code = none) :
    s.style (session.withDefault value) value.key = .ok value := by
  rw [style, h]
  exact congrArg Except.ok (session.defaults.value_set_key value)

theorem style_withDefault_of_ne {key : DefaultKey} (h : key ≠ value.key) :
    s.style (session.withDefault value) key = s.style session key := by
  unfold style
  cases s.field? key.code with
  | none => exact congrArg Except.ok (session.defaults.value_set_of_ne h)
  | some own => rfl

theorem style_withField_of_ne {key other : DefaultKey} (h : key ≠ other) :
    (s.withField other.code raw).style session key = s.style session key := by
  have hcode : key.code ≠ other.code := fun hsame => h (DefaultKey.code_injective hsame)
  unfold style
  rw [s.field?_withField_of_ne raw hcode]

theorem saysTheSame_withField
    (hvalue : defaultValue session.symbols value.key raw = .ok value)
    (hmissing : s.field? value.key.code = none) :
    SaysTheSame s (session.withDefault value) (s.withField value.key.code raw) session := by
  refine ⟨rfl, rfl, rfl, ?_, ?_⟩
  · intro key hkey
    exact (s.field?_withField_of_ne raw (hkey value.key value.key.mem_all)).symm
  · intro key
    by_cases hsame : key = value.key
    · rw [hsame, style_withDefault hmissing, style_of_field (field?_withField raw hmissing),
        hvalue]
    · rw [style_withDefault_of_ne hsame, style_withField_of_ne hsame]

theorem saysTheSame_of_field (hpresent : s.field? value.key.code ≠ none) :
    SaysTheSame s (session.withDefault value) s session := by
  refine ⟨rfl, rfl, rfl, fun _ _ => rfl, ?_⟩
  intro key
  by_cases hsame : key = value.key
  · rcases Option.ne_none_iff_exists'.mp hpresent with ⟨own, hown⟩
    rw [hsame, style_of_field hown, style_of_field hown]
    rfl
  · exact style_withDefault_of_ne hsame

def IsShape (s : Statement) : Prop :=
  s.keyword? = some .rect ∨ s.keyword? = some .line

instance (s : Statement) : Decidable s.IsShape :=
  inferInstanceAs (Decidable (_ ∨ _))

theorem SaysTheSame.plan {t : Statement} {d e : Drawing}
    (h : SaysTheSame s d.session t e.session) (hs : s.IsShape) : s.plan d = t.plan e := by
  unfold IsShape keyword? at hs
  unfold Statement.plan
  rw [← h.head]
  rcases hs with hrect | hline
  · rw [hrect, h.rect]
  · rw [hline, h.line]

end Statement

/-!
## Lines that set a default

The name of such a line is the code of the default behind its mark, and its head
is the value.  What it takes for the line to succeed is that the value can be
read; then the default has been set, and nothing else.
-/

namespace DefaultKey

def setting (key : DefaultKey) (raw : String) : Statement :=
  { name := some ("$" ++ key.code), head := raw, fields := [] }

theorem ofChars_setting (key : DefaultKey) {name text : List Char}
    (hname : Padded ("$" ++ key.code) name) (htext : ':' ∉ text) :
    Statement.ofChars (name ++ '=' :: text) = key.setting (String.ofList (trim text)) := by
  have hkey : Trimmed ("$" ++ key.code) ∧ '=' ∉ ("$" ++ key.code).toList ∧
      ':' ∉ ("$" ++ key.code).toList := by
    cases key <;> decide +kernel
  have hcolon : ':' ∉ name ++ '=' :: text := by
    simp [hname.not_mem rfl hkey.2.2, htext]
  have hcut := cutAt_append (hname.not_mem rfl hkey.2.1) text
  rw [Statement.ofChars_eq, cutAt_of_not_mem hcolon]
  simp only [Statement.mainPart, hcut, hname.ofList_trim hkey.1]
  rfl

example : setting .lineThickness "a+1" = Statement.ofLine "$lt = a+1" := by decide +kernel

theorem defaultKey?_setting (key : DefaultKey) :
    Statement.defaultKey? ("$" ++ key.code) = some key := by
  cases key <;> decide +kernel

end DefaultKey

namespace Drawing

theorem document_enact {d e : Drawing} (h : d.document = e.document) (change : Change) :
    (d.enact change).document = (e.enact change).document := by
  cases change with
  | page page => exact congrArg (fun document => document.setPage page) h
  | shape s => exact congrArg (fun document => document.add s) h
  | default value => exact h
  | symbol name value => exact h

theorem execute_of_plan_eq {d e : Drawing} {s t : Statement} (hplan : s.plan d = t.plan e)
    (h : d.document = e.document) :
    (d.execute s).1 = (e.execute t).1 ∧
      (d.execute s).2.document = (e.execute t).2.document := by
  unfold execute
  rw [hplan]
  cases t.plan e with
  | error cause => exact ⟨rfl, h⟩
  | ok change => exact ⟨rfl, document_enact h change⟩

theorem execute_setting {d : Drawing} {key updated : DefaultKey} {raw : String}
    (h : (d.execute (key.setting raw)).1 = .ok (.defaultUpdated updated)) :
    exists value : DefaultValue, value.key = key ∧
      Statement.defaultValue d.session.symbols value.key raw = .ok value ∧
      (d.execute (key.setting raw)).2 = d.enact (.default value) := by
  unfold execute at h ⊢
  cases hplan : (key.setting raw).plan d with
  | error cause => simp [hplan] at h
  | ok change =>
      have hasks := Statement.plan_eq_ok_iff.mp hplan
      simp only [hplan, Except.ok.injEq] at h
      cases change with
      | page page => cases h
      | shape s => cases h
      | symbol name value => cases h
      | default value =>
          rcases hasks with ⟨_, name, hname, hkey, hvalue⟩
          cases hname
          rw [key.defaultKey?_setting] at hkey
          exact ⟨value, (Option.some.inj hkey).symm, hvalue, rfl⟩

/--
A shape after a default has been set is the same, in its outcome and in the
document, as the shape with that value in one more field, and as the shape
itself if it has such a field already.
-/
theorem execute_after_setting (d : Drawing) {s : Statement} (hs : s.IsShape)
    {key updated : DefaultKey} {raw : String}
    (hset : (d.execute (key.setting raw)).1 = .ok (.defaultUpdated updated)) :
    (s.field? key.code = none ->
      ((d.execute (key.setting raw)).2.execute s).1 =
          (d.execute (s.withField key.code raw)).1 ∧
        ((d.execute (key.setting raw)).2.execute s).2.document =
          (d.execute (s.withField key.code raw)).2.document) ∧
    (s.field? key.code ≠ none ->
      ((d.execute (key.setting raw)).2.execute s).1 = (d.execute s).1 ∧
        ((d.execute (key.setting raw)).2.execute s).2.document =
          (d.execute s).2.document) := by
  -- The default has been read from the text just as the field would be.
  rcases execute_setting hset with ⟨value, rfl, hvalue, hafter⟩
  rw [hafter]
  constructor
  · intro hmissing
    have hsame : s.SaysTheSame (d.enact (.default value)).session
        (s.withField value.key.code raw) d.session :=
      Statement.saysTheSame_withField hvalue hmissing
    exact execute_of_plan_eq (hsame.plan hs) rfl
  · intro hpresent
    have hsame : s.SaysTheSame (d.enact (.default value)).session s d.session :=
      Statement.saysTheSame_of_field hpresent
    exact execute_of_plan_eq (hsame.plan hs) rfl

def withWidth : Drawing :=
  (blank.execute (Statement.ofLine "wide = 2.5")).2

def plainLine : Statement :=
  Statement.ofLine "L=line: 0, wide, 4, ey=1, fc=Red"

def thinLine : Statement :=
  Statement.ofLine "L=line: 0, wide, 4, ey=1, lt=0.5"

theorem execute_after_setting_thickness :
    plainLine.IsShape ∧ thinLine.IsShape ∧
      (withWidth.execute (DefaultKey.lineThickness.setting "wide+wide")).1 =
        .ok (.defaultUpdated .lineThickness) ∧
      plainLine.field? "lt" = none ∧ thinLine.field? "lt" ≠ none ∧
      (((withWidth.execute (DefaultKey.lineThickness.setting "wide+wide")).2.execute
            plainLine).1 = (withWidth.execute (plainLine.withField "lt" "wide+wide")).1 ∧
        ((withWidth.execute (DefaultKey.lineThickness.setting "wide+wide")).2.execute
            plainLine).2.document =
          (withWidth.execute (plainLine.withField "lt" "wide+wide")).2.document) ∧
      ((withWidth.execute (DefaultKey.lineThickness.setting "wide+wide")).2.execute
            thinLine).1 = (withWidth.execute thinLine).1 ∧
        ((withWidth.execute (DefaultKey.lineThickness.setting "wide+wide")).2.execute
            thinLine).2.document = (withWidth.execute thinLine).2.document := by
  have hplain : plainLine.IsShape := by decide +kernel
  have hthin : thinLine.IsShape := by decide +kernel
  have hset : (withWidth.execute (DefaultKey.lineThickness.setting "wide+wide")).1 =
      .ok (.defaultUpdated .lineThickness) := by decide +kernel
  have hmissing : plainLine.field? "lt" = none := by decide +kernel
  have hpresent : thinLine.field? "lt" ≠ none := by decide +kernel
  exact ⟨hplain, hthin, hset, hmissing, hpresent,
    (execute_after_setting withWidth hplain hset).1 hmissing,
    (execute_after_setting withWidth hthin hset).2 hpresent⟩

end Drawing

end Drafting
