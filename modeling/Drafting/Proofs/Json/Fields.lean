import Drafting.Document.Written
import Drafting.Json.Field
import Drafting.Proofs.Decimal.Finite
import Drafting.Proofs.Json.Outlines
import Drafting.Proofs.Outcomes

/-!
# Taking written values out of an outline

For every kind of value that a document holds, this module says what reading
gives back for what was written.  All of them come back as they were, except for
floats: what a float comes back as is a relation here, and everything else is
stated in terms of it.
-/

namespace Drafting
namespace Json

open Decimal (Layout Numeral digitsValue digitsOf digitValue)

/-!
## Floats

A finite float has a numeral, and reading makes of it what the numeral stands
for.  Any other float is written as null, which is not read as a float at all.
-/

/-- Reading gives `w` where `v` was written. -/
def Rereads (v w : Float) : Prop :=
  takeFloat (.ofJson (ofFloat v)) = .ok w

/-- The numeral of the float, if it has one, stands for the float itself. -/
def ReadsBack (v : Float) : Prop :=
  forall n, Layout.document.numeral? v = some n -> n.jsonNumber?.map Number.float = some v

instance (v : Float) : Decidable (ReadsBack v) :=
  match h : Layout.document.numeral? v with
  | none => isTrue fun n hn => by
      rw [h] at hn
      cases hn
  | some n => decidable_of_iff (n.jsonNumber?.map Number.float = some v) <| by
      simp [ReadsBack, h]

theorem rereads_iff {v w : Float} :
    Rereads v w ↔ exists n, Layout.document.numeral? v = some n ∧
      n.jsonNumber?.map Number.float = some w := by
  unfold Rereads ofFloat
  cases Layout.document.numeral? v with
  | none => simp [Outline.ofJson, takeFloat]
  | some n =>
      simp only [Outline.ofJson, takeFloat, Option.some.injEq, exists_eq_left']
      cases n.jsonNumber? <;> simp

theorem isFinite_of_rereads {v w : Float} (h : Rereads v w) : v.isFinite = true := by
  rcases rereads_iff.mp h with ⟨n, hn, _⟩
  rw [← Decimal.isSome_numeral?_iff Layout.document, hn]
  rfl

theorem rereads_self_iff {v : Float} : Rereads v v ↔ v.isFinite = true ∧ ReadsBack v := by
  constructor
  · intro h
    rcases rereads_iff.mp h with ⟨n, hn, hvalue⟩
    refine ⟨isFinite_of_rereads h, ?_⟩
    intro m hm
    rw [hn] at hm
    cases hm
    exact hvalue
  · intro h
    rcases Option.isSome_iff_exists.mp ((Decimal.isSome_numeral?_iff Layout.document).mpr h.1)
      with ⟨n, hn⟩
    exact rereads_iff.mpr ⟨n, hn, h.2 n hn⟩

theorem keeps_of_rereads {v w : Float} (room : Nat) (h : Rereads v w) :
    (Outline.ofJson (ofFloat v)).keeps room = true := by
  rcases rereads_iff.mp h with ⟨n, hn, hvalue⟩
  rw [ofFloat, hn]
  show n.jsonNumber?.isSome = true
  cases hnumber : n.jsonNumber? with
  | none => simp [hnumber] at hvalue
  | some x => rfl

/-!
## Whole numbers

Digits are taken in completely as long as their value fits, so a whole number
that is not too large comes back from its digits.
-/

theorem maxSignificand_eq : maxSignificand = 18446744073709551615 := rfl

theorem le_digitsValue (start : Nat) (digits : List Char) : start ≤ digitsValue start digits := by
  induction digits generalizing start with
  | nil => exact Nat.le_refl start
  | cons c digits ih =>
      have hnext := ih (start * 10 + digitValue c)
      show start ≤ digitsValue (start * 10 + digitValue c) digits
      omega

theorem wholeSignificand_of_le {start : Nat} {digits : List Char}
    (h : digitsValue start digits ≤ maxSignificand) :
    wholeSignificand start digits = (digitsValue start digits, 0) := by
  induction digits generalizing start with
  | nil => rfl
  | cons c digits ih =>
      have hnext := le_digitsValue (start * 10 + digitValue c) digits
      rw [wholeSignificand, if_pos (Nat.le_trans hnext h)]
      exact ih h

theorem ofNat_eq_ofInt (n : Nat) : Numeral.ofNat n = Numeral.ofInt n := by
  simp [Numeral.ofNat, Numeral.ofInt]

theorem jsonNumber?_ofInt {n : Int} (hlow : -2 ^ 63 ≤ n) (hhigh : n ≤ maxSignificand) :
    (Numeral.ofInt n).jsonNumber? =
      if n < 0 then some (.negative n.natAbs) else some (.natural n.natAbs) := by
  have hvalue := Decimal.digitsValue_digitsOf n.natAbs
  have hfits : n.natAbs ≤ maxSignificand := by
    rw [maxSignificand_eq] at hhigh ⊢
    omega
  have hwhole : wholeSignificand 0 (digitsOf n.natAbs) = (n.natAbs, 0) := by
    rw [wholeSignificand_of_le (by rw [hvalue]; exact hfits), hvalue]
  simp only [Numeral.jsonNumber?, Numeral.ofInt, hwhole]
  by_cases hneg : n < 0
  · have hsize : ¬ (n.natAbs = 0 ∨ 9223372036854775808 < n.natAbs) := by omega
    have hbound : Nat.pow 2 63 = 9223372036854775808 := rfl
    simp only [hneg, hbound, if_neg hsize]
    simp
  · simp [hneg]

theorem takeWhole_ofInt {low high n : Int} (hlow : low ≤ n) (hhigh : n ≤ high)
    (hfloor : -2 ^ 63 ≤ low) (hceiling : high ≤ maxSignificand) :
    takeWhole low high (.number (.ofInt n)) = .ok n := by
  have hnumber := jsonNumber?_ofInt (Int.le_trans hfloor hlow) (Int.le_trans hhigh hceiling)
  simp only [takeWhole, hnumber]
  by_cases hneg : n < 0
  · have hsize : -(n.natAbs : Int) = n := by omega
    simp only [if_pos hneg, hsize, if_pos hlow]
  · have hsize : (n.natAbs : Int) = n := by omega
    simp only [if_neg hneg, hsize, if_pos hhigh]

theorem takeWhole_ofNat {high : Int} {n : Nat} (hhigh : n ≤ high)
    (hceiling : high ≤ maxSignificand) : takeWhole 0 high (.number (.ofNat n)) = .ok n := by
  rw [ofNat_eq_ofInt]
  exact takeWhole_ofInt (Int.natCast_nonneg n) hhigh (by decide) hceiling

theorem keeps_ofInt (room : Nat) {n : Int} (hlow : -2 ^ 63 ≤ n) (hhigh : n ≤ maxSignificand) :
    (Outline.number (.ofInt n)).keeps room = true := by
  show (Numeral.ofInt n).jsonNumber?.isSome = true
  rw [jsonNumber?_ofInt hlow hhigh]
  split <;> rfl

/-!
## Choices

Every color, alignment, and cap is found under its own name.
-/

theorem chosen_color (c : Color) : chosen Color.all Color.name c.name = .ok c := by
  cases c <;> rfl

theorem chosen_align (a : TextAlign) : chosen TextAlign.all TextAlign.name a.name = .ok a := by
  cases a <;> rfl

theorem chosen_cap (c : CapStyle) : chosen CapStyle.all CapStyle.name c.name = .ok c := by
  cases c <;> rfl

/-!
## Lists

Lists come back item by item, each item as what reading gives for it.
-/

section Lists

variable {item : Outline -> Except Fault β} {json : α -> Json} {R : α -> β -> Prop}

theorem takeItems_map {xs : List α} {found : List β}
    (h : forall x, x ∈ xs -> forall b, item (.ofJson (json x)) = .ok b ↔ R x b) :
    takeItems item (Outline.ofItems (xs.map json)) = .ok found ↔ List.Forall₂ R xs found := by
  induction xs generalizing found with
  | nil =>
      rw [List.map_nil, Outline.ofItems, takeItems, List.forall₂_nil_left_iff, Except.ok.injEq]
      exact eq_comm
  | cons x xs ih =>
      have hfirst := h x List.mem_cons_self
      have hothers : forall more, takeItems item (Outline.ofItems (xs.map json)) = .ok more ↔
          List.Forall₂ R xs more :=
        fun _ => ih fun y hy => h y (List.mem_cons_of_mem _ hy)
      simp only [List.map_cons, Outline.ofItems, takeItems, bind_eq_ok_iff, hfirst, hothers,
        Except.ok.injEq, List.forall₂_cons_left_iff]
      constructor
      · intro hparts
        rcases hparts with ⟨b, hb, more, hmore, rfl⟩
        exact ⟨b, more, hb, hmore, rfl⟩
      · intro hparts
        rcases hparts with ⟨b, more, hb, hmore, rfl⟩
        exact ⟨b, hb, more, hmore, rfl⟩

/-- Lists come back item by item. -/
theorem takeList_map {xs : List α} {found : List β}
    (h : forall x, x ∈ xs -> forall b, item (.ofJson (json x)) = .ok b ↔ R x b) :
    takeList item (.ofJson (.array (xs.map json))) = .ok found ↔ List.Forall₂ R xs found := by
  simp only [Outline.ofJson, takeList, bind_eq_ok_iff, takeItems_map h, if_true,
    Except.ok.injEq, exists_eq_right]

theorem exists_of_forall₂ {xs : List α} {ys : List β} (h : List.Forall₂ R xs ys) {x : α}
    (hx : x ∈ xs) : exists y, R x y := by
  induction h with
  | nil => cases hx
  | cons hfirst _ ih =>
      rcases List.mem_cons.mp hx with rfl | hlater
      · exact ⟨_, hfirst⟩
      · exact ih hlater

end Lists

/-!
## Records

A survey succeeds if every member passes its check and no known name is there
twice.  What has been written as a record has no name twice, so a survey of its
members amounts to one check for each of them.
-/

def members : Json -> List (String × Json)
  | .object members => members
  | _ => []

/-- The check that a member with this name has to pass. -/
def checkOf (fields : List Field) (other : Outline -> Except Fault Unit) (name : String) :
    Outline -> Except Fault Unit :=
  match fields.find? fun f => f.name = name with
  | some f => f.check
  | none => other

@[simp] theorem checkOf_nil (other : Outline -> Except Fault Unit) (name : String) :
    checkOf [] other name = other := rfl

@[simp] theorem checkOf_cons (f : Field) (fields : List Field)
    (other : Outline -> Except Fault Unit) (name : String) :
    checkOf (f :: fields) other name =
      if f.name = name then f.check else checkOf fields other name := by
  unfold checkOf
  by_cases h : f.name = name <;> simp [h]

theorem checkOf_of_not_mem {fields : List Field} {name : String}
    (h : name ∉ fields.map Field.name) (other : Outline -> Except Fault Unit) :
    checkOf fields other name = other := by
  induction fields with
  | nil => rfl
  | cons f fields ih =>
      rw [List.map_cons, List.mem_cons, not_or] at h
      rw [checkOf_cons, if_neg (Ne.symm h.1), ih h.2]

@[simp] theorem name_of (name : String) (required : Bool) (read : Outline -> Except Fault α) :
    (Field.of name required read).name = name := rfl

theorem disjoint_names {first second : List (String × Json)}
    (h : ((first ++ second).map Prod.fst).Nodup) :
    (first.map Prod.fst).Disjoint (second.map Prod.fst) := by
  rw [List.map_append] at h
  exact List.disjoint_of_nodup_append h

abbrev Member := Option String × Outline

section Surveys

variable {fields : List Field} {other : Outline -> Except Fault Unit}

def Passes (fields : List Field) (other : Outline -> Except Fault Unit) (m : Member) : Prop :=
  exists name, m.1 = some name ∧ checkOf fields other name m.2 = .ok ()

/-- The names among the members that are among the given ones, in their order. -/
def occurring (known : List String) (ms : List Member) : List String :=
  (ms.filterMap Prod.fst).filter fun name => name ∈ known

@[simp] theorem occurring_nil (known : List String) : occurring known [] = [] := rfl

theorem occurring_cons (known : List String) (name : String) (o : Outline) (ms : List Member) :
    occurring known ((some name, o) :: ms) =
      if name ∈ known then name :: occurring known ms else occurring known ms := by
  have hname : ((some name, o) :: ms).filterMap Prod.fst = name :: ms.filterMap Prod.fst :=
    List.filterMap_cons_some rfl
  simp only [occurring, hname, List.filter_cons, decide_eq_true_eq]

theorem occurring_append (known : List String) (ms ns : List Member) :
    occurring known (ms ++ ns) = occurring known ms ++ occurring known ns := by
  simp [occurring]

theorem mem_occurring {known : List String} {ms : List Member} {name : String} :
    name ∈ occurring known ms ↔ (exists o, (some name, o) ∈ ms) ∧ name ∈ known := by
  simp [occurring]

def Once (known : List String) (ms : List Member) : Prop :=
  (occurring known ms).Nodup

theorem find?_name_eq_none_iff {name : String} :
    (fields.find? fun f => f.name = name) = none ↔ name ∉ fields.map Field.name := by
  simp

theorem surveyMembers_eq_ok_iff_once {ms : List Member} (seen : List String) :
    surveyMembers fields other seen ms = .ok () ↔
      (forall m, m ∈ ms -> Passes fields other m) ∧ Once (fields.map Field.name) ms ∧
        forall name, name ∈ occurring (fields.map Field.name) ms -> name ∉ seen := by
  -- Every known name counts as seen from its member on, so the names seen so far are arbitrary.
  induction ms generalizing seen with
  | nil => simp [surveyMembers, Once]
  | cons m ms ih =>
      rcases m with ⟨_ | name, o⟩
      · simp [surveyMembers, Passes]
      · have hpasses : Passes fields other (some name, o) ↔
            checkOf fields other name o = .ok () := by
          simp [Passes]
        rw [surveyMembers, List.forall_mem_cons, hpasses, Once, occurring_cons, checkOf]
        cases hfind : fields.find? fun f => f.name = name with
        | none =>
            simp only [if_neg (find?_name_eq_none_iff.mp hfind), check_eq_ok_iff, ih, and_assoc,
              Once]
        | some f =>
            have hknown : name ∈ fields.map Field.name := by
              apply Decidable.by_contra
              intro hnot
              rw [find?_name_eq_none_iff.mpr hnot] at hfind
              cases hfind
            simp only [if_pos hknown, List.nodup_cons, List.forall_mem_cons]
            by_cases hseen : name ∈ seen
            · simp only [if_pos hseen, reduceCtorEq, false_iff]
              intro h
              exact h.2.2.1 hseen
            · simp only [if_neg hseen, check_eq_ok_iff, ih, Once]
              constructor
              · intro h
                rcases h with ⟨hcheck, hall, honce, hfresh⟩
                exact ⟨⟨hcheck, hall⟩, ⟨fun hmem => hfresh name hmem List.mem_cons_self, honce⟩,
                  hseen, fun n hn hmem => hfresh n hn (List.mem_cons_of_mem _ hmem)⟩
              · intro h
                rcases h with ⟨⟨hcheck, hall⟩, ⟨hnot, honce⟩, _, hfresh⟩
                refine ⟨hcheck, hall, honce, fun n hn hmem => ?_⟩
                rcases List.mem_cons.mp hmem with rfl | hmem
                · exact hnot hn
                · exact hfresh n hn hmem

theorem survey_eq_ok_iff {ms : List Member} :
    surveyMembers fields other [] ms = .ok () ↔
      (forall m, m ∈ ms -> Passes fields other m) ∧ Once (fields.map Field.name) ms := by
  simp [surveyMembers_eq_ok_iff_once]

theorem takeObject_eq_ok_iff {ms : List Member} {closed : Bool} {values : Values} :
    takeObject fields other ms closed = .ok values ↔
      surveyMembers fields other [] ms = .ok () ∧ closed = true ∧ values = namedMembers ms := by
  rw [takeObject, check_eq_ok_iff]
  cases closed <;> simp [eq_comm]

end Surveys

theorem ofMembers_eq_map (members : List (String × Json)) :
    Outline.ofMembers members = members.map fun m => (some m.1, .ofJson m.2) := by
  induction members with
  | nil => rfl
  | cons m members ih => rw [Outline.ofMembers, ih, List.map_cons]

theorem surveyMembers_ofMembers_eq_ok_iff {fields : List Field}
    {other : Outline -> Except Fault Unit} {members : List (String × Json)}
    (hnames : (members.map Prod.fst).Nodup) :
    surveyMembers fields other [] (Outline.ofMembers members) = .ok () ↔
      forall m, m ∈ members -> checkOf fields other m.1 (.ofJson m.2) = .ok () := by
  have honce : Once (fields.map Field.name) (Outline.ofMembers members) := by
    have hfound : (Outline.ofMembers members).filterMap Prod.fst = members.map Prod.fst := by
      rw [ofMembers_eq_map, List.filterMap_map]
      exact congrFun List.filterMap_eq_map members
    rw [Once, occurring, hfound]
    exact hnames.filter _
  rw [survey_eq_ok_iff, and_iff_left honce, ofMembers_eq_map, List.forall_mem_map]
  simp only [Passes, Option.some.injEq, exists_eq_left']

theorem takeObject_ofMembers_eq_ok_iff {fields : List Field}
    {other : Outline -> Except Fault Unit} {members : List (String × Json)}
    (hnames : (members.map Prod.fst).Nodup) {values : Values} :
    takeObject fields other (Outline.ofMembers members) true = .ok values ↔
      (forall m, m ∈ members -> checkOf fields other m.1 (.ofJson m.2) = .ok ()) ∧
        values = namedMembers (Outline.ofMembers members) := by
  rw [takeObject_eq_ok_iff, surveyMembers_ofMembers_eq_ok_iff hnames]
  simp

@[simp] theorem check_of_eq_ok_iff {name : String} {required : Bool}
    {read : Outline -> Except Fault α} {o : Outline} :
    (Field.of name required read).check o = .ok () ↔ exists a, read o = .ok a := by
  simp [Field.of, map_eq_ok_iff]

theorem lookup_namedMembers (members : List (String × Json)) (name : String) :
    (namedMembers (Outline.ofMembers members)).lookup name =
      (members.lookup name).map Outline.ofJson := by
  induction members with
  | nil => rfl
  | cons m members ih =>
      rcases m with ⟨other, j⟩
      have hcons : namedMembers (Outline.ofMembers ((other, j) :: members)) =
          (other, .ofJson j) :: namedMembers (Outline.ofMembers members) := by
        simp [namedMembers, Outline.ofMembers]
      rw [hcons, List.lookup_cons, List.lookup_cons]
      cases name == other
      · exact ih
      · rfl

@[simp] theorem required_ofMembers (members : List (String × Json)) (name : String)
    (read : Outline -> Except Fault α) :
    Values.required (namedMembers (Outline.ofMembers members)) name read =
      match members.lookup name with
      | some j => read (.ofJson j)
      | none => .error (.missingField name) := by
  rw [Values.required, lookup_namedMembers]
  cases members.lookup name <;> rfl

@[simp] theorem optional_ofMembers (members : List (String × Json)) (name : String)
    (read : Outline -> Except Fault α) (otherwise : α) :
    Values.optional (namedMembers (Outline.ofMembers members)) name read otherwise =
      match members.lookup name with
      | some j => read (.ofJson j)
      | none => .ok otherwise := by
  rw [Values.optional, lookup_namedMembers]
  cases members.lookup name <;> rfl

end Json
end Drafting
