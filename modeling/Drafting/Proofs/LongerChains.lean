import Drafting.Proofs.Decimal.Differences
import Drafting.Proofs.Literals

/-!
# Longer chains

A text that has a value can be carried on with a sign and one more operand, and
the value is carried on with the value of that operand.  Two kinds of texts do
not behave like this.  A number whose exponent has a sign of its own is a number
only as a whole, and falls apart where it starts a chain.  The other way round,
a name such as `1e` becomes part of a number with the sign and the digits behind
it.
-/

namespace Drafting

namespace Expression

open Text (trim withoutBlanks)

namespace Sign

def text : Sign -> String
  | plus => "+"
  | minus => "-"

def join : Sign -> Float -> Float -> Float
  | plus, a, b => a + b
  | minus, a, b => a - b

def mark : Sign -> Char
  | plus => '+'
  | minus => '-'

theorem isSign_mark (s : Sign) : isSign s.mark = true := by
  cases s <;> rfl

theorem toList_append_text (s : Sign) (e t : String) :
    (e ++ s.text ++ t).toList = e.toList ++ s.mark :: t.toList := by
  cases s <;> simp [text, mark]

theorem withoutBlanks_append_mark (s : Sign) (cs ds : List Char) :
    withoutBlanks (cs ++ s.mark :: ds) = withoutBlanks cs ++ s.mark :: withoutBlanks ds := by
  cases s <;> simp [withoutBlanks, mark, Text.isBlank]

theorem join_same {a b : Float} (h : forall w, Decimal.SameNumber (a + w) (b + w)) (s : Sign)
    (v : Float) : Decimal.SameNumber (s.join a v) (s.join b v) := by
  cases s with
  | plus => exact h v
  | minus =>
      rw [join, join, Decimal.sub_eq_add_neg, Decimal.sub_eq_add_neg]
      exact h (-v)

end Sign

def SignsLead (text : List Char) : Prop :=
  forall c, c ∈ (trim text).tail -> isSign c = false

instance (text : List Char) : Decidable (SignsLead text) :=
  List.decidableBAll (fun c => isSign c = false) (trim text).tail

/-!
## One more operand

The operand stands behind the signs left over by the text and one more sign.
With it the text has a reading with one term more, which has the value of the
operand.
-/

namespace Term

def following {trailing : List Char} (htrailing : forall c, c ∈ trailing -> isSign c = true)
    (s : Sign) {operand : List Char} (hne : operand ≠ [])
    (h : forall c, c ∈ operand -> isSign c = false) : Term :=
  { signs := trailing ++ [s.mark]
    operand := operand
    signs_are := by
      intro c hc
      rcases List.mem_append.mp hc with hc | hc
      · exact htrailing c hc
      · rw [List.mem_singleton.mp hc]
        exact s.isSign_mark
    operand_ne_nil := hne
    operand_plain := h }

theorem join_following {trailing : List Char}
    (htrailing : forall c, c ∈ trailing -> isSign c = true) (s : Sign) {operand : List Char}
    (hne : operand ≠ []) (h : forall c, c ∈ operand -> isSign c = false) (sum v : Float) :
    (following htrailing s hne h).join sum v = s.join sum v := by
  cases s <;> simp [join, following, Sign.mark, Sign.join]

end Term

namespace Reading

variable {cs : List Char}

theorem separated_following (r : Reading cs) (s : Sign) {operand : List Char}
    (hne : operand ≠ []) (h : forall c, c ∈ operand -> isSign c = false) :
    forall t, t ∈ (r.terms ++ [Term.following r.trailing_are s hne h]).tail ->
      t.signs ≠ [] := by
  intro t ht
  have hmem : t ∈ r.terms.tail ∨ t = .following r.trailing_are s hne h := by
    cases hterms : r.terms with
    | nil => simp [hterms] at ht
    | cons first rest =>
        rw [hterms, List.cons_append, List.tail_cons, List.mem_append, List.mem_singleton] at ht
        exact ht
  rcases hmem with ht | rfl
  · exact r.separated t ht
  · exact List.concat_ne_nil _ _

theorem spells_following (r : Reading cs) (s : Sign) {operand : List Char} (hne : operand ≠ [])
    (h : forall c, c ∈ operand -> isSign c = false) :
    ((r.terms ++ [Term.following r.trailing_are s hne h]).flatMap
      fun t => t.signs ++ t.operand) ++ [] = cs ++ s.mark :: operand := by
  conv_rhs => rw [← r.spells]
  simp [Term.following]

def following (r : Reading cs) (s : Sign) {operand : List Char} (hne : operand ≠ [])
    (h : forall c, c ∈ operand -> isSign c = false) : Reading (cs ++ s.mark :: operand) :=
  { terms := r.terms ++ [.following r.trailing_are s hne h]
    trailing := []
    trailing_are := no_signs
    separated := r.separated_following s hne h
    spells := r.spells_following s hne h }

end Reading

theorem total_following (valued : List (Term × Float)) (t : Term) (v : Float) :
    total (valued ++ [(t, v)]) = t.join (total valued) v := by
  rw [total, List.foldl_append]
  rfl

variable {symbols : SymbolTable}

theorem value_of_single {t : String} {v : Float} (ht : evaluate symbols t = .ok v)
    (hsingle : forall c, c ∈ t.toList -> isSign c = false) :
    withoutBlanks t.toList ≠ [] ∧ resolve? symbols (withoutBlanks t.toList) = some v := by
  -- The text is a number, or else a chain of a single operand.
  cases hliteral : literal? t.toList with
  | some w =>
      rw [evaluate_of_literal hliteral] at ht
      cases ht
      constructor
      · rw [withoutBlanks_of_literal hliteral]
        exact trim_ne_nil_of_literal hliteral
      · rw [resolve?, literal?_withoutBlanks hliteral]
  | none =>
      have hplain : forall c, c ∈ withoutBlanks t.toList -> isSign c = false :=
        fun c hc => hsingle c (List.mem_of_mem_filter hc)
      by_cases hne : withoutBlanks t.toList = []
      · rw [evaluate_of_no_terms hliteral
          ⟨[], [], no_signs, by simp, by rw [hne]; rfl⟩ rfl] at ht
        cases ht
      · rw [evaluate_of_no_signs hliteral hne hplain] at ht
        refine ⟨hne, ?_⟩
        cases hresolve : resolve? symbols (withoutBlanks t.toList) with
        | none =>
            rw [hresolve] at ht
            cases ht
        | some w =>
            rw [hresolve] at ht
            cases ht
            rfl

/-!
## Numbers at the start of a chain

A text with a value can start a longer chain.  It is a chain itself, or a
number, which is one behind a sign or has no sign at all unless there is one
inside it.  In each case there are readings whose total is as good as the value,
whatever is added to it.
-/

theorem isFinite_of_literal {cs : List Char} {u : Float} (h : literal? cs = some u) :
    u.isFinite = true :=
  (literal?_eq_some_iff.mp h).2

theorem ne_nil_of_literal {cs : List Char} {u : Float} (h : literal? cs = some u) : cs ≠ [] := by
  rintro rfl
  exact trim_ne_nil_of_literal h rfl

theorem literal_cases {cs : List Char} {u : Float} (h : literal? cs = some u)
    (hlead : SignsLead cs) :
    (exists size v, trim cs = '-' :: size ∧ literal? size = some v ∧ u = -v) ∨
      (exists size, trim cs = '+' :: size ∧ literal? size = some u) ∨
      literal? (trim cs) = some u ∧ forall c, c ∈ trim cs -> isSign c = false := by
  have hsize := literal?_size h
  rw [SignsLead] at hlead
  generalize htext : trim cs = text at hsize hlead ⊢
  cases text with
  | nil => exact absurd htext (trim_ne_nil_of_literal h)
  | cons c size =>
      rw [List.tail_cons] at hlead
      by_cases hminus : c = '-'
      · subst hminus
        have hunsigned : exists v, literal? size = some v ∧ u = -v := hsize hlead
        rcases hunsigned with ⟨v, hv, hu⟩
        exact .inl ⟨size, v, rfl, hv, hu⟩
      · by_cases hplus : c = '+'
        · subst hplus
          have hunsigned : exists v, literal? size = some v ∧ u = v := hsize hlead
          rcases hunsigned with ⟨v, hv, rfl⟩
          exact .inr (.inl ⟨size, rfl, hv⟩)
        -- Without a sign at the start there is none anywhere.
        · have hplain : forall d, d ∈ c :: size -> isSign d = false := by
            rw [List.forall_mem_cons]
            exact ⟨by simp [isSign, hminus, hplus], hlead⟩
          rw [Decimal.takeSign_of_plain hplain] at hsize
          have hunsigned : exists v, literal? (c :: size) = some v ∧ u = v := hsize hplain
          rcases hunsigned with ⟨v, hv, rfl⟩
          exact .inr (.inr ⟨hv, hplain⟩)

/--
A number without a sign inside it starts a chain as the term that it is.  Its
sign then applies to zero, which makes a difference to the sign of a zero only.
-/
theorem term_of_literal {cs : List Char} {u : Float} (h : literal? cs = some u)
    (hlead : SignsLead cs) :
    exists (t : Term) (v : Float), t.signs ++ t.operand = withoutBlanks cs ∧
      literal? t.operand = some v ∧
      forall w, Decimal.SameNumber (t.join 0.0 v + w) (u + w) := by
  rw [withoutBlanks_of_literal h]
  rcases literal_cases h hlead with ⟨size, v, htext, hv, rfl⟩ | ⟨size, htext, hv⟩ | ⟨hv, hplain⟩
  · rw [SignsLead, htext, List.tail_cons] at hlead
    refine ⟨⟨['-'], size, by simp [isSign], ne_nil_of_literal hv, hlead⟩, v, htext.symm, hv, ?_⟩
    intro w
    show Decimal.SameNumber (0.0 - v + w) (-v + w)
    rw [Decimal.sub_eq_add_neg]
    apply Decimal.zero_add_add
    rw [Decimal.isFinite_neg]
    exact isFinite_of_literal hv
  · rw [SignsLead, htext, List.tail_cons] at hlead
    refine ⟨⟨['+'], size, by simp [isSign], ne_nil_of_literal hv, hlead⟩, u, htext.symm, hv, ?_⟩
    exact Decimal.zero_add_add (isFinite_of_literal hv)
  · refine ⟨.ofOperand (ne_nil_of_literal hv) hplain, u, rfl, hv, ?_⟩
    exact fun w => Decimal.SameNumber.refl _

theorem valued_of_start {e : String} {u : Float} (he : evaluate symbols e = .ok u)
    (hstart : literal? e.toList = none ∨ SignsLead e.toList) :
    exists (r : Reading (withoutBlanks e.toList)) (valued : List (Term × Float)),
      Valued symbols valued ∧ valued.map Prod.fst = r.terms ∧
      forall w, Decimal.SameNumber (total valued + w) (u + w) := by
  cases hliteral : literal? e.toList with
  | none =>
      rcases nonempty_reading (withoutBlanks e.toList) with ⟨r⟩
      rcases valued_of_evaluate hliteral r he with ⟨valued, hvalued, hterms, _, rfl⟩
      exact ⟨r, valued, hvalued, hterms, fun w => .refl _⟩
  | some v =>
      rw [evaluate_of_literal hliteral] at he
      cases he
      have hlead := hstart.resolve_left (by simp [hliteral])
      rcases term_of_literal hliteral hlead with ⟨t, size, hspells, hsize, hsame⟩
      rw [← hspells]
      refine ⟨.ofTerm t, [(t, size)], ?_, rfl, hsame⟩
      intro p hp
      rw [List.mem_singleton.mp hp, Term.value?, resolve?, hsize]

theorem valued_of_following {e t : String} {v : Float} (r : Reading (withoutBlanks e.toList))
    {valued : List (Term × Float)} (hvalued : Valued symbols valued)
    (hterms : valued.map Prod.fst = r.terms) (s : Sign) (ht : evaluate symbols t = .ok v)
    (hsingle : forall c, c ∈ t.toList -> isSign c = false) :
    exists (longer : Reading (withoutBlanks (e ++ s.text ++ t).toList)) (last : Term),
      Valued symbols (valued ++ [(last, v)]) ∧
      (valued ++ [(last, v)]).map Prod.fst = longer.terms ∧
      total (valued ++ [(last, v)]) = s.join (total valued) v := by
  rcases value_of_single ht hsingle with ⟨hne, hresolve⟩
  have hplain : forall c, c ∈ withoutBlanks t.toList -> isSign c = false :=
    fun c hc => hsingle c (List.mem_of_mem_filter hc)
  have hspells : withoutBlanks (e ++ s.text ++ t).toList =
      withoutBlanks e.toList ++ s.mark :: withoutBlanks t.toList := by
    rw [s.toList_append_text]
    exact s.withoutBlanks_append_mark _ _
  rw [hspells]
  refine ⟨r.following s hne hplain, .following r.trailing_are s hne hplain, ?_, ?_, ?_⟩
  · intro p hp
    rcases List.mem_append.mp hp with hp | hp
    · exact hvalued p hp
    · rw [List.mem_singleton.mp hp]
      exact hresolve
  · rw [List.map_append, hterms]
    rfl
  · rw [total_following, Term.join_following]

/--
A text carried on with a sign and a single operand.  If that makes it a number as
a whole, it has the value of this number.  Otherwise its value is carried on,
unless the text was a number with a sign inside it.
-/
theorem evaluate_carried_on {e t : String} {u v : Float} (he : evaluate symbols e = .ok u)
    (ht : evaluate symbols t = .ok v) (hsingle : forall c, c ∈ t.toList -> isSign c = false)
    (s : Sign) :
    (forall w, literal? (e ++ s.text ++ t).toList = some w ->
      evaluate symbols (e ++ s.text ++ t) = .ok w) ∧
    (literal? (e ++ s.text ++ t).toList = none ->
      literal? e.toList = none ∨ SignsLead e.toList ->
      exists w, evaluate symbols (e ++ s.text ++ t) = .ok w ∧
        Decimal.SameNumber w (s.join u v)) := by
  constructor
  · intro w hw
    exact evaluate_of_literal hw
  · intro hliteral hstart
    -- With one term more a reading of `e` is one of the whole text.
    rcases valued_of_start he hstart with ⟨r, valued, hvalued, hterms, hsame⟩
    rcases valued_of_following r hvalued hterms s ht hsingle with
      ⟨longer, last, hlonger, hlongerTerms, htotal⟩
    have hne : longer.terms ≠ [] := by
      rw [← hlongerTerms]
      simp
    refine ⟨_, evaluate_of_valued hliteral longer hlonger hlongerTerms hne, ?_⟩
    rw [htotal]
    exact Sign.join_same hsame s v

def oneEighth : SymbolTable :=
  SymbolTable.empty.set "eighth" 0.125

theorem evaluate_carried_on_eighth :
    evaluate oneEighth " -2 " = .ok (-2.0) ∧ evaluate oneEighth "eighth -" = .ok 0.125 ∧
      evaluate oneEighth "eigh th" = .ok 0.125 ∧
      (exists w, evaluate oneEighth (" -2 " ++ "-" ++ "eigh th") = .ok w ∧
        Decimal.SameNumber w (-2.0 - 0.125)) ∧
      exists w, evaluate oneEighth ("eighth -" ++ "+" ++ "eigh th") = .ok w ∧
        Decimal.SameNumber w (0.125 + 0.125) := by
  have htwo : evaluate oneEighth " -2 " = .ok (-2.0) := by decide +kernel
  have heighth : evaluate oneEighth "eighth -" = .ok 0.125 := by decide +kernel
  have hblank : evaluate oneEighth "eigh th" = .ok 0.125 := by decide +kernel
  have hsingle : forall c, c ∈ "eigh th".toList -> isSign c = false := by simp [isSign]
  exact ⟨htwo, heighth, hblank,
    (evaluate_carried_on htwo hblank hsingle .minus).2 (by decide +kernel)
      (.inr (by decide +kernel)),
    (evaluate_carried_on heighth hblank hsingle .plus).2 (by decide +kernel)
      (.inl (by decide +kernel))⟩

/--
The sign of an exponent joins operands where the number is not the whole text,
and a sign that joins operands becomes that of an exponent where the whole text
is a number.
-/
theorem signs_of_exponents_are_taken_for_others :
    (evaluate .empty "1e-5" = .ok 1e-5 ∧ evaluate .empty "1" = .ok 1.0 ∧
      evaluate .empty ("1e-5" ++ "+" ++ "1") = .error (.undefinedSymbol "1e")) ∧
    (evaluate (SymbolTable.empty.set "1e" 3.0) "1e" = .ok 3.0 ∧
      evaluate (SymbolTable.empty.set "1e" 3.0) "5" = .ok 5.0 ∧
      evaluate (SymbolTable.empty.set "1e" 3.0) ("1e" ++ "+" ++ "5") = .ok 100000.0 ∧
      ¬ Decimal.SameNumber 100000.0 (3.0 + 5.0)) := by
  unfold Decimal.SameNumber
  decide +kernel

end Expression

end Drafting
