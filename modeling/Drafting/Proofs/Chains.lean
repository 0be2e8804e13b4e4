import Drafting.Expression

/-!
# Chains as signed operands

Apart from its blanks, the text of a chain consists of operands, which are its
maximal runs of characters other than signs, and of the signs around them.  This
module says what the value of a chain is in these terms.  The first operand
stands for itself unless there is a sign before it; every operand after that is
added or subtracted, as the last sign before it says.
-/

namespace Drafting

namespace Text

def withoutBlanks (cs : List Char) : List Char :=
  cs.filter fun c => ! isBlank c

theorem isBlank_of_mem_withoutBlanks {cs : List Char} {c : Char} (h : c ∈ withoutBlanks cs) :
    isBlank c = false := by
  simpa using (List.mem_filter.mp h).2

end Text

namespace Expression

open Text (isBlank withoutBlanks isBlank_of_mem_withoutBlanks)

def isSign (c : Char) : Bool :=
  c = '+' || c = '-'

namespace Sign

def ofChar (c : Char) : Sign :=
  if c = '-' then .minus else .plus

end Sign

theorem no_signs : forall c, c ∈ [] -> isSign c = true :=
  List.forall_mem_nil _

structure Term where
  signs : List Char
  operand : List Char
  signs_are : forall c, c ∈ signs -> isSign c = true
  operand_ne_nil : operand ≠ []
  operand_plain : forall c, c ∈ operand -> isSign c = false

/--
A text taken apart into terms, with the signs that are left over behind the last
operand.  There is a sign between any two operands, so the operands are maximal.
-/
structure Reading (cs : List Char) where
  terms : List Term
  trailing : List Char
  trailing_are : forall c, c ∈ trailing -> isSign c = true
  separated : forall t, t ∈ terms.tail -> t.signs ≠ []
  spells : (terms.flatMap fun t => t.signs ++ t.operand) ++ trailing = cs

namespace Term

def value? (symbols : SymbolTable) (t : Term) : Option Float :=
  resolve? symbols t.operand

/-- What becomes of the total so far with an operand of this value. -/
def join (t : Term) (total v : Float) : Float :=
  match t.signs.getLast? with
  | none => v
  | some c => if c = '-' then total - v else total + v

def tokens (t : Term) : List Token :=
  t.signs.map (fun c => .sign (.ofChar c)) ++ [.operand t.operand]

end Term

def total (valued : List (Term × Float)) : Float :=
  valued.foldl (fun sum p => p.1.join sum p.2) 0.0

def Valued (symbols : SymbolTable) (valued : List (Term × Float)) : Prop :=
  forall p, p ∈ valued -> p.1.value? symbols = some p.2

/-!
## The tokens of a text

Blanks mean nothing in a chain.  Where a sign follows or nothing at all, an
operand ends; so terms that are separated have the tokens that they have on
their own.
-/

theorem tokens_cons_of_isSign {c : Char} (h : isSign c = true) (rest : List Char) :
    tokens (c :: rest) = .sign (.ofChar c) :: tokens rest := by
  simp only [isSign, Bool.or_eq_true, decide_eq_true_eq] at h
  rcases h with rfl | rfl
  · exact tokens_plus rest
  · exact tokens_minus rest

theorem tokens_cons_of_isBlank {c : Char} (h : isBlank c = true) (rest : List Char) :
    tokens (c :: rest) = tokens rest := by
  have hplus : c ≠ '+' := by
    rintro rfl
    cases h
  have hminus : c ≠ '-' := by
    rintro rfl
    cases h
  simp [tokens, hplus, hminus, h]

theorem tokens_cons_of_plain {c : Char} (hsign : isSign c = false) (hblank : isBlank c = false)
    (rest : List Char) : tokens (c :: rest) = prepend c (tokens rest) := by
  simp only [isSign, Bool.or_eq_false_iff, decide_eq_false_iff_not] at hsign
  simp [tokens, hsign.1, hsign.2, hblank]

theorem tokens_withoutBlanks (cs : List Char) : tokens (withoutBlanks cs) = tokens cs := by
  induction cs with
  | nil => rfl
  | cons c rest ih =>
      by_cases hblank : isBlank c = true
      · rw [tokens_cons_of_isBlank hblank, ← ih]
        simp [withoutBlanks, hblank]
      · rw [Bool.not_eq_true] at hblank
        have hkept : withoutBlanks (c :: rest) = c :: withoutBlanks rest := by
          simp [withoutBlanks, hblank]
        rw [hkept]
        by_cases hsign : isSign c = true
        · rw [tokens_cons_of_isSign hsign, tokens_cons_of_isSign hsign, ih]
        · rw [Bool.not_eq_true] at hsign
          rw [tokens_cons_of_plain hsign hblank, tokens_cons_of_plain hsign hblank, ih]

theorem tokens_signs {signs : List Char} (h : forall c, c ∈ signs -> isSign c = true)
    (rest : List Char) :
    tokens (signs ++ rest) = signs.map (fun c => .sign (.ofChar c)) ++ tokens rest := by
  induction signs with
  | nil => rfl
  | cons c more ih =>
      rw [List.forall_mem_cons] at h
      rw [List.cons_append, tokens_cons_of_isSign h.1, ih h.2]
      rfl

def EndsOperand (rest : List Char) : Prop :=
  forall c, rest.head? = some c -> isSign c = true

theorem endsOperand_append {signs : List Char} (hne : signs ≠ [])
    (h : forall c, c ∈ signs -> isSign c = true) (rest : List Char) :
    EndsOperand (signs ++ rest) := by
  cases signs with
  | nil => exact absurd rfl hne
  | cons c more =>
      intro d hd
      cases hd
      exact h c List.mem_cons_self

theorem endsOperand_of_signs {signs : List Char} (h : forall c, c ∈ signs -> isSign c = true) :
    EndsOperand signs := by
  intro c hc
  exact h c (List.mem_of_head? hc)

theorem prepend_tokens {rest : List Char} (h : EndsOperand rest) (c : Char) :
    prepend c (tokens rest) = .operand [c] :: tokens rest := by
  cases rest with
  | nil => rfl
  | cons d rest =>
      rw [tokens_cons_of_isSign (h d rfl)]
      rfl

theorem tokens_operand {operand rest : List Char} (hne : operand ≠ [])
    (hsign : forall c, c ∈ operand -> isSign c = false)
    (hblank : forall c, c ∈ operand -> isBlank c = false) (hrest : EndsOperand rest) :
    tokens (operand ++ rest) = .operand operand :: tokens rest := by
  induction operand with
  | nil => exact absurd rfl hne
  | cons c more ih =>
      rw [List.forall_mem_cons] at hsign hblank
      rw [List.cons_append, tokens_cons_of_plain hsign.1 hblank.1]
      by_cases hmore : more = []
      · subst hmore
        exact prepend_tokens hrest c
      · rw [ih hmore hsign.2 hblank.2]
        rfl

theorem tokens_terms {terms : List Term} {trailing : List Char}
    (htrailing : forall c, c ∈ trailing -> isSign c = true)
    (hseparated : forall t, t ∈ terms.tail -> t.signs ≠ [])
    (hblank : forall t, t ∈ terms -> forall c, c ∈ t.operand -> isBlank c = false) :
    tokens ((terms.flatMap fun t => t.signs ++ t.operand) ++ trailing) =
      terms.flatMap Term.tokens ++ trailing.map (fun c => .sign (.ofChar c)) := by
  induction terms with
  | nil => simpa using tokens_signs htrailing []
  | cons t rest ih =>
      rw [List.forall_mem_cons] at hblank
      have hrest := ih (fun s hs => hseparated s (List.mem_of_mem_tail hs)) hblank.2
      have hends :
          EndsOperand ((rest.flatMap fun t => t.signs ++ t.operand) ++ trailing) := by
        cases rest with
        | nil => exact endsOperand_of_signs htrailing
        | cons next rest =>
            rw [List.flatMap_cons, List.append_assoc, List.append_assoc]
            exact endsOperand_append (hseparated next List.mem_cons_self) next.signs_are _
      rw [List.flatMap_cons, List.append_assoc, List.append_assoc, tokens_signs t.signs_are,
        tokens_operand t.operand_ne_nil t.operand_plain hblank.1 hends, hrest]
      simp [Term.tokens]

namespace Reading

variable {cs : List Char}

theorem isBlank_of_mem_operand (r : Reading (withoutBlanks cs)) {t : Term} (ht : t ∈ r.terms) :
    forall c, c ∈ t.operand -> isBlank c = false := by
  intro c hc
  have hmem : c ∈ withoutBlanks cs := by
    rw [← r.spells]
    exact List.mem_append_left _
      (List.mem_flatMap.mpr ⟨t, ht, List.mem_append_right _ hc⟩)
  exact isBlank_of_mem_withoutBlanks hmem

theorem tokens_eq (r : Reading (withoutBlanks cs)) :
    tokens cs =
      r.terms.flatMap Term.tokens ++ r.trailing.map (fun c => .sign (.ofChar c)) := by
  have htokens := tokens_terms r.trailing_are r.separated
    (fun t ht => r.isBlank_of_mem_operand ht)
  rw [r.spells, tokens_withoutBlanks] at htokens
  exact htokens

end Reading

/-!
## Taking a text apart

Every text can be taken apart.  A character at the front goes to the first term:
a sign is one more of its signs, and any other character is one more of its
operand unless signs stand before that.
-/

namespace Term

def withSign (t : Term) {c : Char} (h : isSign c = true) : Term :=
  { t with
    signs := c :: t.signs
    signs_are := List.forall_mem_cons.mpr ⟨h, t.signs_are⟩ }

def withFirst (t : Term) {c : Char} (h : isSign c = false) : Term :=
  { t with
    operand := c :: t.operand
    operand_ne_nil := List.cons_ne_nil c t.operand
    operand_plain := List.forall_mem_cons.mpr ⟨h, t.operand_plain⟩ }

def ofOperand {operand : List Char} (hne : operand ≠ [])
    (h : forall c, c ∈ operand -> isSign c = false) : Term :=
  { signs := []
    operand := operand
    signs_are := no_signs
    operand_ne_nil := hne
    operand_plain := h }

end Term

namespace Reading

def ofTerm (t : Term) : Reading (t.signs ++ t.operand) :=
  { terms := [t]
    trailing := []
    trailing_are := no_signs
    separated := by simp
    spells := by simp }

end Reading

theorem nonempty_reading (cs : List Char) : Nonempty (Reading cs) := by
  induction cs with
  | nil => exact ⟨⟨[], [], no_signs, by simp, rfl⟩⟩
  | cons c rest ih =>
      rcases ih with ⟨⟨terms, trailing, htrailing, hseparated, hspells⟩⟩
      by_cases hsign : isSign c = true
      · -- A sign belongs to the operand behind it, if there is one.
        cases terms with
        | nil =>
            refine ⟨⟨[], c :: trailing, ?_, by simp, ?_⟩⟩
            · exact List.forall_mem_cons.mpr ⟨hsign, htrailing⟩
            · rw [← hspells]
              rfl
        | cons t terms =>
            refine ⟨⟨t.withSign hsign :: terms, trailing, htrailing, hseparated, ?_⟩⟩
            rw [← hspells]
            rfl
      · rw [Bool.not_eq_true] at hsign
        have halone : forall d, d ∈ [c] -> isSign d = false := by simpa using hsign
        cases terms with
        | nil =>
            refine ⟨⟨[.ofOperand (by simp) halone], trailing, htrailing, by simp, ?_⟩⟩
            rw [← hspells]
            rfl
        | cons t terms =>
            -- The character starts an operand of its own if a sign follows it.
            by_cases hsigns : t.signs = []
            · refine ⟨⟨t.withFirst hsign :: terms, trailing, htrailing, hseparated, ?_⟩⟩
              rw [← hspells]
              simp [Term.withFirst, hsigns]
            · refine ⟨⟨.ofOperand (by simp) halone :: t :: terms, trailing, htrailing, ?_, ?_⟩⟩
              · exact List.forall_mem_cons.mpr ⟨hsigns, hseparated⟩
              · rw [← hspells]
                rfl

/-!
## The run over the tokens

Of several signs the last one is kept.  Either all terms have values, and the
run adds them up, or there is a first one without, and the run stops at its
operand.
-/

section Run

variable {symbols : SymbolTable}

theorem run_signs (signs : List Char) (c : Chain) (rest : List Token) :
    Chain.run symbols c (signs.map (fun s => .sign (.ofChar s)) ++ rest) =
      Chain.run symbols { c with pending := (signs.getLast?.map Sign.ofChar).or c.pending }
        rest := by
  induction signs generalizing c with
  | nil => simp
  | cons s more ih =>
      rw [List.map_cons, List.cons_append, Chain.run, Chain.step]
      simp only
      rw [ih, List.getLast?_cons]
      cases more.getLast? <;> rfl

theorem add_of_pending (t : Term) (sum : Option Float) (v : Float) :
    Chain.add { total := sum, pending := t.signs.getLast?.map Sign.ofChar } v =
      { total := some (t.join (sum.getD 0.0) v), pending := none } := by
  unfold Chain.add Term.join Sign.ofChar
  cases t.signs.getLast? with
  | none => rfl
  | some c => by_cases hc : c = '-' <;> simp [hc]

theorem run_term_of_value {t : Term} {v : Float} (h : t.value? symbols = some v)
    (sum : Option Float) (rest : List Token) :
    Chain.run symbols { total := sum, pending := none } (t.tokens ++ rest) =
      Chain.run symbols { total := some (t.join (sum.getD 0.0) v), pending := none } rest := by
  have hresolve : resolve? symbols t.operand = some v := h
  rw [Term.tokens, List.append_assoc, run_signs, Option.or_none, List.singleton_append,
    Chain.run, Chain.step, hresolve]
  simp only [add_of_pending]

theorem run_term_of_no_value {t : Term} (h : t.value? symbols = none)
    (sum : Option Float) (rest : List Token) :
    Chain.run symbols { total := sum, pending := none } (t.tokens ++ rest) =
      .error (.undefinedSymbol (String.ofList t.operand)) := by
  have hresolve : resolve? symbols t.operand = none := h
  rw [Term.tokens, List.append_assoc, run_signs, Option.or_none, List.singleton_append,
    Chain.run, Chain.step, hresolve]

def sumFrom (sum : Option Float) (valued : List (Term × Float)) : Option Float :=
  valued.foldl (fun sum p => some (p.1.join (sum.getD 0.0) p.2)) sum

theorem sumFrom_some (valued : List (Term × Float)) (sum : Float) :
    sumFrom (some sum) valued = some (valued.foldl (fun sum p => p.1.join sum p.2) sum) := by
  induction valued generalizing sum with
  | nil => rfl
  | cons p rest ih => exact ih (p.1.join sum p.2)

theorem sumFrom_none {valued : List (Term × Float)} (h : valued ≠ []) :
    sumFrom none valued = some (total valued) := by
  cases valued with
  | nil => exact absurd rfl h
  | cons p rest => exact sumFrom_some rest (p.1.join 0.0 p.2)

theorem run_valued {valued : List (Term × Float)} (h : Valued symbols valued)
    (sum : Option Float) (rest : List Token) :
    Chain.run symbols { total := sum, pending := none }
        ((valued.map Prod.fst).flatMap Term.tokens ++ rest) =
      Chain.run symbols { total := sumFrom sum valued, pending := none } rest := by
  induction valued generalizing sum with
  | nil => rfl
  | cons p more ih =>
      rw [Valued, List.forall_mem_cons] at h
      rw [List.map_cons, List.flatMap_cons, List.append_assoc, run_term_of_value h.1, ih h.2]
      rfl

theorem valued_or_first_without (symbols : SymbolTable) (terms : List Term) :
    (exists valued, Valued symbols valued ∧ valued.map Prod.fst = terms) ∨
      exists before t after, terms = (before.map Prod.fst) ++ t :: after ∧
        Valued symbols before ∧ t.value? symbols = none := by
  induction terms with
  | nil => exact .inl ⟨[], by simp [Valued], rfl⟩
  | cons t rest ih =>
      cases hvalue : t.value? symbols with
      | none => exact .inr ⟨[], t, rest, rfl, by simp [Valued], hvalue⟩
      | some v =>
          rcases ih with ⟨valued, hvalued, rfl⟩ | ⟨before, u, after, rfl, hbefore, hu⟩
          · exact .inl ⟨(t, v) :: valued, List.forall_mem_cons.mpr ⟨hvalue, hvalued⟩, rfl⟩
          · exact .inr ⟨(t, v) :: before, u, after, rfl,
              List.forall_mem_cons.mpr ⟨hvalue, hbefore⟩, hu⟩

end Run

/-!
## The value of a chain

A chain that has a value has terms that all have values, and is their total.  A
text without signs is a single operand.
-/

section Evaluate

variable {symbols : SymbolTable} {raw : String}

theorem evaluate_eq_of_chain (h : literal? raw.toList = none) :
    evaluate symbols raw =
      match Chain.run symbols .start (tokens raw.toList) with
      | .error e => .error e
      | .ok chain =>
          match chain.total with
          | some v => .ok v
          | none => .error (.malformed (Text.trimmed raw)) := by
  rewrite [evaluate, h]
  rfl

theorem run_of_reading (r : Reading (withoutBlanks raw.toList)) {valued : List (Term × Float)}
    (hvalued : Valued symbols valued) (hterms : valued.map Prod.fst = r.terms) :
    Chain.run symbols .start (tokens raw.toList) =
      .ok { total := sumFrom none valued, pending := r.trailing.getLast?.map Sign.ofChar } := by
  have htrailing := @run_signs symbols r.trailing
    { total := sumFrom none valued, pending := none } []
  rw [List.append_nil, Option.or_none] at htrailing
  rw [r.tokens_eq, ← hterms]
  exact (run_valued hvalued none _).trans htrailing

theorem evaluate_of_no_terms (h : literal? raw.toList = none)
    (r : Reading (withoutBlanks raw.toList)) (hterms : r.terms = []) :
    evaluate symbols raw = .error (.malformed (Text.trimmed raw)) := by
  have hvalued : Valued symbols [] := by simp [Valued]
  rw [evaluate_eq_of_chain h, run_of_reading r hvalued hterms.symm]
  rfl

theorem evaluate_of_valued (h : literal? raw.toList = none)
    (r : Reading (withoutBlanks raw.toList)) {valued : List (Term × Float)}
    (hvalued : Valued symbols valued) (hterms : valued.map Prod.fst = r.terms)
    (hne : r.terms ≠ []) : evaluate symbols raw = .ok (total valued) := by
  have hsome : valued ≠ [] := by
    rintro rfl
    exact hne hterms.symm
  rw [evaluate_eq_of_chain h, run_of_reading r hvalued hterms, sumFrom_none hsome]

theorem evaluate_of_first_without (h : literal? raw.toList = none)
    (r : Reading (withoutBlanks raw.toList)) {before : List (Term × Float)} {t : Term}
    {after : List Term} (hterms : r.terms = before.map Prod.fst ++ t :: after)
    (hbefore : Valued symbols before) (ht : t.value? symbols = none) :
    evaluate symbols raw = .error (.undefinedSymbol (String.ofList t.operand)) := by
  have hrun : Chain.run symbols .start (tokens raw.toList) =
      .error (.undefinedSymbol (String.ofList t.operand)) := by
    rw [r.tokens_eq, hterms, List.flatMap_append, List.flatMap_cons, List.append_assoc,
      List.append_assoc]
    exact (run_valued hbefore none _).trans (run_term_of_no_value ht _ _)
  rw [evaluate_eq_of_chain h, hrun]

theorem evaluate_of_no_signs (h : literal? raw.toList = none)
    (hne : withoutBlanks raw.toList ≠ [])
    (hplain : forall c, c ∈ withoutBlanks raw.toList -> isSign c = false) :
    evaluate symbols raw =
      match resolve? symbols (withoutBlanks raw.toList) with
      | some v => .ok v
      | none => .error (.undefinedSymbol (String.ofList (withoutBlanks raw.toList))) := by
  cases hresolve : resolve? symbols (withoutBlanks raw.toList) with
  | some v =>
      have hvalued : Valued symbols [(.ofOperand hne hplain, v)] := by
        intro p hp
        rw [List.mem_singleton.mp hp]
        exact hresolve
      exact evaluate_of_valued h (.ofTerm (.ofOperand hne hplain)) hvalued rfl
        (List.cons_ne_nil _ _)
  | none =>
      have hvalue : (Term.ofOperand hne hplain).value? symbols = none := hresolve
      have hbefore : Valued symbols [] := by simp [Valued]
      have hterms : (Reading.ofTerm (.ofOperand hne hplain)).terms =
          List.map Prod.fst ([] : List (Term × Float)) ++ [.ofOperand hne hplain] := rfl
      exact evaluate_of_first_without h (.ofTerm (.ofOperand hne hplain)) hterms hbefore hvalue

theorem valued_of_evaluate (h : literal? raw.toList = none)
    (r : Reading (withoutBlanks raw.toList)) {v : Float} (hv : evaluate symbols raw = .ok v) :
    exists valued, Valued symbols valued ∧ valued.map Prod.fst = r.terms ∧ r.terms ≠ [] ∧
      v = total valued := by
  rcases valued_or_first_without symbols r.terms with
    ⟨valued, hvalued, hterms⟩ | ⟨before, t, after, hterms, hbefore, ht⟩
  · have hne : r.terms ≠ [] := by
      intro hnil
      rw [evaluate_of_no_terms h r hnil] at hv
      cases hv
    rw [evaluate_of_valued h r hvalued hterms hne] at hv
    cases hv
    exact ⟨valued, hvalued, hterms, hne, rfl⟩
  · rw [evaluate_of_first_without h r hterms hbefore ht] at hv
    cases hv

theorem evaluate_of_withoutBlanks_eq {other : String} (h : literal? raw.toList = none)
    (hother : literal? other.toList = none)
    (hsame : withoutBlanks other.toList = withoutBlanks raw.toList) {v : Float}
    (hv : evaluate symbols raw = .ok v) : evaluate symbols other = .ok v := by
  have htokens : tokens other.toList = tokens raw.toList := by
    rw [← tokens_withoutBlanks, hsame, tokens_withoutBlanks]
  rw [evaluate_eq_of_chain h] at hv
  rw [evaluate_eq_of_chain hother, htokens]
  cases hrun : Chain.run symbols .start (tokens raw.toList) with
  | error e =>
      rw [hrun] at hv
      cases hv
  | ok chain =>
      rw [hrun] at hv
      cases htotal : chain.total with
      | none => simp [htotal] at hv
      | some w => simpa [htotal] using hv

end Evaluate

/--
The value of a text that is no number on its own.  Without its blanks it can be
taken apart into terms, and there is only one value that this can give: without
any term the text is malformed, the first operand that has no value is reported
by its name, and otherwise the operands are joined from left to right.
-/
theorem evaluate_takes_terms_in_order {raw : String} (h : literal? raw.toList = none)
    (symbols : SymbolTable) :
    Nonempty (Reading (withoutBlanks raw.toList)) ∧
    (forall r : Reading (withoutBlanks raw.toList),
      (r.terms = [] -> evaluate symbols raw = .error (.malformed (Text.trimmed raw))) ∧
      (forall before t after, r.terms = before.map Prod.fst ++ t :: after ->
        Valued symbols before -> t.value? symbols = none ->
        evaluate symbols raw = .error (.undefinedSymbol (String.ofList t.operand))) ∧
      forall valued, r.terms = valued.map Prod.fst -> Valued symbols valued -> r.terms ≠ [] ->
        evaluate symbols raw = .ok (total valued)) ∧
    forall other v, literal? other.toList = none ->
      withoutBlanks other.toList = withoutBlanks raw.toList ->
      evaluate symbols raw = .ok v -> evaluate symbols other = .ok v := by
  refine ⟨nonempty_reading _, ?_, ?_⟩
  · intro r
    refine ⟨evaluate_of_no_terms h r, ?_, ?_⟩
    · intro before t after hterms hbefore ht
      exact evaluate_of_first_without h r hterms hbefore ht
    · intro valued hterms hvalued hne
      exact evaluate_of_valued h r hvalued hterms.symm hne
  · intro other v hother hsame hv
    exact evaluate_of_withoutBlanks_eq h hother hsame hv

def spacious : String :=
  " - wid th -+ 2 -"

def spaciousTerms : List (Term × Float) :=
  [({ signs := ['-']
      operand := "width".toList
      signs_are := by simp [isSign]
      operand_ne_nil := by decide
      operand_plain := by simp [isSign] }, 8.0),
   ({ signs := ['-', '+']
      operand := ['2']
      signs_are := by simp [isSign]
      operand_ne_nil := by decide
      operand_plain := by simp [isSign] }, 2.0)]

def spaciousReading : Reading (withoutBlanks spacious.toList) :=
  { terms := spaciousTerms.map Prod.fst
    trailing := ['-']
    trailing_are := by simp [isSign]
    separated := by simp [spaciousTerms]
    spells := by decide +kernel }

theorem evaluate_spacious :
    literal? spacious.toList = none ∧
      evaluate (SymbolTable.empty.set "width" 8.0) spacious = .ok (-6.0) ∧
      evaluate (SymbolTable.empty.set "width" 8.0) "-width-+2-" = .ok (-6.0) ∧
      evaluate .empty spacious = .error (.undefinedSymbol "width") := by
  have h : literal? spacious.toList = none := by decide +kernel
  have hdense : literal? "-width-+2-".toList = none := by decide +kernel
  have hvalued : Valued (SymbolTable.empty.set "width" 8.0) spaciousTerms := by
    unfold Valued spaciousTerms
    decide +kernel
  have htotal : total spaciousTerms = -6.0 := by decide +kernel
  rcases evaluate_takes_terms_in_order h (SymbolTable.empty.set "width" 8.0) with
    ⟨_, hreading, hblanks⟩
  have hvalue := (hreading spaciousReading).2.2 spaciousTerms rfl hvalued (by decide)
  rw [htotal] at hvalue
  rcases evaluate_takes_terms_in_order h .empty with ⟨_, hundefined, _⟩
  exact ⟨h, hvalue, hblanks _ _ hdense (by decide +kernel) hvalue,
    (hundefined spaciousReading).2.1 [] _ _ rfl (by simp [Valued]) (by decide +kernel)⟩

end Expression

end Drafting
