import Drafting.Proofs.Literals
import Drafting.Proofs.Plans

/-!
# Names that can be read back

A statement may assign a number to any name, but an expression takes its text
apart before it looks a name up.  A name that is taken apart, or that is a number
itself, is never looked up, so the number assigned to it cannot be read back.
-/

namespace Drafting

namespace Expression

open Text (isBlank withoutBlanks)

/-- An expression takes the text as a single name. -/
def IsName (text : List Char) : Prop :=
  literal? text = none ∧ forall c, c ∈ text -> isSign c = false ∧ isBlank c = false

instance (text : List Char) : Decidable (IsName text) :=
  @instDecidableAnd _ _ (inferInstanceAs (Decidable (_ = _))) (List.decidableBAll _ text)

theorem evaluate_of_isName {symbols : SymbolTable} {name : String} (h : IsName name.toList)
    (hne : name ≠ "") :
    evaluate symbols name =
      match symbols.get? name with
      | some v => .ok v
      | none => .error (.undefinedSymbol name) := by
  have hkept : withoutBlanks name.toList = name.toList :=
    Text.withoutBlanks_eq_self fun c hc => (h.2 c hc).2
  have hsome : withoutBlanks name.toList ≠ [] := by
    rw [hkept]
    simpa using hne
  have hplain : forall c, c ∈ withoutBlanks name.toList -> isSign c = false := by
    rw [hkept]
    exact fun c hc => (h.2 c hc).1
  rewrite [evaluate_of_no_signs h.1 hsome hplain, hkept, resolve?, h.1, String.ofList_toList]
  rfl

/-!
## Symbols that an expression does not look up

What is looked up has neither signs nor blanks in it, and a value depends on
nothing but the numbers of the operands.  So a text that is no single name is
never looked up in itself.
-/

theorem plain_of_mem_tokens {cs text : List Char} (h : .operand text ∈ tokens cs) :
    forall c, c ∈ text -> isSign c = false ∧ isBlank c = false := by
  rcases nonempty_reading (withoutBlanks cs) with ⟨r⟩
  rw [r.tokens_eq, List.mem_append, List.mem_flatMap] at h
  rcases h with ⟨t, ht, hmem⟩ | h
  · have hsame : text = t.operand := by simpa [Term.tokens] using hmem
    rw [hsame]
    intro c hc
    exact ⟨t.operand_plain c hc, r.isBlank_of_mem_operand ht c hc⟩
  · simp at h

section Agree

variable {t u : SymbolTable}

theorem run_of_resolve?_eq {tokens : List Token}
    (h : forall text, .operand text ∈ tokens -> resolve? t text = resolve? u text) (c : Chain) :
    Chain.run t c tokens = Chain.run u c tokens := by
  induction tokens generalizing c with
  | nil => rfl
  | cons token rest ih =>
      have hstep : c.step t token = c.step u token := by
        cases token with
        | sign s => rfl
        | operand text => rw [Chain.step, Chain.step, h text List.mem_cons_self]
      have hrest := ih fun text htext => h text (List.mem_cons_of_mem _ htext)
      rw [Chain.run, Chain.run, hstep]
      cases c.step u token with
      | error e => rfl
      | ok next => exact hrest next

theorem evaluate_of_resolve?_eq {raw : String}
    (h : forall text, .operand text ∈ tokens raw.toList -> resolve? t text = resolve? u text) :
    evaluate t raw = evaluate u raw := by
  rw [evaluate, evaluate, run_of_resolve?_eq h]

end Agree

theorem resolve?_set_of_ne {t : SymbolTable} {name : String} {value : Float} {text : List Char}
    (h : String.ofList text ≠ name) : resolve? (t.set name value) text = resolve? t text := by
  rw [resolve?, resolve?, t.get?_set, if_neg h]

theorem evaluate_set_of_not_isName {name : String} (h : ¬ IsName name.toList)
    (t : SymbolTable) (value : Float) :
    evaluate (t.set name value) name = evaluate t name := by
  cases hliteral : literal? name.toList with
  | some v => rw [evaluate_of_literal hliteral, evaluate_of_literal hliteral]
  | none =>
      apply evaluate_of_resolve?_eq
      intro text htext
      apply resolve?_set_of_ne
      rintro rfl
      apply h
      refine ⟨hliteral, ?_⟩
      rw [String.toList_ofList] at htext ⊢
      exact plain_of_mem_tokens htext

end Expression

namespace Drawing

open Expression (IsName evaluate)

variable {d : Drawing} {s : Statement} {name : String} {value : Float}

theorem asks_of_symbolAssigned
    (h : (d.execute s).1 = .ok (.symbolAssigned name value)) :
    s.Asks d (.symbol name value) ∧ (d.execute s).2 = d.enact (.symbol name value) := by
  unfold execute at h ⊢
  cases hplan : s.plan d with
  | error e =>
      rw [hplan] at h
      cases h
  | ok change =>
      rw [hplan] at h
      have hasks := Statement.plan_eq_ok_iff.mp hplan
      cases change with
      | symbol other v =>
          cases h
          exact ⟨hasks, rfl⟩
      | page page => cases h
      | shape shape => cases h
      | default v => cases h

/--
After an assignment the name evaluates to the number assigned to it if it is a
name for expressions.  Otherwise it evaluates to what it did before.
-/
theorem evaluate_assigned_name
    (h : (d.execute s).1 = .ok (.symbolAssigned name value)) :
    (IsName name.toList -> evaluate (d.execute s).2.session.symbols name = .ok value) ∧
    (¬ IsName name.toList ->
      evaluate (d.execute s).2.session.symbols name = evaluate d.session.symbols name) := by
  rcases asks_of_symbolAssigned h with ⟨⟨_, _, _, hne, _⟩, hafter⟩
  have hsymbols : (d.execute s).2.session.symbols = d.session.symbols.set name value := by
    rw [hafter]
    rfl
  rw [hsymbols]
  constructor
  · intro hname
    rw [Expression.evaluate_of_isName hname hne, SymbolTable.get?_set, if_pos rfl]
  · intro hname
    exact Expression.evaluate_set_of_not_isName hname _ _

def afterRow (row : String) : Drawing :=
  (blank.execute (Statement.ofLine row)).2

theorem evaluate_assigned_width :
    (blank.execute (Statement.ofLine "width=8")).1 = .ok (.symbolAssigned "width" 8.0) ∧
      IsName "width".toList ∧
      evaluate (afterRow "width=8").session.symbols "width" = .ok 8.0 ∧
      (blank.execute (Statement.ofLine "left-right=8")).1 =
        .ok (.symbolAssigned "left-right" 8.0) ∧
      ¬ IsName "left-right".toList ∧
      evaluate (afterRow "left-right=8").session.symbols "left-right" =
        evaluate .empty "left-right" := by
  have hwidth : (blank.execute (Statement.ofLine "width=8")).1 =
      .ok (.symbolAssigned "width" 8.0) := by
    decide +kernel
  have hjoined : (blank.execute (Statement.ofLine "left-right=8")).1 =
      .ok (.symbolAssigned "left-right" 8.0) := by
    decide +kernel
  have hname : IsName "width".toList := by decide +kernel
  have hnot : ¬ IsName "left-right".toList := by decide +kernel
  exact ⟨hwidth, hname, (evaluate_assigned_name hwidth).1 hname, hjoined, hnot,
    (evaluate_assigned_name hjoined).2 hnot⟩

/-- Names with a sign or a blank in them are taken apart, and numbers stand for themselves. -/
theorem some_assigned_names_cannot_be_read :
    ((blank.execute (Statement.ofLine "a-b=1")).1 = .ok (.symbolAssigned "a-b" 1.0) ∧
      evaluate (afterRow "a-b=1").session.symbols "a-b" = .error (.undefinedSymbol "a")) ∧
    ((blank.execute (Statement.ofLine "a b=1")).1 = .ok (.symbolAssigned "a b" 1.0) ∧
      evaluate (afterRow "a b=1").session.symbols "a b" = .error (.undefinedSymbol "ab")) ∧
    ((blank.execute (Statement.ofLine "1=2")).1 = .ok (.symbolAssigned "1" 2.0) ∧
      evaluate (afterRow "1=2").session.symbols "1" = .ok 1.0) := by
  decide +kernel

end Drawing

end Drafting
