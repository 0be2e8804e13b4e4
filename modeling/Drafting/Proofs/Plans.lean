import Drafting.Proofs.Outcomes
import Drafting.Statement.Plan

/-!
# What a plan comes from

A plan that succeeds has read its change off the statement in one of four ways.
This module says once which reading stands behind which change, so that facts
about changes need not go through the dispatch of statements again.
-/

namespace Drafting

namespace Statement

def keyword? (s : Statement) : Option Keyword :=
  Keyword.ofHead? s.head

def Builds (s : Statement) (session : Session) : Shape -> Prop
  | .rect r => Keyword.ofHead? s.head = some .rect ∧ s.rect session = .ok r
  | .line l => Keyword.ofHead? s.head = some .line ∧ s.line session = .ok l
  | .ellipse _ => False

/-- The statement asks for this change of a drawing. -/
def Asks (s : Statement) (d : Drawing) : Change -> Prop
  | .page page =>
      Keyword.ofHead? s.head = some .page ∧
        s.page d.session.symbols d.document.page = .ok page
  | .shape shape => s.Builds d.session shape
  | .default value =>
      Keyword.ofHead? s.head = none ∧
        exists name, s.name = some name ∧ defaultKey? name = some value.key ∧
          defaultValue d.session.symbols value.key s.head = .ok value
  | .symbol name value =>
      Keyword.ofHead? s.head = none ∧ s.name = some name ∧
        defaultKey? name = none ∧ name ≠ "" ∧
        number d.session.symbols s.head = .ok value

theorem key_of_defaultValue {symbols : SymbolTable} {key : DefaultKey}
    {raw : String} {value : DefaultValue}
    (h : defaultValue symbols key raw = .ok value) : value.key = key := by
  cases key <;>
    simp only [defaultValue, map_eq_ok_iff] at h <;>
    rcases h with ⟨_, _, rfl⟩ <;>
    rfl

theorem assignment_eq_ok_iff {s : Statement} {symbols : SymbolTable} {change : Change} :
    s.assignment symbols = .ok change ↔
      exists name, s.name = some name ∧
        ((exists value : DefaultValue, defaultKey? name = some value.key ∧
            defaultValue symbols value.key s.head = .ok value ∧
            .default value = change) ∨
          (exists value, defaultKey? name = none ∧ name ≠ "" ∧
            number symbols s.head = .ok value ∧ .symbol name value = change)) := by
  unfold assignment
  cases s.name with
  | none => simp
  | some name =>
      simp only [Option.some.injEq, exists_eq_left']
      cases hkey : defaultKey? name with
      | none =>
          by_cases hempty : name = ""
          · simp [hempty]
          · simp [hempty, map_eq_ok_iff]
      | some key =>
          simp only [map_eq_ok_iff]
          constructor
          · intro hparts
            rcases hparts with ⟨value, hvalue, rfl⟩
            have hsame := key_of_defaultValue hvalue
            exact Or.inl ⟨value, by rw [hsame], by rw [hsame]; exact hvalue, rfl⟩
          · intro hparts
            rcases hparts with ⟨value, hvalue, hread, rfl⟩ | ⟨value, hno, _⟩
            · cases hvalue
              exact ⟨value, hread, rfl⟩
            · cases hno

theorem plan_eq_ok_iff {s : Statement} {d : Drawing} {change : Change} :
    s.plan d = .ok change ↔ s.Asks d change := by
  unfold plan
  cases hhead : Keyword.ofHead? s.head with
  | none =>
      rw [assignment_eq_ok_iff]
      cases change with
      | page page => simp [Asks, hhead]
      | shape shape => cases shape <;> simp [Asks, Builds, hhead]
      | default value => simp [Asks, hhead]
      | symbol name value =>
          simp only [Asks, hhead, reduceCtorEq, and_false, exists_false, false_or,
            true_and, Change.symbol.injEq]
          constructor
          · intro hparts
            rcases hparts with ⟨_, hname, _, hkey, hempty, hnumber, rfl, rfl⟩
            exact ⟨hname, hkey, hempty, hnumber⟩
          · intro hparts
            rcases hparts with ⟨hname, hkey, hempty, hnumber⟩
            exact ⟨name, hname, value, hkey, hempty, hnumber, rfl, rfl⟩
  | some keyword =>
      cases keyword <;>
        simp only [map_eq_ok_iff] <;>
        cases change with
        | page page => simp [Asks, hhead]
        | shape shape => cases shape <;> simp [Asks, Builds, hhead]
        | default value => simp [Asks, hhead]
        | symbol name value => simp [Asks, hhead]

end Statement

end Drafting
