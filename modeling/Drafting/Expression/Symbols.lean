import Drafting.Binding

/-!
# Symbol tables

The names that a drawing has given to numbers.  Entries are kept in ascending
order of their names, each name once, so two tables with the same bindings are
the same table.  Setting a name that is already bound replaces its number.
-/

namespace Drafting

def insertEntry (name : String) (value : Float) :
    List (String × Float) -> List (String × Float)
  | [] => [(name, value)]
  | (key, old) :: rest =>
      if name < key then (name, value) :: (key, old) :: rest
      else if name = key then (key, value) :: rest
      else (key, old) :: insertEntry name value rest

theorem mem_insertEntry {name : String} {value : Float} {e : String × Float}
    {entries : List (String × Float)} (h : e ∈ insertEntry name value entries) :
    e.1 = name ∨ e ∈ entries := by
  induction entries with
  | nil =>
      apply Or.inl
      simp [insertEntry] at h
      rw [h]
  | cons entry rest ih =>
      obtain ⟨key, old⟩ := entry
      unfold insertEntry at h
      split at h
      · cases List.mem_cons.mp h with
        | inl here => exact Or.inl (by rw [here])
        | inr there => exact Or.inr there
      · split at h
        · next same =>
            cases List.mem_cons.mp h with
            | inl here => exact Or.inl (by rw [here, same])
            | inr there => exact Or.inr (List.mem_cons_of_mem _ there)
        · cases List.mem_cons.mp h with
          | inl here => exact Or.inr (by rw [here]; exact List.mem_cons_self)
          | inr there =>
              cases ih there with
              | inl named => exact Or.inl named
              | inr old => exact Or.inr (List.mem_cons_of_mem _ old)

theorem lt_of_not_lt_of_ne {a b : String} (h : ¬ a < b) (ne : a ≠ b) : b < a := by
  apply Decidable.byContradiction
  intro h'
  exact ne (String.le_antisymm h' h)

theorem insertEntry_ascending {name : String} {value : Float}
    {entries : List (String × Float)}
    (h : entries.Pairwise fun a b => a.1 < b.1) :
    (insertEntry name value entries).Pairwise fun a b => a.1 < b.1 := by
  induction entries with
  | nil => simp [insertEntry]
  | cons entry rest ih =>
      obtain ⟨key, old⟩ := entry
      obtain ⟨first, others⟩ := List.pairwise_cons.mp h
      unfold insertEntry
      split
      · next before =>
          refine List.pairwise_cons.mpr ⟨?_, h⟩
          intro e he
          cases List.mem_cons.mp he with
          | inl here => rw [here]; exact before
          | inr there => exact String.lt_trans before (first e there)
      · next notBefore =>
          split
          · exact List.pairwise_cons.mpr ⟨first, others⟩
          · next ne =>
              refine List.pairwise_cons.mpr ⟨?_, ih others⟩
              intro e he
              cases mem_insertEntry he with
              | inl named =>
                  rw [named]
                  exact lt_of_not_lt_of_ne notBefore ne
              | inr there => exact first e there

structure SymbolTable where
  entries : List (String × Float)
  ascending : entries.Pairwise fun a b => a.1 < b.1
deriving DecidableEq

namespace SymbolTable

def empty : SymbolTable :=
  { entries := [], ascending := List.Pairwise.nil }

def get? (t : SymbolTable) (name : String) : Option Float :=
  t.entries.lookup name

def contains (t : SymbolTable) (name : String) : Bool :=
  (t.get? name).isSome

def size (t : SymbolTable) : Nat :=
  t.entries.length

def set (t : SymbolTable) (name : String) (value : Float) : SymbolTable :=
  { entries := insertEntry name value t.entries
    ascending := insertEntry_ascending t.ascending }

@[simp] theorem get?_empty (name : String) : empty.get? name = none := rfl

theorem lookup_insertEntry (name other : String) (value : Float)
    (entries : List (String × Float)) :
    (insertEntry name value entries).lookup other =
      if other = name then some value else entries.lookup other := by
  induction entries with
  | nil =>
      by_cases h : other = name
      · rw [if_pos h]
        exact Binding.lookup_cons_of_eq value [] h
      · rw [if_neg h]
        exact Binding.lookup_cons_of_ne value [] h
  | cons entry rest ih =>
      obtain ⟨key, old⟩ := entry
      -- The entry goes in front of this one, takes its place, or goes further back.
      unfold insertEntry
      split
      · by_cases h : other = name
        · rw [if_pos h, Binding.lookup_cons_of_eq value _ h]
        · rw [if_neg h, Binding.lookup_cons_of_ne value _ h]
      · split
        · next same =>
            by_cases h : other = name
            · rw [if_pos h, Binding.lookup_cons_of_eq value _ (h.trans same)]
            · have hk : ¬ other = key := fun e => h (e.trans same.symm)
              rw [if_neg h, Binding.lookup_cons_of_ne value _ hk, Binding.lookup_cons_of_ne old _ hk]
        · next ne =>
            by_cases hk : other = key
            · have hn : ¬ other = name := fun e => ne (e.symm.trans hk)
              rw [if_neg hn, Binding.lookup_cons_of_eq old _ hk, Binding.lookup_cons_of_eq old _ hk]
            · rw [Binding.lookup_cons_of_ne old _ hk, Binding.lookup_cons_of_ne old _ hk, ih]

theorem get?_set (t : SymbolTable) (name other : String) (value : Float) :
    (t.set name value).get? other = if other = name then some value else t.get? other :=
  lookup_insertEntry name other value t.entries

end SymbolTable

end Drafting
