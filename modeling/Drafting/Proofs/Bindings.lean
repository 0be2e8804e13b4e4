import Drafting.Binding
import Mathlib.Data.List.Nodup
import Mathlib.Data.List.Perm.Basic

/-!
# Bindings put one after another

Putting a binding keeps the order of the names: a new name goes to the end, and
a name that is there stays where it is.  So after any number of bindings have
been put, every name is bound once, to the last value that was put under it.
-/

namespace Drafting
namespace Binding

variable {name : String} {bindings : List (String × α)}

theorem map_fst_put (name : String) (value : α) (bindings : List (String × α)) :
    (put name value bindings).map Prod.fst =
      if name ∈ bindings.map Prod.fst then bindings.map Prod.fst
      else bindings.map Prod.fst ++ [name] := by
  induction bindings with
  | nil => rfl
  | cons entry rest ih =>
      obtain ⟨key, old⟩ := entry
      unfold put
      by_cases hkey : key = name
      · simp [hkey]
      · have hname : ¬ name = key := fun h => hkey h.symm
        rw [if_neg hkey, List.map_cons, ih]
        by_cases hmem : name ∈ rest.map Prod.fst
        · simp [hmem]
        · simp [hmem, hname]

theorem nodup_put (value : α) (h : (bindings.map Prod.fst).Nodup) :
    ((put name value bindings).map Prod.fst).Nodup := by
  rw [map_fst_put]
  split
  · exact h
  · next hfresh =>
      exact List.nodup_append.mpr
        ⟨h, List.nodup_singleton name, fun key hkey other hother hsame =>
          hfresh (List.mem_singleton.mp hother ▸ hsame ▸ hkey)⟩

theorem put_of_not_mem (h : name ∉ bindings.map Prod.fst) (value : α) :
    put name value bindings = bindings ++ [(name, value)] := by
  induction bindings with
  | nil => rfl
  | cons entry rest ih =>
      rw [List.map_cons, List.mem_cons, not_or] at h
      rw [put, if_neg (Ne.symm h.1), ih h.2]
      rfl

theorem getElem?_put_of_ne {key : String} {old : α} {i : Nat} (hne : key ≠ name) (value : α)
    (h : bindings[i]? = some (key, old)) : (put name value bindings)[i]? = some (key, old) := by
  induction bindings generalizing i with
  | nil => cases h
  | cons entry rest ih =>
      obtain ⟨other, held⟩ := entry
      unfold put
      cases i with
      | zero =>
          cases h
          rw [if_neg hne]
          rfl
      | succ i =>
          split
          · exact h
          · exact ih h

/-!
## Looking names up

Of what is put one after another the last counts, and what was bound before
counts otherwise.
-/

theorem lookup_eq_none_iff : bindings.lookup name = none ↔ name ∉ bindings.map Prod.fst := by
  simp only [List.lookup_eq_none_iff, bne_iff_ne, List.mem_map, not_exists, not_and]
  constructor
  · intro h entry hentry hsame
    exact h entry hentry hsame.symm
  · intro h entry hentry hsame
    exact h entry hentry hsame.symm

theorem lookup_eq_some_iff_mem (h : (bindings.map Prod.fst).Nodup) {value : α} :
    bindings.lookup name = some value ↔ (name, value) ∈ bindings := by
  constructor
  · intro hlookup
    rcases List.lookup_eq_some_iff.mp hlookup with ⟨before, after, rfl, _⟩
    exact List.mem_append_right before List.mem_cons_self
  · intro hmem
    rcases List.append_of_mem hmem with ⟨before, after, rfl⟩
    rw [List.map_append, List.map_cons, List.nodup_middle, List.nodup_cons] at h
    refine List.lookup_eq_some_iff.mpr ⟨before, after, rfl, ?_⟩
    intro entry hentry
    rw [bne_iff_ne]
    intro hsame
    exact h.1 (List.mem_append_left _ (List.mem_map.mpr ⟨entry, hentry, hsame.symm⟩))

/-- If no name is bound twice, the order of the bindings does not matter. -/
theorem lookup_of_perm {others : List (String × α)} (h : (bindings.map Prod.fst).Nodup)
    (hperm : others.Perm bindings) (name : String) :
    others.lookup name = bindings.lookup name := by
  have hothers : (others.map Prod.fst).Nodup := (hperm.map Prod.fst).nodup_iff.mpr h
  apply Option.ext
  intro value
  rw [lookup_eq_some_iff_mem hothers, lookup_eq_some_iff_mem h, hperm.mem_iff]

theorem lookup_foldl_put (name : String) (added : List (String × α)) :
    (added.foldl (fun bindings entry => put entry.1 entry.2 bindings) bindings).lookup name =
      (added.reverse.lookup name).or (bindings.lookup name) := by
  induction added generalizing bindings with
  | nil => rfl
  | cons entry rest ih =>
      obtain ⟨key, value⟩ := entry
      rw [List.foldl_cons, ih, lookup_put, List.reverse_cons, List.lookup_append, Option.or_assoc]
      congr 1
      split
      · next h => rw [lookup_cons_of_eq value [] h, Option.some_or]
      · next h =>
          rw [lookup_cons_of_ne value [] h]
          rfl

end Binding
end Drafting
