/-!
# Lists of bindings

Symbols, fields, and the files of a directory are kept in lists of pairs, and
the first pair with a name binds it.  Here are the two steps of looking a name
up, and the way to bind one: a name that is already bound keeps its place.
-/

namespace Drafting
namespace Binding

theorem lookup_cons_of_eq {name key : String} (value : α) (rest : List (String × α))
    (h : name = key) : ((key, value) :: rest).lookup name = some value := by
  simp [h]

theorem lookup_cons_of_ne {name key : String} (value : α) (rest : List (String × α))
    (h : ¬ name = key) : ((key, value) :: rest).lookup name = rest.lookup name := by
  have hb : (name == key) = false := beq_eq_false_iff_ne.mpr h
  simp [List.lookup_cons, hb]

def put (name : String) (value : α) : List (String × α) -> List (String × α)
  | [] => [(name, value)]
  | (key, old) :: rest =>
      if key = name then (key, value) :: rest else (key, old) :: put name value rest

theorem lookup_put (name other : String) (value : α) (bindings : List (String × α)) :
    (put name value bindings).lookup other =
      if other = name then some value else bindings.lookup other := by
  induction bindings with
  | nil =>
      by_cases h : other = name
      · rw [if_pos h]
        exact lookup_cons_of_eq value [] h
      · rw [if_neg h]
        exact lookup_cons_of_ne value [] h
  | cons entry rest ih =>
      obtain ⟨key, old⟩ := entry
      unfold put
      split
      · next same =>
          by_cases h : other = name
          · rw [if_pos h, lookup_cons_of_eq value _ (h.trans same.symm)]
          · have hk : ¬ other = key := fun e => h (e.trans same)
            rw [if_neg h, lookup_cons_of_ne value _ hk, lookup_cons_of_ne old _ hk]
      · next ne =>
          by_cases hk : other = key
          · have hn : ¬ other = name := fun e => ne (hk.symm.trans e)
            rw [if_neg hn, lookup_cons_of_eq old _ hk, lookup_cons_of_eq old _ hk]
          · rw [lookup_cons_of_ne old _ hk, lookup_cons_of_ne old _ hk, ih]

end Binding
end Drafting
