import Mathlib.Data.List.Nodup

set_option autoImplicit false

/-! Python's `dict` with `str` keys as the list of its items in insertion order. -/

namespace Dify.Python

variable {β : Type}

def dictInsert : List (String × β) → String → β → List (String × β)
  | [], k, v => [(k, v)]
  | (k', v') :: kvs, k, v => if k' = k then (k, v) :: kvs else (k', v') :: dictInsert kvs k v

lemma dictInsert_of_not_mem {k : String} (v : β) :
    ∀ {kvs : List (String × β)}, k ∉ kvs.map Prod.fst → dictInsert kvs k v = kvs ++ [(k, v)]
  | [], _ => rfl
  | (k', v') :: kvs, h => by
    simp only [List.map_cons, List.mem_cons, not_or] at h
    simp [dictInsert, Ne.symm h.1, dictInsert_of_not_mem v h.2]

lemma keys_dictInsert (k : String) (v : β) : ∀ kvs : List (String × β),
    (dictInsert kvs k v).map Prod.fst =
      if k ∈ kvs.map Prod.fst then kvs.map Prod.fst else kvs.map Prod.fst ++ [k]
  | [] => rfl
  | (k', v') :: kvs => by
    by_cases h : k' = k
    · subst h
      simp only [dictInsert, if_pos rfl, List.map_cons, List.mem_cons, true_or, if_true]
    · have ih := keys_dictInsert k v kvs
      simp only [dictInsert, if_neg h, List.map_cons, ih, List.mem_cons, Ne.symm h, false_or]
      split_ifs <;> rfl

lemma nodup_keys_dictInsert {kvs : List (String × β)} (h : (kvs.map Prod.fst).Nodup) (k : String)
    (v : β) : ((dictInsert kvs k v).map Prod.fst).Nodup := by
  rw [keys_dictInsert]
  split_ifs with hk
  · exact h
  · exact h.append (List.nodup_singleton k) (List.disjoint_singleton.mpr hk)

lemma lookup_cons_of_ne {k k' : String} (h : k ≠ k') (v : β) (kvs : List (String × β)) :
    ((k', v) :: kvs).lookup k = kvs.lookup k := by
  rw [List.lookup_cons, beq_false_of_ne h]

@[simp] lemma lookup_dictInsert_self (k : String) (v : β) : ∀ kvs : List (String × β),
    (dictInsert kvs k v).lookup k = some v
  | [] => List.lookup_cons_self
  | (k', v') :: kvs => by
    by_cases h : k' = k
    · rw [dictInsert, if_pos h, List.lookup_cons_self]
    · rw [dictInsert, if_neg h, lookup_cons_of_ne (Ne.symm h), lookup_dictInsert_self k v kvs]

lemma lookup_dictInsert_of_ne {k k' : String} (h : k' ≠ k) (v : β) : ∀ kvs : List (String × β),
    (dictInsert kvs k v).lookup k' = kvs.lookup k'
  | [] => by rw [dictInsert, lookup_cons_of_ne h]
  | (k'', v'') :: kvs => by
    by_cases hk : k'' = k
    · subst hk; rw [dictInsert, if_pos rfl, lookup_cons_of_ne h, lookup_cons_of_ne h]
    · by_cases hk' : k' = k''
      · subst hk'; rw [dictInsert, if_neg hk, List.lookup_cons_self, List.lookup_cons_self]
      · rw [dictInsert, if_neg hk, lookup_cons_of_ne hk', lookup_cons_of_ne hk',
          lookup_dictInsert_of_ne h v kvs]

end Dify.Python
