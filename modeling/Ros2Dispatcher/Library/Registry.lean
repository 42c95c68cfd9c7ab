import Mathlib.Tactic.Common
import Mathlib.Data.List.Perm.Basic

/-!
# Registries

A registry is a finite map that is iterated in key order and whose entries carry an
identifier. `values m` lists its entries in that order. The lemmas say what inserting an
entry does to the list: it replaces the entry under the same key, if there is one
(`values_insert_perm`), so an insertion under a new key loses none
(`values_insert_perm_of_not_mem`), and identifiers stay distinct if the new one is new
(`nodup_map_values_insert`).
-/

namespace Ros2Dispatcher.Registry

variable {κ α ι : Type} [Ord κ]

/-- The entries of a registry, in key order. -/
def values (m : Std.TreeMap κ α) : List α :=
  m.toList.map Prod.snd

variable [DecidableEq κ] [Std.TransOrd κ] [Std.LawfulEqOrd κ] {m : Std.TreeMap κ α} {k : κ}
variable {a b : α}

theorem values_insert_perm :
    (values (m.insert k a)).Perm
      (a :: (m.toList.filter fun entry => k ≠ entry.1).map Prod.snd) := by
  have h := (Std.TreeMap.toList_insert_perm (t := m) (k := k) (v := a)).map Prod.snd
  simpa [values] using h

/-- An insertion under a new key adds the entry and loses none. -/
theorem values_insert_perm_of_not_mem (hk : k ∉ m) :
    (values (m.insert k a)).Perm (a :: values m) := by
  have hall : m.toList.filter (fun entry => k ≠ entry.1) = m.toList := by
    refine List.filter_eq_self.mpr fun entry hentry => decide_eq_true ?_
    rintro rfl
    have hget := Std.TreeMap.mem_toList_iff_getElem?_eq_some.mp hentry
    exact hk (Std.TreeMap.mem_iff_isSome_getElem?.mpr (by rw [hget]; rfl))
  have h := values_insert_perm (m := m) (k := k) (a := a)
  rwa [hall] at h

omit [DecidableEq κ] in
theorem mem_values : a ∈ values m ↔ ∃ k : κ, m[k]? = some a := by
  simp only [values, List.mem_map, Prod.exists, exists_eq_right,
    Std.TreeMap.mem_toList_iff_getElem?_eq_some]

/-- Every entry after an insertion is the new one or was there before. -/
theorem mem_values_insert (h : b ∈ values (m.insert k a)) : b = a ∨ b ∈ values m := by
  rcases List.mem_cons.mp (values_insert_perm.mem_iff.mp h) with rfl | hb
  · exact .inl rfl
  · exact .inr ((List.filter_sublist.map Prod.snd).subset hb)

/-- An insertion keeps identifiers distinct if the new one is not in use. -/
theorem nodup_map_values_insert {f : α → ι} (h : ((values m).map f).Nodup)
    (ha : f a ∉ (values m).map f) : ((values (m.insert k a)).map f).Nodup := by
  rw [(values_insert_perm.map f).nodup_iff, List.map_cons, List.nodup_cons]
  have hsub : (((m.toList.filter fun entry => k ≠ entry.1).map Prod.snd).map f).Sublist
      ((values m).map f) := (List.filter_sublist.map Prod.snd).map f
  exact ⟨fun hmem => ha (hsub.subset hmem), h.sublist hsub⟩

end Ros2Dispatcher.Registry
