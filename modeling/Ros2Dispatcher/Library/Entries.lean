import Mathlib.Data.List.Pairwise
import Mathlib.Order.Lattice
import Mathlib.Tactic.Common

/-!
# Entries by key

A finite map as the list of its entries. `set` replaces the entry under a key, or puts a new one
where the order of the keys wants it, so that it keeps sorted entries sorted (`Sorted.set`).
What is under a key is up to the last entry set for it: `lookup_set`, `set_set` and `set_comm`
hold whatever the list.
-/

namespace Ros2Dispatcher.Entries

variable {κ α : Type}

/-! ### Setting entries -/

section Setting

variable [LinearOrder κ] {key key' : κ} {value value' : α} {entries : List (κ × α)}

/-- The entries with the one under a key replaced, or added in order. -/
def set (key : κ) (value : α) : List (κ × α) → List (κ × α)
  | [] => [(key, value)]
  | entry :: entries =>
    if key < entry.1 then (key, value) :: entry :: entries
    else if key = entry.1 then (key, value) :: entries
    else entry :: set key value entries

/-- The keys are in order, each of them once. -/
def Sorted (entries : List (κ × α)) : Prop :=
  (entries.map Prod.fst).Pairwise (· < ·)

instance decidableSorted : Decidable (Sorted entries) :=
  inferInstanceAs (Decidable (List.Pairwise (· < ·) (entries.map Prod.fst)))

/-- The later of two entries for a key counts. -/
theorem set_set : set key value (set key value' entries) = set key value entries := by
  induction entries with
  | nil => simp [set]
  | cons entry entries ih =>
    by_cases hlt : key < entry.1
    · simp [set, hlt]
    · by_cases heq : key = entry.1
      · simp [set, heq]
      · simp [set, hlt, heq, ih]

/-- Entries for two keys can be set in either order. -/
theorem set_comm (h : key ≠ key') :
    set key value (set key' value' entries) = set key' value' (set key value entries) := by
  induction entries with
  | nil =>
    rcases lt_or_gt_of_ne h with hlt | hlt
    · simp [set, hlt, hlt.not_gt, h.symm]
    · simp [set, hlt, hlt.not_gt, h]
  | cons entry entries ih =>
    simp only [set]
    grind [set]

/-- The keys are those that were there, and the new one. -/
theorem mem_keys_set {k : κ} :
    k ∈ (set key value entries).map Prod.fst ↔ k = key ∨ k ∈ entries.map Prod.fst := by
  induction entries with
  | nil => simp [set]
  | cons entry entries ih =>
    unfold set
    split
    · simp
    · split
      next heq => simp [heq]
      next hne =>
        rw [List.map_cons, List.mem_cons, ih, List.map_cons, List.mem_cons]
        exact or_left_comm

/-- The entries are those that were there, and the new one. -/
theorem mem_of_mem_set {entry : κ × α} (h : entry ∈ set key value entries) :
    entry = (key, value) ∨ entry ∈ entries := by
  induction entries with
  | nil => exact .inl (List.mem_singleton.mp h)
  | cons first entries ih =>
    unfold set at h
    split at h
    · exact List.mem_cons.mp h
    · split at h
      · exact (List.mem_cons.mp h).imp id (List.mem_cons_of_mem _)
      · rcases List.mem_cons.mp h with rfl | hrest
        · exact .inr List.mem_cons_self
        · exact (ih hrest).imp id (List.mem_cons_of_mem _)

protected theorem Sorted.set (h : Sorted entries) : Sorted (set key value entries) := by
  induction entries with
  | nil => exact List.pairwise_singleton _ _
  | cons entry entries ih =>
    have hcons := List.pairwise_cons.mp h
    unfold Entries.set
    split
    next hlt =>
      refine List.pairwise_cons.mpr ⟨List.forall_mem_cons.mpr ⟨hlt, fun k hk => ?_⟩, h⟩
      exact hlt.trans (hcons.1 k hk)
    next hge =>
      split
      next heq => exact List.pairwise_cons.mpr ⟨heq ▸ hcons.1, hcons.2⟩
      next hne =>
        refine List.pairwise_cons.mpr ⟨fun k hk => ?_, ih hcons.2⟩
        rcases mem_keys_set.mp hk with rfl | hk
        · exact lt_of_le_of_ne (not_lt.mp hge) (Ne.symm hne)
        · exact hcons.1 k hk

end Setting

/-! ### Looking entries up -/

section Lookup

variable [BEq κ] [LawfulBEq κ] {key key' : κ} {value : α} {entries : List (κ × α)}

/-- The first entry under a key counts. -/
theorem lookup_cons_eq [DecidableEq κ] {entry : κ × α} :
    (entry :: entries).lookup key = if key = entry.1 then some entry.2 else entries.lookup key := by
  rw [List.lookup_cons]
  by_cases hkey : key = entry.1
  · rw [if_pos hkey, hkey, beq_self_eq_true]
  · rw [if_neg hkey, beq_eq_false_iff_ne.mpr hkey]

theorem mem_of_lookup (h : entries.lookup key = some value) : (key, value) ∈ entries := by
  obtain ⟨before, after, rfl, -⟩ := List.lookup_eq_some_iff.mp h
  exact List.mem_append_right before List.mem_cons_self

/-- Dropping the entries under one key leaves those under another. -/
theorem lookup_filter_ne [DecidableEq κ] (h : key' ≠ key) (entries : List (κ × α)) :
    (entries.filter (·.1 ≠ key)).lookup key' = entries.lookup key' := by
  induction entries with
  | nil => rfl
  | cons entry entries ih =>
    by_cases hentry : entry.1 = key
    · rw [List.filter_cons_of_neg (by simpa using hentry), ih, lookup_cons_eq,
        if_neg (hentry ▸ h)]
    · rw [List.filter_cons_of_pos (by simpa using hentry), lookup_cons_eq, lookup_cons_eq, ih]

/-- The last of the items that yield an entry for the key counts. -/
theorem lookup_reverse_filterMap {ι : Type} {f : ι → Option (κ × α)} {items : List ι} :
    (items.filterMap f).reverse.lookup key = some value ↔
      ∃ earlier item later, items = earlier ++ item :: later ∧ f item = some (key, value) ∧
        ∀ item ∈ later, ∀ value, f item ≠ some (key, value) := by
  rw [List.lookup_eq_some_iff]
  simp only [bne_iff_ne, List.reverse_eq_append_iff, List.reverse_cons, List.append_assoc,
    List.singleton_append]
  constructor
  · rintro ⟨after, before, hitems, hafter⟩
    obtain ⟨earlier, more, rfl, -, hmore⟩ := List.filterMap_eq_append_iff.mp hitems
    obtain ⟨skipped, item, later, rfl, hskipped, hitem, hlater⟩ :=
      List.filterMap_eq_cons_iff.mp hmore
    refine ⟨earlier ++ skipped, item, later, (List.append_assoc _ _ _).symm, hitem, ?_⟩
    intro item' hitem' value' hvalue'
    have hmem : (key, value') ∈ after := by
      rw [← List.mem_reverse, ← hlater]
      exact List.mem_filterMap.mpr ⟨item', hitem', hvalue'⟩
    exact hafter _ hmem rfl
  · rintro ⟨earlier, item, later, rfl, hitem, hlater⟩
    refine ⟨(later.filterMap f).reverse, (earlier.filterMap f).reverse, ?_, ?_⟩
    · rw [List.filterMap_append, List.filterMap_cons_some hitem, List.reverse_reverse,
        List.reverse_reverse]
    · rintro ⟨key', value'⟩ hmem rfl
      obtain ⟨item', hitem', hvalue'⟩ := List.mem_filterMap.mp (List.mem_reverse.mp hmem)
      exact hlater item' hitem' value' hvalue'

/-- Entries that list a map are looked up as in the map. -/
theorem lookup_eq_of_mem_iff {map : κ → Option α}
    (h : ∀ key value, (key, value) ∈ entries ↔ map key = some value) (key : κ) :
    entries.lookup key = map key := by
  cases hlookup : entries.lookup key with
  | some value => exact ((h key value).mp (mem_of_lookup hlookup)).symm
  | none =>
    symm
    rw [Option.eq_none_iff_forall_ne_some]
    intro value hvalue
    have hkey := List.lookup_eq_none_iff.mp hlookup _ ((h key value).mpr hvalue)
    exact bne_iff_ne.mp hkey rfl

variable [LinearOrder κ]

/-- The entry set for a key is found under it, and under another key what was there. -/
theorem lookup_set :
    (set key value entries).lookup key' =
      if key' = key then some value else entries.lookup key' := by
  induction entries with
  | nil => exact lookup_cons_eq
  | cons entry entries ih =>
    unfold set
    split
    · exact lookup_cons_eq
    · split
      next heq =>
        rw [lookup_cons_eq, lookup_cons_eq, heq]
        split <;> rfl
      next hne =>
        rw [lookup_cons_eq, lookup_cons_eq, ih]
        split
        next heq => rw [if_neg (heq ▸ Ne.symm hne)]
        · rfl

@[simp]
theorem lookup_set_self : (set key value entries).lookup key = some value := by
  rw [lookup_set, if_pos rfl]

theorem lookup_set_of_ne (h : key' ≠ key) :
    (set key value entries).lookup key' = entries.lookup key' := by
  rw [lookup_set, if_neg h]

/-- Setting an entry under two keys, one after the other. -/
theorem bind_lookup_set {κ' : Type} [LinearOrder κ'] [BEq κ'] [LawfulBEq κ'] {inner inner' : κ'}
    {entries : List (κ × List (κ' × α))} {group : List (κ' × α)}
    (h : entries.lookup key = some group) :
    ((set key (set inner value group) entries).lookup key').bind (·.lookup inner') =
      if key' = key ∧ inner' = inner then some value
      else (entries.lookup key').bind (·.lookup inner') := by
  rw [lookup_set]
  by_cases hkey : key' = key
  · rw [if_pos hkey, Option.bind_some, lookup_set, hkey, h, Option.bind_some]
    by_cases hinner : inner' = inner
    · rw [if_pos hinner, if_pos ⟨rfl, hinner⟩]
    · rw [if_neg hinner, if_neg fun hboth => hinner hboth.2]
  · rw [if_neg hkey, if_neg fun hboth => hkey hboth.1]

end Lookup

/-! ### Setting several entries -/

section SetAll

variable [LinearOrder κ] {key : κ} {value : α} {fields entries : List (κ × α)}

/-- The entries with some more set, one after the other. -/
def setAll (fields entries : List (κ × α)) : List (κ × α) :=
  fields.foldl (fun entries field => set field.1 field.2 entries) entries

theorem mem_keys_setAll :
    key ∈ (setAll fields entries).map Prod.fst ↔
      key ∈ fields.map Prod.fst ∨ key ∈ entries.map Prod.fst := by
  induction fields generalizing entries with
  | nil => simp [setAll]
  | cons field fields ih =>
    rw [setAll, List.foldl_cons, ← setAll, ih, mem_keys_set, List.map_cons, List.mem_cons]
    exact or_left_comm.trans or_assoc.symm

theorem mem_of_mem_setAll {entry : κ × α} (h : entry ∈ setAll fields entries) :
    entry ∈ fields ∨ entry ∈ entries := by
  induction fields generalizing entries with
  | nil => exact .inr h
  | cons field fields ih =>
    rcases ih h with hentry | hentry
    · exact .inl (List.mem_cons_of_mem field hentry)
    · rcases mem_of_mem_set hentry with rfl | hentry
      · exact .inl List.mem_cons_self
      · exact .inr hentry

protected theorem Sorted.setAll (h : Sorted entries) : Sorted (setAll fields entries) := by
  induction fields generalizing entries with
  | nil => exact h
  | cons field fields ih => exact ih h.set

variable [BEq κ] [LawfulBEq κ]

theorem lookup_setAll_of_not_mem (h : key ∉ fields.map Prod.fst) :
    (setAll fields entries).lookup key = entries.lookup key := by
  induction fields generalizing entries with
  | nil => rfl
  | cons field fields ih =>
    obtain ⟨hfield, hfields⟩ := not_or.mp (mt List.mem_cons.mpr h)
    exact (ih hfields).trans (lookup_set_of_ne hfield)

/-- Of entries under different keys each is found. -/
theorem lookup_setAll_of_mem (hkeys : (fields.map Prod.fst).Nodup) (h : (key, value) ∈ fields) :
    (setAll fields entries).lookup key = some value := by
  induction fields generalizing entries with
  | nil => cases h
  | cons field fields ih =>
    obtain ⟨hfield, hfields⟩ := List.nodup_cons.mp hkeys
    rcases List.mem_cons.mp h with rfl | h
    · exact (lookup_setAll_of_not_mem hfield).trans lookup_set_self
    · exact ih hfields h

end SetAll

end Ros2Dispatcher.Entries
