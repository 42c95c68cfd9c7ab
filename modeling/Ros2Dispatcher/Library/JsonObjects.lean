import Ros2Dispatcher.Library.Json

/-!
# Objects by their members

`ofPairs` is the object with the given members, whatever order they are listed in. Where their
names differ, the object has each of them (`member?_ofPairs`), it is well-formed if they are, and
its strings are theirs.

What is dumped and read back is the value with its strings replaced (`Codec.Lawful.parse_dump`).
Such a replacement goes through to the members of an object (`member?_traverse`) and the items of
an array (`exists_mapM_of_traverse`): so a reader of a member or an item finds what was written.
-/

namespace Ros2Dispatcher.Json

variable {σ τ : Type} {pairs : List (String × Json σ)} {name : String} {value : Json σ}

/-- The object with the listed members. -/
def ofPairs (pairs : List (String × Json σ)) : Json σ :=
  object (Entries.setAll pairs [])

theorem mem_setAll_iff (hnames : (pairs.map Prod.fst).Nodup) {pair : String × Json σ} :
    pair ∈ Entries.setAll pairs [] ↔ pair ∈ pairs := by
  constructor
  · intro h
    exact (Entries.mem_of_mem_setAll h).resolve_right List.not_mem_nil
  · intro h
    exact Entries.mem_of_lookup (Entries.lookup_setAll_of_mem hnames h)

theorem isSome_member?_object {members : List (String × Json σ)} :
    ((object members).member? name).isSome = true ↔ name ∈ members.map Prod.fst := by
  rw [member?, List.lookup_isSome_iff, List.mem_map]
  simp only [beq_iff_eq, @eq_comm _ name]

theorem member?_ofPairs (hnames : (pairs.map Prod.fst).Nodup) (h : (name, value) ∈ pairs) :
    (ofPairs pairs).member? name = some value :=
  Entries.lookup_setAll_of_mem hnames h

theorem wellFormed_ofPairs (h : ∀ pair ∈ pairs, pair.2.wellFormed = true) :
    (ofPairs pairs).wellFormed = true := by
  have hsorted : Entries.Sorted ([] : List (String × Json σ)) := List.Pairwise.nil
  refine wellFormed_object.mpr ⟨hsorted.setAll, fun pair hpair => ?_⟩
  exact h pair ((Entries.mem_of_mem_setAll hpair).resolve_right List.not_mem_nil)

/-- A machine integer is well-formed. -/
theorem wellFormed_toInt (n : Int64) : (int n.toInt : Json σ).wellFormed = true := by
  have hlower := n.le_toInt
  have hupper := n.toInt_lt
  simp only [wellFormed, decide_eq_true_eq]
  omega

/-- The strings of an object are those of its members. -/
theorem forall_mem_strings_ofPairs (hnames : (pairs.map Prod.fst).Nodup) {P : σ → Prop} :
    (∀ s ∈ (ofPairs pairs).strings, P s) ↔ ∀ pair ∈ pairs, ∀ s ∈ pair.2.strings, P s := by
  rw [ofPairs, strings_object, List.forall_mem_flatMap]
  exact forall_congr' fun pair => imp_congr_left (mem_setAll_iff hnames)

/-! ### Replaced strings -/

section Traverse

variable {f : σ → Option τ} {j : Json σ} {j' : Json τ}

/-- Replacing the strings of an object replaces those of its members. -/
theorem map_member?_traverse (h : j.traverse f = some j') (name : String) :
    (j.member? name).map (traverse f) = (j'.member? name).map some := by
  cases j with
  | object members =>
    rw [traverse_object, Option.map_eq_some_iff] at h
    obtain ⟨members', hmembers, rfl⟩ := h
    rw [Fallible.mapM_eq_some_iff] at hmembers
    rw [member?, member?]
    induction hmembers with
    | nil => rfl
    | @cons member member' members members' hfirst _ ih =>
      obtain ⟨replaced, hreplaced, rfl⟩ := Option.map_eq_some_iff.mp hfirst
      rw [Entries.lookup_cons_eq, Entries.lookup_cons_eq]
      by_cases hname : name = member.1
      · rw [if_pos hname, if_pos hname]
        exact congrArg some hreplaced
      · rw [if_neg hname, if_neg hname]
        exact ih
  | array items =>
    rw [traverse_array, Option.map_eq_some_iff] at h
    obtain ⟨items', -, rfl⟩ := h
    rfl
  | string value =>
    rw [traverse, Option.map_eq_some_iff] at h
    obtain ⟨value', -, rfl⟩ := h
    rfl
  | _ => obtain rfl := Option.some.inj h; rfl

/-- A member of the object is one after it, with its strings replaced. -/
theorem member?_traverse (h : j.traverse f = some j') (hmember : j.member? name = some value) :
    ∃ value', value.traverse f = some value' ∧ j'.member? name = some value' := by
  have hmap := map_member?_traverse h name
  rw [hmember, Option.map_some, eq_comm, Option.map_eq_some_iff] at hmap
  obtain ⟨value', hvalue', htraverse⟩ := hmap
  exact ⟨value', htraverse.symm, hvalue'⟩

/-- There are no other members after it. -/
theorem member?_traverse_isSome (h : j.traverse f = some j') (name : String) :
    (j'.member? name).isSome = (j.member? name).isSome := by
  have hmap := congrArg Option.isSome (map_member?_traverse h name)
  rw [Option.isSome_map, Option.isSome_map] at hmap
  exact hmap.symm

theorem map_fst_of_traverse {members : List (String × Json σ)} {members' : List (String × Json τ)}
    (h : (object members).traverse f = some (object members')) :
    members'.map Prod.fst = members.map Prod.fst := by
  rw [traverse_object, Option.map_eq_some_iff] at h
  obtain ⟨_, hmembers, heq⟩ := h
  obtain rfl := object.inj heq
  rw [Fallible.mapM_eq_some_iff] at hmembers
  clear heq
  induction hmembers with
  | nil => rfl
  | cons hfirst _ ih =>
    obtain ⟨_, -, rfl⟩ := Option.map_eq_some_iff.mp hfirst
    rw [List.map_cons, List.map_cons, ih]

theorem exists_of_mem_traverse {members : List (String × Json σ)}
    {members' : List (String × Json τ)} {member' : String × Json τ}
    (h : (object members).traverse f = some (object members')) (hmember : member' ∈ members') :
    ∃ value, (member'.1, value) ∈ members ∧ value.traverse f = some member'.2 := by
  rw [traverse_object, Option.map_eq_some_iff] at h
  obtain ⟨_, hmembers, heq⟩ := h
  obtain rfl := object.inj heq
  obtain ⟨member, hmem, hreplaced⟩ := Fallible.mapM_eq_some_mem hmembers member' hmember
  obtain ⟨value, hvalue, rfl⟩ := Option.map_eq_some_iff.mp hreplaced
  exact ⟨member.2, hmem, hvalue⟩

/-- The items of an array are read back if each of them is. -/
theorem exists_mapM_of_traverse {α : Type} {items : List (Json σ)} {results : List α}
    {read : Json τ → Option α}
    (hread : List.Forall₂ (fun item x => ∀ item', item.traverse f = some item' →
      read item' = some x) items results)
    (h : (array items).traverse f = some j') :
    ∃ items', j' = array items' ∧ items'.mapM read = some results := by
  rw [traverse_array, Option.map_eq_some_iff] at h
  obtain ⟨items', hitems, rfl⟩ := h
  rw [Fallible.mapM_eq_some_iff] at hitems
  refine ⟨items', rfl, Fallible.mapM_eq_some_iff.mpr ?_⟩
  induction hread generalizing items' with
  | nil =>
    cases hitems
    exact .nil
  | cons hfirst _ ih =>
    cases hitems with
    | cons hfirst' hrest => exact .cons (hfirst _ hfirst') (ih _ hrest)

end Traverse

/-! ### Dumping and reading back -/

section Dump

variable {codec : Codec} {j : Json (List UInt8)} {text : List UInt8}

/-- A value can be dumped if its strings are UTF-8. -/
theorem Codec.dump_isSome_iff :
    (codec.dump j).isSome = true ↔ ∀ s ∈ j.strings, (utf8? s).isSome = true := by
  rw [Codec.dump, Option.isSome_map, traverse_isSome_iff]

/-- What was dumped is read back as the value with its strings as characters. -/
theorem Codec.Lawful.parse_dump (hcodec : codec.Lawful) (hj : j.wellFormed = true)
    (h : codec.dump j = some text) :
    ∃ j', j.traverse utf8? = some j' ∧ codec.parse text = some j' := by
  obtain ⟨j', htraverse, rfl⟩ := Option.map_eq_some_iff.mp h
  exact ⟨j', htraverse, hcodec.parse_print j' (wellFormed_traverse hj htraverse)⟩

end Dump

end Ros2Dispatcher.Json
