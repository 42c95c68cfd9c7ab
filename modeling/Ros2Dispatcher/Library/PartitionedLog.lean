import Mathlib.Data.List.Nodup
import Mathlib.Data.List.Perm.Basic

/-!
# Partitioned logs

A log that keeps the order of what is appended to it only partition by partition. `partition`
names the partition of an item; an item without one may overtake, and be overtaken by, any
other. From the items that wait, a reader is given one that no item of the same partition
waits in front of, and any of them may get lost.

`Delivers` is what a reader can rely on, given all that was ever appended: in each partition, what
it has been given and what waits is in the order of the appending (`inOrder`), and every item is in
exactly one place (`perm`). Without a loss, nothing is missing either (`Delivers.complete`).
-/

namespace Ros2Dispatcher

/-- The items that wait, those that were taken, in the order of the taking, and the lost ones. -/
structure PartitionedLog (α : Type) where
  waiting : List α := []
  taken : List α := []
  lost : List α := []
deriving DecidableEq, Repr

namespace PartitionedLog

variable {α κ : Type} [DecidableEq κ]

/-- The items of one partition. -/
def on (partition : α → Option κ) (k : κ) (items : List α) : List α :=
  items.filter fun item => partition item = some k

/-- Append items. -/
def append (items : List α) (log : PartitionedLog α) : PartitionedLog α :=
  { log with waiting := log.waiting ++ items }

/-- Two items are in one partition. -/
def together (partition : α → Option κ) (item item' : α) : Bool :=
  partition item = partition item' && (partition item).isSome

/-- Take the `n`-th of the items that wait, if it is its partition's turn to give it. -/
def take (partition : α → Option κ) (n : Nat) (log : PartitionedLog α) :
    Option (α × PartitionedLog α) :=
  match log.waiting[n]? with
  | some item =>
    if (log.waiting.take n).any fun earlier => together partition earlier item then none
    else some (item, { log with
      waiting := log.waiting.eraseIdx n, taken := log.taken ++ [item] })
  | none => none

/-- Lose the `n`-th of the items that wait. -/
def lose (n : Nat) (log : PartitionedLog α) : PartitionedLog α :=
  match log.waiting[n]? with
  | some item => { log with waiting := log.waiting.eraseIdx n, lost := log.lost ++ [item] }
  | none => log

/-- What a log delivers of all that was `appended` to it. -/
structure Delivers (partition : α → Option κ) (appended : List α) (log : PartitionedLog α) :
    Prop where
  inOrder : ∀ k, (on partition k (log.taken ++ log.waiting)).Sublist (on partition k appended)
  perm : (log.taken ++ log.waiting ++ log.lost).Perm appended

variable {partition : α → Option κ} {k : κ} {appended items : List α} {log log' : PartitionedLog α}
variable {item : α} {n : Nat}

theorem on_append (items items' : List α) :
    on partition k (items ++ items') = on partition k items ++ on partition k items' :=
  List.filter_append ..

/-- The items that wait, around the one at `n`. -/
theorem waiting_eq (h : log.waiting[n]? = some item) :
    log.waiting = log.waiting.take n ++ item :: log.waiting.drop (n + 1) := by
  obtain ⟨hn, rfl⟩ := List.getElem?_eq_some_iff.mp h
  rw [List.getElem_cons_drop, List.take_append_drop]

/-- An item is taken from among those that wait, behind none of its partition. -/
theorem take_spec (h : log.take partition n = some (item, log')) :
    ∃ before after, log.waiting = before ++ item :: after ∧
      (∀ k, partition item = some k → on partition k before = []) ∧
      log' = { log with waiting := before ++ after, taken := log.taken ++ [item] } := by
  unfold take at h
  split at h
  next item' hitem =>
    split at h
    next => cases h
    next hfirst =>
      obtain ⟨rfl, rfl⟩ : item' = item ∧ _ = log' := by simpa using h
      refine ⟨log.waiting.take n, log.waiting.drop (n + 1), waiting_eq hitem, ?_, ?_⟩
      · intro k hk
        refine List.filter_eq_nil_iff.mpr fun earlier hearlier htogether => ?_
        refine hfirst (List.any_eq_true.mpr ⟨earlier, hearlier, ?_⟩)
        have hearlierOn : partition earlier = some k := by simpa using htogether
        simp [together, hearlierOn, hk]
      · rw [List.eraseIdx_eq_take_drop_succ]
  next => cases h

/-- What is lost is lost from among the items that wait. -/
theorem lose_spec (n : Nat) (log : PartitionedLog α) : log.lose n = log ∨
    ∃ before item after, log.waiting = before ++ item :: after ∧
      log.lose n = { log with waiting := before ++ after, lost := log.lost ++ [item] } := by
  unfold lose
  split
  next item hitem =>
    refine .inr ⟨log.waiting.take n, item, log.waiting.drop (n + 1), waiting_eq hitem, ?_⟩
    rw [List.eraseIdx_eq_take_drop_succ]
  next => exact .inl rfl

/-- A loss takes nothing back. -/
theorem lose_taken (n : Nat) (log : PartitionedLog α) : (log.lose n).taken = log.taken := by
  rcases log.lose_spec n with hsame | ⟨before, item, after, -, hlose⟩
  · rw [hsame]
  · rw [hlose]

namespace Delivers

protected theorem empty : Delivers partition [] ({} : PartitionedLog α) :=
  ⟨fun _ => .refl _, .refl _⟩

protected theorem append (h : Delivers partition appended log) (items : List α) :
    Delivers partition (appended ++ items) (log.append items) where
  inOrder k := by
    have hassoc : log.taken ++ (log.append items).waiting =
        log.taken ++ log.waiting ++ items := (List.append_assoc ..).symm
    have hsame : (log.append items).taken = log.taken := rfl
    rw [hsame, hassoc, on_append (log.taken ++ log.waiting), on_append appended]
    exact (h.inOrder k).append (.refl _)
  perm := by
    have hplaces : (log.taken ++ (log.waiting ++ items) ++ log.lost).Perm
        (log.taken ++ log.waiting ++ log.lost ++ items) := by
      rw [← List.append_assoc log.taken, List.append_assoc _ items, List.append_assoc _ log.lost]
      exact List.perm_append_comm.append_left _
    exact hplaces.trans (h.perm.append_right items)

/-- Taking an item keeps the order of each partition: in its own nothing waits in front of it, and
in the others nothing happens. -/
protected theorem take (h : Delivers partition appended log)
    (htake : log.take partition n = some (item, log')) : Delivers partition appended log' := by
  obtain ⟨before, after, hwaiting, hfirst, rfl⟩ := take_spec htake
  have hinOrder := h.inOrder
  have hperm := h.perm
  rw [hwaiting] at hinOrder hperm
  refine ⟨fun k => ?_, ?_⟩
  · have hsame : on partition k (log.taken ++ [item] ++ (before ++ after)) =
        on partition k (log.taken ++ (before ++ item :: after)) := by
      rw [List.append_cons before, on_append, on_append log.taken [item],
        on_append log.taken, on_append before, on_append (before ++ [item]),
        on_append before]
      by_cases hk : partition item = some k
      · rw [hfirst k hk]
        simp
      · have hother : on partition k [item] = [] := by simp [on, hk]
        simp [hother]
    rw [hsame]
    exact hinOrder k
  · have hmiddle : (item :: (before ++ after)).Perm (before ++ item :: after) :=
      List.perm_middle.symm
    have hplaces := (hmiddle.append_left log.taken).append_right log.lost
    rw [List.append_cons log.taken] at hplaces
    exact hplaces.trans hperm

protected theorem lose (h : Delivers partition appended log) (n : Nat) :
    Delivers partition appended (log.lose n) := by
  rcases log.lose_spec n with hsame | ⟨before, item, after, hwaiting, hlose⟩
  · rwa [hsame]
  · have hinOrder := h.inOrder
    have hperm := h.perm
    rw [hwaiting] at hinOrder hperm
    rw [hlose]
    refine ⟨fun k => ?_, ?_⟩
    · refine List.Sublist.trans (List.Sublist.filter _ ?_) (hinOrder k)
      exact ((List.sublist_cons_self item after).append_left before).append_left log.taken
    · refine List.Perm.trans ?_ hperm
      have hplaces : (before ++ after ++ (log.lost ++ [item])).Perm
          (before ++ item :: after ++ log.lost) := by
        have hmiddle : (item :: (before ++ (after ++ log.lost))).Perm
            (before ++ item :: (after ++ log.lost)) := List.perm_middle.symm
        rw [← List.append_assoc]
        refine List.perm_append_comm.trans ?_
        rw [List.append_assoc before, List.append_assoc before]
        exact hmiddle
      rw [List.append_assoc log.taken, List.append_assoc log.taken]
      exact hplaces.append_left _

/-- What was taken is in the order of the appending. -/
theorem taken_sublist (h : Delivers partition appended log) (k : κ) :
    (on partition k log.taken).Sublist (on partition k appended) := by
  refine List.Sublist.trans ?_ (h.inOrder k)
  rw [on_append]
  exact List.sublist_append_left _ _

/-- **Without a loss** nothing is missing from a partition: what was taken, then what waits, is
what was appended. -/
theorem complete (h : Delivers partition appended log) (hlost : log.lost = []) (k : κ) :
    on partition k log.taken ++ on partition k log.waiting = on partition k appended := by
  rw [← on_append]
  refine (h.inOrder k).eq_of_length ?_
  have hperm := h.perm
  rw [hlost, List.append_nil] at hperm
  exact (hperm.filter _).length_eq

/-- Everything that was taken or waits was appended. -/
theorem mem_of_mem (h : Delivers partition appended log)
    (hitem : item ∈ log.taken ∨ item ∈ log.waiting) : item ∈ appended := by
  refine h.perm.mem_iff.mp ?_
  rw [List.mem_append, List.mem_append]
  exact .inl hitem

end Delivers

end PartitionedLog

end Ros2Dispatcher
