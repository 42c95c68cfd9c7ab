import Mathlib.Algebra.Order.Floor.Semiring
import Mathlib.Data.List.Sort
import Mathlib.Data.Rat.Floor
import Mathlib.Tactic.Linarith

/-!
# Ranks in a list

In a sorted list the entry at an index tells how many entries are at most a bound
(`lt_countP_le_iff`). An entry covers a share of a list if that share of the entries is at most
it (`CoversShare`). The share is a rational number.

* `coversShare_getElem_of_le`: an entry covers every share that its rank reaches.
* `coversShare_getElem_iff`: where the share reaches beyond that by less than one entry, the entry
  covers it exactly if the next one is equal to it.
-/

namespace Ros2Dispatcher.Ranks

variable {α : Type} [LinearOrder α] {xs ys : List α} {x : α} {share : ℚ} {i k : ℕ}

/-- The entries of a sorted list that are at most a bound come first. -/
theorem lt_countP_le_iff (h : xs.SortedLE) (hi : i < xs.length) :
    i < xs.countP (· ≤ x) ↔ xs[i] ≤ x := by
  induction xs generalizing i with
  | nil => exact absurd hi (Nat.not_lt_zero i)
  | cons y ys ih =>
    obtain ⟨hhead, htail⟩ := List.pairwise_cons.mp h.pairwise
    by_cases hy : y ≤ x
    · rw [List.countP_cons_of_pos (by simpa using hy)]
      cases i with
      | zero => exact iff_of_true (Nat.succ_pos _) hy
      | succ i => exact Nat.succ_lt_succ_iff.trans (ih htail.sortedLE (Nat.lt_of_succ_lt_succ hi))
    -- the first entry is the least, so that none is at most the bound
    · have hleast : ∀ z ∈ y :: ys, y ≤ z := List.forall_mem_cons.mpr ⟨le_rfl, hhead⟩
      have habove : ∀ z ∈ y :: ys, ¬z ≤ x := fun z hz hzx => hy ((hleast z hz).trans hzx)
      have hnone : (y :: ys).countP (· ≤ x) = 0 :=
        List.countP_eq_zero.mpr fun z hz => by simpa using habove z hz
      rw [hnone]
      exact iff_of_false (Nat.not_lt_zero i) (habove _ (List.getElem_mem hi))

/-- An entry of a sorted list is at least as great as all up to it. -/
theorem lt_countP_getElem (h : xs.SortedLE) (hk : k < xs.length) :
    k < xs.countP (· ≤ xs[k]) :=
  (lt_countP_le_iff h hk).mpr le_rfl

/-- At least the share of the list is at most the entry. -/
structure CoversShare (share : ℚ) (xs : List α) (x : α) : Prop where
  mem : x ∈ xs
  share_le : share * xs.length ≤ xs.countP (· ≤ x)

/-- The order of the list does not matter. -/
theorem coversShare_perm (h : xs.Perm ys) : CoversShare share xs x ↔ CoversShare share ys x := by
  have hcount := h.countP_eq (· ≤ x)
  constructor
  · intro ⟨hmem, hshare⟩
    exact ⟨h.mem_iff.mp hmem, by rwa [← h.length_eq, ← hcount]⟩
  · intro ⟨hmem, hshare⟩
    exact ⟨h.mem_iff.mpr hmem, by rwa [h.length_eq, hcount]⟩

/-- An entry covers every share that its rank reaches. -/
theorem coversShare_getElem_of_le (h : xs.SortedLE) (hk : k < xs.length)
    (hshare : share * xs.length ≤ k + 1) : CoversShare share xs xs[k] := by
  refine ⟨List.getElem_mem hk, hshare.trans ?_⟩
  exact_mod_cast lt_countP_getElem h hk

/-- An entry covers a share that lies beyond its rank by at most one exactly if the next entry
is equal to it. -/
theorem coversShare_getElem_iff (h : xs.SortedLE) (hk : k < xs.length)
    (hshare : share * xs.length ≤ k + 2) :
    CoversShare share xs xs[k] ↔ share * xs.length ≤ k + 1 ∨ xs[k + 1]? = xs[k]? := by
  by_cases hreached : share * xs.length ≤ k + 1
  · exact iff_of_true (coversShare_getElem_of_le h hk hreached) (.inl hreached)
  · rw [or_iff_right hreached, List.getElem?_eq_getElem hk]
    constructor
    · intro hcovers
      have hcount : k + 1 < xs.countP (· ≤ xs[k]) := by
        have hlt := (not_le.mp hreached).trans_le hcovers.share_le
        exact_mod_cast hlt
      have hnext : k + 1 < xs.length := hcount.trans_le List.countP_le_length
      have hle := (lt_countP_le_iff h hnext).mp hcount
      rw [List.getElem?_eq_getElem hnext]
      exact congrArg some (hle.antisymm (h.getElem_le_getElem_of_le (Nat.le_succ k)))
    · intro htie
      obtain ⟨hnext, heq⟩ := List.getElem?_eq_some_iff.mp htie
      have hcount := (lt_countP_le_iff h hnext).mpr heq.le
      refine ⟨List.getElem_mem hk, hshare.trans ?_⟩
      exact_mod_cast hcount

/-! ### Rounded ranks -/

section Rounding

variable {n : ℕ}

/-- Rounding the rank up stays in a nonempty list. -/
theorem ceil_rank_lt (hn : 0 < n) (hone : share ≤ 1) : ⌈share * ((n : ℚ) - 1)⌉₊ < n := by
  have hpred : ((n - 1 : ℕ) : ℚ) = (n : ℚ) - 1 := Nat.cast_pred hn
  have hle : share * ((n : ℚ) - 1) ≤ ((n - 1 : ℕ) : ℚ) := by
    rw [hpred]
    exact mul_le_of_le_one_left (hpred ▸ Nat.cast_nonneg (n - 1)) hone
  have hceil := Nat.ceil_le.mpr hle
  omega

/-- So does rounding it down. -/
theorem floor_rank_lt (hn : 0 < n) (hone : share ≤ 1) : ⌊share * ((n : ℚ) - 1)⌋₊ < n :=
  (Nat.floor_le_ceil _).trans_lt (ceil_rank_lt hn hone)

/-- The rank grows with the share. -/
theorem floor_rank_mono {share' : ℚ} (hn : 0 < n) (h : share ≤ share') :
    ⌊share * ((n : ℚ) - 1)⌋₊ ≤ ⌊share' * ((n : ℚ) - 1)⌋₊ := by
  have hone : (1 : ℚ) ≤ n := by exact_mod_cast hn
  exact Nat.floor_mono (mul_le_mul_of_nonneg_right h (sub_nonneg.mpr hone))

/-- The share reaches no further than the entry after the rank rounded down. -/
theorem share_le_floor_rank (hone : share ≤ 1) :
    share * n ≤ ⌊share * ((n : ℚ) - 1)⌋₊ + 2 := by
  have hfloor := Nat.lt_floor_add_one (share * ((n : ℚ) - 1))
  linarith

/-- The share does not reach beyond the rank rounded up. -/
theorem share_le_ceil_rank (hone : share ≤ 1) :
    share * n ≤ ⌈share * ((n : ℚ) - 1)⌉₊ + 1 := by
  have hceil := Nat.le_ceil (share * ((n : ℚ) - 1))
  linarith

end Rounding

end Ros2Dispatcher.Ranks
