import Mathlib.Data.List.Nodup
import Mathlib.Data.List.Perm.Basic
import Ros2Dispatcher.Library.Runs

/-!
# Retry queues

A retry queue is offered items. It settles an item at once, or holds it in a bounded buffer
and settles it later, from the front; a settled item is accepted, failed or dropped. The
buffer can also be discarded, and with it the items in it. `RetryQueue` is the buffer
together with the history of all items, and `RetryQueue.step` what can happen to it.

* `Conserved`: every item offered is in exactly one place, and the buffer has only items that
  were held; kept by every move.
* `InOrder`: the accepted items, followed by those that wait, are in the order they were
  offered in; kept by every move except an item accepted at once past others that wait.
* `waiting_le`, `lossless`: the bound, and runs without losses.
-/

namespace Ros2Dispatcher

/-- What becomes of an item that is settled. -/
inductive Fate
  | accepted
  | failed
  | dropped
deriving DecidableEq, Repr

/-- The items offered to a retry queue, in order, and where they are. `held` keeps every item
that was ever put into the buffer; `waiting` is the buffer. -/
structure RetryQueue (α : Type) where
  offered : List α := []
  held : List α := []
  waiting : List α := []
  accepted : List α := []
  failed : List α := []
  dropped : List α := []
  discarded : List α := []

/-- What can happen to a retry queue. -/
inductive RetryQueue.Move (α : Type)
  | pass (fate : Fate) (x : α)
  | hold (x : α)
  | settle (fate : Fate)
  | discard

namespace RetryQueue

variable {α : Type}

/-- Settle an item. -/
def assign (q : RetryQueue α) (x : α) : Fate → RetryQueue α
  | .accepted => { q with accepted := q.accepted ++ [x] }
  | .failed => { q with failed := q.failed ++ [x] }
  | .dropped => { q with dropped := q.dropped ++ [x] }

/-- One move of a retry queue whose buffer has room for `capacity` items. -/
def step (capacity : Nat) (q : RetryQueue α) : Move α → Option (RetryQueue α)
  | .pass fate x => some ({ q with offered := q.offered ++ [x] }.assign x fate)
  | .hold x =>
    if q.waiting.length < capacity then
      some { q with
        offered := q.offered ++ [x], held := q.held ++ [x], waiting := q.waiting ++ [x] }
    else none
  | .settle fate =>
    match q.waiting with
    | [] => none
    | x :: rest => some ({ q with waiting := rest }.assign x fate)
  | .discard => some { q with discarded := q.discarded ++ q.waiting, waiting := [] }

/-- The items settled so far. -/
def settled (q : RetryQueue α) : List α :=
  q.accepted ++ q.failed ++ q.dropped

variable {capacity : Nat} {q q' : RetryQueue α} {x : α} {rest : List α} {fate : Fate}
variable {C : RetryQueue α → Move α → Prop}

/-! ### Assigning a fate -/

@[simp]
theorem offered_assign : (q.assign x fate).offered = q.offered := by
  cases fate <;> rfl

@[simp]
theorem held_assign : (q.assign x fate).held = q.held := by
  cases fate <;> rfl

@[simp]
theorem waiting_assign : (q.assign x fate).waiting = q.waiting := by
  cases fate <;> rfl

@[simp]
theorem discarded_assign : (q.assign x fate).discarded = q.discarded := by
  cases fate <;> rfl

/-- Settling adds one item to those settled. -/
theorem perm_settled_assign (q : RetryQueue α) (x : α) (fate : Fate) :
    (q.settled ++ [x]).Perm (q.assign x fate).settled := by
  cases fate with
  | accepted =>
    simp only [assign, settled, List.append_assoc]
    exact .append_left _ (.trans (by simp) List.perm_append_comm)
  | failed =>
    simp only [assign, settled, List.append_assoc]
    exact .append_left _ (.append_left _ List.perm_append_comm)
  | dropped => simp [assign, settled]

/-- What a move can be, and where it leads. -/
theorem step_cases {move : Move α} (h : q.step capacity move = some q') :
    (∃ fate x, move = .pass fate x ∧ q' = { q with offered := q.offered ++ [x] }.assign x fate) ∨
      (∃ x, move = .hold x ∧ q.waiting.length < capacity ∧ q' = { q with
        offered := q.offered ++ [x], held := q.held ++ [x], waiting := q.waiting ++ [x] }) ∨
      (∃ fate x rest, move = .settle fate ∧ q.waiting = x :: rest ∧
        q' = { q with waiting := rest }.assign x fate) ∨
      move = .discard ∧ q' = { q with discarded := q.discarded ++ q.waiting, waiting := [] } := by
  cases move with
  | pass fate x => exact .inl ⟨fate, x, rfl, (Option.some.inj h).symm⟩
  | hold x =>
    rw [step, Option.ite_none_right_eq_some] at h
    exact .inr (.inl ⟨x, rfl, h.1, (Option.some.inj h.2).symm⟩)
  | settle fate =>
    rw [step] at h
    split at h
    · cases h
    next x rest hwaiting =>
      exact .inr (.inr (.inl ⟨fate, x, rest, rfl, hwaiting, (Option.some.inj h).symm⟩))
  | discard => exact .inr (.inr (.inr ⟨rfl, (Option.some.inj h).symm⟩))

/-! ### Conservation -/

/-- Every item offered is settled, discarded or waiting, as often as it was offered, and the
items that wait were held. -/
structure Conserved (q : RetryQueue α) : Prop where
  perm : q.offered.Perm (q.settled ++ q.discarded ++ q.waiting)
  waiting_held : q.waiting ⊆ q.held
  held_offered : q.held ⊆ q.offered

theorem Conserved.empty : ({} : RetryQueue α).Conserved :=
  ⟨.refl _, List.nil_subset _, List.nil_subset _⟩

private theorem perm_shift {s d w : List α} : (s ++ d ++ w ++ [x]).Perm (s ++ [x] ++ d ++ w) := by
  simp only [List.append_assoc]
  refine .append_left _ ?_
  rw [← List.append_assoc, ← List.append_assoc]
  exact List.perm_append_comm.trans (by simp)

/-- Every move keeps the items. -/
theorem Conserved.step {move : Move α} (h : q.Conserved)
    (hstep : q.step capacity move = some q') : q'.Conserved := by
  rcases step_cases hstep with
    ⟨fate, x, -, rfl⟩ | ⟨x, -, -, rfl⟩ | ⟨fate, x, rest, -, hwaiting, rfl⟩ | ⟨-, rfl⟩
  · refine ⟨?_, ?_, ?_⟩
    · rw [offered_assign, discarded_assign, waiting_assign]
      refine (h.perm.append_right [x]).trans (perm_shift.trans ?_)
      have hsettled := perm_settled_assign { q with offered := q.offered ++ [x] } x fate
      exact (hsettled.append_right _).append_right _
    · rw [waiting_assign, held_assign]
      exact h.waiting_held
    · rw [held_assign, offered_assign]
      exact List.subset_append_of_subset_left _ h.held_offered
  · refine ⟨?_, ?_, ?_⟩
    · refine (h.perm.append_right [x]).trans (.of_eq ?_)
      simp only [settled, List.append_assoc]
    · exact List.append_subset.mpr ⟨List.subset_append_of_subset_left _ h.waiting_held,
        List.subset_append_right _ _⟩
    · exact List.append_subset.mpr ⟨List.subset_append_of_subset_left _ h.held_offered,
        List.subset_append_right _ _⟩
  · have hperm := h.perm
    have hheld := h.waiting_held
    rw [hwaiting] at hperm hheld
    refine ⟨?_, ?_, ?_⟩
    · rw [offered_assign, discarded_assign, waiting_assign]
      have hsettled := perm_settled_assign { q with waiting := rest } x fate
      refine hperm.trans (.trans ?_ ((hsettled.append_right _).append_right _))
      refine ((List.perm_append_singleton x rest).symm.append_left _).trans ?_
      rw [← List.append_assoc]
      exact perm_shift
    · rw [waiting_assign, held_assign]
      exact List.Subset.trans (List.subset_cons_self _ _) hheld
    · rw [held_assign, offered_assign]
      exact h.held_offered
  · refine ⟨h.perm.trans (.of_eq ?_), List.nil_subset _, h.held_offered⟩
    simp only [settled, List.append_assoc, List.append_nil]

theorem Conserved.runs (h : q.Conserved) (hruns : Runs (RetryQueue.step capacity) C q q') :
    q'.Conserved :=
  hruns.invariant (fun _ _ _ h _ hstep => h.step hstep) h

/-- The number of items offered is the sum over the places. -/
theorem Conserved.length_eq (h : q.Conserved) : q.offered.length =
    q.accepted.length + q.failed.length + q.dropped.length + q.discarded.length +
      q.waiting.length := by
  rw [h.perm.length_eq]
  simp only [settled, List.length_append]

/-- If no two items are the same, an item waits exactly when it was held and is neither
settled nor discarded. -/
theorem Conserved.mem_waiting_iff (h : q.Conserved) (hnodup : q.offered.Nodup) :
    x ∈ q.waiting ↔ x ∈ q.held ∧ x ∉ q.settled ∧ x ∉ q.discarded := by
  have hplaces := h.perm.nodup_iff.mp hnodup
  constructor
  · intro hx
    have hdisjoint := List.disjoint_of_nodup_append hplaces
    refine ⟨h.waiting_held hx, fun hs => ?_, fun hd => ?_⟩
    · exact hdisjoint (List.mem_append_left _ hs) hx
    · exact hdisjoint (List.mem_append_right _ hd) hx
  · rintro ⟨hx, hs, hd⟩
    have hmem := h.perm.mem_iff.mp (h.held_offered hx)
    simp only [List.mem_append] at hmem
    exact hmem.resolve_left (not_or.mpr ⟨hs, hd⟩)

/-! ### The bound -/

/-- The buffer never has more than `capacity` items. -/
theorem waiting_le (hruns : Runs (RetryQueue.step capacity) C q q')
    (h : q.waiting.length ≤ capacity) : q'.waiting.length ≤ capacity := by
  refine hruns.invariant (I := fun q => q.waiting.length ≤ capacity)
    (fun q move q' h _ hstep => ?_) h
  rcases step_cases hstep with
    ⟨fate, x, -, rfl⟩ | ⟨x, -, hroom, rfl⟩ | ⟨fate, x, rest, -, hwaiting, rfl⟩ | ⟨-, rfl⟩
  · rwa [waiting_assign]
  · rw [List.length_append]
    exact hroom
  · rw [hwaiting] at h
    rw [waiting_assign]
    exact Nat.le_of_succ_le h
  · exact Nat.zero_le _

/-! ### Losses -/

/-- Nothing is lost while the buffer is empty whenever it is discarded. -/
theorem discarded_eq_nil (hruns : Runs (RetryQueue.step capacity)
      (fun q move => move = .discard → q.waiting = []) q q')
    (h : q.discarded = []) : q'.discarded = [] := by
  refine hruns.invariant (I := fun q => q.discarded = []) (fun q move q' h hC hstep => ?_) h
  rcases step_cases hstep with
    ⟨fate, x, -, rfl⟩ | ⟨x, -, -, rfl⟩ | ⟨fate, x, rest, -, -, rfl⟩ | ⟨hmove, rfl⟩
  · rwa [discarded_assign]
  · exact h
  · rwa [discarded_assign]
  · rw [h, hC hmove, List.append_nil]

/-- In a run without losses, every item offered is settled or waits. -/
theorem lossless (hruns : Runs (RetryQueue.step capacity)
      (fun q move => move = .discard → q.waiting = []) {} q) :
    q.Conserved ∧ q.discarded = [] ∧ q.offered.Perm (q.settled ++ q.waiting) ∧
      q.offered.length =
        q.accepted.length + q.failed.length + q.dropped.length + q.waiting.length := by
  have hdiscarded : q.discarded = [] := discarded_eq_nil hruns rfl
  have hconserved : q.Conserved := Conserved.empty.runs hruns
  have hperm := hconserved.perm
  have hlength := hconserved.length_eq
  rw [hdiscarded] at hperm hlength
  rw [List.append_nil] at hperm
  exact ⟨hconserved, hdiscarded, hperm, hlength⟩

/-! ### Order -/

/-- The accepted items, then those that wait, are in the order they were offered in. -/
def InOrder (q : RetryQueue α) : Prop :=
  (q.accepted ++ q.waiting).Sublist q.offered

/-- A move keeps the order if it accepts an item at once only when none waits. -/
theorem InOrder.step {move : Move α} (h : q.InOrder)
    (hturn : ∀ x, move = .pass .accepted x → q.waiting = [])
    (hstep : q.step capacity move = some q') : q'.InOrder := by
  unfold InOrder at h ⊢
  rcases step_cases hstep with
    ⟨fate, x, rfl, rfl⟩ | ⟨x, -, -, rfl⟩ | ⟨fate, x, rest, -, hwaiting, rfl⟩ | ⟨-, rfl⟩
  · rw [offered_assign, waiting_assign]
    cases fate with
    | accepted =>
      rw [hturn x rfl, List.append_nil] at h
      rw [hturn x rfl, List.append_nil]
      exact h.append_right [x]
    | failed => exact h.trans (List.sublist_append_left _ _)
    | dropped => exact h.trans (List.sublist_append_left _ _)
  · rw [← List.append_assoc]
    exact h.append_right [x]
  · rw [hwaiting] at h
    rw [offered_assign, waiting_assign]
    have hrest := ((List.sublist_cons_self x rest).append_left q.accepted).trans h
    cases fate with
    | accepted => simpa [assign] using h
    | failed => exact hrest
    | dropped => exact hrest
  · rw [List.append_nil]
    exact (List.sublist_append_left _ _).trans h

theorem InOrder.runs (h : q.InOrder) (hruns : Runs (RetryQueue.step capacity)
    (fun q move => ∀ x, move = .pass .accepted x → q.waiting = []) q q') : q'.InOrder :=
  hruns.invariant (fun _ _ _ h hturn hstep => h.step hturn hstep) h

end RetryQueue

end Ros2Dispatcher
