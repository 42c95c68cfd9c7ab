import Mathlib.Data.List.Forall2
import Mathlib.Tactic.Common

/-!
# Fallible functions read backwards

A function that returns `Except ε α` is built from fallible parts by `>>=`, `mapM` and
`foldlM`. The rules below say what the parts did when the whole returned:

* `bind_eq_ok_iff`: each of two steps returned;
* `mapM_eq_ok_mem`: every result of a traversal comes from an item;
* `foldlM_eq_ok_invariant`: what every round of a loop keeps holds at its end.

`Ends m Q E` says that `m` returns in `Q` or fails in `E`. A traversal returns if every item
does, and otherwise fails with the first item that fails (`ends_mapM`).
`Fails E m` says only how `m` fails, with one closure rule per combinator.
-/

namespace Ros2Dispatcher.Fallible

variable {ε α β γ : Type}

theorem bind_eq_ok_iff {m : Except ε α} {f : α → Except ε β} {b : β} :
    m >>= f = .ok b ↔ ∃ a, m = .ok a ∧ f a = .ok b := by
  cases m with
  | error e => simp [bind, Except.bind]
  | ok a => simp [bind, Except.bind]

theorem map_eq_ok_iff {m : Except ε α} {f : α → β} {b : β} :
    m.map f = .ok b ↔ ∃ a, m = .ok a ∧ f a = b := by
  cases m with
  | error e => simp [Except.map]
  | ok a => simp [Except.map]

theorem mapM_eq_ok_mem {f : α → Except ε β} {xs : List α} {ys : List β} (h : xs.mapM f = .ok ys) :
    ∀ y ∈ ys, ∃ x ∈ xs, f x = .ok y := by
  induction xs generalizing ys with
  | nil =>
    cases h
    exact nofun
  | cons x xs ih =>
    rw [List.mapM_cons, bind_eq_ok_iff] at h
    obtain ⟨y, hy, h⟩ := h
    obtain ⟨ys', hys', h⟩ := bind_eq_ok_iff.mp h
    cases h
    intro z hz
    rcases List.mem_cons.mp hz with rfl | hz
    · exact ⟨x, List.mem_cons_self, hy⟩
    · obtain ⟨w, hw, hfw⟩ := ih hys' z hz
      exact ⟨w, List.mem_cons_of_mem x hw, hfw⟩

theorem foldlM_eq_ok_invariant {f : β → α → Except ε β} {I : β → Prop}
    (hf : ∀ b a b', I b → f b a = .ok b' → I b') {xs : List α} {b b' : β} (hb : I b)
    (h : xs.foldlM f b = .ok b') : I b' := by
  induction xs generalizing b with
  | nil =>
    cases h
    exact hb
  | cons x xs ih =>
    rw [List.foldlM_cons, bind_eq_ok_iff] at h
    obtain ⟨b₁, hfirst, h⟩ := h
    exact ih (hf b x b₁ hb hfirst) h

/-- Each round of a loop that returned did so. -/
theorem foldlM_eq_ok_mem {f : β → α → Except ε β} {xs : List α} {b b' : β}
    (h : xs.foldlM f b = .ok b') : ∀ x ∈ xs, ∃ c c', f c x = .ok c' := by
  induction xs generalizing b with
  | nil => exact nofun
  | cons x xs ih =>
    rw [List.foldlM_cons, bind_eq_ok_iff] at h
    obtain ⟨b₁, hfirst, h⟩ := h
    exact List.forall_mem_cons.mpr ⟨⟨b, b₁, hfirst⟩, ih h⟩

/-- A loop whose rounds change nothing returns what it began with. -/
theorem foldlM_eq_ok_self {f : β → α → Except ε β} {b : β} (hf : ∀ a, f b a = .ok b)
    (xs : List α) : xs.foldlM f b = .ok b := by
  induction xs with
  | nil => rfl
  | cons x xs ih => rw [List.foldlM_cons, bind_eq_ok_iff.mpr ⟨b, hf x, ih⟩]

/-- A traversal with an optional result has one if every item has. -/
theorem mapM_isSome_iff {f : α → Option β} {xs : List α} :
    (xs.mapM f).isSome = true ↔ ∀ x ∈ xs, (f x).isSome = true := by
  induction xs with
  | nil => simp
  | cons x xs ih =>
    rw [List.mapM_cons, List.forall_mem_cons, ← ih]
    cases hx : f x with
    | none => simp
    | some y => cases hxs : xs.mapM f <;> simp

/-- A traversal with an optional result takes the results of the items. -/
theorem mapM_eq_some_iff {f : α → Option β} {xs : List α} {ys : List β} :
    xs.mapM f = some ys ↔ List.Forall₂ (fun x y => f x = some y) xs ys := by
  induction xs generalizing ys with
  | nil => simp [eq_comm]
  | cons x xs ih =>
    rw [List.mapM_cons, List.forall₂_cons_left_iff]
    simp only [bind, Option.bind_eq_some_iff, ih]
    constructor
    · rintro ⟨y, hy, zs, hzs, h⟩
      exact ⟨y, zs, hy, hzs, (Option.some.inj h).symm⟩
    · rintro ⟨y, zs, hy, hzs, rfl⟩
      exact ⟨y, hy, zs, hzs, rfl⟩

/-- Every result of a traversal comes from an item. -/
theorem mapM_eq_some_mem {f : α → Option β} {xs : List α} {ys : List β}
    (h : xs.mapM f = some ys) : ∀ y ∈ ys, ∃ x ∈ xs, f x = some y := by
  induction mapM_eq_some_iff.mp h with
  | nil => exact nofun
  | cons hxy hrest ih =>
    refine List.forall_mem_cons.mpr ⟨⟨_, List.mem_cons_self, hxy⟩, fun z hz => ?_⟩
    obtain ⟨w, hw, hfw⟩ := ih (mapM_eq_some_iff.mpr hrest) z hz
    exact ⟨w, List.mem_cons_of_mem _ hw, hfw⟩

/-- What the results of a traversal have in common with their items, they have in order. -/
theorem map_eq_of_mapM_eq_some {f : α → Option β} {g : α → γ} {g' : β → γ}
    (hf : ∀ x y, f x = some y → g' y = g x) {xs : List α} {ys : List β}
    (h : xs.mapM f = some ys) : ys.map g' = xs.map g := by
  induction mapM_eq_some_iff.mp h with
  | nil => rfl
  | cons hxy hrest ih =>
    rw [List.map_cons, List.map_cons, hf _ _ hxy, ih (mapM_eq_some_iff.mpr hrest)]

/-! ### Specifications -/

/-- `m` returns in `Q` or fails in `E`. -/
def Ends (m : Except ε α) (Q : α → Prop) (E : ε → Prop) : Prop :=
  match m with
  | .ok a => Q a
  | .error e => E e

variable {Q Q' : α → Prop} {E E' : ε → Prop}

@[simp]
theorem ends_pure {a : α} : Ends (pure a : Except ε α) Q E ↔ Q a :=
  Iff.rfl

@[simp]
theorem ends_bind {m : Except ε β} {f : β → Except ε α} :
    Ends (m >>= f) Q E ↔ Ends m (fun b => Ends (f b) Q E) E := by
  cases m <;> rfl

theorem ends_mono {m : Except ε α} (h : Ends m Q E) (hQ : ∀ a, Q a → Q' a)
    (hE : ∀ e, E e → E' e) : Ends m Q' E' := by
  cases m with
  | ok a => exact hQ a h
  | error e => exact hE e h

/-- **Traversal rule.** All items return, or one fails after those before it returned. -/
theorem ends_mapM {f : α → Except ε β} {Q : α → β → Prop} {E : α → ε → Prop}
    (hf : ∀ x, Ends (f x) (Q x) (E x)) (xs : List α) :
    Ends (xs.mapM f) (List.Forall₂ Q xs) fun e =>
      ∃ before x after, xs = before ++ x :: after ∧ (∀ y ∈ before, ∃ b, Q y b) ∧ E x e := by
  induction xs with
  | nil => exact .nil
  | cons x xs ih =>
    rw [List.mapM_cons, ends_bind]
    have hx := hf x
    cases hfx : f x with
    | error e =>
      rw [hfx] at hx
      exact ⟨[], x, xs, rfl, by simp, hx⟩
    | ok y =>
      rw [hfx] at hx
      refine ends_bind.mpr (ends_mono ih (fun ys hys => .cons hx hys) ?_)
      rintro e ⟨before, x', after, rfl, hbefore, he⟩
      refine ⟨x :: before, x', after, rfl, fun z hz => ?_, he⟩
      rcases List.mem_cons.mp hz with rfl | hz
      · exact ⟨y, hx⟩
      · exact hbefore z hz

/-- `m` **fails** only in `E`. -/
abbrev Fails (E : ε → Prop) (m : Except ε α) : Prop :=
  Ends m (fun _ => True) E

namespace Fails

protected theorem pure {a : α} : Fails E (pure a : Except ε α) :=
  trivial

protected theorem bind {m : Except ε β} {f : β → Except ε α} (hm : Fails E m)
    (hf : ∀ b, Fails E (f b)) : Fails E (m >>= f) :=
  ends_bind.mpr (ends_mono hm (fun b _ => hf b) fun _ he => he)

protected theorem ite {c : Prop} [Decidable c] {m n : Except ε α} (hm : Fails E m)
    (hn : Fails E n) : Fails E (if c then m else n) := by
  split
  · exact hm
  · exact hn

protected theorem mapM {f : α → Except ε β} (hf : ∀ x, Fails E (f x)) (xs : List α) :
    Fails E (xs.mapM f) :=
  ends_mono (ends_mapM hf xs) (fun _ _ => trivial) fun _ ⟨_, _, _, _, _, he⟩ => he

end Fails

end Ros2Dispatcher.Fallible
