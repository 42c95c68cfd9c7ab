import Mathlib.Tactic.Common

/-!
# Fallible stateful procedures and their weakest preconditions

A procedure of type `EStateM ε σ α` runs from a state `σ` and ends either with a value or
with an error, and in both cases with a state: what a failed call did before it failed
stays done. `wp m Q E s` says that `m`, run from `s`, ends in `Q` when it returns and in
`E` when it fails. The rules below compute `wp` over the monadic combinators, so that a
procedure is verified from one specification per procedure it calls:

* `wp_pure`, `wp_throw`, `wp_bind`, `wp_get`, `wp_modify`, `wp_ite`: the symbolic rules;
* `wp_mono`, `wp_and`, `wp_trivial`: consequence, conjunction, and nothing to show;
* `wp_forM`: the loop rule, with an invariant over the part of the list still to do;
* `attempt`: run a procedure and hand its error to the caller as a value, with `wp_attempt`
  and `attempt_bind_eq`;
* `Keeps Φ P m`: `m` preserves `P` whether it returns or fails, and its errors satisfy `Φ`,
  with one closure rule per combinator;
* `Yields Φ P Q m`: `m` keeps `P` and returns only values in `Q`;
* `final m s`: the state `m` ends in, either way.
-/

namespace Ros2Dispatcher.Procedure

variable {ε σ α β : Type}

/-- The **weakest precondition** of `m` for the postcondition `Q` on return and `E` on
failure. -/
def wp (m : EStateM ε σ α) (Q : α → σ → Prop) (E : ε → σ → Prop) (s : σ) : Prop :=
  match m s with
  | .ok a s' => Q a s'
  | .error e s' => E e s'

variable {Q Q' : α → σ → Prop} {E E' : ε → σ → Prop} {s : σ}

/-! ### Symbolic rules -/

@[simp]
theorem wp_pure {a : α} : wp (pure a : EStateM ε σ α) Q E s ↔ Q a s :=
  Iff.rfl

@[simp]
theorem wp_throw {e : ε} : wp (throw e : EStateM ε σ α) Q E s ↔ E e s :=
  Iff.rfl

@[simp]
theorem wp_bind {m : EStateM ε σ β} {f : β → EStateM ε σ α} :
    wp (m >>= f) Q E s ↔ wp m (fun b => wp (f b) Q E) E s := by
  simp only [wp, bind, EStateM.bind]
  cases m s <;> rfl

@[simp]
theorem wp_map {m : EStateM ε σ β} {f : β → α} :
    wp (f <$> m) Q E s ↔ wp m (fun b => Q (f b)) E s := by
  simp only [wp, Functor.map, EStateM.map]
  cases m s <;> rfl

@[simp]
theorem wp_get {Q : σ → σ → Prop} : wp (get : EStateM ε σ σ) Q E s ↔ Q s s :=
  Iff.rfl

@[simp]
theorem wp_set {s' : σ} {Q : PUnit → σ → Prop} :
    wp (set s' : EStateM ε σ PUnit) Q E s ↔ Q ⟨⟩ s' :=
  Iff.rfl

@[simp]
theorem wp_modify {f : σ → σ} {Q : PUnit → σ → Prop} :
    wp (modify f : EStateM ε σ PUnit) Q E s ↔ Q ⟨⟩ (f s) :=
  Iff.rfl

theorem wp_ite {c : Prop} [Decidable c] {m n : EStateM ε σ α} :
    wp (if c then m else n) Q E s ↔ (c → wp m Q E s) ∧ (¬c → wp n Q E s) := by
  by_cases h : c <;> simp [h]

/-! ### Consequence -/

theorem wp_mono {m : EStateM ε σ α} (h : wp m Q E s) (hQ : ∀ a s', Q a s' → Q' a s')
    (hE : ∀ e s', E e s' → E' e s') : wp m Q' E' s := by
  unfold wp at h ⊢
  cases hm : m s with
  | ok a s' => rw [hm] at h; exact hQ a s' h
  | error e s' => rw [hm] at h; exact hE e s' h

/-- Two specifications of one procedure hold together. -/
theorem wp_and {m : EStateM ε σ α} (h : wp m Q E s) (h' : wp m Q' E' s) :
    wp m (fun a s' => Q a s' ∧ Q' a s') (fun e s' => E e s' ∧ E' e s') s := by
  unfold wp at h h' ⊢
  cases hm : m s with
  | ok a s' => rw [hm] at h h'; exact ⟨h, h'⟩
  | error e s' => rw [hm] at h h'; exact ⟨h, h'⟩

theorem wp_trivial {m : EStateM ε σ α} : wp m (fun _ _ => True) (fun _ _ => True) s := by
  unfold wp
  cases m s <;> trivial

/-- A run is a specification of itself. -/
theorem wp_self {m : EStateM ε σ α} :
    wp m (fun a s' => m s = .ok a s') (fun e s' => m s = .error e s') s := by
  unfold wp
  cases m s <;> rfl

/-- A run that failed meets what its failure meets. -/
theorem wp_of_error {m : EStateM ε σ α} {e : ε} {s' : σ} (hm : m s = .error e s')
    (h : E e s') : wp m Q E s := by
  unfold wp
  rwa [hm]

/-- A specification read at a run that returned. -/
theorem of_wp_ok {m : EStateM ε σ α} {a : α} {s' : σ} (h : wp m Q E s)
    (hm : m s = .ok a s') : Q a s' := by
  unfold wp at h
  rwa [hm] at h

/-- A specification read at a run that failed. -/
theorem of_wp_error {m : EStateM ε σ α} {e : ε} {s' : σ} (h : wp m Q E s)
    (hm : m s = .error e s') : E e s' := by
  unfold wp at h
  rwa [hm] at h

/-- A run that returned is what a specification without failures says of it. -/
theorem eq_ok_iff_wp {m : EStateM ε σ α} {a : α} {s' : σ} :
    m s = .ok a s' ↔ wp m (fun b t => b = a ∧ t = s') (fun _ _ => False) s := by
  unfold wp
  cases m s with
  | ok b t => exact EStateM.Result.ok.injEq b t a s' ▸ Iff.rfl
  | error e t => exact iff_of_false (fun h => by cases h) id

/-- A procedure that cannot fail returns. -/
theorem exists_ok_of_wp {m : EStateM ε σ α} (h : wp m Q (fun _ _ => False) s) :
    ∃ a s', m s = .ok a s' ∧ Q a s' := by
  unfold wp at h
  cases hm : m s with
  | ok a s' => rw [hm] at h; exact ⟨a, s', rfl, h⟩
  | error e s' => rw [hm] at h; exact h.elim

/-- A procedure that cannot return fails. -/
theorem exists_error_of_wp {m : EStateM ε σ α} (h : wp m (fun _ _ => False) E s) :
    ∃ e s', m s = .error e s' ∧ E e s' := by
  unfold wp at h
  cases hm : m s with
  | ok a s' => rw [hm] at h; exact h.elim
  | error e s' => rw [hm] at h; exact ⟨e, s', rfl, h⟩

/-- The state `m` returns in, if it returns. -/
def returned (m : EStateM ε σ α) (s : σ) : Option σ :=
  match m s with
  | .ok _ s' => some s'
  | .error _ _ => none

theorem returned_eq_some {m : EStateM ε σ PUnit} {s s' : σ} :
    returned m s = some s' ↔ m s = .ok ⟨⟩ s' := by
  unfold returned
  cases m s <;> simp

/-- The state `m` ends in, whether it returns or fails. -/
def final (m : EStateM ε σ α) (s : σ) : σ :=
  match m s with
  | .ok _ s' => s'
  | .error _ s' => s'

theorem of_wp_final {m : EStateM ε σ α} {P : σ → Prop}
    (h : wp m (fun _ s' => P s') (fun _ s' => P s') s) : P (final m s) := by
  unfold wp at h
  unfold final
  cases hm : m s with
  | ok a s' => rwa [hm] at h
  | error e s' => rwa [hm] at h

/-! ### Loops -/

/-- **Loop rule.** `I xs` is the invariant when `xs` is still to do: it holds of the whole
list at the start, one round of the body takes `I (x :: xs)` to `I xs` or fails in `E`, and
`I []` gives the postcondition. -/
theorem wp_forM {f : β → EStateM ε σ PUnit} {Q : PUnit → σ → Prop} (I : List β → σ → Prop)
    (hbody : ∀ x xs s, I (x :: xs) s → wp (f x) (fun _ => I xs) E s)
    (hdone : ∀ s, I [] s → Q ⟨⟩ s)
    (xs : List β) (s : σ) (h : I xs s) : wp (forM xs f) Q E s := by
  induction xs generalizing s with
  | nil => exact hdone s h
  | cons x xs ih =>
    rw [List.forM_cons, wp_bind]
    exact wp_mono (hbody x xs s h) (fun _ s' h' => ih s' h') fun _ _ h' => h'

/-! ### Handing an error to the caller -/

/-- Run `m` and return its error as a value; errors outside the range of `caught` pass
through. -/
def attempt {ε' : Type} (caught : ε → Option ε') (m : EStateM ε σ α) :
    EStateM ε σ (Except ε' α) := fun s =>
  match m s with
  | .ok a s' => .ok (.ok a) s'
  | .error e s' =>
    match caught e with
    | some e' => .ok (.error e') s'
    | none => .error e s'

@[simp]
theorem wp_attempt {ε' : Type} {caught : ε → Option ε'} {m : EStateM ε σ α}
    {Q : Except ε' α → σ → Prop} :
    wp (attempt caught m) Q E s ↔
      wp m (fun a => Q (.ok a))
        (fun e s' => match caught e with
          | some e' => Q (.error e') s'
          | none => E e s') s := by
  unfold wp attempt
  rcases m s with ⟨a, s'⟩ | ⟨e, s'⟩
  · rfl
  · cases h : caught e <;> simp [h]

/-- **Early return.** A caller that treats the errors of two calls alike can treat those of
the first before it makes the second. -/
theorem attempt_bind_eq {ε' γ : Type} {caught : ε → Option ε'} {m : EStateM ε σ β}
    {f : β → EStateM ε σ α} {k : Except ε' α → EStateM ε σ γ} {g : Except ε' β → EStateM ε σ γ}
    (herror : ∀ e, k (.error e) = g (.error e))
    (hok : ∀ b, attempt caught (f b) >>= k = g (.ok b)) :
    attempt caught (m >>= f) >>= k = attempt caught m >>= g := by
  have hnext : ∀ b s, (attempt caught (f b) >>= k) s = g (.ok b) s := fun b s => by rw [hok]
  funext s
  simp only [attempt, bind, EStateM.bind] at hnext ⊢
  rcases m s with ⟨b, s'⟩ | ⟨e, s'⟩
  · exact hnext b s'
  · dsimp only
    cases caught e with
    | none => rfl
    | some e' => exact congrFun (herror e') s'

/-! ### Preserved properties -/

/-- `m` **keeps** `P`: it holds afterwards if it held before, on return and on failure, and
the errors of `m` satisfy `Φ`. -/
def Keeps (Φ : ε → Prop) (P : σ → Prop) (m : EStateM ε σ α) : Prop :=
  ∀ s, P s → wp m (fun _ => P) (fun e s' => Φ e ∧ P s') s

namespace Keeps

variable {Φ : ε → Prop} {P : σ → Prop}

protected theorem pure {a : α} : Keeps Φ P (pure a : EStateM ε σ α) :=
  fun _ h => h

protected theorem throw {e : ε} (he : Φ e) : Keeps Φ P (throw e : EStateM ε σ α) :=
  fun _ h => ⟨he, h⟩

protected theorem bind {m : EStateM ε σ β} {f : β → EStateM ε σ α} (hm : Keeps Φ P m)
    (hf : ∀ b, Keeps Φ P (f b)) : Keeps Φ P (m >>= f) := fun s h =>
  wp_bind.mpr (wp_mono (hm s h) (fun b s' h' => hf b s' h') fun _ _ h' => h')

protected theorem ite {c : Prop} [Decidable c] {m n : EStateM ε σ α} (hm : Keeps Φ P m)
    (hn : Keeps Φ P n) : Keeps Φ P (if c then m else n) := by
  split
  · exact hm
  · exact hn

protected theorem forM {f : β → EStateM ε σ PUnit} (hf : ∀ b, Keeps Φ P (f b))
    (xs : List β) : Keeps Φ P (forM xs f) := fun s h =>
  wp_forM (fun _ => P) (fun x _ s' h' => hf x s' h') (fun _ h' => h') xs s h

protected theorem attempt {ε' : Type} {caught : ε → Option ε'} {m : EStateM ε σ α}
    (hm : Keeps Φ P m) : Keeps Φ P (attempt caught m) := fun s h => by
  rw [wp_attempt]
  refine wp_mono (hm s h) (fun _ _ h' => h') fun e _ h' => ?_
  cases caught e with
  | none => exact h'
  | some e' => exact h'.2

/-- Two properties of the errors. -/
protected theorem and {Ψ : ε → Prop} {m : EStateM ε σ α} (h : Keeps Φ P m) (h' : Keeps Ψ P m) :
    Keeps (fun e => Φ e ∧ Ψ e) P m := fun s hs =>
  wp_mono (wp_and (h s hs) (h' s hs)) (fun _ _ hP => hP.1) fun _ _ hE => ⟨⟨hE.1.1, hE.2.1⟩, hE.1.2⟩

end Keeps

/-- `m` keeps `P` and **yields** only values that satisfy `Q`. -/
def Yields (Φ : ε → Prop) (P : σ → Prop) (Q : α → Prop) (m : EStateM ε σ α) : Prop :=
  ∀ s, P s → wp m (fun a s' => Q a ∧ P s') (fun e s' => Φ e ∧ P s') s

theorem yields_true {Φ : ε → Prop} {P : σ → Prop} {m : EStateM ε σ α} :
    Yields Φ P (fun _ => True) m ↔ Keeps Φ P m := by
  simp only [Yields, Keeps, true_and]

namespace Yields

variable {Φ : ε → Prop} {P : σ → Prop} {Q : α → Prop}

protected theorem pure {a : α} (ha : Q a) : Yields Φ P Q (pure a : EStateM ε σ α) :=
  fun _ h => ⟨ha, h⟩

protected theorem bind {m : EStateM ε σ β} {f : β → EStateM ε σ α} (hm : Keeps Φ P m)
    (hf : ∀ b, Yields Φ P Q (f b)) : Yields Φ P Q (m >>= f) := fun s h =>
  wp_bind.mpr (wp_mono (hm s h) (fun b s' h' => hf b s' h') fun _ _ h' => h')

protected theorem map {R : β → Prop} {f : β → α} {m : EStateM ε σ β} (hm : Yields Φ P R m)
    (hf : ∀ b, R b → Q (f b)) : Yields Φ P Q (f <$> m) := fun s h =>
  wp_map.mpr (wp_mono (hm s h) (fun b _ h' => ⟨hf b h'.1, h'.2⟩) fun _ _ h' => h')

protected theorem ite {c : Prop} [Decidable c] {m n : EStateM ε σ α} (hm : Yields Φ P Q m)
    (hn : Yields Φ P Q n) : Yields Φ P Q (if c then m else n) := by
  split
  · exact hm
  · exact hn

/-- A caller that goes on after an error knows of it what its callee's errors satisfy. -/
protected theorem attempt_bind {ε' : Type} {caught : ε → Option ε'} {m : EStateM ε σ β}
    {k : Except ε' β → EStateM ε σ α} (hm : Keeps Φ P m)
    (herror : ∀ e e', Φ e → caught e = some e' → Yields Φ P Q (k (.error e')))
    (hok : ∀ b, Yields Φ P Q (k (.ok b))) : Yields Φ P Q (attempt caught m >>= k) := fun s h => by
  rw [wp_bind, wp_attempt]
  refine wp_mono (hm s h) (fun b s' h' => hok b s' h') fun e s' h' => ?_
  cases hcaught : caught e with
  | none => exact h'
  | some e' => exact herror e e' h'.1 hcaught s' h'.2

end Yields

end Ros2Dispatcher.Procedure
