import Ros2Dispatcher.Library.Procedure

/-!
# Two procedures side by side

The runs of two procedures from related states agree if both return the same value, or both
fail with related errors, and leave related states behind (`Agrees`). `Related Φ R m m'` says
so of all states related by `R`, and has one rule per combinator: procedures built alike from
related parts are related. The states may be of different types.

* `Related.pure`, `Related.throw`, `Related.bind`, `Related.ite`, `Related.forM`: the
  structural rules;
* `Related.mono`: a weaker relation between the errors;
* `Agrees.attempt`: a caller that sees the error as a value sees the same one on both sides,
  so this rule asks for equal errors, a `Lockstep`;
* `Agrees.attempt_bind`: where both callers only see that there was an error, the errors may
  differ.
-/

namespace Ros2Dispatcher.Procedure

variable {ε σ τ α β : Type}

/-- Two results agree on the value, their errors are related by `Φ`, and their states by
`R`. -/
inductive Agrees (Φ : ε → ε → Prop) (R : σ → τ → Prop) :
    EStateM.Result ε σ α → EStateM.Result ε τ α → Prop
  | ok {a : α} {s : σ} {t : τ} (h : R s t) : Agrees Φ R (.ok a s) (.ok a t)
  | error {e e' : ε} {s : σ} {t : τ} (he : Φ e e') (h : R s t) :
    Agrees Φ R (.error e s) (.error e' t)

/-- From states related by `R`, the results agree. -/
def Related (Φ : ε → ε → Prop) (R : σ → τ → Prop) (m : EStateM ε σ α) (m' : EStateM ε τ α) :
    Prop :=
  ∀ s t, R s t → Agrees Φ R (m s) (m' t)

/-- The results agree, errors included. -/
abbrev Lockstep (R : σ → τ → Prop) (m : EStateM ε σ α) (m' : EStateM ε τ α) : Prop :=
  Related Eq R m m'

variable {Φ Ψ : ε → ε → Prop} {R : σ → τ → Prop} {s : σ} {t : τ}

/-! ### Agreement of two results -/

namespace Agrees

theorem mono {r : EStateM.Result ε σ α} {r' : EStateM.Result ε τ α} (h : Agrees Φ R r r')
    (hΦ : ∀ e e', Φ e e' → Ψ e e') : Agrees Ψ R r r' := by
  cases h with
  | ok h => exact .ok h
  | error he h => exact .error (hΦ _ _ he) h

/-- After first parts that agree, related second parts do. -/
theorem bind {m : EStateM ε σ β} {m' : EStateM ε τ β} {f : β → EStateM ε σ α}
    {f' : β → EStateM ε τ α} (hm : Agrees Φ R (m s) (m' t))
    (hf : ∀ b, Related Φ R (f b) (f' b)) : Agrees Φ R ((m >>= f) s) ((m' >>= f') t) := by
  simp only [Bind.bind, EStateM.bind]
  generalize m s = r at hm ⊢
  generalize m' t = r' at hm ⊢
  cases hm with
  | ok h => exact hf _ _ _ h
  | error he h => exact .error he h

/-- A function of values that agree. -/
theorem map {m : EStateM ε σ β} {m' : EStateM ε τ β} {f : β → α}
    (hm : Agrees Φ R (m s) (m' t)) : Agrees Φ R ((f <$> m) s) ((f <$> m') t) :=
  hm.bind fun _ _ _ h => .ok h

/-- Callers that catch the errors on both sides may go on without a look at them. -/
theorem attempt_bind {ε' : Type} {caught : ε → Option ε'} {m : EStateM ε σ β}
    {m' : EStateM ε τ β} {k : Except ε' β → EStateM ε σ α} {k' : Except ε' β → EStateM ε τ α}
    (hm : Agrees Φ R (m s) (m' t))
    (hcaught : ∀ e e', Φ e e' →
      (∃ x x', caught e = some x ∧ caught e' = some x') ∨ e = e' ∧ caught e = none)
    (herror : ∀ x x', Lockstep R (k (.error x)) (k' (.error x')))
    (hok : ∀ b, Lockstep R (k (.ok b)) (k' (.ok b))) :
    Agrees Eq R ((Procedure.attempt caught m >>= k) s)
      ((Procedure.attempt caught m' >>= k') t) := by
  simp only [Bind.bind, EStateM.bind, Procedure.attempt]
  generalize m s = r at hm ⊢
  generalize m' t = r' at hm ⊢
  cases hm with
  | ok h => exact hok _ _ _ h
  | error he h =>
    dsimp only
    rcases hcaught _ _ he with ⟨x, x', hx, hx'⟩ | ⟨rfl, hnone⟩
    · rw [hx, hx']
      exact herror x x' _ _ h
    · rw [hnone]
      exact .error rfl h

/-- The caller goes on with the same error as a value. -/
theorem attempt {ε' : Type} {caught : ε → Option ε'} {m : EStateM ε σ α} {m' : EStateM ε τ α}
    (hm : Agrees Eq R (m s) (m' t)) :
    Agrees Eq R (attempt caught m s) (attempt caught m' t) := by
  unfold Procedure.attempt
  generalize m s = r at hm ⊢
  generalize m' t = r' at hm ⊢
  cases hm with
  | ok h => exact .ok h
  | error he h =>
    subst he
    dsimp only
    split
    · exact .ok h
    · exact .error rfl h

end Agrees

/-! ### Related procedures -/

namespace Related

protected theorem mono {m : EStateM ε σ α} {m' : EStateM ε τ α} (h : Related Φ R m m')
    (hΦ : ∀ e e', Φ e e' → Ψ e e') : Related Ψ R m m' := fun s t hR =>
  (h s t hR).mono hΦ

protected theorem pure {a : α} :
    Related Φ R (pure a : EStateM ε σ α) (pure a : EStateM ε τ α) :=
  fun _ _ h => .ok h

protected theorem throw {e e' : ε} (he : Φ e e') :
    Related Φ R (throw e : EStateM ε σ α) (throw e' : EStateM ε τ α) :=
  fun _ _ h => .error he h

protected theorem bind {m : EStateM ε σ β} {m' : EStateM ε τ β} {f : β → EStateM ε σ α}
    {f' : β → EStateM ε τ α} (hm : Related Φ R m m') (hf : ∀ b, Related Φ R (f b) (f' b)) :
    Related Φ R (m >>= f) (m' >>= f') := fun s t h =>
  (hm s t h).bind hf

protected theorem ite {c : Prop} [Decidable c] {m n : EStateM ε σ α} {m' n' : EStateM ε τ α}
    (hm : Related Φ R m m') (hn : Related Φ R n n') :
    Related Φ R (if c then m else n) (if c then m' else n') := by
  split
  · exact hm
  · exact hn

protected theorem forM {f : β → EStateM ε σ PUnit} {f' : β → EStateM ε τ PUnit}
    (hf : ∀ b, Related Φ R (f b) (f' b)) (xs : List β) :
    Related Φ R (forM xs f) (forM xs f') := by
  induction xs with
  | nil => exact .pure
  | cons x xs ih =>
    rw [List.forM_cons, List.forM_cons]
    exact .bind (hf x) fun _ => ih

protected theorem attempt {ε' : Type} {caught : ε → Option ε'} {m : EStateM ε σ α}
    {m' : EStateM ε τ α} (hm : Lockstep R m m') :
    Lockstep R (attempt caught m) (attempt caught m') := fun s t h =>
  (hm s t h).attempt

end Related

end Ros2Dispatcher.Procedure
