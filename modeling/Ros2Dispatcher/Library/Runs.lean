import Mathlib.Logic.Relation

/-!
# Guarded runs of a transition system

A transition system is a partial function `step : σ → ι → Option σ`: in a state, an input
either leads to a next state or cannot happen. `Runs step C s s'` says that some sequence
of inputs leads from `s` to `s'`, each of them satisfying the guard `C` in the state it is
given in; an unrestricted run has the trivial guard.

* `Runs.invariant`: what one guarded step preserves holds all along a run.
* `Runs.simulate`: if every guarded step of one system is matched by a guarded run of
  another, every run is.
* `Path`: a run with its steps, for what relates several of them (`Path.append_iff`,
  `Path.invariant`, `Path.foldl`, `Path.runs`).
-/

namespace Ros2Dispatcher

variable {σ ι : Type}

/-- Some sequence of inputs, each satisfying the guard where it is given, leads from one
state to the other. -/
def Runs (step : σ → ι → Option σ) (C : σ → ι → Prop) : σ → σ → Prop :=
  Relation.ReflTransGen fun s s' => ∃ i, C s i ∧ step s i = some s'

namespace Runs

variable {step : σ → ι → Option σ} {C : σ → ι → Prop} {s s' s'' : σ}

protected theorem refl : Runs step C s s :=
  Relation.ReflTransGen.refl

/-- One more step at the end. -/
protected theorem tail {i : ι} (h : Runs step C s s') (hC : C s' i)
    (hstep : step s' i = some s'') : Runs step C s s'' :=
  Relation.ReflTransGen.tail h ⟨i, hC, hstep⟩

protected theorem single {i : ι} (hC : C s i) (hstep : step s i = some s') : Runs step C s s' :=
  Relation.ReflTransGen.single ⟨i, hC, hstep⟩

protected theorem trans (h : Runs step C s s') (h' : Runs step C s' s'') : Runs step C s s'' :=
  Relation.ReflTransGen.trans h h'

/-- Inputs given one after the other make a run, if the guard admits them in any state. -/
protected theorem of_foldlM {inputs : List ι} (h : inputs.foldlM step s = some s')
    (hC : ∀ i ∈ inputs, ∀ s, C s i) : Runs step C s s' := by
  induction inputs generalizing s with
  | nil =>
    cases h
    exact .refl
  | cons i inputs ih =>
    rw [List.foldlM_cons, Option.bind_eq_bind, Option.bind_eq_some_iff] at h
    obtain ⟨s₁, hstep, h⟩ := h
    rw [List.forall_mem_cons] at hC
    exact (Runs.single (hC.1 s) hstep).trans (ih h hC.2)

/-- A weaker guard admits more runs. -/
protected theorem mono {D : σ → ι → Prop} (h : Runs step C s s')
    (hCD : ∀ s i, C s i → D s i) : Runs step D s s' :=
  Relation.ReflTransGen.mono (fun _ _ ⟨i, hC, hstep⟩ => ⟨i, hCD _ i hC, hstep⟩) _ _ h

/-- **Run rule.** An invariant of the guarded steps holds in every state a run reaches. -/
theorem invariant {I : σ → Prop}
    (hI : ∀ s i s', I s → C s i → step s i = some s' → I s') (h : Runs step C s s')
    (h₀ : I s) : I s' := by
  induction h with
  | refl => exact h₀
  | tail _ hlast ih =>
    obtain ⟨i, hC, hstep⟩ := hlast
    exact hI _ i _ ih hC hstep

/-- **Simulation rule.** `R` relates the states of two systems; it is carried along a run of
the first by a run of the second. -/
theorem simulate {τ κ : Type} {step' : τ → κ → Option τ} {D : τ → κ → Prop} {R : σ → τ → Prop}
    (hR : ∀ s i s' t, R s t → C s i → step s i = some s' → ∃ t', Runs step' D t t' ∧ R s' t')
    {t : τ} (h : Runs step C s s') (h₀ : R s t) : ∃ t', Runs step' D t t' ∧ R s' t' := by
  induction h with
  | refl => exact ⟨t, .refl, h₀⟩
  | tail _ hlast ih =>
    obtain ⟨i, hC, hstep⟩ := hlast
    obtain ⟨t', hruns, hrelated⟩ := ih
    obtain ⟨t'', hruns', hrelated'⟩ := hR _ i _ t' hrelated hC hstep
    exact ⟨t'', hruns.trans hruns', hrelated'⟩

end Runs

/-! ### Paths -/

/-- A **path**: the steps of a run, each with the state it is taken in and its input. -/
def Path (step : σ → ι → Option σ) : σ → List (σ × ι) → σ → Prop
  | s, [], s' => s = s'
  | s, (t, i) :: steps, s' => s = t ∧ ∃ s₁, step s i = some s₁ ∧ Path step s₁ steps s'

namespace Path

variable {step : σ → ι → Option σ} {s s' : σ}

/-- A path goes through the states between its parts. -/
theorem append_iff {steps steps' : List (σ × ι)} :
    Path step s (steps ++ steps') s' ↔ ∃ t, Path step s steps t ∧ Path step t steps' s' := by
  induction steps generalizing s with
  | nil => simp [Path]
  | cons x steps ih =>
    simp only [List.cons_append, Path, ih]
    constructor
    · rintro ⟨rfl, s₁, hstep, t, h, h'⟩
      exact ⟨t, ⟨rfl, s₁, hstep, h⟩, h'⟩
    · rintro ⟨t, ⟨rfl, s₁, hstep, h⟩, h'⟩
      exact ⟨rfl, s₁, hstep, t, h, h'⟩

/-- The path up to a step, and the step. -/
theorem exists_of_mem {steps : List (σ × ι)} (h : Path step s steps s') {x : σ × ι}
    (hx : x ∈ steps) : ∃ before after s₁, steps = before ++ x :: after ∧
      Path step s before x.1 ∧ step x.1 x.2 = some s₁ := by
  obtain ⟨before, after, rfl⟩ := List.append_of_mem hx
  obtain ⟨t, hbefore, rfl, s₁, hstep, -⟩ := append_iff.mp h
  exact ⟨before, after, s₁, rfl, hbefore, hstep⟩

/-- Inputs given one after the other make a path. -/
theorem exists_of_foldlM {inputs : List ι} (h : inputs.foldlM step s = some s') :
    ∃ steps, steps.map Prod.snd = inputs ∧ Path step s steps s' := by
  induction inputs generalizing s with
  | nil =>
    cases h
    exact ⟨[], rfl, rfl⟩
  | cons i inputs ih =>
    rw [List.foldlM_cons, Option.bind_eq_bind, Option.bind_eq_some_iff] at h
    obtain ⟨s₁, hstep, h⟩ := h
    obtain ⟨steps, hsteps, hpath⟩ := ih h
    exact ⟨(s, i) :: steps, by rw [List.map_cons, hsteps], rfl, s₁, hstep, hpath⟩

/-- **Path rule.** What every step preserves holds all along a path. -/
theorem invariant {I : σ → Prop} (hI : ∀ s i s', I s → step s i = some s' → I s')
    {steps : List (σ × ι)} (h : Path step s steps s') (h₀ : I s) :
    (∀ x ∈ steps, I x.1) ∧ I s' := by
  induction steps generalizing s with
  | nil =>
    obtain rfl := h
    exact ⟨nofun, h₀⟩
  | cons x steps ih =>
    obtain ⟨rfl, s₁, hstep, h⟩ := h
    obtain ⟨hsteps, hlast⟩ := ih h (hI _ _ _ h₀ hstep)
    exact ⟨List.forall_mem_cons.mpr ⟨h₀, hsteps⟩, hlast⟩

/-- **Ledger rule.** If every step keeps a relation to what is recorded of the steps, the end of a
path is so related to the record of them all. -/
theorem foldl {α : Type} {record : α → σ × ι → α} {I : α → σ → Prop}
    (hI : ∀ a s i s', I a s → step s i = some s' → I (record a (s, i)) s')
    {steps : List (σ × ι)} (h : Path step s steps s') {a : α} (h₀ : I a s) :
    I (steps.foldl record a) s' := by
  induction steps generalizing s a with
  | nil =>
    obtain rfl := h
    exact h₀
  | cons x steps ih =>
    obtain ⟨rfl, s₁, hstep, h⟩ := h
    exact ih h (hI _ _ _ _ h₀ hstep)

/-- A path whose steps satisfy a guard is a run. -/
theorem runs {C : σ → ι → Prop} {steps : List (σ × ι)} (h : Path step s steps s')
    (hC : ∀ x ∈ steps, C x.1 x.2) : Runs step C s s' := by
  induction steps generalizing s with
  | nil =>
    obtain rfl := h
    exact .refl
  | cons x steps ih =>
    obtain ⟨rfl, s₁, hstep, h⟩ := h
    rw [List.forall_mem_cons] at hC
    exact (Runs.single hC.1 hstep).trans (ih h hC.2)

end Path

end Ros2Dispatcher
