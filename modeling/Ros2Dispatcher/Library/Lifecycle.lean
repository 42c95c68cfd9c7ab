import Mathlib.Logic.Function.Basic
import Ros2Dispatcher.Library.Procedure
import Ros2Dispatcher.Library.Runs

/-!
# Managed nodes

A managed node is a state machine with four primary states whose transitions run a callback
of the node. The callback reports success, failure or an error, and the machine moves on:

* success leads to the goal of the transition;
* failure leads back to where the transition came from, except that a shutdown is final;
* an error is handed to the node's error callback, which either recovers, to
  `unconfigured`, or not, to `finalized`.

`Managed.trigger` is one transition; `Managed.Ends` says how a transition can end, and
`Managed.trigger_cases` that every transition ends so; `Managed.trigger_eq` is the case of a
node that recovers from no error. Between two transitions a node can be
given a batch of parameters (`Managed.step`).

A callback that is a procedure with exceptions is read by `callbackResult`: an exception is an
error. The node's parameter values are a dependent function of their names, and an accepted
batch updates them in order (`storeBatch`); members that follow every single update follow
the batch (`foldl_read`).
-/

namespace Ros2Dispatcher.Lifecycle

/-- The primary states. -/
inductive State
  | unconfigured
  | inactive
  | active
  | finalized
deriving DecidableEq, Repr

inductive Transition
  | configure
  | cleanup
  | activate
  | deactivate
  | shutdown
deriving DecidableEq, Repr

inductive CallbackReturn
  | success
  | failure
  | error
deriving DecidableEq, Repr

namespace Transition

/-- The states a transition starts from. -/
def startsFrom : Transition → State → Bool
  | configure, state => state = .unconfigured
  | cleanup, state => state = .inactive
  | activate, state => state = .inactive
  | deactivate, state => state = .active
  | shutdown, state => state ≠ .finalized

/-- The state after a callback that succeeded. -/
def goal : Transition → State
  | configure => .inactive
  | cleanup => .unconfigured
  | activate => .active
  | deactivate => .inactive
  | shutdown => .finalized

/-- The state after a callback that failed. -/
def fallback : Transition → State → State
  | shutdown, _ => .finalized
  | _, state => state

end Transition

/-- The callbacks of a node with the data `σ`: `ι` is what the outside does during a
transition, `β` a batch of parameters, and `setParameters` the effect of a batch, accepted or
not. -/
structure Managed (ι β σ : Type) where
  callback : Transition → ι → σ → CallbackReturn × σ
  onError : σ → CallbackReturn × σ
  setParameters : State → β → σ → σ

/-- What a node is asked to do: a transition, or to take a batch between two of them. -/
inductive Input (ι β : Type)
  | transition (transition : Transition) (outside : ι)
  | parameters (batch : β)
deriving DecidableEq, Repr

namespace Managed

variable {ι β σ : Type}

/-- The end of an error: recovered or not. -/
def recover (node : Managed ι β σ) (s : σ) : State × σ :=
  match node.onError s with
  | (.success, s') => (.unconfigured, s')
  | (_, s') => (.finalized, s')

/-- One transition; none where the state does not have it. -/
def trigger (node : Managed ι β σ) (transition : Transition) (i : ι) (s : State × σ) :
    Option (State × σ) :=
  if transition.startsFrom s.1 then
    match node.callback transition i s.2 with
    | (.success, s') => some (transition.goal, s')
    | (.failure, s') => some (transition.fallback s.1, s')
    | (.error, s') => some (node.recover s')
  else none

/-- One step of a node. -/
def step (node : Managed ι β σ) (s : State × σ) : Input ι β → Option (State × σ)
  | .transition transition i => node.trigger transition i s
  | .parameters batch => some (s.1, node.setParameters s.1 batch s.2)

/-- How a transition that was started in `state` can end. -/
inductive Ends (node : Managed ι β σ) (transition : Transition) (state : State) (i : ι) (s : σ) :
    State × σ → Prop
  | success {s' : σ} (h : node.callback transition i s = (.success, s')) :
      Ends node transition state i s (transition.goal, s')
  | failure {s' : σ} (h : node.callback transition i s = (.failure, s')) :
      Ends node transition state i s (transition.fallback state, s')
  | error {s' : σ} (h : node.callback transition i s = (.error, s')) :
      Ends node transition state i s (node.recover s')

variable {node : Managed ι β σ} {transition : Transition} {i : ι} {s s' : State × σ}

/-- **Inversion.** A transition starts from one of its states and ends in one of the ways its
callback can. -/
theorem trigger_cases (h : node.trigger transition i s = some s') :
    transition.startsFrom s.1 = true ∧ node.Ends transition s.1 i s.2 s' := by
  unfold trigger at h
  split at h
  next hstart =>
    refine ⟨hstart, ?_⟩
    split at h
    next hcallback =>
      cases h
      exact .success hcallback
    next hcallback =>
      cases h
      exact .failure hcallback
    next hcallback =>
      cases h
      exact .error hcallback
  next => cases h

/-- The state a transition leads to where no error is recovered. -/
def stateAfter (transition : Transition) (state : State) : CallbackReturn → State
  | .success => transition.goal
  | .failure => transition.fallback state
  | .error => .finalized

/-- A shutdown is final. -/
@[simp]
theorem stateAfter_shutdown {state : State} {result : CallbackReturn} :
    stateAfter .shutdown state result = .finalized := by
  cases result <;> rfl

/-- A transition of a node that recovers from no error leads to what its callback leaves. -/
theorem trigger_eq (hrecover : ∀ s, node.onError s = (.failure, s))
    (h : node.trigger transition i s = some s') :
    transition.startsFrom s.1 = true ∧
      s' = (stateAfter transition s.1 (node.callback transition i s.2).1,
        (node.callback transition i s.2).2) := by
  obtain ⟨hstart, hends⟩ := trigger_cases h
  refine ⟨hstart, ?_⟩
  cases hends with
  | success hcallback => simp only [hcallback, stateAfter]
  | failure hcallback => simp only [hcallback, stateAfter]
  | error hcallback => simp only [hcallback, stateAfter, recover, hrecover]

end Managed

/-! ### Callbacks with exceptions -/

section Callbacks

open Procedure

variable {ε σ : Type} {s : σ}

/-- What the lifecycle makes of a callback: an exception is an error. -/
def callbackResult (callback : EStateM ε σ CallbackReturn) (s : σ) : CallbackReturn × σ :=
  match callback s with
  | .ok result s' => (result, s')
  | .error _ s' => (.error, s')

/-- A callback answered as its run says. -/
theorem callbackResult_of_wp {callback : EStateM ε σ CallbackReturn}
    {Φ : CallbackReturn → σ → Prop} (h : wp callback Φ (fun _ s' => Φ .error s') s) :
    Φ (callbackResult callback s).1 (callbackResult callback s).2 := by
  unfold wp at h
  unfold callbackResult
  cases hrun : callback s with
  | ok result s' => rwa [hrun] at h
  | error e s' => rwa [hrun] at h

end Callbacks

/-! ### Parameter values -/

section Parameters

variable {N : Type} [DecidableEq N] {V : N → Type} {μ : Type}

/-- The stored values after a batch; a later value for a name wins. -/
def storeBatch (batch : List ((name : N) × V name)) (stored : (name : N) → V name) :
    (name : N) → V name :=
  batch.foldl (fun stored parameter => Function.update stored parameter.1 parameter.2) stored

/-- Members that are read off the stored values, and follow the update of one of them, follow
a batch. -/
theorem foldl_read {read : ((name : N) → V name) → μ} {assign : μ → ((name : N) × V name) → μ}
    (h : ∀ stored parameter,
      assign (read stored) parameter = read (Function.update stored parameter.1 parameter.2))
    (batch : List ((name : N) × V name)) (stored : (name : N) → V name) :
    batch.foldl assign (read stored) = read (storeBatch batch stored) := by
  induction batch generalizing stored with
  | nil => rfl
  | cons parameter batch ih =>
    rw [List.foldl_cons, h]
    exact ih _

end Parameters

end Ros2Dispatcher.Lifecycle
