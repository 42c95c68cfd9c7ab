import Ros2Dispatcher.Controller.SelectionFile
import Ros2Dispatcher.Library.Procedure

/-!
# What the controller runs in

The controller reaches the rest of the system through service clients, the file system and
the clock. `Environment ω` is that interface over an arbitrary outside state `ω`: each
request may change the outside and ends in an `RpcResult`, as the source distinguishes them
(`wait_for_service` gives up, the future is not ready in time, an answer arrives). The
controller's procedures are generic in the environment.

`Controlled ω` is the monad of these procedures: a `bool f(.., std::string & error_out)`
of the source is a `Controlled ω Unit` that fails with the text of `error_out`.
-/

namespace Ros2Dispatcher

/-- How a service request ends. -/
inductive RpcResult (α : Type)
  | unavailable
  | timeout
  | reply (answer : α)
deriving DecidableEq, Repr

/-- `rcl_interfaces/msg/SetParametersResult`. -/
structure SetParametersResult where
  successful : Bool
  reason : String := ""
deriving DecidableEq, Repr

/-- `composition_interfaces/srv/LoadNode` request. -/
structure LoadNodeRequest where
  packageName : String
  pluginName : String
  nodeName : String
  nodeNamespace : String
  parameters : List Parameter
deriving DecidableEq, Repr

/-- `composition_interfaces/srv/LoadNode` response. -/
structure LoadNodeResponse where
  success : Bool
  uniqueId : Nat := 0
  fullNodeName : String := ""
deriving DecidableEq, Repr

/-- The services, files and clock the controller uses. `get_topics` has its
`wait_for_service` apart, since `discover_all_topics` makes another request between waiting
and asking. The list given to `setSubscriptionsYaml` is the one `topics_to_yaml` encodes. -/
structure Environment (ω : Type) where
  yaml : YamlCpp
  getState : Sink → ω → RpcResult LifecycleState × ω
  changeState : Sink → Transition → ω → RpcResult Bool × ω
  setSubscriptionsYaml : Sink → List TopicInfo → ω → RpcResult (List SetParametersResult) × ω
  loadNode : LoadNodeRequest → ω → RpcResult LoadNodeResponse × ω
  unloadNode : Nat → ω → RpcResult Bool × ω
  introspectionAvailable : ω → Bool × ω
  requestTopics : ω → Option (List TopicInfo) × ω
  setIntrospectionEnabled : Bool → ω → RpcResult (List SetParametersResult) × ω
  loadFile : String → ω → Except String Yaml
  now : ω → Time

/-- The controller together with its outside. -/
structure NodeState (ω : Type) where
  ctl : Controller
  env : ω

/-- Procedures of the controller. -/
abbrev Controlled (ω : Type) := EStateM Failure (NodeState ω)

variable {ω α : Type}

/-- Return false with `error_out = message`. -/
def fail (message : String) : Controlled ω α :=
  throw (.error message)

/-- A request to the outside. -/
def request (f : ω → α × ω) : Controlled ω α := fun s =>
  .ok (f s.env).1 { s with env := (f s.env).2 }

/-- Read the members. -/
def members : Controlled ω Controller := fun s =>
  .ok s.ctl s

/-- Write the members. -/
def update (f : Controller → Controller) : Controlled ω PUnit :=
  modify fun s => { s with ctl := f s.ctl }

theorem update_run {f : Controller → Controller} {s : NodeState ω} :
    update f s = .ok ⟨⟩ { s with ctl := f s.ctl } :=
  rfl

/-- `now()`. -/
def now (env : Environment ω) : Controlled ω Time := fun s =>
  .ok (env.now s.env) s

/-- A pure check that fails with a message. -/
def ofExcept : Except String α → Controlled ω α
  | .ok a => pure a
  | .error message => fail message

/-- A pure computation that fails either way. -/
def ofFailure : Except Failure α → Controlled ω α
  | .ok a => pure a
  | .error failure => throw failure

/-- A failure reported through `error_out`. -/
def Failure.IsReported (failure : Failure) : Prop :=
  ∃ message, failure = .error message

/-- The message of a failure reported through `error_out`; exceptions are not caught. -/
def Failure.message? : Failure → Option String
  | .error message => some message
  | .thrown _ => none

/-- Call a procedure and branch on what it returned: `if (!f(.., error)) ..`. -/
def tryCall (m : Controlled ω α) : Controlled ω (Except String α) :=
  Procedure.attempt Failure.message? m

/-! ### Symbolic rules for the primitives -/

open Procedure

variable {Q : α → NodeState ω → Prop} {E : Failure → NodeState ω → Prop} {s : NodeState ω}

@[simp]
theorem wp_fail {message : String} :
    wp (fail message : Controlled ω α) Q E s ↔ E (.error message) s :=
  Iff.rfl

@[simp]
theorem wp_request {f : ω → α × ω} :
    wp (request f) Q E s ↔ Q (f s.env).1 { s with env := (f s.env).2 } :=
  Iff.rfl

@[simp]
theorem wp_members {Q : Controller → NodeState ω → Prop} :
    wp members Q E s ↔ Q s.ctl s :=
  Iff.rfl

@[simp]
theorem wp_update {f : Controller → Controller} {Q : PUnit → NodeState ω → Prop} :
    wp (update f) Q E s ↔ Q ⟨⟩ { s with ctl := f s.ctl } :=
  Iff.rfl

@[simp]
theorem wp_now {env : Environment ω} {Q : Time → NodeState ω → Prop} :
    wp (now env) Q E s ↔ Q (env.now s.env) s :=
  Iff.rfl

theorem wp_ofExcept {x : Except String α} :
    wp (ofExcept x) Q E s ↔
      (∀ a, x = .ok a → Q a s) ∧ ∀ message, x = .error message → E (.error message) s := by
  cases x <;> simp [ofExcept]

theorem wp_ofFailure {x : Except Failure α} :
    wp (ofFailure x) Q E s ↔
      (∀ a, x = .ok a → Q a s) ∧ ∀ failure, x = .error failure → E failure s := by
  cases x <;> simp [ofFailure]

theorem wp_tryCall {m : Controlled ω α} {Q : Except String α → NodeState ω → Prop}
    (h : wp m (fun a => Q (.ok a))
      (fun e s' => (∀ message, e = .error message → Q (.error message) s') ∧
        ∀ what, e = .thrown what → E e s') s) : wp (tryCall m) Q E s := by
  rw [tryCall, wp_attempt]
  refine wp_mono h (fun _ _ hq => hq) fun e s' he => ?_
  cases e with
  | error message => exact he.1 message rfl
  | thrown what => exact he.2 what rfl

end Ros2Dispatcher
