import Ros2Dispatcher.Library.Lifecycle
import Ros2Dispatcher.Sinks.Settings

/-!
# What a sink holds while it runs

`kafka_sink` and `mosquitto_sink` take and release the same things in the same steps: a
client (the producer or the MQTT runtime), one subscription per configured entry, the
publisher and the timer of the metrics. `Resources` is that part of a sink, over the type
`R` of its subscription records, and the procedures are those of the two nodes, under the
names of `kafka_sink`.

What the outside decides during an activation is an `Activation`: how the client starts,
what each `create_generic_subscription` yields, whether the metrics publisher can be
created. An exception leaves the callback where it is thrown, and what was taken before it
stays.
-/

namespace Ros2Dispatcher.Sinks

open Lifecycle

/-! ### The outside of an activation -/

/-- How the construction and the start of the client end. An exception of the constructor
comes before the member is assigned, one of the start after it. -/
inductive StartOutcome
  | started
  | refused
  | constructorThrows
  | startThrows
deriving DecidableEq, Repr

/-- What `create_generic_subscription` yields. -/
inductive CreateOutcome
  | subscription
  | null
  | throws
deriving DecidableEq, Repr

/-- What a call of `load_type_support` returns, and which of the two handles it leaves set;
it returns true only with both of them set. -/
structure LoadOutcome where
  loaded : Bool
  rmw : Bool
  introspection : Bool
  both_of_loaded : loaded = true → rmw = true ∧ introspection = true
deriving DecidableEq

/-- A load that succeeds. -/
def LoadOutcome.success : LoadOutcome :=
  ⟨true, true, true, fun _ => ⟨rfl, rfl⟩⟩

/-- A load that finds no library. -/
def LoadOutcome.failure : LoadOutcome :=
  ⟨false, false, false, fun h => by cases h⟩

/-- The outside during one activation: the start of the client, and for the `n`-th entry the
load of its type support before and after the subscription is created and the creation. -/
structure Activation where
  start : StartOutcome := .started
  create : Nat → CreateOutcome := fun _ => .subscription
  load : Nat → LoadOutcome := fun _ => .success
  reload : Nat → LoadOutcome := fun _ => .success
  publisherThrows : Bool := false

/-! ### The resources -/

/-- `subscription` says that the pointer is not null. -/
structure ActiveSubscription (R : Type) where
  subscription : Bool := false
  topicName : String
  msgType : String
  runtimeState : R
deriving DecidableEq, Repr

/-- The members that hold something: the pointers are given by whether they are set. -/
structure Resources (R : Type) where
  activeSubscriptions : List (ActiveSubscription R) := []
  client : Bool := false
  isActive : Bool := false
  metricsPub : Bool := false
  metricsTimer : Bool := false
deriving DecidableEq, Repr

/-- Procedures on the resources; an exception carries its text. -/
abbrev Callback (R : Type) := EStateM String (Resources R)

variable {C P T R : Type}

/-- `start_producer`, `start_client`: whether the client runs. -/
def startClient : StartOutcome → Callback R Bool
  | .started => do
    modify fun held => { held with client := true }
    pure true
  | .refused => do
    -- the new client is assigned first and released again
    modify fun held => { held with client := false }
    pure false
  | .constructorThrows => throw "client construction failed"
  | .startThrows => do
    modify fun held => { held with client := true }
    throw "client start failed"

/-- `stop_producer`, `stop_client`. -/
def stopClient : Callback R PUnit :=
  modify fun held => { held with client := false }

/-- `clear_subscriptions`. -/
def clearSubscriptions : Callback R PUnit :=
  modify fun held => { held with activeSubscriptions := [] }

/-- A subscription to be built: the record as it is before the subscription is created, and
its state once it has been. -/
structure PlannedSubscription (R : Type) where
  fresh : ActiveSubscription R
  settled : R

/-- The record of a created subscription. -/
def PlannedSubscription.created (planned : PlannedSubscription R) : ActiveSubscription R :=
  { planned.fresh with subscription := true, runtimeState := planned.settled }

/-- The loop of `build_subscriptions`, from the `n`-th entry on. The record stands in the
list before its subscription is created. -/
def createSubscriptions (create : Nat → CreateOutcome) :
    Nat → List (PlannedSubscription R) → Callback R Bool
  | _, [] => pure true
  | n, planned :: rest => do
    let held ← get
    set { held with activeSubscriptions := held.activeSubscriptions ++ [planned.fresh] }
    match create n with
    | .throws => throw "create_generic_subscription failed"
    | .null => pure false
    | .subscription =>
      set { held with activeSubscriptions := held.activeSubscriptions ++ [planned.created] }
      createSubscriptions create (n + 1) rest

/-- `build_subscriptions`. -/
def buildSubscriptions (create : Nat → CreateOutcome) (planned : List (PlannedSubscription R)) :
    Callback R Bool := do
  clearSubscriptions
  let held ← get
  -- without a client the old subscriptions are gone all the same
  if held.client then createSubscriptions create 0 planned else pure false

/-- The metrics part of `on_activate`. A negative period makes `create_wall_timer` throw. -/
def startMetrics (metrics : MetricsSettings) (publisherThrows : Bool) : Callback R PUnit :=
  if metrics.enabled then do
    (if publisherThrows then throw "create_publisher failed" else pure ⟨⟩)
    modify fun held => { held with metricsPub := true }
    -- the publisher is kept if the timer throws
    (if metrics.intervalMs < 0 then throw "timer period cannot be negative" else pure ⟨⟩)
    modify fun held => { held with metricsTimer := true }
  else pure ⟨⟩

/-! ### The lifecycle callbacks -/

/-- `on_activate`. -/
def onActivate (outside : Activation) (metrics : MetricsSettings)
    (planned : List (PlannedSubscription R)) : Callback R CallbackReturn := do
  if ← startClient outside.start then
    if ← buildSubscriptions outside.create planned then
      modify fun held => { held with isActive := true }
      startMetrics metrics outside.publisherThrows
      pure .success
    else
      -- the subscriptions built so far stay in the list
      stopClient
      pure .failure
  else pure .failure

/-- `on_deactivate`. -/
def onDeactivate : Callback R CallbackReturn := do
  modify fun held => { held with isActive := false }
  clearSubscriptions
  stopClient
  modify fun held => { held with metricsTimer := false, metricsPub := false }
  pure .success

/-- `on_cleanup`; it also clears the configured subscriptions. -/
def onCleanup : Callback R CallbackReturn := do
  modify fun held => { held with isActive := false }
  stopClient
  clearSubscriptions
  modify fun held => { held with metricsTimer := false, metricsPub := false }
  pure .success

/-- `on_shutdown`; it also clears the configured subscriptions. The metrics publisher and
timer are left as they are. -/
def onShutdown : Callback R CallbackReturn := do
  modify fun held => { held with isActive := false }
  stopClient
  clearSubscriptions
  pure .success

/-! ### The node -/

/-- A sink between two calls: its stored parameter values, its settings and its resources. -/
structure Node (S C P T R : Type) where
  stored : S
  settings : Settings C P T
  resources : Resources R := {}

/-- What the two sinks do differently: reading the stored parameters, deciding about a batch,
and the subscriptions to build. `N` are the parameter names and `V` their types. -/
structure Kind (N : Type) (V : N → Type) (C P T R : Type) where
  configureFromParameters : ((name : N) → V name) → Configuring C P T PUnit
  onParametersSet : Bool → List ((name : N) × V name) → Settings C P T →
    SetParametersResult × Settings C P T
  planned : Settings C P T → Activation → List (PlannedSubscription R)

namespace Node

variable {S : Type}

/-- A node whose resources were changed by a callback. -/
def after (node : Node S C P T R) (result : CallbackReturn × Resources R) :
    CallbackReturn × Node S C P T R :=
  (result.1, { node with resources := result.2 })

/-- A node without configured subscriptions. -/
def withoutSubscriptions (node : Node S C P T R) : Node S C P T R :=
  { node with settings := { node.settings with configuredSubscriptions := [] } }

end Node

namespace Kind

variable {N : Type} {V : N → Type}

/-- `on_configure`. -/
def onConfigure (kind : Kind N V C P T R) (node : Node ((name : N) → V name) C P T R) :
    CallbackReturn × Node ((name : N) → V name) C P T R :=
  match kind.configureFromParameters node.stored node.settings with
  | .ok _ settings => (.success, { node with settings })
  | .error _ settings => (.failure, { node with settings })

/-- The lifecycle callbacks. -/
def callback (kind : Kind N V C P T R) (transition : Lifecycle.Transition) (outside : Activation)
    (node : Node ((name : N) → V name) C P T R) :
    CallbackReturn × Node ((name : N) → V name) C P T R :=
  match transition with
  | .configure => kind.onConfigure node
  | .activate =>
    node.after (callbackResult (onActivate outside node.settings.metrics
      (kind.planned node.settings outside)) node.resources)
  | .deactivate => node.after (callbackResult onDeactivate node.resources)
  | .cleanup => node.withoutSubscriptions.after (callbackResult onCleanup node.resources)
  | .shutdown => node.withoutSubscriptions.after (callbackResult onShutdown node.resources)

/-- Setting parameters: the callback decides, and an accepted batch is stored. -/
def setParameters [DecidableEq N] (kind : Kind N V C P T R) (state : State)
    (batch : List ((name : N) × V name)) (node : Node ((name : N) → V name) C P T R) :
    Node ((name : N) → V name) C P T R :=
  let answer := kind.onParametersSet (state = .active) batch node.settings
  { node with
    stored := if answer.1.successful then storeBatch batch node.stored else node.stored
    settings := answer.2 }

/-- A sink as a managed node; it has no error callback of its own, and the default one does
not recover. -/
def managed [DecidableEq N] (kind : Kind N V C P T R) :
    Managed Activation (List ((name : N) × V name)) (Node ((name : N) → V name) C P T R) where
  callback := kind.callback
  onError node := (.failure, node)
  setParameters := kind.setParameters

end Kind

end Ros2Dispatcher.Sinks
