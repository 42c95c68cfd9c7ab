import Ros2Dispatcher.Controller.Handlers
import Ros2Dispatcher.Library.Runs

/-!
# The fleet the controller drives

A concrete outside for the controller: the two sinks as lifecycle nodes, the component
container as the ids it has handed out and the components alive in it, and the log of the
requests made so far. Only the controller drives them.

* A sink accepts `subscriptions_yaml` only while it is not active, and an active sink runs
  with the list it had accepted last when it was activated: the running list is part of the
  state `SinkState.active`.
* The container gives every loaded component an id it has not given before, by some
  `IdSource`, and unloads exactly the live ids.
* How each request ends is given from outside by a `Pattern`: the outcome of the `n`-th
  request to a service within one operation, independently for each. Nothing relates the
  outcomes of different requests.

`Setting.step` runs one operation under one pattern; a run of the system is a sequence of
such rounds. An exception that leaves a handler ends the process, and with it the run.
-/

namespace Ros2Dispatcher

/-! ### Sinks and container -/

/-- The lifecycle state of a sink; an active sink carries the list it streams. -/
inductive SinkState
  | unconfigured
  | inactive
  | active (running : List TopicInfo)
  | finalized
deriving DecidableEq, Repr

/-- The state `get_state` answers with. -/
def SinkState.primary : SinkState → LifecycleState
  | unconfigured => .unconfigured
  | inactive => .inactive
  | active _ => .active
  | finalized => .finalized

/-- A sink: its lifecycle state and its last accepted `subscriptions_yaml`. -/
structure SinkNode where
  state : SinkState
  subscriptions : List TopicInfo
deriving DecidableEq, Repr

/-- The node after a transition, where its state has that transition. -/
def SinkNode.transition (node : SinkNode) : Transition → Option SinkNode
  | .configure => if node.state = .unconfigured then some { node with state := .inactive } else none
  | .activate =>
    if node.state = .inactive then some { node with state := .active node.subscriptions } else none
  | .deactivate =>
    match node.state with
    | .active _ => some { node with state := .inactive }
    | _ => none

/-- Whether a sink is streaming right now. -/
def SinkNode.IsActive (node : SinkNode) : Prop :=
  ∃ running, node.state = .active running

/-- Whether a sink is streaming a topic called `topic` right now. -/
def SinkNode.Streams (node : SinkNode) (topic : String) : Prop :=
  ∃ running, node.state = .active running ∧ ∃ info ∈ running, info.name = topic

/-- A component alive in the container. -/
structure Component where
  uniqueId : Nat
  request : LoadNodeRequest
deriving DecidableEq, Repr

/-- The component container: the ids given out so far and the components alive. -/
structure Container where
  issued : List Nat
  live : List Component
deriving DecidableEq, Repr

/-- The ids alive in the container. -/
def Container.liveIds (container : Container) : List Nat :=
  container.live.map Component.uniqueId

/-- Where the container takes its ids from: an id it has not given before. -/
structure IdSource where
  pick : List Nat → Nat
  pick_fresh : ∀ issued, pick issued ∉ issued

/-- Load a component under a fresh id. -/
def Container.load (ids : IdSource) (component : LoadNodeRequest) (container : Container) :
    Container :=
  { issued := container.issued ++ [ids.pick container.issued]
    live := container.live ++ [⟨ids.pick container.issued, component⟩] }

/-- Unload the component with an id. -/
def Container.unload (id : Nat) (container : Container) : Container :=
  { container with live := container.live.filter fun component => component.uniqueId ≠ id }

/-- The fully qualified name of a node. -/
def fullyQualifiedName (nodeNamespace nodeName : String) : String :=
  if nodeNamespace = "/" then "/" ++ nodeName else nodeNamespace ++ "/" ++ nodeName

structure Fleet where
  kafka : SinkNode
  mosquitto : SinkNode
  container : Container
deriving DecidableEq, Repr

def Fleet.sink (fleet : Fleet) : Sink → SinkNode
  | .kafka => fleet.kafka
  | .mosquitto => fleet.mosquitto

def Fleet.setSink (fleet : Fleet) (node : SinkNode) : Sink → Fleet
  | .kafka => { fleet with kafka := node }
  | .mosquitto => { fleet with mosquitto := node }

/-! ### Requests and their outcomes -/

/-- The services the controller calls. -/
inductive Service
  | getState (sink : Sink)
  | changeState (sink : Sink)
  | setParameters (sink : Sink)
  | loadNode
  | unloadNode
  | introspection
  | getTopics
  | introspectionParameters
deriving DecidableEq, Repr

/-- One request. `introspectionWait` is the `wait_for_service` of the `get_topics` client. -/
inductive Rpc
  | getState (sink : Sink)
  | changeState (sink : Sink) (transition : Transition)
  | setSubscriptionsYaml (sink : Sink) (subs : List TopicInfo)
  | loadNode (component : LoadNodeRequest)
  | unloadNode (id : Nat)
  | introspectionWait
  | getTopics
  | setIntrospectionEnabled (enabled : Bool)
deriving DecidableEq, Repr

def Rpc.service : Rpc → Service
  | getState sink => .getState sink
  | changeState sink _ => .changeState sink
  | setSubscriptionsYaml sink _ => .setParameters sink
  | loadNode _ => .loadNode
  | unloadNode _ => .unloadNode
  | introspectionWait => .introspection
  | getTopics => .getTopics
  | setIntrospectionEnabled _ => .introspectionParameters

/-- How a request ends: the server handles it, the server refuses it without effect, the
service is not found, or no answer comes in time, with or without the server having
performed the request. -/
inductive Outcome
  | answered
  | rejected
  | unavailable
  | timeout (performed : Bool)
deriving DecidableEq, Repr

/-- Whether an answer comes back. -/
def Outcome.replies : Outcome → Bool
  | answered => true
  | rejected => true
  | unavailable => false
  | timeout _ => false

/-- What the outside does during one operation: the outcome of the `n`-th request to each
service, the answer to the `n`-th `get_topics`, the files and the clock. -/
structure Pattern where
  outcome : Service → Nat → Outcome := fun _ _ => .answered
  topics : Nat → List TopicInfo := fun _ => []
  files : String → Except String Yaml := fun _ => .error "bad file"
  stamp : Time := 0

/-- An entry of the request log: the request, how it ended, and the fleet just before. -/
structure Event where
  rpc : Rpc
  outcome : Outcome
  fleet : Fleet
deriving DecidableEq, Repr

/-- The outside during one operation: the fleet and the requests made so far. -/
structure World where
  fleet : Fleet
  log : List Event
deriving DecidableEq, Repr

/-- The number of requests made to a service so far. -/
def World.count (world : World) (service : Service) : Nat :=
  world.log.countP fun event => event.rpc.service = service

/-- The world after a request that left the fleet as `fleet`. -/
def World.record (world : World) (rpc : Rpc) (outcome : Outcome) (fleet : Fleet) : World :=
  ⟨fleet, world.log ++ [⟨rpc, outcome, world.fleet⟩]⟩

/-- The outcome the pattern has for the next request to a service. -/
def World.next (world : World) (pattern : Pattern) (service : Service) : Outcome :=
  pattern.outcome service (world.count service)

/-- One request: `serve` is what the server does when it handles the request, `refuse` the
answer it gives otherwise. -/
def World.exchange {α : Type} (pattern : Pattern) (rpc : Rpc) (serve : Fleet → α × Fleet)
    (refuse : Fleet → α) (world : World) : RpcResult α × World :=
  let outcome := world.next pattern rpc.service
  match outcome with
  | .answered =>
    (.reply (serve world.fleet).1, world.record rpc outcome (serve world.fleet).2)
  | .rejected => (.reply (refuse world.fleet), world.record rpc outcome world.fleet)
  | .unavailable => (.unavailable, world.record rpc outcome world.fleet)
  | .timeout performed =>
    -- the server may have handled the request all the same
    (.timeout, world.record rpc outcome
      (if performed then (serve world.fleet).2 else world.fleet))

/-! ### The servers -/

/-- The fleet after a transition of a sink; a transition the state does not have changes
nothing. -/
def Fleet.serveTransition (sink : Sink) (transition : Transition) (fleet : Fleet) :
    Bool × Fleet :=
  match (fleet.sink sink).transition transition with
  | some node => (true, fleet.setSink node sink)
  | none => (false, fleet)

/-- A sink's answer to `subscriptions_yaml`. -/
def Fleet.serveSubscriptions (sink : Sink) (subs : List TopicInfo) (fleet : Fleet) :
    List SetParametersResult × Fleet :=
  match (fleet.sink sink).state with
  | .active _ => ([⟨false, "not while active"⟩], fleet)
  | _ => ([⟨true, ""⟩], fleet.setSink { fleet.sink sink with subscriptions := subs } sink)

/-- The container's answer to `load_node`. -/
def Fleet.serveLoad (ids : IdSource) (component : LoadNodeRequest) (fleet : Fleet) :
    LoadNodeResponse × Fleet :=
  ({ success := true
     uniqueId := ids.pick fleet.container.issued
     fullNodeName := fullyQualifiedName component.nodeNamespace component.nodeName },
    { fleet with container := fleet.container.load ids component })

/-- The container's answer to `unload_node`. -/
def Fleet.serveUnload (id : Nat) (fleet : Fleet) : Bool × Fleet :=
  if id ∈ fleet.container.liveIds then
    (true, { fleet with container := fleet.container.unload id })
  else (false, fleet)

/-- What stays the same over a run: the node's parameters, yaml-cpp, the container's ids. -/
structure Setting where
  params : Parameters := {}
  yaml : YamlCpp
  ids : IdSource

/-- The outside of the controller during one operation under `pattern`. -/
def Setting.environment (cfg : Setting) (pattern : Pattern) : Environment World where
  yaml := cfg.yaml
  getState sink := World.exchange pattern (.getState sink)
    (fun fleet => ((fleet.sink sink).state.primary, fleet))
    fun fleet => (fleet.sink sink).state.primary
  changeState sink transition := World.exchange pattern (.changeState sink transition)
    (Fleet.serveTransition sink transition) fun _ => false
  setSubscriptionsYaml sink subs := World.exchange pattern (.setSubscriptionsYaml sink subs)
    (Fleet.serveSubscriptions sink subs) fun _ => [⟨false, "rejected"⟩]
  loadNode component := World.exchange pattern (.loadNode component)
    (Fleet.serveLoad cfg.ids component) fun _ => { success := false }
  unloadNode id := World.exchange pattern (.unloadNode id) (Fleet.serveUnload id) fun _ => false
  introspectionAvailable world :=
    let outcome := world.next pattern .introspection
    (outcome ≠ .unavailable, world.record .introspectionWait outcome world.fleet)
  requestTopics world :=
    let outcome := world.next pattern .getTopics
    (if outcome.replies then some (pattern.topics (world.count .getTopics)) else none,
      world.record .getTopics outcome world.fleet)
  setIntrospectionEnabled enabled := World.exchange pattern (.setIntrospectionEnabled enabled)
    (fun fleet => ([⟨true, ""⟩], fleet)) fun _ => [⟨false, "rejected"⟩]
  loadFile path _ := pattern.files path
  now _ := pattern.stamp

/-! ### Writing down the requests

For statements about every environment, not only about a fleet under a pattern. -/

section Recording

variable {ω α : Type}

/-- A request that is also written down. -/
def recorded (rpc : Rpc) (f : ω → α × ω) (w : ω × List Rpc) : α × (ω × List Rpc) :=
  ((f w.1).1, (f w.1).2, w.2 ++ [rpc])

/-- The environment with all requests written down, under a clock of its own. -/
def Environment.recording (env : Environment ω) (clock : ω × List Rpc → Time) :
    Environment (ω × List Rpc) where
  yaml := env.yaml
  getState sink := recorded (.getState sink) (env.getState sink)
  changeState sink transition :=
    recorded (.changeState sink transition) (env.changeState sink transition)
  setSubscriptionsYaml sink subs :=
    recorded (.setSubscriptionsYaml sink subs) (env.setSubscriptionsYaml sink subs)
  loadNode component := recorded (.loadNode component) (env.loadNode component)
  unloadNode id := recorded (.unloadNode id) (env.unloadNode id)
  introspectionAvailable := recorded .introspectionWait env.introspectionAvailable
  requestTopics := recorded .getTopics env.requestTopics
  setIntrospectionEnabled enabled :=
    recorded (.setIntrospectionEnabled enabled) (env.setIntrospectionEnabled enabled)
  loadFile path w := env.loadFile path w.1
  now := clock

end Recording

/-! ### Runs -/

/-- The system between operations. -/
structure System where
  ctl : Controller
  fleet : Fleet

/-- One operation and what the outside does during it. -/
structure Round where
  operation : Operation
  pattern : Pattern := {}

/-- The state a handler starts in: no request has been made yet. -/
def System.start (sys : System) : NodeState World :=
  ⟨sys.ctl, ⟨sys.fleet, []⟩⟩

/-- The run of a round's handler. -/
def Setting.perform (cfg : Setting) (sys : System) (round : Round) :
    EStateM.Result Failure (NodeState World) Answer :=
  round.operation.run cfg.params (cfg.environment round.pattern) sys.start

/-- The system after a round; none when an exception ended the process. -/
def Setting.step (cfg : Setting) (sys : System) (round : Round) : Option System :=
  match cfg.perform sys round with
  | .ok _ s => some ⟨s.ctl, s.env.fleet⟩
  | .error _ _ => none

/-- The answer of a round. -/
def Setting.answer (cfg : Setting) (sys : System) (round : Round) : Option Answer :=
  match cfg.perform sys round with
  | .ok answer _ => some answer
  | .error _ _ => none

/-- A round that returns is the run of its handler. -/
theorem Setting.exists_perform_of_step {cfg : Setting} {sys sys' : System} {round : Round}
    (h : cfg.step sys round = some sys') :
    ∃ answer s, cfg.perform sys round = .ok answer s ∧ sys' = ⟨s.ctl, s.env.fleet⟩ := by
  rw [Setting.step] at h
  cases hrun : cfg.perform sys round with
  | ok answer s =>
    rw [hrun] at h
    exact ⟨answer, s, rfl, (Option.some.inj h).symm⟩
  | error failure s =>
    rw [hrun] at h
    cases h

/-- The requests made during a round. -/
def Setting.requests (cfg : Setting) (sys : System) (round : Round) : List Event :=
  match cfg.perform sys round with
  | .ok _ s => s.env.log
  | .error _ s => s.env.log

/-- The runs all of whose rounds satisfy `C`: from one system to another. -/
abbrev Setting.Runs (cfg : Setting) (C : System → Round → Prop) : System → System → Prop :=
  Ros2Dispatcher.Runs cfg.step C

/-- The node as the constructor leaves it, next to `fleet`. -/
def System.boot (mode filePath : String) (autoApply : Bool) (fleet : Fleet) : System :=
  ⟨Controller.initial mode filePath autoApply, fleet⟩

/-! ### A concrete setting -/

private theorem le_foldr_max {n : Nat} {ns : List Nat} (h : n ∈ ns) : n ≤ ns.foldr max 0 := by
  induction ns with
  | nil => cases h
  | cons m ns ih =>
    rw [List.foldr_cons]
    rcases List.mem_cons.mp h with rfl | h
    · exact Nat.le_max_left _ _
    · exact Nat.le_trans (ih h) (Nat.le_max_right _ _)

/-- Ids counted upwards, as `rclcpp_components` gives them. -/
def IdSource.counting : IdSource where
  pick issued := issued.foldr max 0 + 1
  pick_fresh _ h := absurd (le_foldr_max h) (Nat.not_succ_le_self _)

/-- Conversions that know the words `true` and `false` and no numbers. -/
def YamlCpp.words : YamlCpp where
  asBool text := if text = "true" then some true else if text = "false" then some false else none
  asInt64 _ := none
  asDouble _ := none
  nullAsString := none

/-- The default parameters, with a container that counts. -/
def Setting.default : Setting where
  yaml := .words
  ids := .counting

/-- One service ends its requests in `outcome`, all others answer. -/
def Pattern.only (service : Service) (outcome : Outcome) : Pattern where
  outcome other _ := if other = service then outcome else .answered

/-- Sinks that have just been started and an empty container. -/
def Fleet.fresh : Fleet where
  kafka := ⟨.unconfigured, []⟩
  mosquitto := ⟨.unconfigured, []⟩
  container := ⟨[], []⟩

/-- A selection file entry that asks for a throttled copy of a topic. -/
def throttledEntry (topic : String) : Yaml :=
  .map [(.scalar "topic_name", .scalar topic), (.scalar "msg_type", .scalar "std_msgs/msg/String"),
    (.scalar "topic_tools", .map [(.scalar "plugin", .scalar "topic_tools::ThrottleNode")])]

/-- Switch to file mode and apply a file with a throttled entry for each topic. -/
def Round.throttling (topics : List String) : Round where
  operation := .setSelectionMode "file" "/selection.yaml" true
  pattern := { files := fun _ => .ok (.sequence (topics.map throttledEntry)) }

end Ros2Dispatcher
