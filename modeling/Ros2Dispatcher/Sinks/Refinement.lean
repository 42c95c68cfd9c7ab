import Ros2Dispatcher.Fleet.World
import Ros2Dispatcher.Sinks.Mirroring
import Ros2Dispatcher.Sinks.Reconfiguration
import Ros2Dispatcher.Sinks.Release
import Ros2Dispatcher.Sinks.TopicLists

/-!
# The sinks behind the fleet

The fleet has a sink as its lifecycle state and its list of topics. Here the two sinks are the
nodes themselves: the list arrives as the YAML text that the controller writes, and a
transition runs the callbacks. `Implements` relates the two, and every request keeps it.

* `SinkNode.Attends`: what a sink of the fleet may do with a request: handle it, or refuse it
  and stay as it is. It says which of the two.
* `Kind.TakesLists`: what is asked of a sink; `KafkaSink.kind_takesLists`,
  `MosquittoSink.kind_takesLists`.
* `Implements.attend`, `Implements.step`: one request, one step.
* `sinks_implement_fleet`: whole runs of both sinks.
-/

namespace Ros2Dispatcher

open Sinks Tokens

/-! ### The sinks of the fleet -/

/-- A request of the controller to a sink. -/
inductive SinkRequest
  | subscriptions (subs : List TopicInfo)
  | transition (transition : Transition)
deriving DecidableEq, Repr

/-- A sink of the fleet after a request that it handles. -/
def SinkNode.serve (node : SinkNode) : SinkRequest → Option SinkNode
  | .subscriptions subs =>
    match node.state with
    | .active _ => none
    | _ => some { node with subscriptions := subs }
  | .transition transition => node.transition transition

/-- The fleet serves a transition by the sink it is for. -/
theorem Fleet.serveTransition_eq (sink : Sink) (transition : Transition) (fleet : Fleet) :
    Fleet.serveTransition sink transition fleet =
      match (fleet.sink sink).serve (.transition transition) with
      | some node => (true, fleet.setSink node sink)
      | none => (false, fleet) :=
  rfl

/-- So it does a list. -/
theorem Fleet.serveSubscriptions_eq (sink : Sink) (subs : List TopicInfo) (fleet : Fleet) :
    Fleet.serveSubscriptions sink subs fleet =
      match (fleet.sink sink).serve (.subscriptions subs) with
      | some node => ([⟨true, ""⟩], fleet.setSink node sink)
      | none => ([⟨false, "not while active"⟩], fleet) := by
  unfold Fleet.serveSubscriptions SinkNode.serve
  generalize fleet.sink sink = node
  obtain ⟨state, subscriptions⟩ := node
  cases state <;> rfl

/-- A sink grants a list without blank names, and an activation in which the client starts and
every subscription is created. -/
def SinkNode.Grants (node : SinkNode) (outside : Activation) : SinkRequest → Prop
  | .subscriptions subs => ∀ topic ∈ subs, HasText topic.name ∧ HasText topic.type
  | .transition .activate => outside.start = .started ∧
    ∀ n < node.subscriptions.length, outside.create n = .subscription
  | .transition _ => True

/-- A sink handles the requests that it grants and its state has, and refuses the others
without effect. -/
inductive SinkNode.Attends (node : SinkNode) (outside : Activation) (request : SinkRequest) :
    Bool → SinkNode → Prop
  | handled {node' : SinkNode} (hgrants : node.Grants outside request)
      (hserve : node.serve request = some node') : Attends node outside request true node'
  | refused (hnot : node.serve request ≠ none → ¬node.Grants outside request) :
      Attends node outside request false node

/-- The answers a sink has given, each with its request. -/
abbrev SinkLog := List (SinkRequest × Activation × Bool)

/-- A sink gives the answers of a log, and is another one then. -/
inductive SinkNode.Answers (node : SinkNode) : SinkLog → SinkNode → Prop
  | nil : Answers node [] node
  | snoc {log : SinkLog} {node' node'' : SinkNode} {request : SinkRequest}
      {outside : Activation} {answer : Bool} (h : Answers node log node')
      (hattends : node'.Attends outside request answer node'') :
      Answers node (log ++ [(request, outside, answer)]) node''

/-- The lifecycle state of a sink of the fleet. -/
def SinkState.lifecycle : SinkState → Lifecycle.State
  | unconfigured => .unconfigured
  | inactive => .inactive
  | active _ => .active
  | finalized => .finalized

/-- The transition of the lifecycle. -/
def Transition.lifecycle : Transition → Lifecycle.Transition
  | configure => .configure
  | activate => .activate
  | deactivate => .deactivate

end Ros2Dispatcher

namespace Ros2Dispatcher.Sinks

open Lifecycle Procedure Tokens

/-! ### The nodes -/

section Nodes

variable {N C P T R : Type} {V : N → Type}

/-- A sink has an entry for each topic, in order, under the trimmed names. -/
def Lists (names : C → SubscriptionNames) (topics : List TopicInfo) (configs : List C) : Prop :=
  List.Forall₂ (fun topic config => (names config).topicName = trim topic.name ∧
    (names config).msgType = trim topic.type) topics configs

/-- A sink has a subscription for each topic, in order, under the trimmed names. -/
def Streaming (topics : List TopicInfo) (active : List (ActiveSubscription R)) : Prop :=
  List.Forall₂ (fun topic subscription => subscription.subscription = true ∧
    subscription.topicName = trim topic.name ∧ subscription.msgType = trim topic.type)
    topics active

/-- The subscriptions created for the entries of a list stream its topics. -/
theorem Lists.streaming {names : C → SubscriptionNames} {topics : List TopicInfo}
    {configs : List C} {planned : List (PlannedSubscription R)} (h : Lists names topics configs)
    (hplanned : List.Forall₂ (fun config planned =>
      planned.fresh.topicName = (names config).topicName ∧
        planned.fresh.msgType = (names config).msgType) configs planned) :
    Streaming topics (planned.map PlannedSubscription.created) := by
  induction h generalizing planned with
  | nil =>
    cases hplanned
    exact .nil
  | cons hnames _ ih =>
    obtain _ | ⟨hfirst, hrest⟩ := hplanned
    exact .cons ⟨rfl, hfirst.1.trans hnames.1, hfirst.2.trans hnames.2⟩ (ih hrest)

/-- A **sink that takes lists**: it reads its store as `reading` says, `list` is the parameter
that the list of topics comes in, and each entry becomes one subscription. -/
structure Kind.TakesLists [DecidableEq N] (kind : Kind N V C P T R)
    (reading : Reading ((name : N) → V name) P T) (checks : Checks C P T)
    (stage : Bool → Pending P T → (name : N) × V name → Except String (Pending P T))
    (list : String → (name : N) × V name) (names : C → SubscriptionNames)
    (reader : YamlReader) (cStr : List Emission → String) : Prop where
  reads : kind.Reads reading checks stage
  gathers : ∀ text pending, stage false pending (list text) = .ok { pending with yaml := some text }
  refuses : ∀ text pending, ∃ reason, stage true pending (list text) = .error reason
  text_list : ∀ text stored,
    reading.text (Function.update stored (list text).1 (list text).2) = text
  text_other : ∀ text stored (parameter : (name : N) × V name), parameter.1 ≠ (list text).1 →
    reading.text (Function.update stored parameter.1 parameter.2) = reading.text stored
  depth : ∀ text stored,
    reading.depth (Function.update stored (list text).1 (list text).2) = reading.depth stored
  broker : ∀ text stored,
    reading.broker (Function.update stored (list text).1 (list text).2) = reading.broker stored
  metrics : ∀ text stored,
    reading.metrics (Function.update stored (list text).1 (list text).2) = reading.metrics stored
  telemetry : ∀ text stored, reading.telemetry
    (Function.update stored (list text).1 (list text).2) = reading.telemetry stored
  parses : ∀ topics, reader.LoadsBack cStr (topicsDocument topics) →
    (∀ topic ∈ topics, HasText topic.name ∧ HasText topic.type) →
    ∃ configs, checks.parse (topicsToYaml cStr topics) = .ok configs ∧ Lists names topics configs
  blank : ∀ topics, reader.LoadsBack cStr (topicsDocument topics) →
    (∃ topic ∈ topics, ¬(HasText topic.name ∧ HasText topic.type)) →
    ∃ reason, checks.parse (topicsToYaml cStr topics) = .error reason
  plans : ∀ settings outside, List.Forall₂ (fun config planned =>
    planned.fresh.topicName = (names config).topicName ∧
      planned.fresh.msgType = (names config).msgType)
    settings.configuredSubscriptions (kind.planned settings outside)

/-- A node **implements** a sink of the fleet: it is in the same state; its store is valid and
holds the list of the sink, which it has configured unless it still has to be; and while it is
active, it runs with the list that the sink runs with. -/
structure Implements (reading : Reading ((name : N) → V name) P T) (checks : Checks C P T)
    (names : C → SubscriptionNames) (sink : SinkNode)
    (s : State × Node ((name : N) → V name) C P T R) : Prop where
  state : s.1 = sink.state.lifecycle
  stored : ∃ target, reading.Yields checks s.2.stored target ∧
    Lists names sink.subscriptions target.configuredSubscriptions
  configured : s.1 = .inactive ∨ s.1 = .active → reading.Yields checks s.2.stored s.2.settings
  depth_pos : ¬s.2.settings.qosDepth ≤ 0
  running : ∀ running, sink.state = .active running → s.2.resources.isActive = true ∧
    s.2.resources.client = true ∧ Streaming running s.2.resources.activeSubscriptions

/-- What happens to a sink: a request of the controller, or parameters from elsewhere. -/
inductive SinkEvent (B : Type)
  | request (request : SinkRequest) (outside : Activation)
  | parameters (batch : B)

namespace Kind

variable [DecidableEq N] (kind : Kind N V C P T R) (list : String → (name : N) × V name)
  (reader : YamlReader) (cStr : List Emission → String)

/-- The answer of a node to a request, and the node then: `set_parameters` answers as
`on_parameters_set` does, `change_state` whether the goal was reached. -/
def attend (s : State × Node ((name : N) → V name) C P T R) (outside : Activation) :
    SinkRequest → Bool × State × Node ((name : N) → V name) C P T R
  | .subscriptions subs =>
    let batch := [list (topicsToYaml cStr subs)]
    ((kind.onParametersSet (s.1 = .active) batch s.2.settings).1.successful,
      (s.1, kind.setParameters s.1 batch s.2))
  | .transition transition =>
    match kind.managed.trigger transition.lifecycle outside s with
    | some s' => (s'.1 = transition.lifecycle.goal, s')
    | none => (false, s)

/-- A node and the answers it has given. -/
structure Serving (S C P T R : Type) where
  node : State × Node S C P T R
  log : SinkLog := []

/-- One step of a node. -/
def serve (s : Serving ((name : N) → V name) C P T R) :
    SinkEvent (List ((name : N) × V name)) → Option (Serving ((name : N) → V name) C P T R)
  | .request request outside =>
    let answer := kind.attend list cStr s.node outside request
    some ⟨answer.2, s.log ++ [(request, outside, answer.1)]⟩
  | .parameters batch =>
    some { s with node := (s.node.1, kind.setParameters s.node.1 batch s.node.2) }

/-- The requests of a run: yaml-cpp loads back what it emitted for a list, and no exception
leaves a callback. -/
def Quiet (s : State × Node ((name : N) → V name) C P T R) (outside : Activation) :
    SinkRequest → Prop
  | .subscriptions subs => reader.LoadsBack cStr (topicsDocument subs)
  | .transition transition => (kind.callback transition.lifecycle outside s.2).1 ≠ .error

/-- The steps of a run: parameters from elsewhere come to a configured node, leave the list
alone and are accepted. -/
def Admits (s : Serving ((name : N) → V name) C P T R) :
    SinkEvent (List ((name : N) × V name)) → Prop
  | .request request outside => kind.Quiet reader cStr s.node outside request
  | .parameters batch => (s.node.1 = .inactive ∨ s.node.1 = .active) ∧
    (kind.onParametersSet (s.node.1 = .active) batch s.node.2.settings).1.successful = true ∧
    ∀ parameter ∈ batch, ∀ text, parameter.1 ≠ (list text).1

end Kind

/-! ### Activating -/

section Activating

variable {held : Resources R} {outside : Activation} {metrics : MetricsSettings}
  {planned : List (PlannedSubscription R)}

/-- Setting up the metrics leaves a running sink running. -/
theorem startMetrics_running {publisherThrows : Bool} :
    Keeps (fun _ => True) (fun held : Resources R => held.isActive = true ∧ held.client = true)
      (startMetrics metrics publisherThrows) := by
  unfold startMetrics
  refine .ite (.bind (.ite (.throw trivial) .pure) fun _ => ?_) .pure
  refine .bind (fun _ h => h) fun _ => ?_
  exact .bind (.ite (.throw trivial) .pure) fun _ _ h => h

/-- An activation without an exception succeeds exactly if the client starts and every
subscription is created, and then the sink is running. -/
theorem onActivate_running :
    let result := callbackResult (onActivate outside metrics planned) held
    (result.1 = .success → result.2.isActive = true ∧ result.2.client = true) ∧
      (result.1 ≠ .error → (result.1 = .success ↔ outside.start = .started ∧
        ∀ n < planned.length, outside.create n = .subscription)) := by
  refine callbackResult_of_wp (Φ := fun result (held' : Resources R) =>
    (result = .success → held'.isActive = true ∧ held'.client = true) ∧
      (result ≠ .error → (result = .success ↔ outside.start = .started ∧
        ∀ n < planned.length, outside.create n = .subscription))) ?_
  have hfailure : CallbackReturn.failure ≠ CallbackReturn.success := by decide
  have herror : CallbackReturn.error ≠ CallbackReturn.success := by decide
  have hrefused : StartOutcome.refused ≠ StartOutcome.started := by decide
  rw [onActivate, wp_bind]
  cases hstart : outside.start with
  | refused =>
    exact ⟨fun h => absurd h hfailure, fun _ => iff_of_false hfailure fun h => hrefused h.1⟩
  | constructorThrows => exact ⟨fun h => absurd h herror, fun h => absurd rfl h⟩
  | startThrows => exact ⟨fun h => absurd h herror, fun h => absurd rfl h⟩
  | started =>
    rw [startClient, wp_bind, wp_modify, wp_pure, if_pos rfl, wp_bind, buildSubscriptions,
      wp_bind, clearSubscriptions, wp_modify, wp_bind, wp_get, if_pos rfl]
    refine wp_createSubscriptions (fun hall subscriptions => ?_) (fun hnot subscriptions _ => ?_)
      fun _ _ _ => ⟨fun h => absurd h herror, fun h => absurd rfl h⟩
    · rw [if_pos rfl, wp_bind, wp_modify, wp_bind]
      have hcreate : ∀ n < planned.length, outside.create n = .subscription := fun n hn => by
        rw [← Nat.zero_add n]
        exact hall n hn
      refine wp_mono (startMetrics_running _ ⟨rfl, rfl⟩) (fun _ held' h => ?_)
        fun _ _ _ => ⟨fun h => absurd h herror, fun h => absurd rfl h⟩
      exact ⟨fun _ => h, fun _ => iff_of_true rfl ⟨rfl, hcreate⟩⟩
    · refine ⟨fun h => absurd h hfailure, fun _ => iff_of_false hfailure fun h =>
        hnot fun n hn => ?_⟩
      rw [Nat.zero_add]
      exact h.2 n hn

end Activating

/-! ### Setting the list -/

section Setting

variable {settings : Settings C P T} {checks : Checks C P T} {text : String}

/-- The answer to a batch that is committed. -/
theorem Configuring.answer_ok {m : Configuring C P T PUnit} {before after : Settings C P T}
    (h : m before = .ok ⟨⟩ after) : m.answer before = (⟨true, "accepted"⟩, after) := by
  rw [Configuring.answer, h]

/-- The answer to one that is not. -/
theorem Configuring.answer_error {m : Configuring C P T PUnit} {before after : Settings C P T}
    {reason : String} (h : m before = .error reason after) :
    m.answer before = (⟨false, reason⟩, after) := by
  rw [Configuring.answer, h]

/-- A batch with nothing but a list. -/
def Settings.pendingList (settings : Settings C P T) (text : String) : Pending P T :=
  { settings.pending with yaml := some text }

/-- Committing a list depends on its text alone, where the depth is valid. -/
theorem commit_list (hdepth : ¬settings.qosDepth ≤ 0) :
    (settings.pendingList text).commit checks settings =
      match checks.parse text with
      | .ok configs => .ok ⟨⟩ { settings with configuredSubscriptions := configs }
      | .error reason => .error reason settings := by
  have hvalid : validateQosDepth settings.qosDepth = .ok ⟨⟩ := validateQosDepth_ok_iff.mpr hdepth
  unfold Pending.commit Pending.commitSubscriptions Pending.commitDepth Pending.commitBroker
    Pending.commitMetrics Pending.commitTelemetry Settings.pendingList Settings.pending
  dsimp only
  rw [hvalid]
  cases hparse : checks.parse text with
  | error reason => rfl
  | ok configs => rfl

end Setting

variable [DecidableEq N] {kind : Kind N V C P T R} {reading : Reading ((name : N) → V name) P T}
  {checks : Checks C P T}
  {stage : Bool → Pending P T → (name : N) × V name → Except String (Pending P T)}
  {list : String → (name : N) × V name} {names : C → SubscriptionNames}
  {reader : YamlReader} {cStr : List Emission → String}

namespace Kind.TakesLists

variable {text : String} {settings : Settings C P T}
variable (h : kind.TakesLists reading checks stage list names reader cStr)
include h

/-- A node that is not active answers a list by its text. -/
theorem onParametersSet_list (text : String) (hdepth : ¬settings.qosDepth ≤ 0) :
    kind.onParametersSet false [list text] settings =
      match checks.parse text with
      | .ok configs =>
        (⟨true, "accepted"⟩, { settings with configuredSubscriptions := configs })
      | .error reason => (⟨false, reason⟩, settings) := by
  have hgathered : [list text].foldlM (stage false) settings.pending =
      .ok (settings.pendingList text) := by
    rw [List.foldlM_cons, h.gathers]
    rfl
  have hcommit : (settings.pendingList text).commit checks settings = _ := commit_list hdepth
  rw [h.reads.answers, hgathered]
  cases hparse : checks.parse text with
  | ok configs =>
    rw [hparse] at hcommit
    exact Configuring.answer_ok hcommit
  | error reason =>
    rw [hparse] at hcommit
    exact Configuring.answer_error hcommit

/-- An active node refuses every list. -/
theorem onParametersSet_active (text : String) (settings : Settings C P T) :
    ∃ reason, kind.onParametersSet true [list text] settings = (⟨false, reason⟩, settings) := by
  obtain ⟨reason, hreason⟩ := h.refuses text settings.pending
  refine ⟨reason, ?_⟩
  rw [h.reads.answers, List.foldlM_cons, hreason]
  rfl

/-- The store with another list in it yields the settings with the entries of that list. -/
theorem yields_list {stored : (name : N) → V name} {configs : List C}
    (hyields : reading.Yields checks stored settings) (hparse : checks.parse text = .ok configs) :
    reading.Yields checks (storeBatch [list text] stored)
      { settings with configuredSubscriptions := configs } := by
  have hstored : storeBatch [list text] stored =
      Function.update stored (list text).1 (list text).2 := rfl
  have htext := h.text_list text stored
  rw [hstored]
  exact
    { parses := ⟨configs, by rw [htext, hparse]⟩
      depth := hyields.depth.trans (h.depth text stored).symm
      depth_pos := hyields.depth_pos
      broker := (h.broker text stored).trans hyields.broker
      broker_ok := hyields.broker_ok
      metrics := hyields.metrics.trans (h.metrics text stored).symm
      telemetry := hyields.telemetry.trans (h.telemetry text stored).symm
      telemetry_ok := hyields.telemetry_ok
      subscriptions := by rw [htext, hparse] }

/-- Parameters other than the list leave its text alone. -/
theorem text_storeBatch {batch : List ((name : N) × V name)} {stored : (name : N) → V name}
    (hother : ∀ parameter ∈ batch, ∀ text, parameter.1 ≠ (list text).1) :
    reading.text (storeBatch batch stored) = reading.text stored := by
  induction batch generalizing stored with
  | nil => rfl
  | cons parameter batch ih =>
    rw [List.forall_mem_cons] at hother
    exact (ih hother.2).trans (h.text_other "" stored parameter (hother.1 ""))

end Kind.TakesLists

/-! ### One request -/

namespace Implements

variable {sink : SinkNode} {s : State × Node ((name : N) → V name) C P T R} {outside : Activation}

omit [DecidableEq N] in
theorem not_active (h : Implements reading checks names sink s)
    (hinactive : ∀ running, sink.state ≠ .active running) : s.1 ≠ .active := by
  rw [h.state]
  cases hstate : sink.state with
  | active running => exact absurd hstate (hinactive running)
  | _ => exact State.noConfusion

/-- A batch with a list, answered. -/
theorem attend_subscriptions {subs : List TopicInfo} {active answer : Bool} {reason : String}
    {settings' : Settings C P T} (hactive : decide (s.1 = .active) = active)
    (h : kind.onParametersSet active [list (topicsToYaml cStr subs)] s.2.settings =
      (⟨answer, reason⟩, settings')) :
    kind.attend list cStr s outside (.subscriptions subs) =
      (answer, (s.1, { s.2 with
        stored := if answer then storeBatch [list (topicsToYaml cStr subs)] s.2.stored
          else s.2.stored
        settings := settings' })) := by
  unfold Kind.attend Kind.setParameters
  dsimp only
  rw [hactive, h]

/-- **A list** is taken if the node is not active and no name is blank. -/
theorem attend_list (htakes : kind.TakesLists reading checks stage list names reader cStr)
    (h : Implements reading checks names sink s) {subs : List TopicInfo}
    (hload : reader.LoadsBack cStr (topicsDocument subs)) :
    ∃ sink', sink.Attends outside (.subscriptions subs)
        (kind.attend list cStr s outside (.subscriptions subs)).1 sink' ∧
      Implements reading checks names sink'
        (kind.attend list cStr s outside (.subscriptions subs)).2 := by
  by_cases hactive : ∃ running, sink.state = .active running
  · obtain ⟨running, hrunning⟩ := hactive
    have hstate : decide (s.1 = .active) = true :=
      decide_eq_true (by rw [h.state, hrunning, SinkState.lifecycle])
    obtain ⟨reason, hanswer⟩ :=
      htakes.onParametersSet_active (topicsToYaml cStr subs) s.2.settings
    rw [attend_subscriptions hstate hanswer]
    refine ⟨sink, .refused fun hserve => ?_, h⟩
    rw [SinkNode.serve, hrunning] at hserve
    exact absurd rfl hserve
  · have hinactive : ∀ running, sink.state ≠ .active running := not_exists.mp hactive
    have hstate : decide (s.1 = .active) = false := decide_eq_false (h.not_active hinactive)
    have hanswer := htakes.onParametersSet_list (topicsToYaml cStr subs) h.depth_pos
    by_cases htopics : ∀ topic ∈ subs, HasText topic.name ∧ HasText topic.type
    · obtain ⟨configs, hparse, hlists⟩ := htakes.parses subs hload htopics
      rw [hparse] at hanswer
      rw [attend_subscriptions hstate hanswer]
      refine ⟨{ sink with subscriptions := subs }, .handled htopics ?_, ?_⟩
      · unfold SinkNode.serve
        cases hsink : sink.state with
        | active running => exact absurd hsink (hinactive running)
        | _ => simp
      · obtain ⟨target, htarget, -⟩ := h.stored
        exact
          { state := h.state
            stored := ⟨_, htakes.yields_list htarget hparse, hlists⟩
            configured := fun hconfigured => htakes.yields_list (h.configured hconfigured) hparse
            depth_pos := h.depth_pos
            running := fun running hrunning => absurd hrunning (hinactive running) }
    · have hblank : ∃ topic ∈ subs, ¬(HasText topic.name ∧ HasText topic.type) := by
        simpa only [not_forall, exists_prop] using htopics
      obtain ⟨reason, hparse⟩ := htakes.blank subs hload hblank
      rw [hparse] at hanswer
      rw [attend_subscriptions hstate hanswer]
      exact ⟨sink, .refused fun _ hgrants => htopics hgrants, h⟩

/-- A transition that the state has is answered as the callback ends. -/
theorem attend_transition {transition : Transition}
    (hstart : transition.lifecycle.startsFrom s.1 = true) :
    kind.attend list cStr s outside (.transition transition) =
      let result := kind.callback transition.lifecycle outside s.2
      let state := Managed.stateAfter transition.lifecycle s.1 result.1
      (decide (state = transition.lifecycle.goal), (state, result.2)) := by
  unfold Kind.attend
  cases htrigger : kind.managed.trigger transition.lifecycle outside s with
  | none =>
    unfold Managed.trigger at htrigger
    rw [if_pos hstart] at htrigger
    split at htrigger <;> cases htrigger
  | some s' =>
    obtain ⟨-, rfl⟩ := Managed.trigger_eq (fun _ => rfl) htrigger
    dsimp only
    rw [htrigger]
    rfl

omit [DecidableEq N] in
/-- A sink of the fleet has a transition exactly if the lifecycle does. -/
theorem startsFrom_iff (h : Implements reading checks names sink s) {transition : Transition} :
    transition.lifecycle.startsFrom s.1 = true ↔ sink.serve (.transition transition) ≠ none := by
  obtain ⟨state, subscriptions⟩ := sink
  rw [h.state]
  cases transition <;> cases state <;>
    simp [Transition.lifecycle, Lifecycle.Transition.startsFrom, SinkState.lifecycle,
      SinkNode.serve, SinkNode.transition]

/-- A transition that the state does not have is refused. -/
theorem attend_missing (h : Implements reading checks names sink s) {transition : Transition}
    (hstart : ¬transition.lifecycle.startsFrom s.1 = true) :
    sink.Attends outside (.transition transition)
        (kind.attend list cStr s outside (.transition transition)).1 sink ∧
      Implements reading checks names sink
        (kind.attend list cStr s outside (.transition transition)).2 := by
  have hattend : kind.attend list cStr s outside (.transition transition) = (false, s) := by
    unfold Kind.attend Managed.trigger
    dsimp only
    rw [if_neg hstart]
  rw [hattend]
  exact ⟨.refused fun hserve => absurd (h.startsFrom_iff.mpr hserve) hstart, h⟩

/-- **A configuration** succeeds: the store is valid. -/
theorem attend_configure (htakes : kind.TakesLists reading checks stage list names reader cStr)
    (h : Implements reading checks names sink s) (hstate : s.1 = .unconfigured) :
    ∃ sink', sink.Attends outside (.transition .configure)
        (kind.attend list cStr s outside (.transition .configure)).1 sink' ∧
      Implements reading checks names sink'
        (kind.attend list cStr s outside (.transition .configure)).2 := by
  obtain ⟨target, htarget, hlists⟩ := h.stored
  have hcallback : kind.callback .configure outside s.2 =
      (.success, { s.2 with settings := target }) := by
    change kind.onConfigure s.2 = _
    unfold Kind.onConfigure
    rw [(htakes.reads.configures s.2.stored s.2.settings target).mpr htarget]
  have hstart : Transition.configure.lifecycle.startsFrom s.1 = true := decide_eq_true hstate
  have hsink : sink.state = .unconfigured := by
    have hlifecycle := h.state.symm.trans hstate
    cases hsink : sink.state with
    | unconfigured => rfl
    | _ => rw [hsink] at hlifecycle; cases hlifecycle
  rw [attend_transition hstart, show Transition.configure.lifecycle = .configure from rfl,
    hcallback]
  refine ⟨{ sink with state := .inactive }, .handled trivial (if_pos hsink), ?_⟩
  exact
    { state := rfl
      stored := ⟨target, htarget, hlists⟩
      configured := fun _ => htarget
      depth_pos := htarget.depth_pos
      running := nofun }

/-- **A deactivation** succeeds. -/
theorem attend_deactivate (h : Implements reading checks names sink s) (hstate : s.1 = .active) :
    ∃ sink', sink.Attends outside (.transition .deactivate)
        (kind.attend list cStr s outside (.transition .deactivate)).1 sink' ∧
      Implements reading checks names sink'
        (kind.attend list cStr s outside (.transition .deactivate)).2 := by
  have hstart : Transition.deactivate.lifecycle.startsFrom s.1 = true := decide_eq_true hstate
  obtain ⟨running, hsink⟩ : ∃ running, sink.state = .active running := by
    have hlifecycle := h.state.symm.trans hstate
    cases hsink : sink.state with
    | active running => exact ⟨running, rfl⟩
    | _ => rw [hsink] at hlifecycle; cases hlifecycle
  rw [attend_transition hstart]
  refine ⟨{ sink with state := .inactive }, .handled trivial ?_, ?_⟩
  · rw [SinkNode.serve, SinkNode.transition, hsink]
  · exact
      { state := rfl
        stored := h.stored
        configured := fun _ => h.configured (.inr hstate)
        depth_pos := h.depth_pos
        running := nofun }

omit [DecidableEq N] in
/-- What a configured node has made subscriptions of is the list of the sink. -/
theorem lists_configured (h : Implements reading checks names sink s)
    (hstate : s.1 = .inactive ∨ s.1 = .active) :
    Lists names sink.subscriptions s.2.settings.configuredSubscriptions := by
  obtain ⟨target, htarget, hlists⟩ := h.stored
  rwa [(h.configured hstate).unique htarget]

/-- **An activation** succeeds if the client starts and every subscription is created, and then
the node streams the list of the sink. -/
theorem attend_activate (htakes : kind.TakesLists reading checks stage list names reader cStr)
    (h : Implements reading checks names sink s) (hstate : s.1 = .inactive)
    (hquiet : (kind.callback .activate outside s.2).1 ≠ .error) :
    ∃ sink', sink.Attends outside (.transition .activate)
        (kind.attend list cStr s outside (.transition .activate)).1 sink' ∧
      Implements reading checks names sink'
        (kind.attend list cStr s outside (.transition .activate)).2 := by
  have hstart : Transition.activate.lifecycle.startsFrom s.1 = true := decide_eq_true hstate
  have hsink : sink.state = .inactive := by
    have hlifecycle := h.state.symm.trans hstate
    cases hsink : sink.state with
    | inactive => rfl
    | _ => rw [hsink] at hlifecycle; cases hlifecycle
  have hlists := h.lists_configured (.inl hstate)
  have hplans := htakes.plans s.2.settings outside
  have hlength : (kind.planned s.2.settings outside).length = sink.subscriptions.length :=
    hplans.length_eq.symm.trans hlists.length_eq.symm
  have hrunning : let result := kind.callback .activate outside s.2
      (result.1 = .success → result.2.resources.isActive = true ∧
        result.2.resources.client = true) ∧
      (result.1 ≠ .error → (result.1 = .success ↔ outside.start = .started ∧
        ∀ n < (kind.planned s.2.settings outside).length, outside.create n = .subscription)) :=
    onActivate_running
  have hcreated : (kind.callback .activate outside s.2).1 = .success →
      (kind.callback .activate outside s.2).2.resources.activeSubscriptions =
        (kind.planned s.2.settings outside).map PlannedSubscription.created :=
    onActivate_success
  have hstored : (kind.callback .activate outside s.2).2.stored = s.2.stored := rfl
  have hsettings : (kind.callback .activate outside s.2).2.settings = s.2.settings := rfl
  rw [attend_transition hstart, show Transition.activate.lifecycle = .activate from rfl, hstate]
  generalize kind.callback .activate outside s.2 = result at *
  obtain ⟨result, node⟩ := result
  dsimp only at *
  rw [hlength] at hrunning
  cases result with
  | error => exact absurd rfl hquiet
  | success =>
    refine ⟨{ sink with state := .active sink.subscriptions },
      .handled ((hrunning.2 hquiet).mp rfl) (if_pos hsink), ?_⟩
    refine
      { state := rfl
        stored := hstored ▸ h.stored
        configured := fun _ => hstored ▸ hsettings ▸ h.configured (.inl hstate)
        depth_pos := hsettings ▸ h.depth_pos
        running := ?_ }
    intro running hrun
    cases hrun
    refine ⟨(hrunning.1 rfl).1, (hrunning.1 rfl).2, ?_⟩
    rw [hcreated rfl]
    exact hlists.streaming hplans
  | failure =>
    refine ⟨sink, .refused fun _ hgrants => ?_, ?_⟩
    · cases (hrunning.2 hquiet).mpr hgrants
    · exact
        { state := h.state.symm.trans hstate ▸ rfl
          stored := hstored ▸ h.stored
          configured := fun _ => hstored ▸ hsettings ▸ h.configured (.inl hstate)
          depth_pos := hsettings ▸ h.depth_pos
          running := fun running hrun => by rw [hsink] at hrun; cases hrun }

/-- **Step lemma.** A request is attended as a sink of the fleet may attend it, unless an
exception leaves a callback. -/
theorem attend (htakes : kind.TakesLists reading checks stage list names reader cStr)
    (h : Implements reading checks names sink s) {request : SinkRequest}
    (hquiet : kind.Quiet reader cStr s outside request) :
    ∃ sink', sink.Attends outside request (kind.attend list cStr s outside request).1 sink' ∧
      Implements reading checks names sink' (kind.attend list cStr s outside request).2 := by
  cases request with
  | subscriptions subs => exact h.attend_list htakes hquiet
  | transition transition =>
    by_cases hstart : transition.lifecycle.startsFrom s.1 = true
    · cases transition with
      | configure => exact h.attend_configure htakes (of_decide_eq_true hstart)
      | activate =>
        exact h.attend_activate htakes (of_decide_eq_true hstart) hquiet
      | deactivate => exact h.attend_deactivate (of_decide_eq_true hstart)
    · exact ⟨sink, h.attend_missing hstart⟩

/-- Accepted parameters that leave the list alone are nothing to the sink of the fleet. -/
theorem parameters (htakes : kind.TakesLists reading checks stage list names reader cStr)
    (h : Implements reading checks names sink s) {batch : List ((name : N) × V name)}
    (hstate : s.1 = .inactive ∨ s.1 = .active)
    (haccepted : (kind.onParametersSet (s.1 = .active) batch s.2.settings).1.successful = true)
    (hother : ∀ parameter ∈ batch, ∀ text, parameter.1 ≠ (list text).1) :
    Implements reading checks names sink (s.1, kind.setParameters s.1 batch s.2) := by
  have hstored : (kind.setParameters s.1 batch s.2).stored = storeBatch batch s.2.stored :=
    if_pos haccepted
  have hconfigured := h.configured hstate
  have hyields := (htakes.reads.accepted hconfigured.toTracks haccepted).2 hconfigured
  have hsubscriptions :
      (kind.onParametersSet (s.1 = .active) batch s.2.settings).2.configuredSubscriptions =
        s.2.settings.configuredSubscriptions := by
    have hparse := hyields.subscriptions
    rw [htakes.text_storeBatch hother] at hparse
    exact Except.ok.inj (hparse.symm.trans hconfigured.subscriptions)
  exact
    { state := h.state
      stored := ⟨_, hstored ▸ hyields, hsubscriptions ▸ h.lists_configured hstate⟩
      configured := fun _ => hstored ▸ hyields
      depth_pos := hyields.depth_pos
      running := h.running }

/-- **Step lemma** for whole runs: the log goes on as a sink of the fleet may answer. -/
theorem step (htakes : kind.TakesLists reading checks stage list names reader cStr)
    {before after : Kind.Serving ((name : N) → V name) C P T R} {start : SinkNode}
    {event : SinkEvent (List ((name : N) × V name))}
    (h : ∃ sink, start.Answers before.log sink ∧ Implements reading checks names sink before.node)
    (hadmits : kind.Admits list reader cStr before event)
    (hstep : kind.serve list cStr before event = some after) :
    ∃ sink, start.Answers after.log sink ∧ Implements reading checks names sink after.node := by
  obtain ⟨sink, hanswers, himplements⟩ := h
  cases event with
  | request request outside =>
    cases hstep
    obtain ⟨sink', hattends, himplements'⟩ := himplements.attend htakes hadmits
    exact ⟨sink', hanswers.snoc hattends, himplements'⟩
  | parameters batch =>
    cases hstep
    obtain ⟨hstate, haccepted, hother⟩ := hadmits
    exact ⟨sink, hanswers, himplements.parameters htakes hstate haccepted hother⟩

end Implements

/-- **Run lemma.** Whatever is asked of a sink that takes lists, it answers as one of the
fleet may. -/
theorem Kind.TakesLists.implements_of_runs
    (htakes : kind.TakesLists reading checks stage list names reader cStr) {sink : SinkNode}
    {before after : Kind.Serving ((name : N) → V name) C P T R} (hlog : before.log = [])
    (h : Implements reading checks names sink before.node)
    (hruns : Runs (kind.serve list cStr) (kind.Admits list reader cStr) before after) :
    ∃ sink', sink.Answers after.log sink' ∧
      Implements reading checks names sink' after.node := by
  have hinitial : ∃ sink', sink.Answers before.log sink' ∧
      Implements reading checks names sink' before.node := by
    rw [hlog]
    exact ⟨sink, .nil, h⟩
  exact hruns.invariant (I := fun s => ∃ sink', sink.Answers s.log sink' ∧
      Implements reading checks names sink' s.node)
    (fun _ _ _ hbefore hadmits hstep => Implements.step htakes hbefore hadmits hstep) hinitial

/-- A node that has just been made implements a sink that has the list of its store, if
configuring it would succeed. -/
theorem Kind.TakesLists.implements_boot
    (htakes : kind.TakesLists reading checks stage list names reader cStr)
    {stored : (name : N) → V name} {initial target : Settings C P T} {topics : List TopicInfo}
    (hdepth : ¬initial.qosDepth ≤ 0)
    (hconfigures : kind.configureFromParameters stored initial = .ok ⟨⟩ target)
    (htopics : Lists names topics target.configuredSubscriptions) :
    Implements reading checks names ⟨.unconfigured, topics⟩
      (.unconfigured, ({ stored, settings := initial } : Node ((name : N) → V name) C P T R)) where
  state := rfl
  stored := ⟨target, (htakes.reads.configures stored initial target).mp hconfigures, htopics⟩
  configured := by simp
  depth_pos := hdepth
  running := nofun

/-- Entries and what is made of them one by one. -/
theorem forall₂_mapIdx {α β : Type} {Q : α → β → Prop} {f : Nat → α → β}
    (hf : ∀ n a, Q a (f n a)) (l : List α) : List.Forall₂ Q l (l.mapIdx f) := by
  induction l generalizing f with
  | nil => exact .nil
  | cons a l ih =>
    rw [List.mapIdx_cons]
    exact .cons (hf 0 a) (ih fun n a => hf (n + 1) a)

end Nodes

/-! ### The two sinks -/

/-- A sink that makes its entries of the names alone reads the lists it is sent. -/
theorem lists_of_requireNames {C : Type} {parseEntry : Yaml → Except Failure C}
    {assign : SubscriptionNames → C} (names : C → SubscriptionNames)
    (hnames : ∀ n, names (assign n) = n)
    (h : ∀ topic, parseEntry (topicEntry topic) =
      assign <$> requireNames (trim topic.name) (trim topic.type))
    {reader : YamlReader} {cStr : List Emission → String} (hempty : reader.load "" = .ok .null)
    {topics : List TopicInfo} (hload : reader.LoadsBack cStr (topicsDocument topics)) :
    ((∀ topic ∈ topics, HasText topic.name ∧ HasText topic.type) →
      ∃ configs, parseSubscriptions reader parseEntry (topicsToYaml cStr topics) = .ok configs ∧
        Lists names topics configs) ∧
    ((∃ topic ∈ topics, ¬(HasText topic.name ∧ HasText topic.type)) →
      ∃ reason, parseSubscriptions reader parseEntry (topicsToYaml cStr topics) =
        .error reason) := by
  have hdecodes := Decodes.of_requireNames h
  constructor
  · intro htopics
    obtain ⟨configs, hconfigs, hall⟩ := hdecodes.parseSubscriptions_ok hempty hload htopics
    refine ⟨configs, hconfigs, hall.imp ?_⟩
    rintro topic config ⟨n, rfl, hname, htype⟩
    rw [hnames]
    exact ⟨hname, htype⟩
  · intro hblank
    exact ⟨_, hdecodes.parseSubscriptions_error hempty hload hblank⟩

end Ros2Dispatcher.Sinks

namespace Ros2Dispatcher.KafkaSink

open Sinks Tokens

/-- `subscriptions_yaml`. -/
def listParameter (text : String) : Parameter :=
  ⟨.subscriptionsYaml, text⟩

theorem kind_takesLists {reader : YamlReader} {cStr : List Emission → String}
    (hempty : reader.load "" = .ok .null) :
    (kind reader).TakesLists reading (kafkaChecks reader) stageParameter listParameter
      SubscriptionConfig.toSubscriptionNames reader cStr where
  reads := kind_reads reader
  gathers _ _ := rfl
  refuses _ _ := ⟨_, rfl⟩
  text_list _ _ := rfl
  text_other _ stored _ hother := Function.update_of_ne (Ne.symm hother) _ stored
  depth _ _ := rfl
  broker _ _ := rfl
  metrics _ _ := rfl
  telemetry _ _ := rfl
  parses _ hload :=
    (lists_of_requireNames SubscriptionConfig.toSubscriptionNames (fun _ => rfl)
      (parseEntry_topicEntry reader.cpp) hempty hload).1
  blank _ hload :=
    (lists_of_requireNames SubscriptionConfig.toSubscriptionNames (fun _ => rfl)
      (parseEntry_topicEntry reader.cpp) hempty hload).2
  plans _ _ := forall₂_mapIdx (fun _ _ => ⟨rfl, rfl⟩) _

end Ros2Dispatcher.KafkaSink

namespace Ros2Dispatcher.MosquittoSink

open Sinks Tokens

/-- `subscriptions_yaml`. -/
def listParameter (text : String) : Parameter :=
  ⟨.subscriptionsYaml, text⟩

theorem kind_takesLists {reader : YamlReader} {cStr : List Emission → String}
    (hempty : reader.load "" = .ok .null) :
    (kind reader).TakesLists reading (mosquittoChecks reader) stageParameter listParameter
      SubscriptionConfig.toSubscriptionNames reader cStr where
  reads := kind_reads reader
  gathers _ _ := rfl
  refuses _ _ := ⟨_, rfl⟩
  text_list _ _ := rfl
  text_other _ stored _ hother := Function.update_of_ne (Ne.symm hother) _ stored
  depth _ _ := rfl
  broker _ _ := rfl
  metrics _ _ := rfl
  telemetry _ _ := rfl
  parses _ hload :=
    (lists_of_requireNames SubscriptionConfig.toSubscriptionNames (fun _ => rfl)
      (parseEntry_topicEntry reader.cpp) hempty hload).1
  blank _ hload :=
    (lists_of_requireNames SubscriptionConfig.toSubscriptionNames (fun _ => rfl)
      (parseEntry_topicEntry reader.cpp) hempty hload).2
  plans _ _ := forall₂_mapIdx (fun _ _ => ⟨rfl, rfl⟩) _

end Ros2Dispatcher.MosquittoSink

namespace Ros2Dispatcher

open Sinks

/-- **The sinks implement those of the fleet**, if yaml-cpp loads back the lists that it emits.
A node that could be configured from its parameters starts as the fleet has a fresh sink, with
the list of its parameters; and whatever the controller asks of it, in any order, with other
parameters set in between: it answers as a sink of the fleet may, grants all that the fleet
grants, and is in the same state with the same list. What an active one streams is the list
that the fleet has it run with. -/
theorem sinks_implement_fleet (reader : YamlReader) (cStr : List Emission → String)
    (hempty : reader.load "" = .ok .null) :
    (∀ stored target topics after,
      KafkaSink.configureFromParameters reader stored KafkaSink.initialSettings =
        .ok ⟨⟩ target →
      Lists KafkaSink.SubscriptionConfig.toSubscriptionNames topics
        target.configuredSubscriptions →
      Runs ((KafkaSink.kind reader).serve KafkaSink.listParameter cStr)
        ((KafkaSink.kind reader).Admits KafkaSink.listParameter reader cStr)
        { node := (.unconfigured, KafkaSink.boot stored) } after →
      ∃ sink, SinkNode.Answers ⟨.unconfigured, topics⟩ after.log sink ∧
        Implements KafkaSink.reading (kafkaChecks reader)
          KafkaSink.SubscriptionConfig.toSubscriptionNames sink after.node) ∧
    (∀ stored target topics after,
      MosquittoSink.configureFromParameters reader stored MosquittoSink.initialSettings =
        .ok ⟨⟩ target →
      Lists MosquittoSink.SubscriptionConfig.toSubscriptionNames topics
        target.configuredSubscriptions →
      Runs ((MosquittoSink.kind reader).serve MosquittoSink.listParameter cStr)
        ((MosquittoSink.kind reader).Admits MosquittoSink.listParameter reader cStr)
        { node := (.unconfigured, MosquittoSink.boot stored) } after →
      ∃ sink, SinkNode.Answers ⟨.unconfigured, topics⟩ after.log sink ∧
        Implements MosquittoSink.reading (mosquittoChecks reader)
          MosquittoSink.SubscriptionConfig.toSubscriptionNames sink after.node) := by
  have hkafka : (KafkaSink.kind reader).TakesLists _ _ _ _ _ reader cStr :=
    KafkaSink.kind_takesLists hempty
  have hmosquitto : (MosquittoSink.kind reader).TakesLists _ _ _ _ _ reader cStr :=
    MosquittoSink.kind_takesLists hempty
  constructor
  · intro stored target topics after hconfigures htopics hruns
    exact hkafka.implements_of_runs rfl
      (hkafka.implements_boot (by decide) hconfigures htopics) hruns
  · intro stored target topics after hconfigures htopics hruns
    exact hmosquitto.implements_of_runs rfl
      (hmosquitto.implements_boot (by decide) hconfigures htopics) hruns

/-- A kafka_sink is given a list, configured and activated, and refuses another list. -/
theorem sinks_implement_fleet_refused :
    ∃ after : Kind.Serving KafkaSink.Stored KafkaSink.SubscriptionConfig
        KafkaSink.KafkaParameters KafkaSink.Telemetry KafkaSink.SubscriptionRuntime,
      after.log.map (fun entry => entry.2.2) = [true, true, true, false] ∧
      ∃ sink, SinkNode.Answers ⟨.unconfigured, []⟩ after.log sink ∧
        Implements KafkaSink.reading (kafkaChecks .samples)
          KafkaSink.SubscriptionConfig.toSubscriptionNames sink after.node := by
  let kind := KafkaSink.kind .samples
  let serve := kind.serve KafkaSink.listParameter sampleText
  let boot : Kind.Serving KafkaSink.Stored KafkaSink.SubscriptionConfig
      KafkaSink.KafkaParameters KafkaSink.Telemetry KafkaSink.SubscriptionRuntime :=
    { node := (.unconfigured, KafkaSink.boot KafkaSink.defaults) }
  let next (s : Kind.Serving KafkaSink.Stored KafkaSink.SubscriptionConfig
      KafkaSink.KafkaParameters KafkaSink.Telemetry KafkaSink.SubscriptionRuntime)
      (request : SinkRequest) := (serve s (.request request {})).getD s
  let asked : SinkRequest := .subscriptions [⟨"/a", "T"⟩]
  let listed := next boot asked
  let configured := next listed (.transition .configure)
  let activated := next configured (.transition .activate)
  have hconfigure : (kind.callback .configure {} listed.node.2).1 ≠ .error := by decide +kernel
  have hactivate : (kind.callback .activate {} configured.node.2).1 ≠ .error := by decide +kernel
  let admits := kind.Admits KafkaSink.listParameter .samples sampleText
  have hlisted : Runs serve admits boot listed := .single (i := .request asked {}) rfl rfl
  have hconfigured : Runs serve admits boot configured :=
    hlisted.tail (i := .request (.transition .configure) {}) hconfigure rfl
  have hactivated : Runs serve admits boot activated :=
    hconfigured.tail (i := .request (.transition .activate) {}) hactivate rfl
  have hrun : Runs serve admits boot (next activated asked) :=
    hactivated.tail (i := .request asked {}) rfl rfl
  refine ⟨_, ?_, (sinks_implement_fleet .samples sampleText rfl).1 KafkaSink.defaults
    KafkaSink.initialSettings [] _ rfl .nil hrun⟩
  decide +kernel

end Ros2Dispatcher
