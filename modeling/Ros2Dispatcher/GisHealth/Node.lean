import Ros2Dispatcher.GisHealth.Payloads
import Ros2Dispatcher.KafkaClient.Dropping
import Ros2Dispatcher.Library.Lifecycle

/-!
# The health node

`gis_health_node`, with its Kafka producer as the machine of `KafkaClient` and not as a parameter:
a configuration starts one, an activation reports every robot once as registered and once as
there, a timer reports them as there from then on, and a cleanup or a shutdown stops the producer.

The callbacks are procedures with exceptions on the members. What happens outside of them is an
`Outside`: the clock, librdkafka, and the steps the poll thread takes before each `send`. A state
of `System` is a point between two callbacks; there the poll thread takes steps as well, the
timer may fire while there is one, and parameters may be set, of which the node takes no notice
before its next configuration.
-/

namespace Ros2Dispatcher.GisHealth

open Json KafkaClient Procedure
open Lifecycle (CallbackReturn State Managed callbackResult)

variable {F : Type}

/-- What the node does with `gis.health_period_s`: the test for `<= 0.0`, and the cast of its
product with `1000.0`. -/
structure Period (F : Type) where
  nonPositive : F → Bool
  milliseconds : F → Int

/-! ### The producer -/

/-- The configuration that `start_producer` makes. -/
def Parameters.producerConfig (parameters : Parameters F) : KafkaProducerConfig where
  bootstrapServers := parameters.bootstrapServers
  clientId := parameters.clientId
  acks := parameters.acks
  startupMode := if parameters.strictStartup then .strict else .tolerant

/-- A producer, with the parameters it was made for. -/
structure Producer (F : Type) where
  parameters : Parameters F
  machine : Machine
deriving DecidableEq

namespace Producer

variable (producer : Producer F)

def config : KafkaProducerConfig :=
  producer.parameters.producerConfig

def poll (step : PollStep) : Producer F :=
  { producer with machine := producer.machine.poll producer.config step }

def send (rdkafka : RdKafka) (record : QueuedRecord) : Producer F :=
  { producer with machine := producer.machine.send producer.config rdkafka record }

def stop : Producer F :=
  { producer with machine := producer.machine.stop producer.config }

end Producer

/-! ### The node -/

/-- The members and the stored parameter values. `healthTimer` is the period of the timer.
`stopped` is not in the source: the producers that were stopped. -/
structure Node (F : Type) where
  stored : Parameters F
  parameters : Parameters F
  producer : Option (Producer F) := none
  healthTimer : Option Int := none
  stopped : List (Producer F) := []
deriving DecidableEq

/-- What happens up to the end of a `send`: steps of the poll thread, the clock as the payload is
built and as it is sent, and librdkafka. -/
structure SendOutside where
  polls : List PollStep := []
  payloadMs : Int64 := 0
  nowMs : Int64 := 0
  rdkafka : RdKafka := {}

/-- The outside of a callback: librdkafka as the producer starts, the sends for the `n`-th robot,
and whether `create_wall_timer` throws. -/
structure Outside where
  start : RdKafka := {}
  registration : Nat → SendOutside := fun _ => {}
  ping : Nat → SendOutside := fun _ => {}
  timerThrows : Bool := false

/-- Procedures on the members; an exception carries its text. -/
abbrev Callback (F : Type) :=
  EStateM String (Node F)

/-- The checks of `load_parameters`, and the error of the one that fails. -/
def Parameters.error? (period : Period F) (parameters : Parameters F) : Option String :=
  if parameters.bootstrapServers = "" then some "kafka.bootstrap_servers is required."
  else if parameters.robotList = [] then
    some "gis.robot_list must contain at least one robot id."
  else if period.nonPositive parameters.healthPeriodS then
    some "gis.health_period_s must be positive."
  else if parameters.healthTopic = "" ∨ parameters.registrationTopic = "" then
    some "gis.health_topic and gis.registration_topic must be non-empty."
  else none

/-- `load_parameters`. -/
def loadParameters (period : Period F) : Callback F (Option String) := do
  modify fun node => { node with parameters := node.stored }
  let node ← get
  -- the members have the new values even if these are refused
  pure (node.parameters.error? period)

/-- `start_producer`. -/
def startProducer (rdkafka : RdKafka) : Callback F Bool := do
  let node ← get
  match Machine.started node.parameters.producerConfig rdkafka with
  | some machine =>
    set { node with producer := some ⟨node.parameters, machine⟩ }
    pure true
  | none =>
    set { node with producer := none }
    pure false

/-- The producer, if there is one, is stopped and released. -/
def Node.release (node : Node F) : Node F :=
  match node.producer with
  | some producer => { node with producer := none, stopped := node.stopped ++ [producer.stop] }
  | none => node

/-- `stop_producer`. -/
def stopProducer : Callback F PUnit :=
  modify Node.release

/-- The arguments of `send` for a report: the key is the robot. -/
def reportRecord (topic : String) (robotId value : Text) (nowMs : Int64) : QueuedRecord where
  topic := topic
  key := robotId
  value := value
  timestampMs := nowMs
  headers := []

/-- `send_registration_for` and `send_ping_for`, which differ in the topic and the payload. -/
def sendFor (topic : Parameters F → String) (payload : Parameters F → Text → Int64 → Option Text)
    (outside : SendOutside) (robotId : Text) : Callback F PUnit := do
  let node ← get
  match node.producer with
  | none => pure ⟨⟩
  | some producer => do
    let producer := outside.polls.foldl Producer.poll producer
    set { node with producer := some producer }
    match payload node.parameters robotId outside.payloadMs with
    | none => throw "type_error"
    | some value =>
      let record := reportRecord (topic node.parameters) robotId value outside.nowMs
      set { node with producer := some (producer.send outside.rdkafka record) }

section

variable (codec : Codec) (period : Period F)

/-- `send_registration_for`. -/
def sendRegistrationFor : SendOutside → Text → Callback F PUnit :=
  sendFor Parameters.registrationTopic (buildRegistrationPayload codec)

/-- `send_ping_for`. -/
def sendPingFor : SendOutside → Text → Callback F PUnit :=
  sendFor Parameters.healthTopic fun _ => buildPingPayload codec

/-- `on_health_timer`. -/
def onHealthTimer (ping : Nat → SendOutside) : Callback F PUnit := do
  let node ← get
  forM node.parameters.robotList.zipIdx fun robot => sendPingFor codec (ping robot.2) robot.1

/-- `on_configure`. -/
def onConfigure (outside : Outside) : Callback F CallbackReturn := do
  match ← loadParameters period with
  | some _ => pure .failure
  | none => if ← startProducer outside.start then pure .success else pure .failure

/-- `on_activate`. -/
def onActivate (outside : Outside) : Callback F CallbackReturn := do
  let node ← get
  forM node.parameters.robotList.zipIdx fun robot => do
    sendRegistrationFor codec (outside.registration robot.2) robot.1
    sendPingFor codec (outside.ping robot.2) robot.1
  (if outside.timerThrows then throw "create_wall_timer" else pure ⟨⟩)
  modify fun node =>
    { node with healthTimer := some (period.milliseconds node.parameters.healthPeriodS) }
  pure .success

/-- `on_deactivate`. -/
def onDeactivate : Callback F CallbackReturn := do
  modify fun node => { node with healthTimer := none }
  pure .success

/-- `on_cleanup`; it leaves the timer alone. -/
def onCleanup : Callback F CallbackReturn := do
  stopProducer
  pure .success

/-- `on_shutdown`. -/
def onShutdown : Callback F CallbackReturn := do
  modify fun node => { node with healthTimer := none }
  stopProducer
  pure .success

/-- The lifecycle callbacks. -/
def callback (transition : Lifecycle.Transition) (outside : Outside) :
    Node F → CallbackReturn × Node F :=
  match transition with
  | .configure => callbackResult (onConfigure period outside)
  | .activate => callbackResult (onActivate codec period outside)
  | .deactivate => callbackResult onDeactivate
  | .cleanup => callbackResult onCleanup
  | .shutdown => callbackResult onShutdown

/-- The node as a managed node. It has no error callback of its own, and no parameter callback:
a batch is stored, and no member changes. -/
def managed : Managed Outside (Parameters F) (Node F) where
  callback := callback codec period
  onError node := (.failure, node)
  setParameters _ stored node := { node with stored }

/-! ### The system -/

/-- What can happen next: a transition or new parameter values, the timer, or a step of the poll
thread. -/
inductive Event (F : Type)
  | managed (input : Lifecycle.Input Outside (Parameters F))
  | timer (ping : Nat → SendOutside)
  | poll (step : PollStep)

/-- The node between two callbacks. An exception that leaves a timer callback ends the process:
`terminated`. -/
structure System (F : Type) where
  state : State
  node : Node F
  terminated : Bool := false
deriving DecidableEq

/-- One step, if it can happen. -/
def System.step (s : System F) (event : Event F) : Option (System F) :=
  if s.terminated then none
  else
    match event with
    | .managed input =>
      ((managed codec period).step (s.state, s.node) input).map fun s' => ⟨s'.1, s'.2, false⟩
    | .timer ping =>
      match s.node.healthTimer with
      | none => none
      | some _ =>
        match onHealthTimer codec ping s.node with
        | .ok _ node => some { s with node }
        | .error _ node => some { s with node, terminated := true }
    | .poll step =>
      s.node.producer.map fun producer =>
        { s with node := { s.node with producer := some (producer.poll step) } }

end

/-- A new node. The members begin with the defaults of the header, whose period is `thirty`
seconds. -/
def boot (thirty : F) (stored : Parameters F) : System F where
  state := .unconfigured
  node := { stored, parameters := { healthPeriodS := thirty } }

end Ros2Dispatcher.GisHealth
