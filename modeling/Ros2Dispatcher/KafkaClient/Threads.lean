import Ros2Dispatcher.KafkaClient.KafkaProducer
import Ros2Dispatcher.Library.Runs

/-!
# The threads of a Kafka producer

One thread owns the producer and calls `start` and `stop`; any number of threads call
`send`; `start` runs `poll_loop` on a thread of its own, and `stop` joins it. Everything
that touches the members happens under `mutex_`, apart from the compare-and-exchange on
`running_` at the beginning of `start` and of `stop`. A state of `Machine` is a point where
`mutex_` is free, and a step is one section that holds it, or one such exchange. An exchange
in the middle of a section does what it would do just before or just after it.

The outside decides which step comes next, how librdkafka answers in it, and when waiting
times out. Runs of the machine are sequences of steps.
-/

namespace Ros2Dispatcher.KafkaClient

/-- What the owner is doing: nothing, `start` before its section, or `stop` before its. -/
inductive Owner
  | idle
  | starting
  | stopping
deriving DecidableEq, Repr

/-- The poll thread: there is none, it is about to take `mutex_` for the first time, it is in
`producer_->poll`, it waits on `cv_`, or it has returned. -/
inductive PollThread
  | absent
  | entering
  | polling
  | waiting (ms : Int)
  | exited
deriving DecidableEq, Repr

structure Machine where
  producer : KafkaProducer := {}
  owner : Owner := .idle
  pollThread : PollThread := .absent
deriving DecidableEq, Repr

/-- One step: the exchange and the section of `start` and of `stop`, a call of `send`, and
the poll thread taking `mutex_` for the first time, after polling, and after waiting. -/
inductive Input
  | start
  | startSection (rdkafka : RdKafka)
  | stop
  | stopSection
  | send (rdkafka : RdKafka) (record : QueuedRecord)
  | pollEnter (rdkafka : RdKafka)
  | pollDone (rdkafka : RdKafka)
  | wake (timedOut : Bool) (rdkafka : RdKafka)

variable (config : KafkaProducerConfig)

/-- `wait_ms` of `poll_loop`. -/
def waitMs (p : KafkaProducer) : Int :=
  if p.hasProducer then config.pollTimeoutMs else config.reconnectBackoffMs

/-- The predicate `poll_loop` waits for. -/
def KafkaProducer.wakes (p : KafkaProducer) : Bool :=
  !p.running || !p.pendingRecords.isEmpty

/-- The head of `poll_loop`, with `mutex_` held: one more iteration, or the end. -/
def Machine.iterate (rdkafka : RdKafka) (m : Machine) : Machine :=
  if m.producer.running then
    { m with producer := pollLocked config rdkafka m.producer, pollThread := .polling }
  else { m with pollThread := .exited }

/-- The machine after a step, if the step can happen. -/
def Machine.step (m : Machine) : Input → Option Machine
  | .start =>
    if m.owner = .idle then
      -- a producer that runs is left alone
      if m.producer.running then some m
      else some { m with
        producer := { m.producer with running := true, status := .starting }
        owner := .starting }
    else none
  | .startSection rdkafka =>
    if m.owner = .starting then
      match startLocked config rdkafka m.producer with
      | (true, p) => some { producer := p, owner := .idle, pollThread := .entering }
      -- a strict start that fails starts no poll thread
      | (false, p) => some { m with producer := p, owner := .idle }
    else none
  | .stop =>
    if m.owner = .idle then
      if m.producer.running then
        some { m with producer := { m.producer with running := false }, owner := .stopping }
      else some m
    else none
  | .stopSection =>
    -- the poll thread, if there is one, has been joined
    if m.owner = .stopping ∧ (m.pollThread = .exited ∨ m.pollThread = .absent) then
      some { producer := stopLocked m.producer, owner := .idle, pollThread := .absent }
    else none
  | .send rdkafka record =>
    some { m with producer := (send config rdkafka record m.producer).2 }
  | .pollEnter rdkafka => if m.pollThread = .entering then some (m.iterate config rdkafka) else none
  | .pollDone rdkafka =>
    if m.pollThread = .polling then
      if m.producer.wakes then some (m.iterate config rdkafka)
      else some { m with pollThread := .waiting (waitMs config m.producer) }
    else none
  | .wake timedOut rdkafka =>
    match m.pollThread with
    | .waiting _ => if timedOut || m.producer.wakes then some (m.iterate config rdkafka) else none
    | _ => none

/-- What a step can be, and where it leads. -/
inductive Machine.Steps (m : Machine) : Input → Machine → Prop
  | startAgain (owner : m.owner = .idle) (running : m.producer.running = true) :
    m.Steps .start m
  | start (owner : m.owner = .idle) (running : m.producer.running = false) :
    m.Steps .start { m with
      producer := { m.producer with running := true, status := .starting }, owner := .starting }
  | started (rdkafka : RdKafka) (p : KafkaProducer) (owner : m.owner = .starting)
    (result : startLocked config rdkafka m.producer = (true, p)) :
    m.Steps (.startSection rdkafka) { producer := p, owner := .idle, pollThread := .entering }
  | startFailed (rdkafka : RdKafka) (p : KafkaProducer) (owner : m.owner = .starting)
    (result : startLocked config rdkafka m.producer = (false, p)) :
    m.Steps (.startSection rdkafka) { m with producer := p, owner := .idle }
  | stopAgain (owner : m.owner = .idle) (running : m.producer.running = false) : m.Steps .stop m
  | stop (owner : m.owner = .idle) (running : m.producer.running = true) :
    m.Steps .stop { m with producer := { m.producer with running := false }, owner := .stopping }
  | stopped (owner : m.owner = .stopping)
    (pollThread : m.pollThread = .exited ∨ m.pollThread = .absent) :
    m.Steps .stopSection
      { producer := stopLocked m.producer, owner := .idle, pollThread := .absent }
  | send (rdkafka : RdKafka) (record : QueuedRecord) :
    m.Steps (.send rdkafka record)
      { m with producer := (send config rdkafka record m.producer).2 }
  | iterate {input : Input} (rdkafka : RdKafka)
    (polls : input = .pollEnter rdkafka ∨ input = .pollDone rdkafka ∨
      ∃ timedOut, input = .wake timedOut rdkafka) :
    m.Steps input (m.iterate config rdkafka)
  | wait (rdkafka : RdKafka) (pollThread : m.pollThread = .polling)
    (wakes : m.producer.wakes = false) :
    m.Steps (.pollDone rdkafka) { m with pollThread := .waiting (waitMs config m.producer) }

theorem Machine.step_cases {m m' : Machine} {input : Input} (h : m.step config input = some m') :
    m.Steps config input m' := by
  cases input with
  | start =>
    simp only [Machine.step, Option.ite_none_right_eq_some] at h
    obtain ⟨howner, h⟩ := h
    split at h
    next hrunning =>
      cases h
      exact .startAgain howner hrunning
    next hrunning =>
      cases h
      exact .start howner (by simpa using hrunning)
  | startSection rdkafka =>
    simp only [Machine.step, Option.ite_none_right_eq_some] at h
    obtain ⟨howner, h⟩ := h
    split at h
    next p hresult =>
      cases h
      exact .started rdkafka p howner hresult
    next p hresult =>
      cases h
      exact .startFailed rdkafka p howner hresult
  | stop =>
    simp only [Machine.step, Option.ite_none_right_eq_some] at h
    obtain ⟨howner, h⟩ := h
    split at h
    next hrunning =>
      cases h
      exact .stop howner hrunning
    next hrunning =>
      cases h
      exact .stopAgain howner (by simpa using hrunning)
  | stopSection =>
    simp only [Machine.step, Option.ite_none_right_eq_some, Option.some.injEq] at h
    obtain ⟨⟨howner, hthread⟩, rfl⟩ := h
    exact .stopped howner hthread
  | send rdkafka record =>
    cases h
    exact .send rdkafka record
  | pollEnter rdkafka =>
    simp only [Machine.step, Option.ite_none_right_eq_some, Option.some.injEq] at h
    obtain ⟨-, rfl⟩ := h
    exact .iterate rdkafka (.inl rfl)
  | pollDone rdkafka =>
    simp only [Machine.step, Option.ite_none_right_eq_some] at h
    obtain ⟨hthread, h⟩ := h
    split at h
    · cases h
      exact .iterate rdkafka (.inr (.inl rfl))
    next hwakes =>
      cases h
      exact .wait rdkafka hthread (by simpa using hwakes)
  | wake timedOut rdkafka =>
    simp only [Machine.step] at h
    split at h
    · simp only [Option.ite_none_right_eq_some, Option.some.injEq] at h
      obtain ⟨-, rfl⟩ := h
      exact .iterate rdkafka (.inr (.inr ⟨timedOut, rfl⟩))
    · cases h

/-- No `start` or `stop` is in progress, and the producer does not run. -/
def Machine.Stopped (m : Machine) : Prop :=
  m.owner = .idle ∧ m.producer.running = false

/-- The runs all of whose steps satisfy `C`. -/
abbrev Machine.Runs (C : Machine → Input → Prop) : Machine → Machine → Prop :=
  Ros2Dispatcher.Runs (Machine.step config) C

/-! ### A concrete setting -/

/-- Buffer records while librdkafka's queue is full. -/
def KafkaProducerConfig.buffering : KafkaProducerConfig where
  dropWhenFull := false

/-- A section during which librdkafka's queue is full. -/
def RdKafka.full : RdKafka where
  produce _ _ := .queueFull

/-- A record without contents. -/
def QueuedRecord.blank : QueuedRecord where
  topic := ""
  key := []
  value := []
  headers := []

/-- The machine after a list of steps. -/
def Machine.after (inputs : List Input) : Option Machine :=
  inputs.foldlM (Machine.step config) {}

end Ros2Dispatcher.KafkaClient
