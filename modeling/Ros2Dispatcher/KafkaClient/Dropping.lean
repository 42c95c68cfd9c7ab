import Ros2Dispatcher.KafkaClient.SendOrder
import Ros2Dispatcher.KafkaClient.Sessions

/-!
# A producer that drops when the queue is full

With `drop_when_full` a record waits in `pending_records_` only for want of a producer: once
there is one, the poll thread tries all that wait in one go, and whatever is refused then is
dropped. If nothing was sent before `start` is through with its section, no record is ever taken
at once while others wait, and so records reach librdkafka in the order they were sent, whatever
it answers and however the poll thread is scheduled.

* `Machine.Serves`: a producer between `start` and `stop`, with `Serves.start`, `Serves.poll`
  and `Serves.send` for what can happen to it.
* `Machine.Serves.stop_eq`: `stop` returns, and then the poll thread is gone.
-/

namespace Ros2Dispatcher.KafkaClient

variable {config : KafkaProducerConfig} {rdkafka : RdKafka} {p : KafkaProducer} {m m' : Machine}

/-! ### Nothing waits next to a producer -/

/-- Records wait only while there is no producer. -/
def KafkaProducer.Flowing (p : KafkaProducer) : Prop :=
  p.hasProducer = true → p.pendingRecords = []

theorem tryProduceLocked_pendingRecords {record : SentRecord} :
    (tryProduceLocked rdkafka record p).2.pendingRecords = p.pendingRecords := by
  rw [tryProduceLocked]
  split
  · rfl
  · dsimp only
    split <;> rfl

/-- The loop over the waiting records does not end before all of them were tried. -/
theorem drainPending_empty {records : List SentRecord} (hdrop : config.dropWhenFull = true)
    (hpending : p.pendingRecords = records) :
    (drainPending config rdkafka records p).pendingRecords = [] := by
  induction records generalizing p with
  | nil => exact hpending
  | cons record rest ih =>
    rw [drainPending, hdrop]
    simp only [Bool.not_true, Bool.and_false, Bool.false_eq_true, if_false]
    exact ih rfl

theorem KafkaProducer.Flowing.poll (hdrop : config.dropWhenFull = true) :
    (pollLocked config rdkafka p).Flowing := by
  have hdrain : ∀ p' : KafkaProducer, (if p'.hasProducer then
      drainPending config rdkafka p'.pendingRecords p' else p').Flowing := by
    intro p' hproducer
    split
    · exact drainPending_empty hdrop rfl
    next habsent =>
      rw [if_neg habsent] at hproducer
      exact absurd hproducer habsent
  exact hdrain _

theorem KafkaProducer.Flowing.send {record : QueuedRecord} (hdrop : config.dropWhenFull = true)
    (h : p.Flowing) : (send config rdkafka record p).2.Flowing := by
  intro hproducer
  rw [send_hasProducer] at hproducer
  have hrunning : ∀ sent,
      (sendRunning config rdkafka sent p).2.pendingRecords = p.pendingRecords := by
    intro sent
    rw [sendRunning, if_pos hproducer]
    dsimp only
    rw [hdrop, Bool.or_true, if_pos rfl]
    split
    · exact tryProduceLocked_pendingRecords
    · exact tryProduceLocked_pendingRecords
  rw [KafkaClient.send]
  split
  · exact h hproducer
  · exact (hrunning _).trans (h hproducer)

/-! ### The calls of `send` -/

theorem tryProduceLocked_returned {record : SentRecord} :
    (tryProduceLocked rdkafka record p).2.returned = p.returned := by
  rw [tryProduceLocked]
  split
  · rfl
  · dsimp only
    split <;> rfl

theorem bufferRecord_returned {record : SentRecord} :
    (bufferRecord config record p).2.returned = p.returned := by
  rw [bufferRecord]
  split <;> rfl

theorem sendRunning_returned {record : SentRecord} :
    (sendRunning config rdkafka record p).2.returned = p.returned := by
  rw [sendRunning]
  split
  · dsimp only
    split
    · split <;> exact tryProduceLocked_returned
    · exact bufferRecord_returned.trans tryProduceLocked_returned
  · exact bufferRecord_returned

/-- A call of `send` while the producer runs is one more record. -/
theorem send_sent {record : QueuedRecord} (hrunning : p.running = true) :
    (send config rdkafka record p).2.sent = p.sent ++ [⟨p.returned.length, record⟩] := by
  rw [send, hrunning]
  simp only [Bool.not_true, Bool.false_eq_true, if_false, Deliveries.sent, sendRunning_returned,
    List.map_append, List.map_singleton]

theorem drainPending_returned {records : List SentRecord} :
    (drainPending config rdkafka records p).returned = p.returned := by
  induction records generalizing p with
  | nil => rfl
  | cons record rest ih =>
    rw [drainPending]
    dsimp only
    split
    · exact tryProduceLocked_returned
    · refine (ih).trans ?_
      split <;> exact tryProduceLocked_returned

/-- The poll thread sends nothing. -/
theorem pollLocked_returned : (pollLocked config rdkafka p).returned = p.returned := by
  have hdrain : ∀ p' : KafkaProducer, p'.returned = p.returned →
      (if p'.hasProducer then drainPending config rdkafka p'.pendingRecords p'
        else p').returned = p.returned := by
    intro p' hsame
    split
    · exact drainPending_returned.trans hsame
    · exact hsame
  have hcreate := congrArg Deliveries.returned (createProducerLocked_spec config rdkafka p).1
  rw [pollLocked]
  split
  · split
    next error p' hfailed =>
      rw [hfailed] at hcreate
      exact hdrain { p' with status := .degraded, lastError := error } hcreate
    next p' hcreated =>
      rw [hcreated] at hcreate
      exact hdrain p' hcreate
  · exact hdrain p rfl

theorem iterate_returned :
    (m.iterate config rdkafka).producer.returned = m.producer.returned := by
  rw [Machine.iterate]
  split
  · exact pollLocked_returned
  · rfl

/-! ### What librdkafka accepts -/

theorem accepted_mono {d d' : Deliveries} (h : d.produced <+: d'.produced) :
    d.accepted <+: d'.accepted :=
  (h.filter _).map _

theorem tryProduceLocked_produced {record : SentRecord} :
    p.produced <+: (tryProduceLocked rdkafka record p).2.produced := by
  rw [tryProduceLocked]
  split
  · exact List.prefix_rfl
  · dsimp only
    split <;> exact List.prefix_append _ _

theorem send_produced {record : QueuedRecord} :
    p.produced <+: (send config rdkafka record p).2.produced := by
  have hbuffer : ∀ (sent : SentRecord) (p' : KafkaProducer),
      (bufferRecord config sent p').2.produced = p'.produced := by
    intro sent p'
    rw [bufferRecord]
    split <;> rfl
  have hrunning : ∀ sent, p.produced <+: (sendRunning config rdkafka sent p).2.produced := by
    intro sent
    rw [sendRunning]
    split
    · dsimp only
      split
      · split <;> exact tryProduceLocked_produced
      · rw [hbuffer]
        exact tryProduceLocked_produced
    · exact hbuffer sent p ▸ List.prefix_rfl
  rw [KafkaClient.send]
  split
  · exact List.prefix_rfl
  · exact hrunning _

theorem drainPending_produced {records : List SentRecord} :
    p.produced <+: (drainPending config rdkafka records p).produced := by
  induction records generalizing p with
  | nil => exact List.prefix_rfl
  | cons record rest ih =>
    have htried : p.produced <+: (tryProduceLocked rdkafka record p).2.produced :=
      tryProduceLocked_produced
    rw [drainPending]
    dsimp only
    split
    · exact htried
    · refine htried.trans (List.IsPrefix.trans ?_ ih)
      split <;> exact List.prefix_rfl

theorem pollLocked_produced : p.produced <+: (pollLocked config rdkafka p).produced := by
  have hdrain : ∀ p' : KafkaProducer, p'.produced = p.produced →
      p.produced <+: (if p'.hasProducer then drainPending config rdkafka p'.pendingRecords p'
        else p').produced := by
    intro p' hsame
    rw [← hsame]
    split
    · exact drainPending_produced
    · exact List.prefix_rfl
  have hcreate := congrArg Deliveries.produced (createProducerLocked_spec config rdkafka p).1
  rw [pollLocked]
  split
  · split
    next error p' hfailed =>
      rw [hfailed] at hcreate
      exact hdrain { p' with status := .degraded, lastError := error } hcreate
    next p' hcreated =>
      rw [hcreated] at hcreate
      exact hdrain p' hcreate
  · exact hdrain p rfl

/-! ### A producer at work -/

/-- A producer that `start` has started and `stop` has not stopped; until then no record was
taken at once while others waited, and none will be. -/
structure Machine.Serves (config : KafkaProducerConfig) (m : Machine) : Prop where
  runs : Machine.Runs config (fun m input => input.InTurn m) {} m
  running : m.producer.running = true
  idle : m.owner = .idle
  pollThread : m.pollThread ≠ .absent
  flowing : m.producer.Flowing

/-- A step of the poll thread: at first, after polling, and after waiting. -/
inductive PollStep
  | enter (rdkafka : RdKafka)
  | done (rdkafka : RdKafka)
  | wake (timedOut : Bool) (rdkafka : RdKafka)

def PollStep.input : PollStep → Input
  | enter rdkafka => .pollEnter rdkafka
  | done rdkafka => .pollDone rdkafka
  | wake timedOut rdkafka => .wake timedOut rdkafka

/-- The poll thread takes a step, if it is the one that it can take. -/
def Machine.poll (config : KafkaProducerConfig) (m : Machine) (step : PollStep) : Machine :=
  (m.step config step.input).getD m

/-- `start` from beginning to end on a new producer, with no call in between: the machine, if
`start` returns true. -/
def Machine.started (config : KafkaProducerConfig) (rdkafka : RdKafka) : Option Machine :=
  match startLocked config rdkafka { running := true, status := .starting } with
  | (true, p) => some { producer := p, pollThread := .entering }
  | (false, _) => none

/-- `send` from beginning to end. -/
def Machine.send (config : KafkaProducerConfig) (rdkafka : RdKafka) (record : QueuedRecord)
    (m : Machine) : Machine :=
  { m with producer := (KafkaClient.send config rdkafka record m.producer).2 }

/-- The step the poll thread ends with once `running_` is cleared. -/
def PollThread.last : PollThread → Option PollStep
  | .entering => some (.enter {})
  | .polling => some (.done {})
  | .waiting _ => some (.wake false {})
  | .absent => none
  | .exited => none

/-- `stop` from beginning to end: the exchange, the end of the poll thread, and the section. -/
def Machine.stop (config : KafkaProducerConfig) (m : Machine) : Machine :=
  let stopping := (m.step config .stop).getD m
  let joined := match stopping.pollThread.last with
    | some step => stopping.poll config step
    | none => stopping
  (joined.step config .stopSection).getD joined

theorem Machine.poll_returned {step : PollStep} :
    (m.poll config step).producer.returned = m.producer.returned := by
  rw [Machine.poll]
  cases hstep : m.step config step.input with
  | none => rfl
  | some m' =>
    rw [Option.getD_some]
    generalize hinput : step.input = input at hstep
    cases Machine.step_cases config hstep with
    | iterate rdkafka => exact iterate_returned
    | wait => rfl
    | _ => cases step <;> cases hinput

theorem Machine.poll_accepted {step : PollStep} :
    m.producer.accepted <+: (m.poll config step).producer.accepted := by
  rw [Machine.poll]
  cases hstep : m.step config step.input with
  | none => exact List.prefix_rfl
  | some m' =>
    rw [Option.getD_some]
    generalize hinput : step.input = input at hstep
    cases Machine.step_cases config hstep with
    | iterate rdkafka =>
      rw [Machine.iterate]
      split
      · exact accepted_mono pollLocked_produced
      · exact List.prefix_rfl
    | wait => exact List.prefix_rfl
    | _ => cases step <;> cases hinput

/-- A new producer was sent nothing. -/
theorem Machine.started_sent (h : Machine.started config rdkafka = some m) :
    m.producer.sent = [] := by
  rw [Machine.started] at h
  split at h
  next p hstart =>
    cases h
    exact congrArg Deliveries.sent (startLocked_deliveries hstart)
  next => cases h

namespace Machine.Serves

theorem start (h : Machine.started config rdkafka = some m) : m.Serves config := by
  rw [Machine.started] at h
  split at h
  next p hstart =>
    cases h
    have hdeliveries := startLocked_deliveries hstart
    have hpending : p.pendingRecords = [] := congrArg Deliveries.pendingRecords hdeliveries
    refine ⟨?_, (startLocked_running hstart).1 rfl, rfl, nofun, fun _ => hpending⟩
    have hstarting : ({} : Machine).step config .start = some
        { producer := { running := true, status := .starting }, owner := .starting } := rfl
    refine (Runs.single (fun hatOnce => hatOnce.elim) hstarting).tail
      (i := .startSection rdkafka) (fun hatOnce => hatOnce.elim) ?_
    simp [Machine.step, hstart]
  next => cases h

/-- Another round of `poll_loop` keeps a producer serving. -/
theorem of_iterate (hdrop : config.dropWhenFull = true) (h : m.Serves config)
    (hruns : Machine.Runs config (fun m input => input.InTurn m) {} (m.iterate config rdkafka)) :
    (m.iterate config rdkafka).Serves config := by
  have hsame := iterate_running config rdkafka m
  refine ⟨hruns, hsame.2.1.trans h.running, hsame.1.trans h.idle, ?_, ?_⟩
  · rw [Machine.iterate, if_pos h.running]
    simp
  · rw [Machine.iterate, if_pos h.running]
    exact .poll hdrop

theorem poll {step : PollStep} (hdrop : config.dropWhenFull = true) (h : m.Serves config) :
    (m.poll config step).Serves config := by
  rw [Machine.poll]
  cases hstep : m.step config step.input with
  | none => exact h
  | some m' =>
    have hturn : step.input.InTurn m := by cases step <;> exact fun hatOnce => hatOnce.elim
    have hruns := h.runs.tail hturn hstep
    rw [Option.getD_some]
    generalize hinput : step.input = input at hstep
    cases Machine.step_cases config hstep with
    | iterate rdkafka => exact of_iterate hdrop h hruns
    | wait => exact ⟨hruns, h.running, h.idle, nofun, h.flowing⟩
    | _ => cases step <;> cases hinput

theorem send {record : QueuedRecord} (hdrop : config.dropWhenFull = true) (h : m.Serves config) :
    (m.send config rdkafka record).Serves config := by
  have hturn : (Input.send rdkafka record).InTurn m := fun hatOnce => h.flowing hatOnce.2.1
  exact ⟨h.runs.tail hturn rfl, send_running.trans h.running, h.idle, h.pollThread,
    h.flowing.send hdrop⟩

/-- `stop` returns: the poll thread has been joined, and the section has run. -/
theorem stop_eq (h : m.Serves config) :
    m.stop config = { producer := stopLocked { m.producer with running := false } } := by
  obtain ⟨producer, owner, pollThread⟩ := m
  have hidle : owner = .idle := h.idle
  have hrunning : producer.running = true := h.running
  subst hidle
  cases pollThread <;> simp [Machine.stop, Machine.step, hrunning, PollThread.last, Machine.poll,
    PollStep.input, Machine.iterate, KafkaProducer.wakes]

/-- What librdkafka has accepted, it has accepted in the order of the calls. -/
theorem inSentOrder (h : m.Serves config) : m.producer.InSentOrder := by
  obtain ⟨q, -, horder, hrealizes⟩ := inOrder_of_runs h.runs
  exact hrealizes.inSentOrder horder

/-- What librdkafka has accepted is what `sent_ok_` counts. -/
theorem sentOk_eq (h : m.Serves config) :
    m.producer.sentOk = m.producer.accepted.length := by
  obtain ⟨q, -, -, hrealizes⟩ := inOrder_of_runs h.runs
  have haccepted : m.producer.accepted = q.accepted := hrealizes.accepted
  rw [haccepted]
  exact hrealizes.sentOk.trans (Nat.zero_add _)

end Machine.Serves

end Ros2Dispatcher.KafkaClient
