import Ros2Dispatcher.KafkaClient.Queueing

/-!
# Sessions of a producer

A session begins where `start` sets `running_`, and ends with the section of `stop`, or with
that of a strict `start` that cannot create the producer. The section of `stop` closes the
producer: it drops the producer and clears `pending_records_`. That of a failing `start` clears
nothing, and a `send` may have buffered a record since `running_` was set.

* `Apart`: nothing is produced, and nothing is pending, that was sent before a given point; an
  empty buffer is enough for it to hold ever after (`Apart.runs`).
* `sessions_isolated`: sessions are isolated in every run in which a strict `start` that fails
  finds `pending_records_` empty; the first time it does not, they are not.
-/

namespace Ros2Dispatcher.KafkaClient

variable {config : KafkaProducerConfig} {rdkafka : RdKafka} {d₀ d : Deliveries}
variable {p : KafkaProducer} {m m' : Machine} {input : Input}

/-! ### Records sent before a point -/

/-- What has been produced since `d₀`, and what is pending, was sent since `d₀`. -/
structure Apart (d₀ d : Deliveries) : Prop where
  calls : d₀.returned.length ≤ d.returned.length
  pending : ∀ record ∈ d.pendingRecords, d₀.returned.length ≤ record.call
  produced : ∀ call ∈ d.produced.drop d₀.produced.length, d₀.returned.length ≤ call.1.call

/-- An empty buffer keeps what is to come apart. -/
theorem Apart.of_empty (h : d.pendingRecords = []) : Apart d d where
  calls := Nat.le_refl _
  pending := by simp [h]
  produced := by simp

theorem Apart.logProduce {record : SentRecord} {code : ErrorCode} (h : Apart d₀ p.toDeliveries)
    (hrecord : d₀.returned.length ≤ record.call) :
    Apart d₀ (p.logProduce record code).toDeliveries := by
  refine ⟨h.calls, h.pending, fun call hcall => ?_⟩
  have hcall' : call ∈ (p.produced ++ [(record, code)]).drop d₀.produced.length := hcall
  rw [List.drop_append, List.mem_append] at hcall'
  rcases hcall' with hold | hnew
  · exact h.produced call hold
  · rw [List.mem_singleton.mp (List.mem_of_mem_drop hnew)]
    exact hrecord

theorem Apart.tryProduceLocked {record : SentRecord} (h : Apart d₀ p.toDeliveries)
    (hrecord : d₀.returned.length ≤ record.call) :
    Apart d₀ (tryProduceLocked rdkafka record p).2.toDeliveries := by
  have hlogged : Apart d₀
      (p.logProduce record (rdkafka.produce record record.record.message)).toDeliveries :=
    h.logProduce hrecord
  rw [KafkaClient.tryProduceLocked]
  split
  · exact h
  · dsimp only
    split
    · exact ⟨hlogged.calls, hlogged.pending, hlogged.produced⟩
    · exact hlogged
    · exact ⟨hlogged.calls, hlogged.pending, hlogged.produced⟩

theorem Apart.countDropped (h : Apart d₀ p.toDeliveries) :
    Apart d₀ p.countDropped.toDeliveries :=
  ⟨h.calls, h.pending, h.produced⟩

/-- The record of the current call may be pending. -/
theorem Apart.bufferRecord {record : SentRecord} (h : Apart d₀ p.toDeliveries)
    (hrecord : d₀.returned.length ≤ record.call) :
    Apart d₀ (bufferRecord config record p).2.toDeliveries := by
  rw [KafkaClient.bufferRecord]
  split
  · exact h.countDropped
  · refine ⟨h.calls, fun pending hpending => ?_, h.produced⟩
    rcases List.mem_append.mp hpending with hold | hnew
    · exact h.pending pending hold
    · rw [List.mem_singleton.mp hnew]
      exact hrecord

theorem Apart.send {record : QueuedRecord} (h : Apart d₀ p.toDeliveries) :
    Apart d₀ (send config rdkafka record p).2.toDeliveries := by
  have hrunning : Apart d₀
      (sendRunning config rdkafka ⟨p.returned.length, record⟩ p).2.toDeliveries := by
    have htried : Apart d₀
        (KafkaClient.tryProduceLocked rdkafka ⟨p.returned.length, record⟩ p).2.toDeliveries :=
      h.tryProduceLocked h.calls
    rw [sendRunning]
    split
    · dsimp only
      split
      · split
        · exact htried.countDropped
        · exact htried
      · exact htried.bufferRecord h.calls
    · exact h.bufferRecord h.calls
  rw [KafkaClient.send]
  split
  · exact h
  · refine ⟨?_, hrunning.pending, hrunning.produced⟩
    exact Nat.le_trans hrunning.calls (by simp)

/-- The loop tries records of the buffer only. -/
theorem Apart.drainPending {records : List SentRecord} (h : Apart d₀ p.toDeliveries)
    (hrecords : ∀ record ∈ records, d₀.returned.length ≤ record.call) :
    Apart d₀ (drainPending config rdkafka records p).toDeliveries := by
  induction records generalizing p with
  | nil => exact h
  | cons record rest ih =>
    rw [List.forall_mem_cons] at hrecords
    have htried : Apart d₀ (KafkaClient.tryProduceLocked rdkafka record p).2.toDeliveries :=
      h.tryProduceLocked hrecords.1
    have hnext : ∀ p' : KafkaProducer, Apart d₀ p'.toDeliveries →
        Apart d₀ (KafkaClient.drainPending config rdkafka rest
          { p' with pendingRecords := rest }).toDeliveries := fun p' h' =>
      ih (p := { p' with pendingRecords := rest }) ⟨h'.calls, hrecords.2, h'.produced⟩ hrecords.2
    rw [KafkaClient.drainPending]
    dsimp only
    split
    · exact htried
    · split
      · exact hnext _ htried.countDropped
      · exact hnext _ htried

theorem Apart.pollLocked (h : Apart d₀ p.toDeliveries) :
    Apart d₀ (pollLocked config rdkafka p).toDeliveries := by
  have hdrain : ∀ p' : KafkaProducer, p'.toDeliveries = p.toDeliveries →
      Apart d₀ (if p'.hasProducer then
        KafkaClient.drainPending config rdkafka p'.pendingRecords p' else p').toDeliveries := by
    intro p' hsame
    rw [← hsame] at h
    split
    · exact h.drainPending h.pending
    · exact h
  have hcreate := (createProducerLocked_spec config rdkafka p).1
  rw [KafkaClient.pollLocked]
  split
  · split
    next error p' hfailed =>
      rw [hfailed] at hcreate
      exact hdrain { p' with status := .degraded, lastError := error } hcreate
    next p' hcreated =>
      rw [hcreated] at hcreate
      exact hdrain p' hcreate
  · exact hdrain p rfl

/-- Every step keeps old records apart. -/
theorem Apart.step (h : Apart d₀ m.producer.toDeliveries)
    (hstep : m.step config input = some m') : Apart d₀ m'.producer.toDeliveries := by
  cases Machine.step_cases config hstep with
  | startAgain => exact h
  | start => exact h
  | started rdkafka p owner result => rwa [startLocked_deliveries result]
  | startFailed rdkafka p owner result => rwa [startLocked_deliveries result]
  | stopAgain => exact h
  | stop => exact h
  | stopped => exact ⟨h.calls, by simp [stopLocked], h.produced⟩
  | send rdkafka record => exact h.send
  | iterate rdkafka =>
    rw [Machine.iterate]
    split
    · exact h.pollLocked
    · exact h
  | wait => exact h

theorem Apart.runs {C : Machine → Input → Prop} (h : Apart d₀ m.producer.toDeliveries)
    (hrun : Machine.Runs config C m m') : Apart d₀ m'.producer.toDeliveries :=
  hrun.invariant (I := fun m : Machine => Apart d₀ m.producer.toDeliveries)
    (fun _ _ _ h _ hstep => h.step hstep) h

/-- The records sent so far have the numbers of the calls so far. -/
theorem call_lt_of_sent {C : Machine → Input → Prop} (hrun : Machine.Runs config C {} m)
    {record : SentRecord} (hsent : record ∈ m.producer.sent) :
    record.call < m.producer.returned.length := by
  obtain ⟨q, -, h⟩ := runs_simulated (D := fun _ _ => True) hrun rfl fun _ _ _ _ _ _ => trivial
  have hoffered : m.producer.sent = q.offered := h.sent
  have hlength : q.offered.length = m.producer.returned.length := by
    rw [← hoffered, Deliveries.sent, List.length_map]
  rw [hoffered] at hsent
  have hnumber := List.mem_map_of_mem (f := SentRecord.call) hsent
  rw [h.numbered, List.mem_range'_1, hlength] at hnumber
  simpa using hnumber.2

/-! ### Closed producers -/

/-- What `stop` leaves behind, or a `start` that fails before anything is sent. -/
structure KafkaProducer.Closed (p : KafkaProducer) : Prop where
  hasProducer : p.hasProducer = false
  pendingRecords : p.pendingRecords = []
  status : p.status = .stopped ∨ p.status = .failed

/-- If the step is the section of a strict `start` that cannot create the producer, it finds
`pending_records_` empty. -/
def Input.FailsEmpty (config : KafkaProducerConfig) (m : Machine) : Input → Prop
  | .startSection rdkafka => config.startupMode = .strict →
      (createProducerLocked config rdkafka m.producer).1 ≠ none → m.producer.pendingRecords = []
  | _ => True

/-- The section of a `start` that fails writes three members. -/
theorem startLocked_failed {p' : KafkaProducer}
    (h : startLocked config rdkafka p = (false, p')) :
    ∃ error, p' = { p with running := false, status := .failed, lastError := error } := by
  rw [startLocked] at h
  split at h
  · cases (Prod.mk.inj h).1
  next error p₁ hfailed =>
    rw [createProducerLocked_error hfailed] at h
    split at h
    · exact ⟨error, (Prod.mk.inj h).2.symm⟩
    · cases (Prod.mk.inj h).1

theorem tryProduceLocked_hasProducer {record : SentRecord} :
    (tryProduceLocked rdkafka record p).2.hasProducer = p.hasProducer := by
  rw [tryProduceLocked]
  split
  · rfl
  · dsimp only
    split <;> rfl

/-- `send` neither creates nor drops the producer. -/
theorem send_hasProducer {record : QueuedRecord} :
    (send config rdkafka record p).2.hasProducer = p.hasProducer := by
  have hbuffered : ∀ sent (p' : KafkaProducer),
      (bufferRecord config sent p').2.hasProducer = p'.hasProducer := by
    intro sent p'
    rw [bufferRecord]
    split <;> rfl
  have hrunning : ∀ sent, (sendRunning config rdkafka sent p).2.hasProducer = p.hasProducer := by
    intro sent
    rw [sendRunning]
    split
    · dsimp only
      split
      · split <;> exact tryProduceLocked_hasProducer
      · exact (hbuffered sent _).trans tryProduceLocked_hasProducer
    · exact hbuffered sent p
  rw [send]
  split
  · rfl
  · exact hrunning _

/-- The poll thread takes a step only if there is one. -/
theorem pollThread_of_polls (hstep : m.step config input = some m')
    (hpolls : input = .pollEnter rdkafka ∨ input = .pollDone rdkafka ∨
      ∃ timedOut, input = .wake timedOut rdkafka) : m.pollThread ≠ .absent := by
  intro habsent
  rcases hpolls with rfl | rfl | ⟨timedOut, rfl⟩ <;> simp [Machine.step, habsent] at hstep

/-- There is no poll thread before the section of `start`, nor whenever nothing runs. -/
structure Machine.Threaded (m : Machine) : Prop where
  starting : m.owner = .starting → m.producer.running = true ∧ m.pollThread = .absent
  stopping : m.owner = .stopping → m.producer.running = false
  stopped : m.Stopped → m.pollThread = .absent

theorem Machine.Threaded.initial : ({} : Machine).Threaded where
  starting h := by cases h
  stopping h := by cases h
  stopped _ := rfl

/-- A step of the poll thread while there is one: nothing is starting, and nothing has stopped. -/
theorem Machine.Threaded.of_present (howner : m'.owner = m.owner)
    (hrunning : m'.producer.running = m.producer.running) (h : m.Threaded)
    (hpresent : m.pollThread ≠ .absent) : m'.Threaded where
  starting hstarting := absurd (h.starting (howner ▸ hstarting)).2 hpresent
  stopping hstopping := hrunning.trans (h.stopping (howner ▸ hstopping))
  stopped hstopped := absurd (h.stopped ⟨howner ▸ hstopped.1, hrunning ▸ hstopped.2⟩) hpresent

theorem send_running {record : QueuedRecord} :
    (send config rdkafka record p).2.running = p.running := by
  cases hrunning : p.running with
  | false => rw [send_of_stopped hrunning, hrunning]
  | true => exact (send_simulated config rdkafka record (.of_pending p.toDeliveries) hrunning).1

theorem Machine.Threaded.step (h : m.Threaded) (hstep : m.step config input = some m') :
    m'.Threaded := by
  cases Machine.step_cases config hstep with
  | startAgain => exact h
  | start owner running =>
    exact ⟨fun _ => ⟨rfl, h.stopped ⟨owner, running⟩⟩, fun h' => (by cases h'),
      fun h' => by cases h'.1⟩
  | started rdkafka p owner result =>
    refine ⟨fun h' => (by cases h'), fun h' => (by cases h'), fun hstopped => ?_⟩
    have hrunning : p.running = true :=
      ((startLocked_running result).1 rfl).trans (h.starting owner).1
    exact absurd (hstopped.2.symm.trans hrunning) Bool.false_ne_true
  | startFailed rdkafka p owner result =>
    exact ⟨fun h' => (by cases h'), fun h' => (by cases h'), fun _ => (h.starting owner).2⟩
  | stopAgain => exact h
  | stop =>
    exact ⟨fun h' => (by cases h'), fun _ => rfl, fun h' => by cases h'.1⟩
  | stopped => exact ⟨fun h' => (by cases h'), fun h' => (by cases h'), fun _ => rfl⟩
  | send rdkafka record =>
    refine ⟨fun hstarting => ?_, fun hstopping => send_running.trans (h.stopping hstopping),
      fun hstopped => h.stopped ⟨hstopped.1, send_running.symm.trans hstopped.2⟩⟩
    obtain ⟨hrunning, hthread⟩ := h.starting hstarting
    exact ⟨send_running.trans hrunning, hthread⟩
  | iterate rdkafka polls =>
    obtain ⟨howner, hrunning, -⟩ := iterate_running config rdkafka m
    exact .of_present howner hrunning h (pollThread_of_polls hstep polls)
  | wait rdkafka pollThread => exact .of_present (m := m) rfl rfl h (by simp [pollThread])

/-- Besides, there is no producer before the section of `start`, and whenever nothing runs the
producer is closed. -/
structure Machine.Orderly (m : Machine) : Prop extends m.Threaded where
  starting_hasProducer : m.owner = .starting → m.producer.hasProducer = false
  closed : m.Stopped → m.producer.Closed

theorem Machine.Orderly.initial : ({} : Machine).Orderly where
  toThreaded := .initial
  starting_hasProducer h := by cases h
  closed _ := ⟨rfl, rfl, .inl rfl⟩

theorem Machine.Orderly.step (h : m.Orderly) (hguard : input.FailsEmpty config m)
    (hstep : m.step config input = some m') : m'.Orderly := by
  have hthreaded := h.toThreaded.step hstep
  cases Machine.step_cases config hstep with
  | startAgain => exact h
  | start owner running =>
    exact ⟨hthreaded, fun _ => (h.closed ⟨owner, running⟩).hasProducer, fun h' => by cases h'.1⟩
  | started rdkafka p owner result =>
    refine ⟨hthreaded, fun h' => (by cases h'), fun hstopped => ?_⟩
    have hrunning : p.running = true :=
      ((startLocked_running result).1 rfl).trans (h.starting owner).1
    exact absurd (hstopped.2.symm.trans hrunning) Bool.false_ne_true
  | startFailed rdkafka p owner result =>
    have hproducer := h.starting_hasProducer owner
    obtain ⟨hstrict, hfailed, -⟩ := (startLocked_running result).2 rfl
    have hpending := hguard hstrict hfailed
    obtain ⟨error, rfl⟩ := startLocked_failed result
    exact ⟨hthreaded, fun h' => (by cases h'), fun _ => ⟨hproducer, hpending, .inr rfl⟩⟩
  | stopAgain => exact h
  | stop => exact ⟨hthreaded, fun h' => (by cases h'), fun h' => by cases h'.1⟩
  | stopped => exact ⟨hthreaded, fun h' => (by cases h'), fun _ => ⟨rfl, rfl, .inl rfl⟩⟩
  | send rdkafka record =>
    refine ⟨hthreaded, fun hstarting => ?_, fun hstopped => ?_⟩
    · exact send_hasProducer.trans (h.starting_hasProducer hstarting)
    · have hrunning : m.producer.running = false := send_running.symm.trans hstopped.2
      rw [send_of_stopped hrunning]
      exact h.closed ⟨hstopped.1, hrunning⟩
  | iterate rdkafka polls =>
    have hpresent := pollThread_of_polls hstep polls
    obtain ⟨howner, hrunning, -⟩ := iterate_running config rdkafka m
    refine ⟨hthreaded, fun hstarting => ?_, fun hstopped => ?_⟩
    · exact absurd (h.starting (howner ▸ hstarting)).2 hpresent
    · exact absurd (h.stopped ⟨howner ▸ hstopped.1, hrunning ▸ hstopped.2⟩) hpresent
  | wait rdkafka pollThread =>
    exact ⟨hthreaded, h.starting_hasProducer, h.closed⟩

theorem Machine.Orderly.runs
    (hrun : Machine.Runs config (fun m input => input.FailsEmpty config m) {} m) : m.Orderly :=
  hrun.invariant (fun _ _ _ h => h.step) .initial

/-- **Sessions** are isolated in every run in which each strict `start` that fails finds
`pending_records_` empty: once stopped, the producer is closed, and nothing sent so far is ever
produced again. The first time such a `start` does not find it empty, the producer is not
closed. -/
theorem sessions_isolated
    (hrun : Machine.Runs config (fun m input => input.FailsEmpty config m) {} m) :
    (m.Stopped → m.producer.Closed ∧
      ∀ m', Machine.Runs config (fun _ _ => True) m m' →
        ∀ call ∈ m'.producer.produced.drop m.producer.produced.length,
          call.1 ∉ m.producer.sent) ∧
      ∀ input m', m.step config input = some m' → m'.Stopped →
        (m'.producer.Closed ↔ input.FailsEmpty config m) := by
  have horderly := Machine.Orderly.runs hrun
  refine ⟨fun hstopped => ?_, fun input m' hstep hstopped => ⟨fun hclosed => ?_, fun hguard => ?_⟩⟩
  · have hclosed := horderly.closed hstopped
    refine ⟨hclosed, fun m' hlater call hcall hsent => ?_⟩
    have hapart := (Apart.of_empty hclosed.pendingRecords).runs hlater
    exact Nat.not_lt.mpr (hapart.produced call hcall) (call_lt_of_sent hrun hsent)
  · cases input with
    | startSection rdkafka =>
      intro _ _
      have hsame := Machine.startSection_deliveries hstep
      exact (congrArg Deliveries.pendingRecords hsame).symm.trans hclosed.pendingRecords
    | start => trivial
    | stop => trivial
    | stopSection => trivial
    | send => trivial
    | pollEnter => trivial
    | pollDone => trivial
    | wake => trivial
  · exact (horderly.step hguard hstep).closed hstopped

/-- Fail to start without a producer. -/
def KafkaProducerConfig.strict : KafkaProducerConfig where
  startupMode := .strict

/-- A session with a record, and the next one with another. -/
theorem sessions_isolated_twice :
    ∃ m m', Machine.after .strict
        [.start, .startSection {}, .send {} .blank, .stop, .pollEnter {}, .stopSection] = some m ∧
      [Input.start, .startSection {}, .send {} .blank].foldlM (Machine.step .strict) m = some m' ∧
      m'.producer.accepted.map SentRecord.call = [0, 1] ∧ m.producer.Closed ∧
      ∀ call ∈ m'.producer.produced.drop m.producer.produced.length,
        call.1 ∉ m.producer.sent := by
  obtain ⟨m, hm, hend⟩ := Option.map_eq_some_iff.mp (show
    (Machine.after .strict
      [.start, .startSection {}, .send {} .blank, .stop, .pollEnter {}, .stopSection]).map
        (fun m => ((m.owner, m.producer.running),
          ([Input.start, .startSection {}, .send {} .blank].foldlM (Machine.step .strict) m).map
            fun m' => m'.producer.accepted.map SentRecord.call)) =
      some ((.idle, false), some [0, 1]) by decide +kernel)
  rw [Prod.mk.injEq, Prod.mk.injEq] at hend
  obtain ⟨hstopped, hlater⟩ := hend
  obtain ⟨m', hm', haccepted⟩ := Option.map_eq_some_iff.mp hlater
  have hrun : Machine.Runs .strict (fun m input => input.FailsEmpty .strict m) {} m := by
    refine .of_foldlM hm fun input hinput m => ?_
    simp only [List.mem_cons, List.not_mem_nil, or_false] at hinput
    rcases hinput with rfl | rfl | rfl | rfl | rfl | rfl
    · trivial
    · exact fun _ hfails => absurd rfl hfails
    · trivial
    · trivial
    · trivial
    · trivial
  have hisolated := (sessions_isolated hrun).1 hstopped
  exact ⟨m, m', hm, hm', haccepted, hisolated.1,
    hisolated.2 m' (.of_foldlM hm' fun _ _ _ => trivial)⟩

/-- A record sent while a strict `start` is about to fail stays in the buffer, and the next
session produces it. -/
theorem buffered_record_outlives_session :
    ∃ m m', Machine.Runs .strict (fun _ _ => True) {} m ∧ m.Stopped ∧ ¬m.producer.Closed ∧
      Machine.Runs .strict (fun _ _ => True) m m' ∧
      m.producer.sent = [⟨0, .blank⟩] ∧
      m'.producer.produced.drop m.producer.produced.length = [(⟨0, .blank⟩, .noError)] := by
  obtain ⟨m, hm, hend⟩ := Option.map_eq_some_iff.mp (show
    (Machine.after .strict
      [.start, .send {} .blank, .startSection { create := some "unreachable" }]).map
        (fun m => ((m.owner, m.producer.running), m.producer.pendingRecords.length,
          m.producer.sent,
          ([Input.start, .startSection {}, .pollEnter {}].foldlM (Machine.step .strict) m).map
            fun m' => m'.producer.produced.drop m.producer.produced.length)) =
      some ((.idle, false), 1, [⟨0, .blank⟩], some [(⟨0, .blank⟩, .noError)]) from rfl)
  simp only [Prod.mk.injEq] at hend
  obtain ⟨hstopped, hpending, hsent, hlater⟩ := hend
  obtain ⟨m', hm', hproduced⟩ := Option.map_eq_some_iff.mp hlater
  refine ⟨m, m', .of_foldlM hm fun _ _ _ => trivial, hstopped, fun hclosed => ?_,
    .of_foldlM hm' fun _ _ _ => trivial, hsent, hproduced⟩
  simp [hclosed.pendingRecords] at hpending

end Ros2Dispatcher.KafkaClient
