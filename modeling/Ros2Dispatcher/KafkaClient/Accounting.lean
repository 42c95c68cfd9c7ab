import Ros2Dispatcher.KafkaClient.Sessions

/-!
# What becomes of the records

* `retry_queue_conserved`: between two stops every record given to `send` is accepted,
  failed, dropped or in `pending_records_`, exactly once, and the counters count the first
  three.
* `stop_settles_all`: once the producer has stopped, all records are counted, as long as
  `pending_records_` is empty whenever `stop` clears it and whenever a strict `start` fails;
  the first time it is not, they are not.
-/

namespace Ros2Dispatcher.KafkaClient

variable {config : KafkaProducerConfig} {m₀ m : Machine}

/-! ### Conservation -/

/-- **Conservation of the retry queue.** From a point where `pending_records_` is empty, and
until the next stop clears it, every record passed to `send` while `running_` is in exactly
one place: accepted by `produce` (`sent_ok_`), failed (`send_errors_`), dropped
(`dropped_queue_full_`) or pending. `pending_records_` keeps its bound, and has exactly the
records `send` has reported as buffered and that have not been settled yet. -/
theorem retry_queue_conserved (hempty : m₀.producer.pendingRecords = [])
    (hrun : Machine.Runs config (fun _ input => input ≠ .stopSection) m₀ m) :
    ∃ q : RetryQueue SentRecord,
      Realizes m₀.producer.toDeliveries m.producer.toDeliveries q ∧ q.offered.Nodup ∧
      q.offered.Perm (q.accepted ++ q.failed ++ q.dropped ++ m.producer.pendingRecords) ∧
      q.offered.length =
        (m.producer.sentOk - m₀.producer.sentOk) +
          (m.producer.sendErrors - m₀.producer.sendErrors) +
          (m.producer.droppedQueueFull - m₀.producer.droppedQueueFull) +
          m.producer.pendingRecords.length ∧
      m.producer.pendingRecords.length ≤ config.maxQueueMessages ∧
      ∀ record, record ∈ m.producer.pendingRecords ↔
        record ∈ q.held ∧ record ∉ q.accepted ++ q.failed ++ q.dropped := by
  obtain ⟨q, hruns, h⟩ := runs_simulated (D := fun q move => move = .discard → q.waiting = [])
    hrun hempty fun m input q move hC hmakes hdiscard => absurd (hmakes.discard hdiscard).1 hC
  obtain ⟨hconserved, hdiscarded, hperm, hlength⟩ := RetryQueue.lossless hruns
  refine ⟨q, h, h.nodup, ?_, ?_, ?_, fun record => ?_⟩
  · rw [h.pendingRecords]
    simpa [RetryQueue.settled] using hperm
  · rw [h.sentOk, h.sendErrors, h.droppedQueueFull, h.pendingRecords, hlength]
    simp
  · rw [h.pendingRecords]
    exact RetryQueue.waiting_le hruns (Nat.zero_le _)
  · rw [h.pendingRecords, hconserved.mem_waiting_iff h.nodup, hdiscarded]
    simp [RetryQueue.settled]

/-- A record sent while librdkafka's queue is full is pending, and accounted for. -/
theorem retry_queue_conserved_full :
    ∃ m, Machine.after .buffering [.start, .startSection {}, .send .full .blank] = some m ∧
      m.producer.pendingRecords.length = 1 ∧
      ∃ q : RetryQueue SentRecord, Realizes {} m.producer.toDeliveries q ∧
        q.offered.Perm (q.accepted ++ q.failed ++ q.dropped ++ m.producer.pendingRecords) := by
  obtain ⟨m, hm, hpending⟩ := Option.map_eq_some_iff.mp (show
    (Machine.after .buffering [.start, .startSection {}, .send .full .blank]).map
      (fun m => m.producer.pendingRecords.length) = some 1 by decide +kernel)
  have hrun : Machine.Runs .buffering (fun _ input => input ≠ .stopSection) {} m := by
    refine .of_foldlM hm fun input hinput _ => ?_
    simp only [List.mem_cons, List.not_mem_nil, or_false] at hinput
    rcases hinput with rfl | rfl | rfl <;> exact nofun
  obtain ⟨q, hq, -, hperm, -⟩ := retry_queue_conserved rfl hrun
  exact ⟨m, hm, hpending, q, hq, hperm⟩

/-! ### After a stop -/

/-- Every record passed to `send` was handed to `produce`, with an outcome that is counted,
or was dropped and counted; in particular every record reported as buffered. -/
structure Deliveries.Settled (d : Deliveries) : Prop where
  balance : d.sent.length = d.sentOk + d.sendErrors + d.droppedQueueFull
  counted : ∃ dropped : List SentRecord, d.sent.Perm (d.accepted ++ d.failed ++ dropped) ∧
    d.accepted.length = d.sentOk ∧ d.failed.length = d.sendErrors ∧
    dropped.length = d.droppedQueueFull ∧
    ∀ record ∈ d.buffered, record ∈ d.accepted ++ d.failed ++ dropped

/-- Where the step is the section of `stop`, or that of a strict `start` which cannot create
the producer, `pending_records_` is empty. -/
def Input.EmptyHanded (config : KafkaProducerConfig) (m : Machine) : Input → Prop
  | .stopSection => m.producer.pendingRecords = []
  | .startSection rdkafka => config.startupMode = .strict →
      (createProducerLocked config rdkafka m.producer).1 ≠ none → m.producer.pendingRecords = []
  | _ => True

/-- While `start` is in progress the producer runs, and once it has stopped nothing is
pending. -/
private def Machine.Emptied (m : Machine) : Prop :=
  (m.owner = .starting → m.producer.running = true) ∧
    (m.Stopped → m.producer.pendingRecords = [])

private theorem Machine.Emptied.of_orderly (h : m.Orderly) : m.Emptied :=
  ⟨fun hstarting => (h.starting hstarting).1, fun hstopped => (h.closed hstopped).pendingRecords⟩

theorem Input.EmptyHanded.failsEmpty {input : Input} (h : input.EmptyHanded config m) :
    input.FailsEmpty config m := by
  cases input with
  | startSection rdkafka => exact h
  | start => trivial
  | stop => trivial
  | stopSection => trivial
  | send => trivial
  | pollEnter => trivial
  | pollDone => trivial
  | wake => trivial

/-- While nothing has been lost, the records are those that are counted and those that are
pending. -/
private theorem guarded_balance
    (hrun : Machine.Runs config (fun m input => input.EmptyHanded config m) {} m) :
    m.Emptied ∧
      (m.producer.sent.length = m.producer.sentOk + m.producer.sendErrors +
        m.producer.droppedQueueFull + m.producer.pendingRecords.length) ∧
      (m.producer.pendingRecords = [] → m.producer.Settled) := by
  have hemptied : m.Emptied := .of_orderly (.runs (hrun.mono fun _ _ h => h.failsEmpty))
  obtain ⟨q, hruns, h⟩ := runs_simulated (D := fun q move => move = .discard → q.waiting = [])
    hrun rfl fun m input q move hguard hmakes hdiscard => by
      obtain ⟨rfl, hwaiting⟩ := hmakes.discard hdiscard
      rw [hwaiting]
      exact hguard
  obtain ⟨hconserved, -, hperm, hlength⟩ := RetryQueue.lossless hruns
  have hsent : m.producer.sent = q.offered := h.sent
  have hbuffered : m.producer.buffered = q.held := h.buffered
  have haccepted : m.producer.accepted = q.accepted := h.accepted
  have hfailed : m.producer.failed = q.failed := h.failed
  have hsentOk : m.producer.sentOk = q.accepted.length := h.sentOk.trans (Nat.zero_add _)
  have hsendErrors : m.producer.sendErrors = q.failed.length :=
    h.sendErrors.trans (Nat.zero_add _)
  have hdropped : m.producer.droppedQueueFull = q.dropped.length :=
    h.droppedQueueFull.trans (Nat.zero_add _)
  have hbalance : m.producer.sent.length = m.producer.sentOk + m.producer.sendErrors +
      m.producer.droppedQueueFull + m.producer.pendingRecords.length := by
    rw [hsent, hsentOk, hsendErrors, hdropped, h.pendingRecords, hlength]
  refine ⟨hemptied, hbalance, fun hpending => ?_⟩
  -- with nothing pending and nothing discarded, every item of the queue is settled
  refine ⟨?_, q.dropped, ?_, ?_, ?_, ?_, fun record hmem => ?_⟩
  · rw [hbalance, hpending, List.length_nil, Nat.add_zero]
  · rw [h.pendingRecords] at hpending
    rw [hpending] at hperm
    rw [hsent, haccepted, hfailed]
    simpa [RetryQueue.settled] using hperm
  · rw [haccepted, hsentOk]
  · rw [hfailed, hsendErrors]
  · rw [hdropped]
  · rw [h.pendingRecords] at hpending
    rw [hpending] at hperm
    rw [hbuffered] at hmem
    rw [haccepted, hfailed]
    have hplace := hperm.mem_iff.mp (hconserved.held_offered hmem)
    simpa [RetryQueue.settled] using hplace

/-- **A stop settles everything**, in every run in which `stop` and a strict `start` that
fails find `pending_records_` empty: whenever the producer has stopped, every record passed
to `send` is counted. The first time the buffer is not empty there, the counts do not add up
any more. -/
theorem stop_settles_all
    (hrun : Machine.Runs config (fun m input => input.EmptyHanded config m) {} m) :
    (m.Stopped → m.producer.Settled) ∧
      ∀ input m', m.step config input = some m' → m'.Stopped →
        (m'.producer.Settled ↔ input.EmptyHanded config m) := by
  obtain ⟨hemptied, hbalance, hsettled⟩ := guarded_balance hrun
  refine ⟨fun hstopped => hsettled (hemptied.2 hstopped), fun input m' hstep hstopped => ?_⟩
  constructor
  · intro hsettled'
    -- the two sections change no counter
    have hempty : m'.producer.sent = m.producer.sent → m'.producer.sentOk = m.producer.sentOk →
        m'.producer.sendErrors = m.producer.sendErrors →
        m'.producer.droppedQueueFull = m.producer.droppedQueueFull →
        m.producer.pendingRecords = [] := by
      intro hsent hsentOk hsendErrors hdropped
      have hbalance' := hsettled'.balance
      rw [hsent, hsentOk, hsendErrors, hdropped, hbalance] at hbalance'
      exact List.length_eq_zero_iff.mp (Nat.add_eq_left.mp hbalance')
    cases input with
    | stopSection =>
      cases Machine.step_cases config hstep with
      | stopped => exact hempty rfl rfl rfl rfl
      | iterate rdkafka polls => simp at polls
    | startSection rdkafka =>
      intro _ _
      have hsame := Machine.startSection_deliveries hstep
      exact hempty (congrArg Deliveries.sent hsame) (congrArg Deliveries.sentOk hsame)
        (congrArg Deliveries.sendErrors hsame) (congrArg Deliveries.droppedQueueFull hsame)
    | start => trivial
    | stop => trivial
    | send => trivial
    | pollEnter => trivial
    | pollDone => trivial
    | wake => trivial
  · intro hguard
    obtain ⟨hemptied', -, hsettled'⟩ := guarded_balance (hrun.tail hguard hstep)
    exact hsettled' (hemptied'.2 hstopped)

/-- A producer that hands its only record over at once has settled it when it stops. -/
theorem stop_settles_all_handed_over :
    ∃ m m', Machine.after .buffering
        [.start, .startSection {}, .send {} .blank, .stop, .pollEnter {}] = some m ∧
      m.step .buffering .stopSection = some m' ∧ m'.producer.sent.length = 1 ∧
      m'.producer.Settled := by
  obtain ⟨m, hm, hend⟩ := Option.map_eq_some_iff.mp (show
    (Machine.after .buffering
      [.start, .startSection {}, .send {} .blank, .stop, .pollEnter {}]).map
        (fun m => (m.producer.pendingRecords, (m.step .buffering .stopSection).map fun m' =>
          (m'.producer.sent.length, m'.owner, m'.producer.running))) =
      some ([], some (1, .idle, false)) by decide +kernel)
  rw [Prod.mk.injEq] at hend
  obtain ⟨m', hm', hend'⟩ := Option.map_eq_some_iff.mp hend.2
  simp only [Prod.mk.injEq] at hend'
  have hrun : Machine.Runs .buffering (fun m input => input.EmptyHanded .buffering m) {} m := by
    refine .of_foldlM hm fun input hinput m => ?_
    simp only [List.mem_cons, List.not_mem_nil, or_false] at hinput
    rcases hinput with rfl | rfl | rfl | rfl | rfl
    · trivial
    · exact fun hstrict => StartupMode.noConfusion hstrict
    · trivial
    · trivial
    · trivial
  have hsettled := ((stop_settles_all hrun).2 .stopSection m' hm' hend'.2).mpr hend.1
  exact ⟨m, m', hm, hm', hend'.1, hsettled⟩

/-- A stop discards a record that `send` has reported as buffered, and counts it nowhere. -/
theorem stop_discards_buffered :
    ∃ m, Machine.Runs .buffering (fun _ _ => True) {} m ∧ m.Stopped ∧
      m.producer.buffered.map SentRecord.call = [0] ∧ m.producer.sent.length = 1 ∧
      m.producer.sentOk + m.producer.sendErrors + m.producer.droppedQueueFull = 0 ∧
      ¬m.producer.Settled := by
  obtain ⟨m, hm, hend⟩ := Option.map_eq_some_iff.mp (show
    (Machine.after .buffering
      [.start, .startSection {}, .send .full .blank, .stop, .pollEnter {}, .stopSection]).map
        (fun m => ((m.owner, m.producer.running), m.producer.buffered.map SentRecord.call,
          m.producer.sent.length,
          m.producer.sentOk + m.producer.sendErrors + m.producer.droppedQueueFull)) =
      some ((.idle, false), [0], 1, 0) by decide +kernel)
  simp only [Prod.mk.injEq] at hend
  obtain ⟨hstopped, hbuffered, hsent, hcounters⟩ := hend
  refine ⟨m, .of_foldlM hm fun _ _ _ => trivial, hstopped, hbuffered, hsent, hcounters,
    fun hsettled => ?_⟩
  have hbalance := hsettled.balance
  rw [hsent, hcounters] at hbalance
  cases hbalance

end Ros2Dispatcher.KafkaClient
