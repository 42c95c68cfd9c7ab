import Ros2Dispatcher.KafkaClient.Threads
import Ros2Dispatcher.Library.RetryQueue

/-!
# The producer is a retry queue

`Realizes d₀ d q` says that since `d₀` the deliveries of a producer went as in the retry
queue `q`: the records given to `send` are the items offered, `pending_records_` is the
buffer, and the counters count the items settled. `Machine.step_simulated` shows that every
step of the machine makes moves of the queue, and which: only a direct `produce` accepts a
record at once, and only `stop` discards the buffer.
-/

namespace Ros2Dispatcher.KafkaClient

variable (config : KafkaProducerConfig) (rdkafka : RdKafka) {record : SentRecord}
variable {d₀ d : Deliveries} {p : KafkaProducer} {q : RetryQueue SentRecord}

/-- Since `d₀`, the counters and the calls of `produce` are those of the items `q` settled. -/
structure Tallies (d₀ d : Deliveries) (q : RetryQueue SentRecord) : Prop where
  accepted : d.accepted = d₀.accepted ++ q.accepted
  failed : d.failed = d₀.failed ++ q.failed
  sentOk : d.sentOk = d₀.sentOk + q.accepted.length
  sendErrors : d.sendErrors = d₀.sendErrors + q.failed.length
  droppedQueueFull : d.droppedQueueFull = d₀.droppedQueueFull + q.dropped.length

/-- Since `d₀`, the deliveries went as in the retry queue `q`. -/
structure Realizes (d₀ d : Deliveries) (q : RetryQueue SentRecord) : Prop extends
    Tallies d₀ d q where
  sent : d.sent = d₀.sent ++ q.offered
  buffered : d.buffered = d₀.buffered ++ q.held
  pendingRecords : d.pendingRecords = q.waiting
  numbered : q.offered.map SentRecord.call = List.range' d₀.returned.length q.offered.length

/-- Tallies are about the calls of `produce`, the counters and the settled items only. -/
private theorem Tallies.congr {d' : Deliveries} {q' : RetryQueue SentRecord}
    (h : Tallies d₀ d q)
    (hd : (d'.produced, d'.sentOk, d'.sendErrors, d'.droppedQueueFull) =
      (d.produced, d.sentOk, d.sendErrors, d.droppedQueueFull))
    (hq : (q'.accepted, q'.failed, q'.dropped) = (q.accepted, q.failed, q.dropped)) :
    Tallies d₀ d' q' := by
  simp only [Prod.mk.injEq] at hd hq
  obtain ⟨hproduced, hsentOk, hsendErrors, hdropped⟩ := hd
  obtain ⟨haccepted, hfailed, hdropped'⟩ := hq
  refine ⟨?_, ?_, ?_, ?_, ?_⟩
  · rw [haccepted, ← h.accepted, Deliveries.accepted, Deliveries.accepted, hproduced]
  · rw [hfailed, ← h.failed, Deliveries.failed, Deliveries.failed, hproduced]
  · rw [hsentOk, h.sentOk, haccepted]
  · rw [hsendErrors, h.sendErrors, hfailed]
  · rw [hdropped, h.droppedQueueFull, hdropped']

/-- A queue that has the buffer of `d` and no history. -/
theorem Realizes.of_pending (d : Deliveries) :
    Realizes d d { waiting := d.pendingRecords } where
  accepted := by simp
  failed := by simp
  sentOk := rfl
  sendErrors := rfl
  droppedQueueFull := rfl
  sent := by simp
  buffered := by simp
  pendingRecords := rfl
  numbered := rfl

/-! ### Trying a record -/

theorem accepted_of_produced {d' : Deliveries} {code : ErrorCode}
    (h : d'.produced = d.produced ++ [(record, code)]) :
    d'.accepted = d.accepted ++ if code = .noError then [record] else [] := by
  rw [Deliveries.accepted, h, List.filter_append, List.map_append, ← Deliveries.accepted]
  by_cases hcode : code = .noError <;> simp [hcode]

theorem failed_of_produced {d' : Deliveries} {code : ErrorCode}
    (h : d'.produced = d.produced ++ [(record, code)]) :
    d'.failed = d.failed ++ if code ≠ .noError ∧ code ≠ .queueFull then [record] else [] := by
  rw [Deliveries.failed, h, List.filter_append, List.map_append, ← Deliveries.failed]
  by_cases hcode : code ≠ .noError ∧ code ≠ .queueFull <;> simp [hcode]

/-- What trying a record can come to: nothing, or a fate for it. -/
inductive Tried (d₀ : Deliveries) (record : SentRecord) (q : RetryQueue SentRecord) :
    ErrorCode → SendStatus → Deliveries → Prop
  | full {d : Deliveries} (h : Tallies d₀ d q) : Tried d₀ record q .queueFull .queueFull d
  | sent {d : Deliveries} (h : Tallies d₀ d (q.assign record .accepted)) :
    Tried d₀ record q .noError .sent d
  | error {d : Deliveries} (code : Int) (h : Tallies d₀ d (q.assign record .failed)) :
    Tried d₀ record q (.other code) .error d

/-- The rest of what `try_produce_locked` leaves alone. -/
structure Tries (p p' : KafkaProducer) : Prop where
  hasProducer : p'.hasProducer = p.hasProducer
  running : p'.running = p.running
  pendingRecords : p'.pendingRecords = p.pendingRecords
  returned : p'.returned = p.returned

theorem tryProduceLocked_spec (record : SentRecord) (hp : p.hasProducer = true)
    (h : Tallies d₀ p.toDeliveries q) :
    Tries p (tryProduceLocked rdkafka record p).2 ∧
      (tryProduceLocked rdkafka record p).1.buffered = false ∧
      Tried d₀ record q (rdkafka.produce record record.record.message)
        (tryProduceLocked rdkafka record p).1.status
        (tryProduceLocked rdkafka record p).2.toDeliveries := by
  simp only [tryProduceLocked, hp, Bool.not_true, Bool.false_eq_true, if_false]
  cases hcode : rdkafka.produce record record.record.message with
  | noError =>
    refine ⟨⟨rfl, rfl, rfl, rfl⟩, rfl, .sent ⟨?_, ?_, ?_, h.sendErrors, h.droppedQueueFull⟩⟩
    · refine (accepted_of_produced (d := p.toDeliveries) rfl).trans ?_
      rw [h.accepted, if_pos rfl, List.append_assoc]
      rfl
    · refine (failed_of_produced (d := p.toDeliveries) rfl).trans ?_
      rw [h.failed]
      simp [RetryQueue.assign]
    · refine (congrArg (· + 1) h.sentOk).trans ?_
      simp [RetryQueue.assign, Nat.add_assoc]
  | queueFull =>
    refine ⟨⟨rfl, rfl, rfl, rfl⟩, rfl,
      .full ⟨?_, ?_, h.sentOk, h.sendErrors, h.droppedQueueFull⟩⟩
    · refine (accepted_of_produced (d := p.toDeliveries) rfl).trans ?_
      simp [h.accepted]
    · refine (failed_of_produced (d := p.toDeliveries) rfl).trans ?_
      simp [h.failed]
  | other code =>
    refine ⟨⟨rfl, rfl, rfl, rfl⟩, rfl, .error code ⟨?_, ?_, h.sentOk, ?_, h.droppedQueueFull⟩⟩
    · refine (accepted_of_produced (d := p.toDeliveries) rfl).trans ?_
      rw [h.accepted]
      simp [RetryQueue.assign]
    · refine (failed_of_produced (d := p.toDeliveries) rfl).trans ?_
      rw [h.failed, if_pos ⟨by simp, by simp⟩, List.append_assoc]
      rfl
    · refine (congrArg (· + 1) h.sendErrors).trans ?_
      simp [RetryQueue.assign, Nat.add_assoc]

theorem Tallies.countDropped (h : Tallies d₀ p.toDeliveries q) :
    Tallies d₀ p.countDropped.toDeliveries (q.assign record .dropped) := by
  refine ⟨h.accepted, h.failed, h.sentOk, h.sendErrors, ?_⟩
  refine (congrArg (· + 1) h.droppedQueueFull).trans ?_
  simp [RetryQueue.assign, Nat.add_assoc]

/-! ### Draining the buffer -/

/-- A record that was tried and stays where it is. -/
private theorem Realizes.tried {p' : KafkaProducer} (h : Realizes d₀ p.toDeliveries q)
    (htries : Tries p p') (htallies : Tallies d₀ p'.toDeliveries q) :
    Realizes d₀ p'.toDeliveries q where
  toTallies := htallies
  sent := by rw [← h.sent, Deliveries.sent, Deliveries.sent, htries.returned]
  buffered := by rw [← h.buffered, Deliveries.buffered, Deliveries.buffered, htries.returned]
  pendingRecords := htries.pendingRecords.trans h.pendingRecords
  numbered := h.numbered

/-- A record of the buffer that was tried and popped. -/
private theorem Realizes.pop {p' : KafkaProducer} {rest : List SentRecord} {fate : Fate}
    (h : Realizes d₀ p.toDeliveries q) (hreturned : p'.returned = p.returned)
    (htallies : Tallies d₀ p'.toDeliveries ({ q with waiting := rest }.assign record fate)) :
    Realizes d₀ { p'.toDeliveries with pendingRecords := rest }
      ({ q with waiting := rest }.assign record fate) where
  toTallies := htallies.congr rfl rfl
  sent := by
    rw [RetryQueue.offered_assign, ← h.sent, Deliveries.sent, Deliveries.sent, hreturned]
  buffered := by
    rw [RetryQueue.held_assign, ← h.buffered, Deliveries.buffered, Deliveries.buffered, hreturned]
  pendingRecords := by rw [RetryQueue.waiting_assign]
  numbered := by
    rw [RetryQueue.offered_assign]
    exact h.numbered

/-- Between `p` and `p'` records were settled from the front of the buffer: `p'` realizes what
`q` becomes by such moves. -/
structure Settles (d₀ : Deliveries) (capacity : Nat) (p : KafkaProducer)
    (q : RetryQueue SentRecord) (p' : KafkaProducer) : Prop where
  running : p'.running = p.running
  moves : ∃ q', Runs (RetryQueue.step capacity) (fun _ move => ∃ fate, move = .settle fate) q q' ∧
    Realizes d₀ p'.toDeliveries q'

/-- Pop the first record with a fate, then settle more. -/
private theorem Settles.pop {capacity : Nat} {p' p'' : KafkaProducer} {rest : List SentRecord}
    {fate : Fate} (h : Settles d₀ capacity p' ({ q with waiting := rest }.assign record fate) p'')
    (hwaiting : q.waiting = record :: rest) (hrunning : p'.running = p.running) :
    Settles d₀ capacity p q p'' := by
  obtain ⟨hrunning', q', hruns, hrealizes⟩ := h
  have hmove : q.step capacity (.settle fate) =
      some ({ q with waiting := rest }.assign record fate) := by
    rw [RetryQueue.step, hwaiting]
  exact ⟨hrunning'.trans hrunning, q', (Runs.single ⟨fate, rfl⟩ hmove).trans hruns, hrealizes⟩

/-- The drain settles records from the front of the buffer. -/
theorem drainPending_settles {capacity : Nat} {records : List SentRecord}
    (hp : p.hasProducer = true) (hpending : p.pendingRecords = records)
    (h : Realizes d₀ p.toDeliveries q) :
    Settles d₀ capacity p q (drainPending config rdkafka records p) := by
  induction records generalizing p q with
  | nil => exact ⟨rfl, q, .refl, h⟩
  | cons record rest ih =>
    have hwaiting : q.waiting = record :: rest := by rw [← h.pendingRecords, hpending]
    have htallies : Tallies d₀ p.toDeliveries { q with waiting := rest } :=
      h.toTallies.congr rfl rfl
    -- where the loop goes on, the record has been popped with a fate
    have hpop : ∀ fate (p' : KafkaProducer), p'.hasProducer = p.hasProducer →
        p'.running = p.running → p'.returned = p.returned →
        Tallies d₀ p'.toDeliveries ({ q with waiting := rest }.assign record fate) →
        Settles d₀ capacity p q
          (drainPending config rdkafka rest { p' with pendingRecords := rest }) := by
      intro fate p' hp' hrunning hreturned htallies'
      have hrest := ih (p := { p' with pendingRecords := rest }) (hp'.trans hp) rfl
        (h.pop hreturned htallies')
      exact hrest.pop hwaiting hrunning
    obtain ⟨htries, -, htried⟩ := tryProduceLocked_spec rdkafka record hp htallies
    simp only [drainPending]
    generalize rdkafka.produce record record.record.message = code at htried
    generalize (tryProduceLocked rdkafka record p).1.status = status at htried ⊢
    generalize (tryProduceLocked rdkafka record p).2 = p' at htries htried ⊢
    cases htried with
    | full htallies' =>
      have hstays : Tallies d₀ p'.toDeliveries q := htallies'.congr rfl rfl
      cases config.dropWhenFull with
      | false =>
        simp only [decide_true, Bool.not_false, Bool.and_true, if_true]
        -- the loop ends here, with the record still in front
        exact ⟨htries.running, q, .refl, h.tried htries hstays⟩
      | true =>
        simp only [decide_true, Bool.not_true, Bool.and_false, Bool.and_true, Bool.false_eq_true,
          if_false, if_true]
        exact hpop .dropped p'.countDropped htries.hasProducer htries.running htries.returned
          htallies'.countDropped
    | sent htallies' =>
      simp only [reduceCtorEq, decide_false, Bool.false_and, Bool.false_eq_true, if_false]
      exact hpop .accepted p' htries.hasProducer htries.running htries.returned htallies'
    | error code htallies' =>
      simp only [reduceCtorEq, decide_false, Bool.false_and, Bool.false_eq_true, if_false]
      exact hpop .failed p' htries.hasProducer htries.running htries.returned htallies'

/-! ### Sending -/

/-- librdkafka takes the record of a call of `send` at once. -/
def KafkaProducer.AcceptsAtOnce (p : KafkaProducer) (rdkafka : RdKafka) (record : SentRecord) :
    Prop :=
  p.hasProducer = true ∧ rdkafka.produce record record.record.message = .noError

/-- What a call of `send` comes to while the producer runs: the record is settled at once, or
it is put into the buffer. -/
inductive Sent (config : KafkaProducerConfig) (rdkafka : RdKafka) (d₀ : Deliveries)
    (record : SentRecord) (p : KafkaProducer) (q : RetryQueue SentRecord) :
    KafkaSendResult → KafkaProducer → Prop
  | settled {result : KafkaSendResult} {p' : KafkaProducer} (fate : Fate)
    (running : p'.running = p.running) (returned : p'.returned = p.returned)
    (pendingRecords : p'.pendingRecords = p.pendingRecords) (buffered : result.buffered = false)
    (tallies : Tallies d₀ p'.toDeliveries (q.assign record fate))
    (accepted : fate = .accepted ↔ p.AcceptsAtOnce rdkafka record) :
    Sent config rdkafka d₀ record p q result p'
  | buffered {result : KafkaSendResult} {p' : KafkaProducer}
    (running : p'.running = p.running) (returned : p'.returned = p.returned)
    (room : p.pendingRecords.length < config.maxQueueMessages)
    (pendingRecords : p'.pendingRecords = p.pendingRecords ++ [record])
    (buffered : result.buffered = true) (tallies : Tallies d₀ p'.toDeliveries q)
    (accepted : ¬p.AcceptsAtOnce rdkafka record) : Sent config rdkafka d₀ record p q result p'

private theorem bufferRecord_spec {p' : KafkaProducer} (h : Tallies d₀ p'.toDeliveries q)
    (hrunning : p'.running = p.running) (hreturned : p'.returned = p.returned)
    (hpending : p'.pendingRecords = p.pendingRecords)
    (haccepted : ¬p.AcceptsAtOnce rdkafka record) :
    Sent config rdkafka d₀ record p q (bufferRecord config record p').1
      (bufferRecord config record p').2 := by
  rw [bufferRecord]
  split
  · exact .settled .dropped hrunning hreturned hpending rfl h.countDropped
      (iff_of_false nofun haccepted)
  next hroom =>
    refine .buffered hrunning hreturned ?_ ?_ rfl (h.congr rfl rfl) haccepted
    · rw [← hpending]
      exact Nat.lt_of_not_le hroom
    · rw [← hpending]

private theorem sendRunning_spec (record : SentRecord) (h : Tallies d₀ p.toDeliveries q) :
    Sent config rdkafka d₀ record p q (sendRunning config rdkafka record p).1
      (sendRunning config rdkafka record p).2 := by
  rw [sendRunning]
  split
  next hp =>
    obtain ⟨htries, hbuffered, htried⟩ := tryProduceLocked_spec rdkafka record hp h
    simp only
    generalize hcode : rdkafka.produce record record.record.message = code at htried
    generalize hstatus : (tryProduceLocked rdkafka record p).1.status = status at htried ⊢
    generalize (tryProduceLocked rdkafka record p).1 = result at hbuffered ⊢
    generalize (tryProduceLocked rdkafka record p).2 = p' at htries htried ⊢
    cases htried with
    | full htallies =>
      have haccepted : ¬p.AcceptsAtOnce rdkafka record := fun ⟨_, hnoError⟩ =>
        ErrorCode.noConfusion (hcode.symm.trans hnoError)
      cases config.dropWhenFull with
      | false =>
        simp only [ne_eq, not_true, decide_false, Bool.or_self, Bool.false_eq_true, if_false]
        exact bufferRecord_spec config rdkafka htallies htries.running htries.returned
          htries.pendingRecords haccepted
      | true =>
        simp only [Bool.or_true, if_true, decide_true, Bool.and_self]
        exact .settled .dropped htries.running htries.returned htries.pendingRecords hbuffered
          htallies.countDropped (iff_of_false nofun haccepted)
    | sent htallies =>
      simp only [ne_eq, reduceCtorEq, not_false_iff, decide_true, Bool.true_or, if_true,
        decide_false, Bool.false_and, Bool.false_eq_true, if_false]
      exact .settled .accepted htries.running htries.returned htries.pendingRecords hbuffered
        htallies (iff_of_true rfl ⟨hp, hcode⟩)
    | error code htallies =>
      simp only [ne_eq, reduceCtorEq, not_false_iff, decide_true, Bool.true_or, if_true,
        decide_false, Bool.false_and, Bool.false_eq_true, if_false]
      exact .settled .failed htries.running htries.returned htries.pendingRecords hbuffered
        htallies (iff_of_false nofun fun ⟨_, hnoError⟩ =>
          ErrorCode.noConfusion (hcode.symm.trans hnoError))
  next hp => exact bufferRecord_spec config rdkafka h rfl rfl rfl fun haccepts => hp haccepts.1

theorem sent_of_returned {d' : Deliveries} {result : KafkaSendResult}
    (h : d'.returned = d.returned ++ [(record, result)]) : d'.sent = d.sent ++ [record] := by
  simp [Deliveries.sent, h]

theorem buffered_of_returned {d' : Deliveries} {result : KafkaSendResult}
    (h : d'.returned = d.returned ++ [(record, result)]) :
    d'.buffered = d.buffered ++ if result.buffered then [record] else [] := by
  rw [Deliveries.buffered, h, List.filter_append, List.map_append, ← Deliveries.buffered]
  cases hbuffered : result.buffered <;> simp [hbuffered]

/-- The number of the next call follows the numbers of the records offered. -/
private theorem Realizes.numbered_append (h : Realizes d₀ d q) (record : SentRecord)
    (hcall : record.call = d.returned.length) :
    (q.offered ++ [record]).map SentRecord.call =
      List.range' d₀.returned.length (q.offered ++ [record]).length := by
  have hlength := congrArg List.length h.sent
  simp only [Deliveries.sent, List.length_append, List.length_map] at hlength
  rw [List.map_append, h.numbered, List.length_append, List.map_singleton, hcall, hlength,
    List.length_singleton, List.range'_concat, Nat.one_mul]

variable {config rdkafka} in
/-- A call of `send` on a producer that does not run is refused and changes nothing. -/
theorem send_of_stopped {record : QueuedRecord} (h : p.running = false) :
    (send config rdkafka record p).2 = p := by
  rw [send, h]
  rfl

/-- A call of `send` while the producer runs is one move: the record is settled at once or
put into the buffer. -/
theorem send_simulated (record : QueuedRecord) (h : Realizes d₀ p.toDeliveries q)
    (hrunning : p.running = true) :
    (send config rdkafka record p).2.running = true ∧
      ∃ move q', q.step config.maxQueueMessages move = some q' ∧
        Realizes d₀ (send config rdkafka record p).2.toDeliveries q' ∧ move ≠ .discard ∧
        ((∃ x, move = .pass .accepted x) ↔
          p.AcceptsAtOnce rdkafka ⟨p.returned.length, record⟩) := by
  have hnumbered := h.numbered_append ⟨p.returned.length, record⟩ rfl
  simp only [send, hrunning, Bool.not_true, Bool.false_eq_true, if_false]
  generalize (⟨p.returned.length, record⟩ : SentRecord) = sent at hnumbered ⊢
  have htallies : Tallies d₀ p.toDeliveries { q with offered := q.offered ++ [sent] } :=
    h.toTallies.congr rfl rfl
  have hspec := sendRunning_spec config rdkafka sent htallies
  generalize (sendRunning config rdkafka sent p).1 = result at hspec ⊢
  generalize (sendRunning config rdkafka sent p).2 = p' at hspec ⊢
  cases hspec with
  | settled fate running returned pendingRecords buffered tallies accepted =>
    refine ⟨running.trans hrunning, .pass fate sent, _, rfl, ⟨tallies.congr rfl rfl,
      ?_, ?_, ?_, ?_⟩, nofun, ?_⟩
    · refine (sent_of_returned (d := p.toDeliveries) (by rw [returned])).trans ?_
      rw [h.sent, RetryQueue.offered_assign, List.append_assoc]
    · refine (buffered_of_returned (d := p.toDeliveries) (by rw [returned])).trans ?_
      rw [h.buffered, buffered, RetryQueue.held_assign]
      simp
    · rw [RetryQueue.waiting_assign]
      exact pendingRecords.trans h.pendingRecords
    · rw [RetryQueue.offered_assign]
      exact hnumbered
    · rw [← accepted]
      simp
  | buffered running returned room pendingRecords buffered tallies accepted =>
    rw [h.pendingRecords] at room
    refine ⟨running.trans hrunning, .hold sent, _, if_pos room, ⟨tallies.congr rfl rfl,
      ?_, ?_, ?_, hnumbered⟩, nofun, iff_of_false nofun accepted⟩
    · refine (sent_of_returned (d := p.toDeliveries) (by rw [returned])).trans ?_
      rw [h.sent, List.append_assoc]
    · refine (buffered_of_returned (d := p.toDeliveries) (by rw [returned])).trans ?_
      rw [h.buffered, buffered, if_pos rfl, List.append_assoc]
    · rw [pendingRecords, h.pendingRecords]

/-! ### The other sections -/

theorem createProducerLocked_spec (p : KafkaProducer) :
    (createProducerLocked config rdkafka p).2.toDeliveries = p.toDeliveries ∧
      (createProducerLocked config rdkafka p).2.running = p.running := by
  rw [createProducerLocked]
  split
  · exact ⟨rfl, rfl⟩
  · split <;> exact ⟨rfl, rfl⟩

variable {config rdkafka} in
/-- A producer that cannot be created changes nothing. -/
theorem createProducerLocked_error {error : String} {p' : KafkaProducer}
    (h : createProducerLocked config rdkafka p = (some error, p')) : p' = p := by
  rw [createProducerLocked] at h
  split at h
  · exact (Prod.mk.inj h).2.symm
  · split at h
    · exact (Prod.mk.inj h).2.symm
    · cases (Prod.mk.inj h).1

/-- An iteration of `poll_loop` settles records from the front of the buffer. -/
theorem pollLocked_settles (capacity : Nat) (h : Realizes d₀ p.toDeliveries q) :
    Settles d₀ capacity p q (pollLocked config rdkafka p) := by
  have hdrain : ∀ p' : KafkaProducer, p'.toDeliveries = p.toDeliveries → p'.running = p.running →
      Settles d₀ capacity p q
        (if p'.hasProducer then drainPending config rdkafka p'.pendingRecords p' else p') := by
    intro p' hdeliveries hrunning
    rw [← hdeliveries] at h
    split
    next hp' =>
      obtain ⟨hrunning', hmoves⟩ := drainPending_settles config rdkafka hp' rfl h
      exact ⟨hrunning'.trans hrunning, hmoves⟩
    · exact ⟨hrunning, q, .refl, h⟩
  obtain ⟨hdeliveries, hrunning⟩ := createProducerLocked_spec config rdkafka p
  rw [pollLocked]
  split
  · split
    next error p' hcreate =>
      rw [hcreate] at hdeliveries hrunning
      exact hdrain { p' with status := .degraded, lastError := error } hdeliveries hrunning
    next p' hcreate =>
      rw [hcreate] at hdeliveries hrunning
      exact hdrain p' hdeliveries hrunning
  · exact hdrain p rfl rfl

variable {config rdkafka} in
/-- `start` changes no delivery. -/
theorem startLocked_deliveries {started : Bool} {p' : KafkaProducer}
    (h : startLocked config rdkafka p = (started, p')) : p'.toDeliveries = p.toDeliveries := by
  have hcreate := (createProducerLocked_spec config rdkafka p).1
  rw [startLocked] at h
  split at h
  next p₁ hok =>
    rw [hok] at hcreate
    cases h
    exact hcreate
  next error p₁ herror =>
    rw [herror] at hcreate
    split at h <;> cases h <;> exact hcreate

variable {config rdkafka} in
/-- The section of `start` in a run changes no delivery. -/
theorem Machine.startSection_deliveries {m m' : Machine}
    (hstep : m.step config (.startSection rdkafka) = some m') :
    m'.producer.toDeliveries = m.producer.toDeliveries := by
  cases Machine.step_cases config hstep with
  | started rdkafka p owner result => exact startLocked_deliveries result
  | startFailed rdkafka p owner result => exact startLocked_deliveries result
  | iterate rdkafka polls => simp at polls

variable {config rdkafka} in
/-- `start` goes on unless creating the producer fails and the startup mode is strict. -/
theorem startLocked_running {started : Bool} {p' : KafkaProducer}
    (h : startLocked config rdkafka p = (started, p')) :
    (started = true → p'.running = p.running) ∧
      (started = false → config.startupMode = .strict ∧
        (createProducerLocked config rdkafka p).1 ≠ none ∧ p'.running = false) := by
  have hcreate := (createProducerLocked_spec config rdkafka p).2
  rw [startLocked] at h
  split at h
  next p₁ hok =>
    rw [hok] at hcreate
    cases h
    exact ⟨fun _ => hcreate, nofun⟩
  next error p₁ herror =>
    rw [herror] at hcreate
    split at h
    next hstrict =>
      cases h
      exact ⟨nofun, fun _ => ⟨hstrict, by rw [herror]; exact nofun, rfl⟩⟩
    · cases h
      exact ⟨fun _ => hcreate, nofun⟩

/-! ### The machine -/

variable {config rdkafka} {m m' : Machine} {input : Input}

/-- The step is a call of `send` whose record librdkafka takes at once. -/
def Input.AcceptedAtOnce (m : Machine) : Input → Prop
  | .send rdkafka record => m.producer.running = true ∧
      m.producer.AcceptsAtOnce rdkafka ⟨m.producer.returned.length, record⟩
  | _ => False

/-- The moves a step makes, in the queue they are made in. -/
structure Input.Makes (input : Input) (m : Machine) (q : RetryQueue SentRecord)
    (move : RetryQueue.Move SentRecord) : Prop where
  atOnce : ∀ x, move = .pass .accepted x →
    input.AcceptedAtOnce m ∧ q.waiting = m.producer.pendingRecords
  discard : move = .discard → input = .stopSection ∧ q.waiting = m.producer.pendingRecords

/-- One more round of `poll_loop`, as moves of the queue. -/
private theorem iterate_simulated {capacity : Nat}
    (h : Realizes d₀ m.producer.toDeliveries q) :
    ∃ q', Runs (RetryQueue.step capacity) (input.Makes m) q q' ∧
      Realizes d₀ (m.iterate config rdkafka).producer.toDeliveries q' := by
  rw [Machine.iterate]
  split
  · obtain ⟨-, q', hruns, hrealizes⟩ := pollLocked_settles config rdkafka capacity h
    refine ⟨q', hruns.mono fun _ move hsettle => ?_, hrealizes⟩
    obtain ⟨fate, rfl⟩ := hsettle
    exact ⟨nofun, nofun⟩
  · exact ⟨q, .refl, h⟩

/-- `poll_loop` does not write `running_`, and does nothing once it is cleared. -/
theorem iterate_running (config : KafkaProducerConfig) (rdkafka : RdKafka) (m : Machine) :
    (m.iterate config rdkafka).owner = m.owner ∧
      (m.iterate config rdkafka).producer.running = m.producer.running ∧
      (m.producer.running = false → (m.iterate config rdkafka).producer = m.producer) := by
  rw [Machine.iterate]
  split
  next hrunning =>
    have hpoll := (pollLocked_settles config rdkafka 0
      (Realizes.of_pending m.producer.toDeliveries)).running
    exact ⟨rfl, hpoll, fun h => absurd hrunning (by simp [h])⟩
  · exact ⟨rfl, rfl, fun _ => rfl⟩

/-- **The machine is a retry queue**: every step makes moves of the queue. -/
theorem step_simulated (h : Realizes d₀ m.producer.toDeliveries q)
    (hstep : m.step config input = some m') :
    ∃ q', Runs (RetryQueue.step config.maxQueueMessages) (input.Makes m) q q' ∧
      Realizes d₀ m'.producer.toDeliveries q' := by
  cases Machine.step_cases config hstep with
  | startAgain => exact ⟨q, .refl, h⟩
  | start => exact ⟨q, .refl, h⟩
  | started rdkafka p owner hresult =>
    exact ⟨q, .refl, by rwa [startLocked_deliveries hresult]⟩
  | startFailed rdkafka p owner hresult =>
    exact ⟨q, .refl, by rwa [startLocked_deliveries hresult]⟩
  | stopAgain => exact ⟨q, .refl, h⟩
  | stop => exact ⟨q, .refl, h⟩
  | stopped =>
    have hmove : q.step config.maxQueueMessages .discard =
        some { q with discarded := q.discarded ++ q.waiting, waiting := [] } := rfl
    refine ⟨_, .single ⟨fun x hx => ?_, fun _ => ⟨rfl, h.pendingRecords.symm⟩⟩ hmove, ?_⟩
    · cases hx
    · exact ⟨h.toTallies.congr rfl rfl, h.sent, h.buffered, rfl, h.numbered⟩
  | send rdkafka record =>
    cases hrunning : m.producer.running with
    | false => exact ⟨q, .refl, by rwa [send_of_stopped hrunning]⟩
    | true =>
      obtain ⟨-, move, q', hmove, hrealizes, hdiscard, haccepted⟩ :=
        send_simulated config rdkafka record h hrunning
      refine ⟨q', .single ⟨fun x hx => ⟨⟨hrunning, haccepted.mp ⟨x, hx⟩⟩,
        h.pendingRecords.symm⟩, fun hmove => absurd hmove hdiscard⟩ hmove, hrealizes⟩
  | iterate rdkafka => exact iterate_simulated h
  | wait => exact ⟨q, .refl, h⟩

/-- A run of the machine that starts with an empty buffer is a run of a new queue, whose guard
follows from that of the machine. -/
theorem runs_simulated {C : Machine → Input → Prop}
    {D : RetryQueue SentRecord → RetryQueue.Move SentRecord → Prop} {m₀ : Machine}
    (hrun : Machine.Runs config C m₀ m) (hempty : m₀.producer.pendingRecords = [])
    (hD : ∀ m input q move, C m input → input.Makes m q move → D q move) :
    ∃ q, Runs (RetryQueue.step config.maxQueueMessages) D {} q ∧
      Realizes m₀.producer.toDeliveries m.producer.toDeliveries q := by
  refine Runs.simulate (R := fun (m : Machine) q =>
    Realizes m₀.producer.toDeliveries m.producer.toDeliveries q)
    (fun m input m' q h hC hstep => ?_) hrun (hempty ▸ .of_pending m₀.producer.toDeliveries)
  obtain ⟨q', hruns, hrealizes⟩ := step_simulated h hstep
  exact ⟨q', hruns.mono fun q move => hD m input q move hC, hrealizes⟩

/-- The records offered since `d₀` are numbered upwards. -/
theorem Realizes.pairwise (h : Realizes d₀ d q) :
    q.offered.Pairwise fun r r' => r.call < r'.call := by
  rw [← List.pairwise_map, h.numbered]
  exact List.pairwise_lt_range'

/-- No two of the records offered are the same. -/
theorem Realizes.nodup (h : Realizes d₀ d q) : q.offered.Nodup := by
  refine List.nodup_iff_pairwise_ne.mpr (h.pairwise.imp fun {r r'} hlt heq => ?_)
  exact Nat.ne_of_lt hlt (congrArg SentRecord.call heq)

end Ros2Dispatcher.KafkaClient
