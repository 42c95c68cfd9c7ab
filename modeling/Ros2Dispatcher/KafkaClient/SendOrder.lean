import Ros2Dispatcher.KafkaClient.Queueing

/-!
# The order of the records

Records that wait in `pending_records_` keep their order, and so do records that are taken at
once. `accepted_in_sent_order`: librdkafka gets the records in the order they were sent, as
long as it takes none at once while others wait; the first that it does overtakes them.
-/

namespace Ros2Dispatcher.KafkaClient

variable {config : KafkaProducerConfig} {m : Machine}

/-- librdkafka accepted the records in the order they were passed to `send`, and none that
was sent after one that still waits. -/
structure Deliveries.InSentOrder (d : Deliveries) : Prop where
  accepted : d.accepted.Sublist d.sent
  waiting : ∀ a ∈ d.accepted, ∀ w ∈ d.pendingRecords, a.call < w.call

/-- The step does not take a record at once while others wait. -/
def Input.InTurn (m : Machine) (input : Input) : Prop :=
  input.AcceptedAtOnce m → m.producer.pendingRecords = []

/-- The deliveries of a new producer that runs in turn, as a queue in order. -/
theorem inOrder_of_runs
    (hrun : Machine.Runs config (fun m input => input.InTurn m) {} m) :
    ∃ q : RetryQueue SentRecord, q.Conserved ∧ q.InOrder ∧
      Realizes {} m.producer.toDeliveries q := by
  obtain ⟨q, hruns, h⟩ := runs_simulated
    (D := fun q move => ∀ x, move = .pass .accepted x → q.waiting = []) hrun rfl
    fun m input q move hturn hmakes x hmove => by
      obtain ⟨hatOnce, hwaiting⟩ := hmakes.atOnce x hmove
      rw [hwaiting]
      exact hturn hatOnce
  have horder : ({} : RetryQueue SentRecord).InOrder := List.Sublist.refl _
  exact ⟨q, RetryQueue.Conserved.empty.runs hruns, horder.runs hruns, h⟩

/-- A queue in order has records in order. -/
theorem Realizes.inSentOrder {d : Deliveries} {q : RetryQueue SentRecord}
    (h : Realizes {} d q) (horder : q.InOrder) : d.InSentOrder := by
  have hsent : d.sent = q.offered := h.sent
  have haccepted : d.accepted = q.accepted := h.accepted
  have hpairwise := h.pairwise.sublist horder
  refine ⟨?_, fun a ha w hw => ?_⟩
  · rw [hsent, haccepted]
    exact (List.sublist_append_left _ _).trans horder
  · rw [haccepted] at ha
    rw [h.pendingRecords] at hw
    exact (List.pairwise_append.mp hpairwise).2.2 a ha w hw

/-- **Records reach librdkafka in the order they were sent**, in every run in which no record
is taken at once while others wait in `pending_records_`. After such a run, the next step
keeps the order exactly if it is no such step either. -/
theorem accepted_in_sent_order
    (hrun : Machine.Runs config (fun m input => input.InTurn m) {} m) :
    m.producer.InSentOrder ∧
      ∀ input m', m.step config input = some m' →
        (m'.producer.InSentOrder ↔ input.InTurn m) := by
  obtain ⟨q, hconserved, horder, h⟩ := inOrder_of_runs hrun
  refine ⟨h.inSentOrder horder, fun input m' hstep => ⟨fun horder' hatOnce => ?_, fun hturn => ?_⟩⟩
  · cases input with
    | send rdkafka record =>
      cases hstep
      obtain ⟨-, move, q', hmove, h', -, haccepted⟩ :=
        send_simulated config rdkafka record h hatOnce.1
      obtain ⟨x, rfl⟩ := haccepted.mpr hatOnce.2
      cases hmove
      by_contra hpending
      obtain ⟨w, hw⟩ := List.exists_mem_of_ne_nil _ hpending
      rw [h.pendingRecords] at hw
      -- the new record was sent after `w`, and is accepted while `w` waits
      have hlater : w.call < x.call :=
        (List.pairwise_append.mp h'.pairwise).2.2 w
          (hconserved.held_offered (hconserved.waiting_held hw)) x (List.mem_singleton_self x)
      have hearlier : x.call < w.call := by
        refine horder'.waiting x ?_ w ?_
        · rw [h'.accepted]
          exact List.mem_append_right _ (List.mem_append_right _ (List.mem_singleton_self x))
        · rw [h'.pendingRecords]
          exact hw
      exact Nat.lt_asymm hlater hearlier
    | start => exact hatOnce.elim
    | startSection => exact hatOnce.elim
    | stop => exact hatOnce.elim
    | stopSection => exact hatOnce.elim
    | pollEnter => exact hatOnce.elim
    | pollDone => exact hatOnce.elim
    | wake => exact hatOnce.elim
  · obtain ⟨q', -, horder', h'⟩ := inOrder_of_runs (hrun.tail hturn hstep)
    exact h'.inSentOrder horder'

/-- A record that waited is accepted, in turn, by the poll thread. -/
theorem accepted_in_sent_order_drained :
    ∃ m, Machine.after .buffering
        [.start, .startSection {}, .send .full .blank, .pollEnter {}] = some m ∧
      m.producer.accepted.map SentRecord.call = [0] ∧ m.producer.InSentOrder := by
  obtain ⟨m, hm, haccepted⟩ := Option.map_eq_some_iff.mp (show
    (Machine.after .buffering
      [.start, .startSection {}, .send .full .blank, .pollEnter {}]).map
        (fun m => m.producer.accepted.map SentRecord.call) = some [0] by decide +kernel)
  have hrun : Machine.Runs .buffering (fun m input => input.InTurn m) {} m := by
    refine .of_foldlM hm fun input hinput m hatOnce => ?_
    simp only [List.mem_cons, List.not_mem_nil, or_false] at hinput
    rcases hinput with rfl | rfl | rfl | rfl
    · exact hatOnce.elim
    · exact hatOnce.elim
    · exact ErrorCode.noConfusion hatOnce.2.2
    · exact hatOnce.elim
  exact ⟨m, hm, haccepted, (accepted_in_sent_order hrun).1⟩

/-- A record sent while another waits, and librdkafka has room again, overtakes it. -/
theorem direct_produce_overtakes :
    ∃ m, Machine.Runs .buffering (fun _ _ => True) {} m ∧
      m.producer.sent.map SentRecord.call = [0, 1] ∧
      m.producer.accepted.map SentRecord.call = [1, 0] ∧
      ¬m.producer.accepted.Sublist m.producer.sent := by
  obtain ⟨m, hm, hcalls⟩ := Option.map_eq_some_iff.mp (show
    (Machine.after .buffering
      [.start, .startSection {}, .send .full .blank, .send {} .blank, .pollEnter {}]).map
        (fun m => (m.producer.sent.map SentRecord.call,
          m.producer.accepted.map SentRecord.call)) = some ([0, 1], [1, 0]) by decide +kernel)
  rw [Prod.mk.injEq] at hcalls
  refine ⟨m, .of_foldlM hm fun _ _ _ => trivial, hcalls.1, hcalls.2, fun hsublist => ?_⟩
  have hcalls' := hsublist.map SentRecord.call
  rw [hcalls.1, hcalls.2] at hcalls'
  exact absurd hcalls' (by decide)

end Ros2Dispatcher.KafkaClient
