import Ros2Dispatcher.MockServer.Connection

/-!
# Streams in chunks

Whatever happens on a connection, the messages passed on are the first ones of the stream. They
are all of them, however the stream is cut into chunks, exactly if no response but the one to the
last message raises, and each one that times out has enough of the stream behind it (`KeepsUp`):
a chunk takes the server past one response that times out, and `recv` returns at most 4096 bytes.

* `handleClient_passes`: a run that keeps up passes all messages on.
* `handleClient_lags`: one over too few chunks does not.
* `handleClient_passes_iff`: both, for every stream.
-/

namespace Ros2Dispatcher.MockServer

open BigEndian

/-! ### Responses that are not sent -/

section Unsent

variable {peer : Peer} {sent later : List (List UInt8)} {n : Nat}

/-- How many responses time out, but for the one to the last message. -/
def stalls (peer : Peer) : Nat → List (List UInt8) → Nat
  | _, [] => 0
  | n, message :: later =>
    (if later ≠ [] ∧ sendResponse peer n message = .timeout then 1 else 0) +
      stalls peer (n + 1) later

/-- A response raises, and it is not the one to the last message. -/
def Raises (peer : Peer) : Nat → List (List UInt8) → Prop
  | _, [] => False
  | n, message :: later =>
    later ≠ [] ∧ sendResponse peer n message = .error ∨ Raises peer (n + 1) later

theorem stalls_le_append (messages later : List (List UInt8)) (n : Nat) :
    stalls peer (n + messages.length) later ≤ stalls peer n (messages ++ later) := by
  induction messages generalizing n with
  | nil => exact le_rfl
  | cons message messages ih =>
    have hlater := ih (n + 1)
    rw [Nat.add_assoc, Nat.add_comm 1] at hlater
    rw [List.length_cons, List.cons_append, stalls]
    exact hlater.trans (Nat.le_add_left _ _)

theorem Raises.append (messages : List (List UInt8)) (h : Raises peer (n + messages.length) later) :
    Raises peer n (messages ++ later) := by
  induction messages generalizing n with
  | nil => exact h
  | cons message messages ih =>
    rw [List.length_cons, Nat.add_comm messages.length, ← Nat.add_assoc] at h
    exact .inr (ih h)

/-- Responses that were sent are none of them. -/
theorem Sent.stalls_eq (h : Sent peer n sent) :
    stalls peer n (sent ++ later) = stalls peer (n + sent.length) later := by
  induction sent generalizing n with
  | nil => rfl
  | cons message sent ih =>
    obtain ⟨hsend, h⟩ := h
    rw [List.cons_append, stalls, ih h, if_neg, Nat.zero_add, List.length_cons, Nat.add_assoc,
      Nat.add_comm 1]
    rw [hsend]
    exact fun htimeout => by cases htimeout.2

theorem Sent.raises_iff (h : Sent peer n sent) :
    Raises peer n (sent ++ later) ↔ Raises peer (n + sent.length) later := by
  induction sent generalizing n with
  | nil => rfl
  | cons message sent ih =>
    obtain ⟨hsend, h⟩ := h
    rw [List.cons_append, Raises, ih h, List.length_cons, Nat.add_assoc, Nat.add_comm 1,
      or_iff_right]
    rw [hsend]
    exact fun herror => by cases herror.2

/-- There are messages that cannot all be passed on over that many chunks. -/
def Behind (peer : Peer) (n : Nat) (pending : List (List UInt8)) (chunks : Nat) : Prop :=
  pending ≠ [] ∧ (Raises peer n pending ∨ chunks ≤ stalls peer n pending)

end Unsent

/-! ### The connection -/

/-- A stream that arrives in chunks as `recv` returns them, with timeouts in between. -/
inductive Splits : List Arrival → List UInt8 → Prop
  | nil : Splits [] []
  | timeout {arrivals stream} : Splits arrivals stream → Splits (.timeout :: arrivals) stream
  | data {data arrivals stream} : data ≠ [] → data.length ≤ 4096 → Splits arrivals stream →
      Splits (.data data :: arrivals) (data ++ stream)

/-- How a connection ends: it stays open, it is closed, or `recv` raises. -/
def Ends (ending : List Arrival) : Prop :=
  ending ∈ [[], [.data []], [.error]]

/-- No response but the one to the last message raises. Where one times out, the stream goes on
behind its message for at least as many full chunks as responses time out from there on. -/
def KeepsUp (peer : Peer) (stream : List UInt8) : Prop :=
  ∀ earlier message later, messagesOf stream = earlier ++ message :: later → later ≠ [] →
    sendResponse peer earlier.length message ≠ .error ∧
      (sendResponse peer earlier.length message = .timeout →
        framedLength (earlier ++ [message]) +
            4096 * stalls peer earlier.length (message :: later) ≤ stream.length)

/-- Messages are left in the buffer only if more chunks will come than responses time out. -/
def Ahead (peer : Peer) (client : Client) (received more : List UInt8) : Prop :=
  messagesOf client.buffer ≠ [] → ∀ pending,
    messagesOf (received ++ more) = client.passed ++ pending →
      4096 * stalls peer client.passed.length pending < more.length

section Connection

variable {peer : Peer} {client : Client} {arrivals ending : List Arrival}
  {stream received data more : List UInt8} {pending : List (List UInt8)}

theorem Splits.append {arrivals' : List Arrival} {stream' : List UInt8}
    (h : Splits arrivals stream) (h' : Splits arrivals' stream') :
    Splits (arrivals ++ arrivals') (stream ++ stream') := by
  induction h with
  | nil => exact h'
  | timeout _ ih => exact ih.timeout
  | data hne hlength _ ih =>
    rw [List.append_assoc]
    exact ih.data hne hlength

/-- A stream can arrive in chunks that are as long as they may be. -/
theorem exists_splits (n : Nat) (stream : List UInt8) (hlength : stream.length ≤ 4096 * n) :
    ∃ arrivals, Splits arrivals stream ∧ arrivals.length ≤ n := by
  induction n generalizing stream with
  | zero =>
    obtain rfl := List.eq_nil_of_length_eq_zero (Nat.le_zero.mp hlength)
    exact ⟨[], .nil, le_rfl⟩
  | succ n ih =>
    by_cases hne : stream = []
    · subst hne
      exact ⟨[], .nil, Nat.zero_le _⟩
    · obtain ⟨arrivals, hsplits, hcount⟩ := ih (stream.drop 4096) (by
        rw [List.length_drop]
        omega)
      have hfirst : stream.take 4096 ≠ [] := by
        rw [Ne, List.take_eq_nil_iff]
        exact fun h => h.elim (fun hzero => by cases hzero) hne
      have hall := Splits.data hfirst (List.length_take_le 4096 stream) hsplits
      rw [List.take_append_drop] at hall
      exact ⟨_, hall, Nat.succ_le_succ hcount⟩

/-- The end of a connection passes no messages on. -/
theorem handleClient_append_ending (h : Ends ending) :
    handleClient peer (arrivals ++ ending) client = handleClient peer arrivals client := by
  induction arrivals generalizing client with
  | nil =>
    simp only [Ends, List.mem_cons, List.not_mem_nil, or_false] at h
    obtain rfl | rfl | rfl := h <;> rfl
  | cons arrival arrivals ih =>
    cases arrival with
    | timeout => exact ih
    | error => rfl
    | data data =>
      rw [List.cons_append, handleClient, handleClient]
      split
      · rfl
      · split
        · exact ih
        · exact ih
        · rfl

theorem handleClient_data (hdata : data ≠ []) :
    handleClient peer (.data data :: arrivals) client =
      if (processMessages peer { client with buffer := client.buffer ++ data }).1 = .error then
        (processMessages peer { client with buffer := client.buffer ++ data }).2
      else handleClient peer arrivals
        (processMessages peer { client with buffer := client.buffer ++ data }).2 := by
  rw [handleClient, if_neg hdata]
  split <;> next heq => rw [heq]; rfl

/-- What was passed on are the first messages of the stream. -/
theorem Cut.exists_pending (h : Cut received client) (more : List UInt8) :
    ∃ pending, messagesOf (received ++ more) = client.passed ++ pending ∧
      (pending = [] → messagesOf client.buffer = []) := by
  obtain ⟨later, hlater⟩ := messageFraming.prefix_frames_append received more
  refine ⟨messagesOf client.buffer ++ later, ?_, fun hnil => (List.append_eq_nil_iff.mp hnil).1⟩
  rw [messagesOf, ← hlater, h, List.append_assoc]

/-- The messages of a stream before one chunk and after it. -/
theorem Cut.chunk (hcut : Cut received client) (peer : Peer) (data more : List UInt8)
    {outcome : Outcome} {after : Client}
    (hround : processMessages peer { client with buffer := client.buffer ++ data } =
      (outcome, after)) :
    Cut (received ++ data) after ∧
      ∃ pending, messagesOf (received ++ (data ++ more)) = after.passed ++ pending ∧
        (pending = [] → messagesOf after.buffer = []) := by
  have hafter : Cut (received ++ data) (processMessages peer _).2 :=
    (hcut.receive data).processMessages
  rw [hround] at hafter
  rw [← List.append_assoc]
  exact ⟨hafter, hafter.exists_pending more⟩

/-! ### Runs that keep up -/

/-- **Step.** In a stream that keeps up, one chunk leaves the server ahead, and an exception comes
only behind the last message. -/
theorem Cut.ahead (hcut : Cut received client) (hahead : Ahead peer client received (data ++ more))
    (hlength : data.length ≤ 4096) (hkeeps : KeepsUp peer (received ++ (data ++ more)))
    {outcome : Outcome} {after : Client}
    (hround : processMessages peer { client with buffer := client.buffer ++ data } =
      (outcome, after)) :
    Ahead peer after (received ++ data) more ∧
      (outcome = .error → after.passed = messagesOf (received ++ (data ++ more))) := by
  obtain ⟨-, pending, hpending, hnone⟩ := hcut.chunk peer data more hround
  obtain ⟨sent, hsent, hends⟩ :=
    processMessages_spec peer { client with buffer := client.buffer ++ data }
  rw [hround] at hends
  rcases hends with ⟨hdone, hempty, -⟩ | ⟨message, hne, hsend, hpassed⟩
  · exact ⟨fun hbuffer => absurd hempty hbuffer, fun herror => by cases hdone.symm.trans herror⟩
  dsimp only at hpassed hsend hne
  by_cases hlast : pending = []
  · refine ⟨fun hbuffer => absurd (hnone hlast) hbuffer, fun _ => ?_⟩
    rw [hpending, hlast, List.append_nil]
  -- the response that ended the loop is not the last one's
  have hstream : messagesOf (received ++ (data ++ more)) =
      (client.passed ++ sent) ++ message :: pending := by
    rw [hpending, hpassed]
    simp only [List.append_assoc, List.cons_append, List.nil_append]
  obtain ⟨hraises, hbudget⟩ := hkeeps _ _ _ hstream hlast
  rw [List.length_append, hsend] at hraises hbudget
  have htimeout : outcome = .timeout := by
    cases outcome with
    | done => exact absurd rfl hne
    | timeout => rfl
    | error => exact absurd rfl hraises
  have hbudget := hbudget htimeout
  have hstalls : stalls peer (client.passed.length + sent.length) (message :: pending) =
      1 + stalls peer after.passed.length pending := by
    rw [stalls, if_pos ⟨hlast, hsend.trans htimeout⟩, hpassed, List.length_append,
      List.length_append, List.length_singleton, ← Nat.add_assoc]
  refine ⟨fun _ pending' hpending' => ?_, fun herror => by cases herror.symm.trans htimeout⟩
  rw [List.append_assoc] at hpending'
  obtain rfl := List.append_cancel_left (hpending.symm.trans hpending')
  by_cases hold : (messagesOf received).length ≤ (client.passed ++ sent).length
  -- the message became complete with this chunk
  · have hreceived := length_lt_framedLength hstream hold
    rw [List.length_append, List.length_append, hstalls] at hbudget
    omega
  -- the message was left in the buffer
  · have hleft : messagesOf client.buffer ≠ [] := by
      intro hempty
      have hmessages : messagesOf received = client.passed ++ messagesOf client.buffer :=
        congrArg Prod.fst hcut
      rw [hmessages, hempty, List.append_nil, List.length_append] at hold
      omega
    have hmore := hahead hleft (sent ++ message :: pending) (by rw [hstream, List.append_assoc])
    rw [hsent.stalls_eq, hstalls, List.length_append] at hmore
    omega

/-- **Run.** All messages of a stream that keeps up are passed on. -/
theorem handleClient_passes (hsplits : Splits arrivals stream) (hcut : Cut received client)
    (hahead : Ahead peer client received stream) (hkeeps : KeepsUp peer (received ++ stream)) :
    (handleClient peer arrivals client).passed = messagesOf (received ++ stream) := by
  induction hsplits generalizing received client with
  | nil =>
    obtain ⟨pending, hpending, -⟩ := hcut.exists_pending []
    have hempty : messagesOf client.buffer = [] := by
      by_contra hne
      exact absurd (hahead hne pending hpending) (Nat.not_lt_zero _)
    have hmessages : messagesOf received = client.passed ++ messagesOf client.buffer :=
      congrArg Prod.fst hcut
    rw [List.append_nil, hmessages, hempty, List.append_nil]
    rfl
  | timeout hsplits ih => exact ih hcut hahead hkeeps
  | @data data arrivals stream hdata hlength hsplits ih =>
    obtain ⟨hahead', herror⟩ := hcut.ahead hahead hlength hkeeps rfl
    rw [handleClient_data hdata]
    split
    next hends => exact herror hends
    next =>
      rw [← List.append_assoc] at hkeeps ⊢
      exact ih (hcut.chunk peer data stream rfl).1 hahead' hkeeps

/-! ### Runs that do not -/

/-- **Step.** One chunk takes a server that is behind past one response that times out. -/
theorem Behind.chunk {chunks : Nat} {outcome : Outcome} {after : Client}
    (hbehind : Behind peer client.passed.length pending (chunks + 1))
    (hround : processMessages peer { client with buffer := client.buffer ++ data } =
      (outcome, after))
    {later : List (List UInt8)} (hpending : client.passed ++ pending = after.passed ++ later) :
    later ≠ [] ∧ (outcome = .error ∨ Behind peer after.passed.length later chunks) := by
  obtain ⟨-, hbehind⟩ := hbehind
  obtain ⟨sent, hsent, hends⟩ :=
    processMessages_spec peer { client with buffer := client.buffer ++ data }
  rw [hround] at hends
  dsimp only at hsent hends
  rcases hends with ⟨-, -, hpassed⟩ | ⟨message, -, hsend, hpassed⟩
  · rw [hpassed, List.append_assoc] at hpending
    obtain rfl := List.append_cancel_left hpending
    rw [hsent.raises_iff, hsent.stalls_eq] at hbehind
    rw [Behind, hpassed, List.length_append]
    have hlater : later ≠ [] := by
      rintro rfl
      exact hbehind.elim id fun h => absurd h (Nat.not_succ_le_zero chunks)
    exact ⟨hlater, .inr ⟨hlater, hbehind.imp_right (Nat.le_of_succ_le ·)⟩⟩
  · rw [hpassed, List.append_assoc, List.append_assoc] at hpending
    obtain rfl := List.append_cancel_left hpending
    rw [hsent.raises_iff, hsent.stalls_eq, List.singleton_append, Raises, stalls, hsend] at hbehind
    have hlater : later ≠ [] := by
      rintro rfl
      rcases hbehind with (⟨hne, -⟩ | hraises) | hstalls
      · exact hne rfl
      · exact hraises
      · rw [if_neg fun h => h.1 rfl] at hstalls
        exact absurd hstalls (Nat.not_succ_le_zero chunks)
    refine ⟨hlater, ?_⟩
    rw [Behind, hpassed, List.length_append, List.length_append, List.length_singleton,
      ← Nat.add_assoc]
    rcases hbehind with (⟨-, herror⟩ | hraises) | hstalls
    · exact .inl herror
    · exact .inr ⟨hlater, .inl hraises⟩
    · refine .inr ⟨hlater, .inr ?_⟩
      split at hstalls <;> omega

/-- **Run.** A server that is behind does not pass all messages on. -/
theorem handleClient_lags (hsplits : Splits arrivals stream) (hcut : Cut received client)
    (hstream : messagesOf (received ++ stream) = client.passed ++ pending)
    (hbehind : Behind peer client.passed.length pending arrivals.length) :
    (handleClient peer arrivals client).passed ≠ messagesOf (received ++ stream) := by
  induction hsplits generalizing received client pending with
  | nil =>
    rw [hstream]
    exact fun h => hbehind.1 (List.self_eq_append_right.mp h)
  | timeout hsplits ih =>
    exact ih hcut hstream ⟨hbehind.1, hbehind.2.imp_right (Nat.le_of_succ_le ·)⟩
  | @data data arrivals stream hdata hlength hsplits ih =>
    obtain ⟨hafter, later, hlater, -⟩ := hcut.chunk peer data stream rfl
    obtain ⟨hne, hbehind⟩ := hbehind.chunk rfl (hstream.symm.trans hlater)
    rw [handleClient_data hdata]
    split
    next hends =>
      rw [hlater]
      exact fun h => hne (List.self_eq_append_right.mp h)
    next hgoes =>
      rw [← List.append_assoc] at hlater ⊢
      exact ih hafter hlater (hbehind.resolve_left hgoes)

/-- Before more arrives, only messages that were received are passed on; the connection may have
ended. -/
theorem handleClient_append (hsplits : Splits arrivals stream) (hcut : Cut received client)
    (peer : Peer) (arrivals' : List Arrival) :
    ∃ after, after.passed <+: messagesOf (received ++ stream) ∧
      (handleClient peer (arrivals ++ arrivals') client = after ∨
        Cut (received ++ stream) after ∧
          handleClient peer (arrivals ++ arrivals') client =
            handleClient peer arrivals' after) := by
  induction hsplits generalizing received client with
  | nil =>
    rw [List.append_nil]
    exact ⟨client, ⟨_, (congrArg Prod.fst hcut).symm⟩, .inr ⟨hcut, rfl⟩⟩
  | timeout hsplits ih => exact ih hcut
  | @data data arrivals stream hdata hlength hsplits ih =>
    obtain ⟨hafter, pending, hpending, -⟩ := hcut.chunk peer data stream rfl
    rw [List.cons_append, handleClient_data hdata]
    split
    next => exact ⟨_, ⟨pending, hpending.symm⟩, .inl rfl⟩
    next =>
      rw [← List.append_assoc]
      exact ih hafter

theorem cut_nil : Cut [] {} := by
  have hframes : messageFraming.frames [] = ([], []) := Framing.frames_of_none rfl
  rw [Cut, messagesOf, hframes]
  rfl

/-- A message is complete only with its last byte. -/
theorem length_messagesOf_le {first second : List UInt8} {earlier later : List (List UInt8)}
    {message : List UInt8} (hstream : messagesOf (first ++ second) = earlier ++ message :: later)
    (hfirst : first.length < framedLength (earlier ++ [message])) :
    (messagesOf first).length ≤ earlier.length := by
  by_contra hlength
  have hstream' : earlier ++ [message] <+: messagesOf (first ++ second) := by
    rw [hstream]
    exact ⟨later, by rw [List.append_assoc, List.singleton_append]⟩
  obtain ⟨others, hothers⟩ : earlier ++ [message] <+: messagesOf first := by
    refine List.prefix_of_prefix_length_le hstream'
      (messageFraming.prefix_frames_append first second) ?_
    rw [List.length_append, List.length_singleton]
    exact Nat.lt_of_not_le hlength
  have hreceived := length_eq_framedLength first
  rw [← hothers, framedLength_append (earlier ++ [message])] at hreceived
  omega

/-- Where a message is cut before its last byte and the rest comes in full chunks, the responses
that time out from that message on can be too many for them. -/
theorem exists_splits_lags {first second : List UInt8} {earlier later : List (List UInt8)}
    {message : List UInt8} (hstream : messagesOf (first ++ second) = earlier ++ message :: later)
    (hfirst : first.length < framedLength (earlier ++ [message]))
    (hsecond : second.length ≤ 4096 * stalls peer earlier.length (message :: later)) :
    ∃ arrivals, Splits arrivals (first ++ second) ∧
      (handleClient peer arrivals {}).passed ≠ messagesOf (first ++ second) := by
  have hincomplete := length_messagesOf_le hstream hfirst
  obtain ⟨arrivals, hsplits, -⟩ := exists_splits first.length first (by omega)
  obtain ⟨arrivals', hsplits', hfew⟩ := exists_splits _ second hsecond
  refine ⟨arrivals ++ arrivals', hsplits.append hsplits', ?_⟩
  obtain ⟨after, hprefix, hrun⟩ := handleClient_append hsplits cut_nil peer arrivals'
  have hpassed := hprefix.length_le.trans hincomplete
  rcases hrun with hends | ⟨hcut, hgoes⟩
  · intro hall
    rw [hends, hstream] at hall
    rw [hall, List.length_append, List.length_cons] at hpassed
    omega
  · obtain ⟨pending, hrest, -⟩ := hcut.exists_pending second
    have hrest : earlier ++ message :: later = after.passed ++ pending := hstream.symm.trans hrest
    obtain ⟨between, rfl⟩ : after.passed <+: earlier :=
      List.prefix_of_prefix_length_le (List.prefix_append after.passed pending)
        (hrest ▸ List.prefix_append earlier _) hpassed
    rw [List.append_assoc, List.append_cancel_left_eq] at hrest
    subst hrest
    rw [List.length_append] at hfew
    rw [hgoes]
    refine handleClient_lags hsplits' hcut ?_ ⟨?_, .inr (hfew.trans (stalls_le_append ..))⟩
    · exact hstream.trans (List.append_assoc ..)
    · exact List.append_ne_nil_of_right_ne_nil between (List.cons_ne_nil _ _)

/-- Where all messages of a stream are passed on, however it arrives, it keeps up. -/
theorem keepsUp_of_passes (h : ∀ arrivals, Splits arrivals stream →
    (handleClient peer arrivals {}).passed = messagesOf stream) : KeepsUp peer stream := by
  intro earlier message later hstream hlater
  constructor
  · intro herror
    have hpending : messagesOf stream ≠ [] := by
      rw [hstream]
      exact List.append_ne_nil_of_right_ne_nil earlier (List.cons_ne_nil _ _)
    have hraises : Raises peer 0 (messagesOf stream) := by
      rw [hstream]
      refine Raises.append earlier (.inl ⟨hlater, ?_⟩)
      rwa [Nat.zero_add]
    obtain ⟨arrivals, hsplits, -⟩ := exists_splits stream.length stream (by omega)
    exact handleClient_lags hsplits cut_nil rfl ⟨hpending, .inl hraises⟩ (h arrivals hsplits)
  · intro htimeout
    by_contra hshort
    have hpositive : 0 < framedLength (earlier ++ [message]) := by
      rw [framedLength_append, framedLength, framedLength, List.map_singleton, List.sum_singleton]
      omega
    -- the first chunks end before the last byte of the message, and the others are full
    obtain ⟨first, second, rfl, hfirst, hsecond⟩ : ∃ first second, stream = first ++ second ∧
        first.length < framedLength (earlier ++ [message]) ∧
          second.length ≤ 4096 * stalls peer earlier.length (message :: later) := by
      refine ⟨stream.take (framedLength (earlier ++ [message]) - 1),
        stream.drop (framedLength (earlier ++ [message]) - 1),
        (List.take_append_drop _ stream).symm, ?_, ?_⟩
      · have htake := List.length_take_le (framedLength (earlier ++ [message]) - 1) stream
        omega
      · rw [List.length_drop]
        omega
    obtain ⟨arrivals, hsplits, hlags⟩ := exists_splits_lags hstream hfirst hsecond
    exact hlags (h arrivals hsplits)

end Connection

/-- **Framing.** However a stream arrives and however the connection ends, its messages are passed
on, exactly if the stream keeps up. The inner loop always ends. -/
theorem handleClient_passes_iff (peer : Peer) (stream : List UInt8) :
    ((∀ arrivals ending, Splits arrivals stream → Ends ending →
        (handleClient peer (arrivals ++ ending) {}).passed = messagesOf stream) ↔
      KeepsUp peer stream) ∧
    ∀ client, (processMessages peer client).2.passed.length ≤
      client.passed.length + client.buffer.length / 4 := by
  refine ⟨⟨fun h => ?_, fun h arrivals ending hsplits hending => ?_⟩, processMessages_rounds peer⟩
  · refine keepsUp_of_passes fun arrivals hsplits => ?_
    rw [← h arrivals [] hsplits List.mem_cons_self, List.append_nil]
  · rw [handleClient_append_ending hending]
    exact handleClient_passes hsplits cut_nil (fun hne => absurd (congrArg Prod.fst
      (Framing.frames_of_none rfl)) hne) h

/-- A request for the supported versions. -/
def versionRequest : List UInt8 :=
  ofNat 4 8 ++ ofNat 2 18 ++ ofNat 2 0 ++ ofNat 4 1

/-- A client that closes the connection at once, so that sending a second response raises. -/
def closedPeer : Peer where
  response _ message := (handleKafkaMessage message {}).1
  sendall n := if n = 0 then .done else .error

/-- Of three requests in one chunk only two are passed on. -/
theorem handleClient_closedPeer :
    ¬∀ arrivals ending,
      Splits arrivals (versionRequest ++ versionRequest ++ versionRequest) → Ends ending →
        (handleClient closedPeer (arrivals ++ ending) {}).passed =
          messagesOf (versionRequest ++ versionRequest ++ versionRequest) := by
  intro h
  have hsplits : Splits [.data (versionRequest ++ versionRequest ++ versionRequest)]
      (versionRequest ++ versionRequest ++ versionRequest ++ []) :=
    .data (by decide +kernel) (by decide +kernel) .nil
  rw [List.append_nil] at hsplits
  have hpassed := h _ [.data []] hsplits (List.mem_cons_of_mem _ List.mem_cons_self)
  have hne : (handleClient closedPeer
      [.data (versionRequest ++ versionRequest ++ versionRequest), .data []] {}).passed ≠
        messagesOf (versionRequest ++ versionRequest ++ versionRequest) := by decide +kernel
  exact hne hpassed

end Ros2Dispatcher.MockServer
