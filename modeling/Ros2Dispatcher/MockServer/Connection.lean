import Ros2Dispatcher.Library.Framing
import Ros2Dispatcher.MockServer.Server

/-!
# A connection to the mock server

`handle_client` collects what it receives in a buffer and cuts messages off its front, each
behind its size in four bytes. An exception of sending a response ends the connection, also if
there are more messages in the buffer. The timeout of the socket holds for sending as well, and
the `except` clause around both goes on with receiving: then the messages in the buffer stay
there until more arrives, which may be never.

* `messagesOf`: the messages of a stream.
* `processMessages_rounds`: the inner loop ends.
* `processMessages_spec`: it passes messages on up to the first response that is not sent.
-/

namespace Ros2Dispatcher.MockServer

open BigEndian

/-! ### Messages in a buffer -/

/-- The first complete message of a buffer, and what comes behind it. -/
def nextMessage (buffer : List UInt8) : Option (List UInt8 × List UInt8) :=
  if 4 ≤ buffer.length then
    let msgSize := toNat (buffer.take 4)
    if buffer.length < 4 + msgSize then none
    else some ((buffer.drop 4).take msgSize, buffer.drop (4 + msgSize))
  else none

theorem nextMessage_eq_some {buffer message rest : List UInt8} :
    nextMessage buffer = some (message, rest) ↔
      ∃ size : List UInt8, size.length = 4 ∧ toNat size = message.length ∧
        buffer = size ++ (message ++ rest) := by
  constructor
  · intro h
    obtain ⟨hlength, h⟩ := Option.ite_none_right_eq_some.mp h
    obtain ⟨hsize, h⟩ := Option.ite_none_left_eq_some.mp h
    cases h
    refine ⟨buffer.take 4, List.length_take_of_le hlength, ?_, ?_⟩
    · rw [List.length_take_of_le]
      rw [List.length_drop]
      omega
    · rw [← List.drop_drop, List.take_append_drop, List.take_append_drop]
  · rintro ⟨size, hsize, hmessage, rfl⟩
    have hlength : (size ++ (message ++ rest)).length = 4 + (message.length + rest.length) := by
      rw [List.length_append, List.length_append, hsize]
    have hrest : (size ++ (message ++ rest)).drop (4 + message.length) = rest := by
      rw [← List.append_assoc, List.drop_left' (by rw [List.length_append, hsize])]
    rw [nextMessage, List.take_left' hsize, hmessage, List.drop_left' hsize, hlength]
    dsimp only
    rw [if_pos (by omega), if_neg (by omega), List.take_left, hrest]

theorem length_of_nextMessage {buffer message rest : List UInt8}
    (h : nextMessage buffer = some (message, rest)) :
    buffer.length = 4 + message.length + rest.length := by
  obtain ⟨size, hsize, -, rfl⟩ := nextMessage_eq_some.mp h
  rw [List.length_append, List.length_append, hsize, Nat.add_assoc]

/-- The messages of a stream, each behind its size. -/
def messageFraming : Framing UInt8 (List UInt8) where
  next := nextMessage
  length_lt h := by
    rw [length_of_nextMessage h]
    omega
  next_append h more := by
    obtain ⟨size, hsize, hmessage, rfl⟩ := nextMessage_eq_some.mp h
    exact nextMessage_eq_some.mpr ⟨size, hsize, hmessage, by
      rw [List.append_assoc, List.append_assoc]⟩

/-- The messages of a stream. -/
def messagesOf (stream : List UInt8) : List (List UInt8) :=
  (messageFraming.frames stream).1

/-- The bytes that messages take in a stream. -/
def framedLength (messages : List (List UInt8)) : Nat :=
  (messages.map fun message => 4 + message.length).sum

section Lengths

variable {received more rest message : List UInt8} {earlier later : List (List UInt8)}

theorem framedLength_append (first second : List (List UInt8)) :
    framedLength (first ++ second) = framedLength first + framedLength second := by
  rw [framedLength, List.map_append, List.sum_append]
  rfl

/-- A stream is its messages and an incomplete rest. -/
theorem length_eq_framedLength (stream : List UInt8) :
    stream.length = framedLength (messagesOf stream) + (messageFraming.frames stream).2.length := by
  induction stream using messageFraming.induction with
  | hnone stream hnext =>
    rw [messagesOf, Framing.frames_of_none hnext]
    exact (Nat.zero_add _).symm
  | hsome stream message rest hnext ih =>
    rw [messagesOf, Framing.frames_of_some hnext, length_of_nextMessage hnext, ih, ← Nat.add_assoc]
    rfl

/-- An incomplete rest is shorter than the message it begins. -/
theorem length_lt_of_incomplete (hnone : nextMessage received = none)
    (hnext : nextMessage (received ++ more) = some (message, rest)) :
    received.length < 4 + message.length := by
  by_contra hlength
  obtain ⟨size, hsize, hmessage, hbuffer⟩ := nextMessage_eq_some.mp hnext
  have hprefix : size ++ message <+: received := by
    refine List.prefix_of_prefix_length_le ?_ (List.prefix_append received more) ?_
    · rw [hbuffer, ← List.append_assoc]
      exact List.prefix_append _ rest
    · rw [List.length_append, hsize]
      omega
  obtain ⟨behind, rfl⟩ := hprefix
  rw [List.append_assoc, nextMessage_eq_some.mpr ⟨size, hsize, hmessage, rfl⟩] at hnone
  cases hnone

/-- Until a message is complete, less was received than the bytes up to its end. -/
theorem length_lt_framedLength (h : messagesOf (received ++ more) = earlier ++ message :: later)
    (hlength : (messagesOf received).length ≤ earlier.length) :
    received.length < framedLength (earlier ++ [message]) := by
  have hparts : messagesOf (received ++ more) = messagesOf received ++
      messagesOf ((messageFraming.frames received).2 ++ more) :=
    congrArg Prod.fst (messageFraming.frames_append received more)
  obtain ⟨between, rfl⟩ : messagesOf received <+: earlier := by
    refine List.prefix_of_prefix_length_le ?_ (List.prefix_append earlier (message :: later))
      hlength
    rw [← h, hparts]
    exact List.prefix_append _ _
  rw [hparts, List.append_assoc, List.append_cancel_left_eq] at h
  rw [length_eq_framedLength received, List.append_assoc, framedLength_append]
  refine Nat.add_lt_add_left ?_ _
  obtain ⟨first, others, hfirst⟩ : ∃ first others, between ++ [message] = first :: others :=
    List.exists_cons_of_ne_nil (List.append_ne_nil_of_right_ne_nil between (List.cons_ne_nil _ _))
  have hmessages : messagesOf ((messageFraming.frames received).2 ++ more) =
      first :: (others ++ later) := by
    rw [h, ← List.cons_append, ← hfirst, List.append_assoc]
    rfl
  obtain ⟨rest, hnext⟩ := messageFraming.exists_next_of_frames hmessages
  have hincomplete := length_lt_of_incomplete (messageFraming.next_frames_snd received) hnext
  rw [hfirst]
  exact hincomplete.trans_le (Nat.le_add_right _ _)

end Lengths

/-! ### `handle_client` -/

/-- How a statement ends: it is done, or it raises `socket.timeout` or another exception. -/
inductive Outcome
  | done
  | timeout
  | error
deriving DecidableEq, Repr

/-- What `handle_client` meets: what the `n`-th call of `handle_kafka_message` returns, and how
`sendall` ends after it. -/
structure Peer where
  response : Nat → List UInt8 → Option (List UInt8)
  sendall : Nat → Outcome

/-- The buffer, and the messages passed to `handle_kafka_message` so far. -/
structure Client where
  buffer : List UInt8 := []
  passed : List (List UInt8) := []
deriving DecidableEq, Repr

/-- Send response with size prefix, if there is one. -/
def sendResponse (peer : Peer) (n : Nat) (message : List UInt8) : Outcome :=
  match peer.response n message with
  | none => .done
  | some response =>
    -- an empty response is not sent, and the size of one has to fit into four bytes
    if response = [] then .done
    else if response.length < 2 ^ 32 then peer.sendall n
    else .error

/-- Process complete Kafka messages. -/
def processMessages (peer : Peer) (client : Client) : Outcome × Client :=
  match h : nextMessage client.buffer with
  | none => (.done, client)
  | some (message, buffer) =>
    have := messageFraming.length_lt h
    let after : Client := { buffer := buffer, passed := client.passed ++ [message] }
    -- the message has left the buffer before its response is sent
    match sendResponse peer client.passed.length message with
    | .done => processMessages peer after
    | .timeout => (.timeout, after)
    | .error => (.error, after)
termination_by client.buffer.length

/-- How `recv` ends. There is no data if the client has closed the connection. -/
inductive Arrival
  | data (data : List UInt8)
  | timeout
  | error
deriving DecidableEq, Repr

/-- `handle_client`, for what arrives until it ends or waits for more. -/
def handleClient (peer : Peer) : List Arrival → Client → Client
  | [], client => client
  | .data data :: arrivals, client =>
    if data = [] then client
    else
      match processMessages peer { client with buffer := client.buffer ++ data } with
      | (.done, client) => handleClient peer arrivals client
      -- `continue`: what is left in the buffer waits for more data
      | (.timeout, client) => handleClient peer arrivals client
      | (.error, client) => client
  | .timeout :: arrivals, client => handleClient peer arrivals client
  | .error :: _, client => client

/-! ### One round of the inner loop -/

section Rounds

variable {peer : Peer} {client : Client} {buffer rest message : List UInt8}
  {passed : List (List UInt8)}

theorem processMessages_of_none (h : messageFraming.next buffer = none) :
    processMessages peer ⟨buffer, passed⟩ = (.done, ⟨buffer, passed⟩) := by
  have h : nextMessage buffer = none := h
  rw [processMessages]
  split
  next => rfl
  next heq => cases h.symm.trans heq

theorem processMessages_of_some (h : messageFraming.next buffer = some (message, rest)) :
    processMessages peer ⟨buffer, passed⟩ =
      match sendResponse peer passed.length message with
      | .done => processMessages peer ⟨rest, passed ++ [message]⟩
      | .timeout => (.timeout, ⟨rest, passed ++ [message]⟩)
      | .error => (.error, ⟨rest, passed ++ [message]⟩) := by
  have h : nextMessage buffer = some (message, rest) := h
  rw [processMessages]
  split
  next heq => cases h.symm.trans heq
  next heq =>
    cases h.symm.trans heq
    rfl

/-- **Induction** over the rounds of the inner loop: it waits for more, it goes on behind a response
that was sent, or it ends behind one that was not. -/
@[elab_as_elim]
theorem processMessages_induction {motive : Client → Prop} (peer : Peer)
    (waiting : ∀ buffer passed, messageFraming.next buffer = none →
      processMessages peer ⟨buffer, passed⟩ = (.done, ⟨buffer, passed⟩) →
      motive ⟨buffer, passed⟩)
    (sent : ∀ buffer passed message rest, messageFraming.next buffer = some (message, rest) →
      sendResponse peer passed.length message = .done →
      processMessages peer ⟨buffer, passed⟩ = processMessages peer ⟨rest, passed ++ [message]⟩ →
      motive ⟨rest, passed ++ [message]⟩ → motive ⟨buffer, passed⟩)
    (unsent : ∀ buffer passed message rest, messageFraming.next buffer = some (message, rest) →
      sendResponse peer passed.length message ≠ .done →
      processMessages peer ⟨buffer, passed⟩ =
        (sendResponse peer passed.length message, ⟨rest, passed ++ [message]⟩) →
      motive ⟨buffer, passed⟩)
    (client : Client) : motive client := by
  obtain ⟨buffer, passed⟩ := client
  induction buffer using messageFraming.induction generalizing passed with
  | hnone buffer hnext => exact waiting buffer passed hnext (processMessages_of_none hnext)
  | hsome buffer message rest hnext ih =>
    have hround : processMessages peer ⟨buffer, passed⟩ = _ := processMessages_of_some hnext
    cases hsend : sendResponse peer passed.length message with
    | done =>
      rw [hsend] at hround
      exact sent buffer passed message rest hnext hsend hround (ih (passed ++ [message]))
    | timeout =>
      rw [hsend] at hround
      exact unsent buffer passed message rest hnext (by rw [hsend]; decide) (by rw [hsend, hround])
    | error =>
      rw [hsend] at hround
      exact unsent buffer passed message rest hnext (by rw [hsend]; decide) (by rw [hsend, hround])

/-- The inner loop ends after at most as many rounds as sizes fit into the buffer. -/
theorem processMessages_rounds (peer : Peer) (client : Client) :
    (processMessages peer client).2.passed.length ≤
      client.passed.length + client.buffer.length / 4 := by
  induction client using processMessages_induction peer with
  | waiting buffer passed hnext hround =>
    rw [hround]
    exact Nat.le_add_right _ _
  | sent buffer passed message rest hnext hsend hround ih =>
    rw [hround]
    refine ih.trans ?_
    have hrest := length_of_nextMessage hnext
    rw [List.length_append, List.length_singleton]
    dsimp only
    omega
  | unsent buffer passed message rest hnext hsend hround =>
    have hrest := length_of_nextMessage hnext
    rw [hround, List.length_append, List.length_singleton]
    dsimp only
    omega

/-- What was passed on and what is in the buffer make up the stream that was received. -/
def Cut (stream : List UInt8) (client : Client) : Prop :=
  messageFraming.frames stream = (client.passed ++ messagesOf client.buffer,
    (messageFraming.frames client.buffer).2)

theorem Cut.receive {stream : List UInt8} (h : Cut stream client) (data : List UInt8) :
    Cut (stream ++ data) { client with buffer := client.buffer ++ data } := by
  rw [Cut, Framing.frames_append, h, messagesOf, messagesOf,
    messageFraming.frames_append client.buffer data, List.append_assoc]

/-- A message that is passed on moves out of the buffer. -/
theorem Cut.pass {stream : List UInt8} (h : Cut stream ⟨buffer, passed⟩)
    (hnext : messageFraming.next buffer = some (message, rest)) :
    Cut stream ⟨rest, passed ++ [message]⟩ := by
  rw [Cut, h, messagesOf, Framing.frames_of_some hnext, List.append_assoc]
  rfl

protected theorem Cut.processMessages {stream : List UInt8} (h : Cut stream client) :
    Cut stream (processMessages peer client).2 := by
  induction client using processMessages_induction peer with
  | waiting buffer passed hnext hround =>
    rw [hround]
    exact h
  | sent buffer passed message rest hnext hsend hround ih =>
    rw [hround]
    exact ih (h.pass hnext)
  | unsent buffer passed message rest hnext hsend hround =>
    rw [hround]
    exact h.pass hnext

/-- The responses to all messages are sent. The first of them is number `n`. -/
def Sent (peer : Peer) : Nat → List (List UInt8) → Prop
  | _, [] => True
  | n, message :: messages => sendResponse peer n message = .done ∧ Sent peer (n + 1) messages

/-- **The inner loop.** It passes messages on as long as their responses are sent. Either none is
left then, or it passed on one more, and its response ended the loop. -/
theorem processMessages_spec (peer : Peer) (client : Client) :
    ∃ sent, Sent peer client.passed.length sent ∧
      ((processMessages peer client).1 = .done ∧
          messagesOf (processMessages peer client).2.buffer = [] ∧
          (processMessages peer client).2.passed = client.passed ++ sent ∨
        ∃ message, (processMessages peer client).1 ≠ .done ∧
          sendResponse peer (client.passed.length + sent.length) message =
            (processMessages peer client).1 ∧
          (processMessages peer client).2.passed = client.passed ++ (sent ++ [message])) := by
  induction client using processMessages_induction peer with
  | waiting buffer passed hnext hround =>
    rw [hround]
    exact ⟨[], trivial, .inl ⟨rfl, congrArg Prod.fst (Framing.frames_of_none hnext),
      (List.append_nil _).symm⟩⟩
  | sent buffer passed message rest hnext hsend hround ih =>
    obtain ⟨sent, hsent, hends⟩ := ih
    rw [List.length_append, List.length_singleton] at hsent hends
    rw [hround]
    refine ⟨message :: sent, ⟨hsend, hsent⟩, ?_⟩
    rcases hends with ⟨hdone, hempty, hpassed⟩ | ⟨last, hne, hlast, hpassed⟩
    · exact .inl ⟨hdone, hempty, by rw [hpassed, List.append_assoc, List.singleton_append]⟩
    · refine .inr ⟨last, hne, ?_, by rw [hpassed, List.append_assoc]; rfl⟩
      rwa [Nat.add_assoc, Nat.add_comm 1] at hlast
  | unsent buffer passed message rest hnext hsend hround =>
    rw [hround]
    exact ⟨[], trivial, .inr ⟨message, hsend, rfl, rfl⟩⟩

end Rounds

end Ros2Dispatcher.MockServer
