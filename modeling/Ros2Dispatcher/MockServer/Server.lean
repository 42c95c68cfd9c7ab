import Mathlib.Data.String.Basic
import Ros2Dispatcher.Library.BigEndian
import Ros2Dispatcher.Library.Entries
import Ros2Dispatcher.Library.Procedure
import Ros2Dispatcher.Library.Utf8

/-!
# The mock Kafka server

The message handlers of `kafka_mock_server_node.py`. They read a request at a moving offset,
store what a produce request holds and append to a response. `struct.unpack` raises on a slice
of the wrong length and `struct.pack` on a value out of range; a `break` leaves the loop it
stands in with offset and response as they are, and an exception leaves the `try` block with
everything stored so far.

A slice takes negative indices from the end. A request can make the offset negative, by a
negative length, so this matters.
-/

namespace Ros2Dispatcher.MockServer

open BigEndian Entries

/-! ### Storage -/

/-- One entry of `messages[topic][partition]`. -/
structure Message where
  offset : Nat
  batchOffset : Int
  payload : List UInt8
  timestamp : Int := -1
deriving DecidableEq, Repr

/-- `self.messages` and `self.offsets`. -/
structure Storage where
  messages : List (String × List (Int × List Message)) := []
  offsets : List (String × List (Int × Nat)) := []
deriving DecidableEq, Repr

/-- `sys.maxsize`: no list has more items, and `append` to one that has them raises. -/
def maxsize : Nat := 2 ^ 63 - 1

/-! ### Handlers -/

/-- The exceptions of a handler; it treats all of them alike. -/
inductive Fault
  | structError
  | keyError
  | overflowError
deriving DecidableEq, Repr

/-- The storage and the local variables of a handler. -/
structure Locals where
  storage : Storage
  offset : Int := 8
  response : List UInt8 := []
  batchOffsets : List Nat := []
deriving DecidableEq, Repr

abbrev Handler := EStateM Fault Locals

/-- Where an index of a slice of `n` items points. -/
def sliceIndex (n : Nat) (i : Int) : Nat :=
  if i < 0 then (n + i).toNat else min i.toNat n

/-- `items[i:j]`. -/
def slice (items : List UInt8) (i j : Int) : List UInt8 :=
  (items.take (sliceIndex items.length j)).drop (sliceIndex items.length i)

/-- The condition under which the handlers go on: `n` more bytes end within the message. -/
def fits (message : List UInt8) (n : Int) : Handler Bool := do
  let s ← get
  pure (s.offset + n ≤ message.length)

/-- `offset += n`. -/
def skip (n : Int) : Handler PUnit :=
  modify fun s => { s with offset := s.offset + n }

/-- The next `n` bytes, and the offset after them. -/
def readBytes (message : List UInt8) (n : Int) : Handler (List UInt8) := do
  let s ← get
  skip n
  pure (slice message s.offset (s.offset + n))

/-- `struct.unpack` of the next `width` bytes as a signed integer. -/
def readInt (message : List UInt8) (width : Nat) : Handler Int := do
  let bytes ← readBytes message width
  if bytes.length = width then pure (toInt bytes) else throw .structError

/-- `response += bytes`. -/
def putBytes (bytes : List UInt8) : Handler PUnit :=
  modify fun s => { s with response := s.response ++ bytes }

/-- `response += struct.pack` of a signed integer. -/
def put (width : Nat) (value : Int) : Handler PUnit :=
  if InRange width value then putBytes (ofInt width value) else throw .structError

/-- `for _ in range(count)`, with a body that says whether it did not break. -/
def loop (body : Handler Bool) : Nat → Handler PUnit
  | 0 => pure ⟨⟩
  | count + 1 => do
    if ← body then loop body count else pure ⟨⟩

/-- `range(min(count, cap))` has this many elements. -/
def rounds (count : Int) (cap : Nat) : Nat :=
  (min count cap).toNat

/-- `entries[key]`. -/
def item {κ α : Type} [BEq κ] (entries : List (κ × α)) (key : κ) : Handler α :=
  match entries.lookup key with
  | some value => pure value
  | none => throw .keyError

/-- `self.messages[topic] = partitions`. -/
def setMessages (topic : String) (partitions : List (Int × List Message)) : Handler PUnit :=
  modify fun s =>
    { s with storage := { s.storage with messages := set topic partitions s.storage.messages } }

/-- `self.offsets[topic] = partitions`. -/
def setOffsets (topic : String) (partitions : List (Int × Nat)) : Handler PUnit :=
  modify fun s =>
    { s with storage := { s.storage with offsets := set topic partitions s.storage.offsets } }

/-! ### Topics -/

/-- The name and the partition count in front of the partitions of a topic, as the response
repeats them. -/
def putTopic (topicName : String) (partitionCount : Int) : Handler PUnit := do
  -- the number of characters, where the format has the number of bytes
  put 2 topicName.length
  putBytes (Utf8.encode topicName.toList)
  put 4 partitionCount

/-- One round of a loop over topics: `init` is called with the name, and `partitionRound` is the
loop over its partitions. -/
def topicRound (message : List UInt8) (init : String → Handler PUnit)
    (partitionRound : String → Handler Bool) : Handler Bool := do
  if ← fits message 2 then
    let topicNameLen ← readInt message 2
    if ← fits message topicNameLen then
      -- a negative length takes the offset back, and the name is what the slice holds
      let name ← readBytes message topicNameLen
      let topicName := String.ofList (Utf8.decode name)
      init topicName
      if ← fits message 4 then
        let partitionCount ← readInt message 4
        putTopic topicName partitionCount
        loop (partitionRound topicName) (rounds partitionCount 100)
        pure true
      else pure false
    else pure false
  else pure false

/-! ### `create_produce_response` -/

/-- Initialize topic storage if needed. -/
def initTopic (topicName : String) : Handler PUnit := do
  let s ← get
  if (s.storage.messages.lookup topicName).isSome then pure ⟨⟩
  else
    setMessages topicName []
    setOffsets topicName []

/-- Initialize partition storage. -/
def initPartition (topicName : String) (partitionId : Int) : Handler PUnit := do
  let s ← get
  let partitions ← item s.storage.messages topicName
  if (partitions.lookup partitionId).isSome then pure ⟨⟩
  else
    setMessages topicName (set partitionId [] partitions)
    let offsets ← item s.storage.offsets topicName
    setOffsets topicName (set partitionId 0 offsets)

/-- Store a message under the next offset of its partition. -/
def storeMessage (topicName : String) (partitionId batchOffset : Int) (batchData : List UInt8) :
    Handler PUnit := do
  let s ← get
  let offsets ← item s.storage.offsets topicName
  let currentOffset ← item offsets partitionId
  let partitions ← item s.storage.messages topicName
  let stored ← item partitions partitionId
  -- `append` comes before the offset is counted, so a full list leaves both as they are
  if stored.length < maxsize then
    let message := { offset := currentOffset, batchOffset := batchOffset, payload := batchData }
    setMessages topicName (set partitionId (stored ++ [message]) partitions)
    modify fun s => { s with batchOffsets := s.batchOffsets ++ [currentOffset] }
    setOffsets topicName (set partitionId (currentOffset + 1) offsets)
  else throw .overflowError

/-- One round of the loop over the record batches of a partition. -/
def produceRecord (message : List UInt8) (topicName : String) (partitionId : Int) :
    Handler Bool := do
  if ← fits message 8 then
    let batchOffset ← readInt message 8
    if ← fits message 4 then
      let batchSize ← readInt message 4
      if ← fits message batchSize then
        let batchData ← readBytes message batchSize
        storeMessage topicName partitionId batchOffset batchData
        pure true
      else pure false
    else pure false
  else pure false

/-- One round of the loop over the partitions of a topic. -/
def producePartition (apiVersion : Nat) (message : List UInt8) (topicName : String) :
    Handler Bool := do
  if ← fits message 4 then
    let partitionId ← readInt message 4
    initPartition topicName partitionId
    if ← fits message 4 then
      let recordCount ← readInt message 4
      modify fun s => { s with batchOffsets := [] }
      loop (produceRecord message topicName partitionId) (rounds recordCount 1000)
      put 4 partitionId
      put 2 0
      let s ← get
      -- the base offset is that of the first message stored, and 0 if there is none
      put 8 (s.batchOffsets.headD 0)
      (if 2 ≤ apiVersion then put 8 (-1) else pure ⟨⟩)
      (if 5 ≤ apiVersion then put 8 0 else pure ⟨⟩)
      pure true
    else pure false
  else pure false

/-- One round of the loop over the topics. -/
def produceTopic (apiVersion : Nat) (message : List UInt8) : Handler Bool :=
  topicRound message initTopic (producePartition apiVersion message)

/-- What stands in front of the topics. -/
def skipProduceHeader (apiVersion : Nat) (message : List UInt8) : Handler PUnit := do
  (if 1 ≤ apiVersion then do
    let transactionalIdLen ← readInt message 2
    -- a null id has a negative length
    if 0 < transactionalIdLen then skip transactionalIdLen else pure ⟨⟩
  else pure ⟨⟩)
  skip 2
  skip 4

/-- The `try` block of `create_produce_response`. -/
def produce (correlationId apiVersion : Nat) (message : List UInt8) :
    Handler (Option (List UInt8)) := do
  skipProduceHeader apiVersion message
  if ← fits message 4 then
    let topicCount ← readInt message 4
    putBytes (ofNat 4 correlationId)
    put 4 topicCount
    loop (produceTopic apiVersion message) (rounds topicCount 100)
    (if 1 ≤ apiVersion then put 4 0 else pure ⟨⟩)
    let s ← get
    pure (some s.response)
  else pure none

/-- The simple success response. -/
def fallbackResponse (correlationId apiVersion : Nat) : List UInt8 :=
  ofNat 4 correlationId ++ ofInt 4 0 ++ if 1 ≤ apiVersion then ofInt 4 0 else []

/-- `create_produce_response`. -/
def createProduceResponse (correlationId apiVersion : Nat) (message : List UInt8)
    (storage : Storage) : Option (List UInt8) × Storage :=
  match produce correlationId apiVersion message { storage := storage } with
  | .ok response s => (response, s.storage)
  | .error _ s => (some (fallbackResponse correlationId apiVersion), s.storage)

/-! ### `create_fetch_response` -/

/-- The high water mark of a partition. -/
def highWaterMark (topicName : String) (partitionId : Int) : Handler Nat := do
  let s ← get
  if ((s.storage.messages.lookup topicName).bind (·.lookup partitionId)).isSome then
    let offsets ← item s.storage.offsets topicName
    item offsets partitionId
  else pure 0

/-- One round of the loop over the partitions of a topic. -/
def fetchPartition (apiVersion : Nat) (message : List UInt8) (topicName : String) :
    Handler Bool := do
  if ← fits message 8 then
    let partitionId ← readInt message 4
    let _fetchOffset ← readInt message 8
    if ← fits message 4 then
      let _maxBytes ← readInt message 4
      put 4 partitionId
      put 2 0
      -- `fetch_offset` and `max_bytes` are not looked at
      let mark ← highWaterMark topicName partitionId
      put 8 mark
      (if 4 ≤ apiVersion then put 8 mark else pure ⟨⟩)
      (if 5 ≤ apiVersion then put 8 0 else pure ⟨⟩)
      (if 4 ≤ apiVersion then put 4 0 else pure ⟨⟩)
      -- no record batches are sent back
      put 4 0
      pure true
    else pure false
  else pure false

/-- One round of the loop over the topics. -/
def fetchTopic (apiVersion : Nat) (message : List UInt8) : Handler Bool :=
  topicRound message (fun _ => pure ⟨⟩) (fetchPartition apiVersion message)

/-- Replica id, maximal wait time and minimal bytes: whether all of them are there. -/
def skipFetchHeader (message : List UInt8) : Handler Bool := do
  if ← fits message 4 then
    skip 4
    if ← fits message 4 then
      skip 4
      if ← fits message 4 then
        skip 4
        fits message 4
      else pure false
    else pure false
  else pure false

/-- The `try` block of `create_fetch_response`. -/
def fetch (correlationId apiVersion : Nat) (message : List UInt8) :
    Handler (Option (List UInt8)) := do
  if ← skipFetchHeader message then
    let topicCount ← readInt message 4
    putBytes (ofNat 4 correlationId)
    (if 1 ≤ apiVersion then put 4 0 else pure ⟨⟩)
    put 4 topicCount
    loop (fetchTopic apiVersion message) (rounds topicCount 100)
    let s ← get
    pure (some s.response)
  else pure none

/-- `create_fetch_response`. -/
def createFetchResponse (correlationId apiVersion : Nat) (message : List UInt8)
    (storage : Storage) : Option (List UInt8) × Storage :=
  match fetch correlationId apiVersion message { storage := storage } with
  | .ok response s => (response, s.storage)
  | .error _ s => (none, s.storage)

/-! ### The other requests -/

/-- The supported APIs with their least and greatest versions. -/
def apiVersions : List (Int × Int × Int) :=
  [(0, 0, 9), (1, 0, 13), (2, 0, 7), (3, 0, 12), (8, 0, 8), (9, 0, 8), (18, 0, 3), (19, 0, 7)]

/-- `create_api_version_response`. -/
def createApiVersionResponse (correlationId requestVersion : Nat) : List UInt8 :=
  ofNat 4 correlationId ++ ofInt 2 0 ++ ofInt 4 apiVersions.length ++
    apiVersions.flatMap (fun (apiKey, minVersion, maxVersion) =>
      ofInt 2 apiKey ++ ofInt 2 minVersion ++ ofInt 2 maxVersion) ++
    if 1 ≤ requestVersion then ofInt 4 0 else []

/-- `create_metadata_response`: one broker and no topic. -/
def createMetadataResponse (correlationId apiVersion : Nat) : List UInt8 :=
  let host := Utf8.encode "localhost".toList
  ofNat 4 correlationId ++ (if 1 ≤ apiVersion then ofInt 4 0 else []) ++
    ofInt 4 1 ++ ofInt 4 1 ++ ofInt 2 host.length ++ host ++ ofInt 4 9092 ++
    (if 1 ≤ apiVersion then ofInt 2 (-1) else []) ++
    (if 2 ≤ apiVersion then ofInt 2 (-1) else []) ++
    (if 1 ≤ apiVersion then ofInt 4 1 else []) ++ ofInt 4 0

/-- `create_empty_response`. -/
def createEmptyResponse (correlationId : Nat) : List UInt8 :=
  ofNat 4 correlationId ++ ofNat 2 0

/-- `handle_kafka_message`. -/
def handleKafkaMessage (message : List UInt8) (storage : Storage) :
    Option (List UInt8) × Storage :=
  if message.length < 8 then (none, storage)
  else
    let apiKey := toNat (message.take 2)
    let apiVersion := toNat ((message.drop 2).take 2)
    let correlationId := toNat ((message.drop 4).take 4)
    if apiKey = 18 then (some (createApiVersionResponse correlationId apiVersion), storage)
    else if apiKey = 3 then (some (createMetadataResponse correlationId apiVersion), storage)
    else if apiKey = 0 then createProduceResponse correlationId apiVersion message storage
    else if apiKey = 1 then createFetchResponse correlationId apiVersion message storage
    else (some (createEmptyResponse correlationId), storage)

end Ros2Dispatcher.MockServer
