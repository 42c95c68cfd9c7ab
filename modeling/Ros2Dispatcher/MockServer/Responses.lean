import Ros2Dispatcher.Library.WireFormat
import Ros2Dispatcher.MockServer.Requests
import Ros2Dispatcher.MockServer.Storage

/-!
# What the responses are made of

The layouts of the responses, as wire formats that depend on the version, and what the handlers
write for a request. For a topic they write the number of characters of its name, the bytes of
the name, the partition count as it was read, and one block per partition found
(`draftBytes`). Whether this is the encoding of a topic block is another question.

`wp_produce` and `wp_fetch` say what the handlers read, store and write, from one lemma for each
of their loops (`follows_produceRecord`, …).
-/

namespace Ros2Dispatcher.MockServer

open BigEndian Procedure WireFormat

/-! ### Layouts -/

/-- One partition of a produce response. -/
structure ProduceBlock where
  partitionId : Int
  errorCode : Int
  baseOffset : Int
  logAppendTime : Option Int
  logStartOffset : Option Int
deriving DecidableEq, Repr

def produceBlock (apiVersion : Nat) : WireFormat ProduceBlock :=
  iso (pair (int 4) (pair (int 2) (pair (int 8)
      (pair (optional (2 ≤ apiVersion) (int 8)) (optional (5 ≤ apiVersion) (int 8))))))
    (fun block => (block.partitionId, block.errorCode, block.baseOffset, block.logAppendTime,
      block.logStartOffset))
    (fun (partitionId, errorCode, baseOffset, logAppendTime, logStartOffset) =>
      ⟨partitionId, errorCode, baseOffset, logAppendTime, logStartOffset⟩)
    (fun _ => rfl) (fun _ => rfl)

/-- One partition of a fetch response. -/
structure FetchBlock where
  partitionId : Int
  errorCode : Int
  highWaterMark : Int
  lastStableOffset : Option Int
  logStartOffset : Option Int
  abortedTransactions : Option (List (Int × Int))
  recordBatches : List UInt8
deriving DecidableEq, Repr

def fetchBlock (apiVersion : Nat) : WireFormat FetchBlock :=
  iso (pair (int 4) (pair (int 2) (pair (int 8) (pair (optional (4 ≤ apiVersion) (int 8))
      (pair (optional (5 ≤ apiVersion) (int 8))
        (pair (optional (4 ≤ apiVersion) (array 4 (pair (int 8) (int 8)))) (string 4)))))))
    (fun block => (block.partitionId, block.errorCode, block.highWaterMark,
      block.lastStableOffset, block.logStartOffset, block.abortedTransactions,
      block.recordBatches))
    (fun (partitionId, errorCode, highWaterMark, lastStableOffset, logStartOffset,
        abortedTransactions, recordBatches) =>
      ⟨partitionId, errorCode, highWaterMark, lastStableOffset, logStartOffset,
        abortedTransactions, recordBatches⟩)
    (fun _ => rfl) (fun _ => rfl)

/-- One topic of a response. -/
structure TopicBlock (β : Type) where
  name : List UInt8
  partitions : List β
deriving DecidableEq, Repr

variable {α β : Type}

def topicBlock (partition : WireFormat β) : WireFormat (TopicBlock β) :=
  iso (pair (string 2) (array 4 partition)) (fun topic => (topic.name, topic.partitions))
    (fun (name, partitions) => ⟨name, partitions⟩) (fun _ => rfl) (fun _ => rfl)

/-- A whole response. -/
structure Answer (β : Type) where
  correlationId : Nat
  throttleTime : Option Int
  topics : List (TopicBlock β)
deriving DecidableEq, Repr

def produceAnswer (apiVersion : Nat) : WireFormat (Answer ProduceBlock) :=
  iso (pair (nat 4) (pair (array 4 (topicBlock (produceBlock apiVersion)))
      (optional (1 ≤ apiVersion) (int 4))))
    (fun answer => (answer.correlationId, answer.topics, answer.throttleTime))
    (fun (correlationId, topics, throttleTime) => ⟨correlationId, throttleTime, topics⟩)
    (fun _ => rfl) (fun _ => rfl)

def fetchAnswer (apiVersion : Nat) : WireFormat (Answer FetchBlock) :=
  iso (pair (nat 4) (pair (optional (1 ≤ apiVersion) (int 4))
      (array 4 (topicBlock (fetchBlock apiVersion)))))
    (fun answer => (answer.correlationId, answer.throttleTime, answer.topics))
    (fun (correlationId, throttleTime, topics) => ⟨correlationId, throttleTime, topics⟩)
    (fun _ => rfl) (fun _ => rfl)

/-! ### Drafts -/

/-- A topic as it was read, and the blocks that are written for its partitions. -/
abbrev Draft (β : Type) :=
  TopicRead × List β

/-- What is written for a topic. -/
def draftBytes (partition : WireFormat β) (draft : Draft β) : List UInt8 :=
  ofInt 2 (Utf8.decode draft.1.name).length ++ Utf8.encode (Utf8.decode draft.1.name) ++
    ofInt 4 draft.1.partitionCount ++ draft.2.flatMap partition.encode

/-- A draft has a block for every partition that was read, and `Φ` of each. -/
structure Drafted (partition : WireFormat β) (id : β → Int) (Φ : String → β → Prop)
    (draft : Draft β) : Prop where
  nameLength : InRange 2 (Utf8.decode draft.1.name).length
  partitionCount : InRange 4 draft.1.partitionCount
  partitions : draft.1.partitions = draft.2.map id
  fits : ∀ block ∈ draft.2, partition.Fits block
  blocks : ∀ block ∈ draft.2, Φ draft.1.topicName block

/-- A request as it was read, and the drafts of its topics. -/
structure Written (partition : WireFormat β) (id : β → Int) (Φ : String → β → Prop)
    (request : RequestRead) (drafts : List (Draft β)) : Prop where
  topicCount : InRange 4 request.topicCount
  topics : request.topics = drafts.map Prod.fst
  drafted : ∀ draft ∈ drafts, Drafted partition id Φ draft

/-- What is written for the topics. -/
def topicsBytes (partition : WireFormat β) (request : RequestRead) (drafts : List (Draft β)) :
    List UInt8 :=
  ofInt 4 request.topicCount ++ drafts.flatMap (draftBytes partition)

/-- What is written for the throttle time. -/
def throttleBytes (apiVersion : Nat) : List UInt8 :=
  (optional (1 ≤ apiVersion) (int 4)).encode (if 1 ≤ apiVersion then some 0 else none)

/-- Name and partition count of a topic are written if both are in range. -/
theorem FollowsFrom.putTopic {s : Locals} {I : Invariant} {k : Nat} {X : Prop} {Φ : β → Prop}
    {read : β → α} {bytes : β → List UInt8} {response : List UInt8}
    {found : Except Fault (Option α × Int)} {body : PUnit → Handler Bool} {name : List Char}
    {partitionCount : Int} (hs : I 0 s.storage s.batchOffsets) (hcount : InRange 4 partitionCount)
    (h : InRange 2 name.length → FollowsFrom { s with response := s.response ++
        (ofInt 2 name.length ++ Utf8.encode name ++ ofInt 4 partitionCount) }
      I k X Φ read bytes response found (body ⟨⟩)) :
    FollowsFrom s I k X Φ read bytes response
      (if InRange 2 name.length then found else .error .structError)
      (MockServer.putTopic (String.ofList name) partitionCount >>= body) := by
  by_cases hname : InRange 2 name.length
  · rw [if_pos hname]
    refine ⟨?_⟩
    rw [MockServer.putTopic, String.length_ofList, String.toList_ofList, wp_bind, wp_bind,
      wp_put_of_inRange hname, wp_bind, wp_putBytes, wp_put_of_inRange hcount]
    dsimp only
    rw [List.append_assoc, List.append_assoc, ← List.append_assoc (ofInt 2 _)]
    exact (h hname).ends
  · rw [if_neg hname]
    refine ⟨?_⟩
    rw [MockServer.putTopic, String.length_ofList, wp_bind, wp_bind, put, if_neg hname]
    exact ⟨hs, .inl rfl⟩

/-- A round of a loop over topics follows the entries and drafts, if its loop over partitions
follows the partitions. -/
theorem follows_topicRound {message : List UInt8} {I : Invariant} {I' : String → Invariant}
    {cost : Nat} {X : Prop} {partition : WireFormat β} {id : β → Int} {Φ : String → β → Prop}
    {partitionEntry : Entry Int} {init : String → Handler PUnit}
    {partitionRound : String → Handler Bool} (hI : Antitone I)
    (hI' : ∀ topicName, Antitone (I' topicName))
    (hinit : ∀ topicName k s, I k s.storage s.batchOffsets → wp (init topicName)
      (fun _ s' => ∃ storage, s' = { s with storage := storage } ∧
        I' topicName k storage s.batchOffsets) (fun _ _ => False) s)
    (hup : ∀ topicName k storage batchOffsets, I' topicName k storage batchOffsets →
      I k storage batchOffsets)
    (hround : ∀ topicName, Follows (I' topicName) cost X
      (fun block => partition.Fits block ∧ Φ topicName block) id partition.encode partitionEntry
      (partitionRound topicName)) :
    Follows I (100 * cost) X (Drafted partition id Φ) Prod.fst (draftBytes partition)
      (topicEntry message partitionEntry) (topicRound message init partitionRound) := by
  intro k s hs
  have hs₀ := hI (Nat.zero_le _) _ _ hs
  have hs₁ := hI (Nat.le_add_right k _) _ _ hs
  refine .fits hs₁ (.readInt hs₀ fun topicNameLen _ => .fits hs₁ (.readBytes ?_))
  refine .bind (wp_mono (hinit _ _ _ hs) (fun _ _ h => h) fun _ _ h => h.elim) ?_
  rintro _ _ ⟨storage, rfl, hs'⟩
  have hs'₀ := hup _ _ _ _ (hI' _ (Nat.zero_le _) _ _ hs')
  refine .fits (hup _ _ _ _ (hI' _ (Nat.le_add_right k _) _ _ hs')) (.readInt hs'₀
    fun partitionCount hcount => ?_)
  refine .putTopic hs'₀ hcount fun hname => .loop k (hround _) (hI' _) ?_
    (fun _ _ => hup _ _ _ _) fun s' blocks complete hs'' hblocks hresponse => ?_
  · exact hI' _ (Nat.add_le_add_left (Nat.mul_le_mul_right cost rounds_le) k) _ _ hs'
  · refine .done (⟨_, partitionCount, blocks.map id, complete⟩, blocks) rfl (hup _ _ _ _ hs'')
      ⟨hname, hcount, rfl, fun block hblock => (hblocks block hblock).1,
        fun block hblock => (hblocks block hblock).2⟩ ?_
    dsimp only at hresponse ⊢
    rw [hresponse, List.append_assoc]
    rfl

/-- The loop over the topics reads the request and writes the topics behind their count. -/
theorem wp_topics {message : List UInt8} {I : Invariant} {cost : Nat} {X : Prop}
    {partition : WireFormat β} {id : β → Int} {Φ : String → β → Prop} {partitionEntry : Entry Int}
    {body : Handler Bool} {topicCount offset : Int} {response : List UInt8} {s : Locals}
    (hround : Follows I cost X (Drafted partition id Φ) Prod.fst (draftBytes partition)
      (topicEntry message partitionEntry) body)
    (hI : Antitone I) (hs : I (100 * cost) s.storage s.batchOffsets)
    (hfits : offset + 4 ≤ message.length) (hcount : readIntAt message 4 offset = .ok topicCount)
    (hoffset : s.offset = offset + 4) (hresponse : s.response = response ++ ofInt 4 topicCount) :
    wp (loop body (rounds topicCount 100))
      (fun _ s' => I 0 s'.storage s'.batchOffsets ∧
        ∃ request drafts, readTopics message partitionEntry offset = .ok (some request) ∧
          Written partition id Φ request drafts ∧
          s'.response = response ++ topicsBytes partition request drafts)
      (fun fault s' => I 0 s'.storage s'.batchOffsets ∧
        (readTopics message partitionEntry offset = .error fault ∨ X)) s := by
  have hle : 0 + rounds topicCount 100 * cost ≤ 100 * cost := by
    rw [Nat.zero_add]
    exact Nat.mul_le_mul_right cost rounds_le
  rw [readTopics, if_pos hfits, hcount, ← hoffset]
  refine wp_mono (hround.wp_loop hI _ 0 (hI hle _ _ hs)) ?_ ?_
  · rintro _ s' ⟨hs', drafts, complete, hdrafts, hcollect, hresponse'⟩
    refine ⟨hs', ⟨topicCount, drafts.map Prod.fst, complete⟩, drafts, ?_,
      ⟨inRange_of_readIntAt hcount, rfl, hdrafts⟩, ?_⟩
    · simp only [bind, Except.bind, hcollect]
    · rw [hresponse', hresponse, List.append_assoc]
      rfl
  · rintro fault s' ⟨hs', hcollect⟩
    refine ⟨hs', hcollect.imp_left fun hcollect => ?_⟩
    simp only [bind, Except.bind, hcollect]

/-! ### Produce -/

section Produce

variable {initial : Storage} {room : Prop} {message : List UInt8} {topicName : String}
  {partitionId : Int} {apiVersion : Nat}

/-- What the loop over the record batches keeps. -/
def StoringRecords (initial : Storage) (room : Prop) (topicName : String) (partitionId : Int) :
    Invariant := fun k storage batchOffsets =>
  Storing initial room k storage ∧ (storage.stored topicName partitionId).isSome = true ∧
    ∀ offset ∈ batchOffsets, offset ≤ maxsize

theorem StoringRecords.antitone :
    Antitone (StoringRecords initial room topicName partitionId) :=
  fun _ _ hle _ _ h => ⟨Storing.antitone hle _ h.1, h.2⟩

theorem follows_produceRecord :
    Follows (StoringRecords initial room topicName partitionId) 1 (¬room) (fun _ => True) id
      (fun _ => []) (recordEntry message) (produceRecord message topicName partitionId) := by
  intro k s hs
  have hs₀ := StoringRecords.antitone (Nat.zero_le _) _ _ hs
  have hs₁ := StoringRecords.antitone (Nat.le_succ k) _ _ hs
  refine .fits hs₁ (.readInt hs₀ fun batchOffset _ =>
    .fits hs₁ (.readInt hs₀ fun batchSize _ => .fits hs₁ (.readBytes ?_)))
  refine .bind (wp_mono (wp_storeMessage hs.1 hs.2.1) (fun _ _ h => h) ?_) ?_
  · rintro fault _ ⟨rfl, hroom⟩
    exact ⟨hs₀, hroom⟩
  · rintro _ _ ⟨storage, offset, hoffset, rfl, hstoring, hknown⟩
    refine .done () rfl ⟨hstoring, hknown, ?_⟩ trivial (List.append_nil _).symm
    exact List.forall_mem_append.mpr ⟨hs.2.2, List.forall_mem_singleton.mpr hoffset⟩

/-- What the loop over the partitions of a topic keeps. -/
def StoringPartitions (initial : Storage) (room : Prop) (topicName : String) : Invariant :=
  fun k storage _ =>
    Storing initial room k storage ∧ (storage.messages.lookup topicName).isSome = true

theorem StoringPartitions.antitone : Antitone (StoringPartitions initial room topicName) :=
  fun _ _ hle _ _ h => ⟨Storing.antitone hle _ h.1, h.2⟩

/-- The topic of a known partition is known. -/
theorem isSome_lookup_of_stored {storage : Storage}
    (h : (storage.stored topicName partitionId).isSome = true) :
    (storage.messages.lookup topicName).isSome = true := by
  obtain ⟨messages, hmessages⟩ := Option.isSome_iff_exists.mp h
  obtain ⟨partitions, hpartitions, -⟩ := Option.bind_eq_some_iff.mp hmessages
  exact Option.isSome_iff_exists.mpr ⟨partitions, hpartitions⟩

theorem inRange_of_le_maxsize {n : Nat} (h : n ≤ maxsize) : InRange 8 n := by
  unfold InRange maxsize at *
  omega

theorem inRange_neg_one : InRange 8 (-1) := by
  unfold InRange
  omega

theorem fits_optional {c : Prop} [Decidable c] {format : WireFormat α} {value : α}
    (h : format.Fits value) :
    (optional c format).Fits (if c then some value else none) := by
  by_cases hc : c
  · rw [if_pos hc]
    exact ⟨(decide_eq_true hc).symm, fun _ hvalue => Option.some.inj hvalue ▸ h⟩
  · rw [if_neg hc]
    exact ⟨(decide_eq_false hc).symm, fun a ha => absurd ha (Option.not_mem_none a)⟩

/-- A field of some versions is written. -/
theorem wp_putIf {c : Prop} [Decidable c] {width : Nat} {value : Int} {s : Locals}
    {Q : PUnit → Locals → Prop} {E : Fault → Locals → Prop} (hvalue : InRange width value) :
    wp (if c then put width value else pure ⟨⟩) Q E s ↔
      Q ⟨⟩ { s with response := s.response ++
        (optional c (int width)).encode (if c then some value else none) } := by
  by_cases hc : c
  · rw [if_pos hc, if_pos hc, wp_put_of_inRange hvalue]
    exact Iff.rfl
  · have hs : { s with response := s.response ++ [] } = s := by rw [List.append_nil]
    rw [if_neg hc, if_neg hc]
    exact hs.symm ▸ Iff.rfl

theorem follows_producePartition :
    Follows (StoringPartitions initial room topicName) 1000 (¬room)
      (fun block => (produceBlock apiVersion).Fits block ∧ True) ProduceBlock.partitionId
      (produceBlock apiVersion).encode (producePartitionEntry message)
      (producePartition apiVersion message topicName) := by
  intro k s hs
  refine .fits (StoringPartitions.antitone (Nat.le_add_right k _) _ _ hs) (.readInt
    (StoringPartitions.antitone (Nat.zero_le _) _ _ hs) fun partitionId hid =>
      .bind (wp_mono (wp_initPartition hs.1 hs.2) (fun _ _ h => h) nofun) ?_)
  rintro _ _ ⟨storage, rfl, hstoring, hknown⟩
  have hs₁ : StoringPartitions initial room topicName (k + 1000) storage s.batchOffsets :=
    ⟨hstoring, isSome_lookup_of_stored hknown⟩
  refine .fits (StoringPartitions.antitone (Nat.le_add_right k _) _ _ hs₁) (.readInt
    (StoringPartitions.antitone (Nat.zero_le _) _ _ hs₁) fun recordCount _ =>
      .modify (.loop k follows_produceRecord StoringRecords.antitone ?_
        (fun _ _ h => ⟨h.1, isSome_lookup_of_stored h.2.1⟩) ?_))
  · have hle : k + rounds recordCount 1000 * 1 ≤ k + 1000 := by
      rw [Nat.mul_one]
      exact Nat.add_le_add_left rounds_le k
    exact ⟨Storing.antitone hle _ hstoring, hknown, nofun⟩
  -- what is written once the loop over the records has ended, complete or not
  · intro s' answers complete hs' _ hresponse
    have hbase : InRange 8 (s'.batchOffsets.headD 0 : Nat) := by
      refine inRange_of_le_maxsize ?_
      cases hoffsets : s'.batchOffsets with
      | nil => exact Nat.zero_le _
      | cons offset offsets => exact hs'.2.2 offset (hoffsets ▸ List.mem_cons_self)
    -- the records themselves write nothing
    have hempty : answers.flatMap (fun _ => ([] : List UInt8)) = [] :=
      List.flatMap_eq_nil_iff.mpr fun _ _ => rfl
    rw [hempty, List.append_nil] at hresponse
    refine ⟨?_⟩
    rw [wp_bind, wp_put_of_inRange hid, wp_bind, wp_put_of_inRange inRange_zero,
      wp_bind, wp_get, wp_bind, wp_put_of_inRange hbase, wp_bind, wp_putIf inRange_neg_one, wp_bind,
      wp_putIf inRange_zero]
    refine ⟨⟨hs'.1, isSome_lookup_of_stored hs'.2.1⟩, some ⟨partitionId, 0,
      (s'.batchOffsets.headD 0 : Nat), if 2 ≤ apiVersion then some (-1) else none,
      if 5 ≤ apiVersion then some 0 else none⟩, ?_, rfl, rfl, ?_⟩
    · rintro _ ⟨⟩
      exact ⟨⟨hid, inRange_zero, hbase, fits_optional inRange_neg_one,
        fits_optional inRange_zero⟩, trivial⟩
    · dsimp only at hresponse ⊢
      rw [hresponse]
      simp only [List.append_assoc]
      rfl

/-- What the loop over the topics keeps. -/
def StoringTopics (initial : Storage) (room : Prop) : Invariant :=
  fun k storage _ => Storing initial room k storage

theorem StoringTopics.antitone : Antitone (StoringTopics initial room) :=
  fun _ _ hle _ _ h => Storing.antitone hle _ h

theorem follows_produceTopic :
    Follows (StoringTopics initial room) (100 * 1000) (¬room)
      (Drafted (produceBlock apiVersion) ProduceBlock.partitionId fun _ _ => True) Prod.fst
      (draftBytes (produceBlock apiVersion))
      (topicEntry message (producePartitionEntry message)) (produceTopic apiVersion message) :=
  follows_topicRound StoringTopics.antitone (fun _ => StoringPartitions.antitone)
    (fun _ _ _ hs => wp_initTopic hs) (fun _ _ _ _ h => h.1) fun _ => follows_producePartition

/-- Where the header ends. -/
theorem wp_skipProduceHeader {storage : Storage} :
    wp (skipProduceHeader apiVersion message)
      (fun _ s' => ∃ offset, produceTopicsOffset apiVersion message = .ok offset ∧
        s' = { storage := storage, offset := offset })
      (fun fault s' => produceTopicsOffset apiVersion message = .error fault ∧
        s'.storage = storage)
      { storage := storage } := by
  rw [skipProduceHeader, produceTopicsOffset, wp_bind]
  -- from version 1 on a transactional id comes first
  by_cases hversion : 1 ≤ apiVersion
  · rw [if_pos hversion, if_pos hversion, wp_bind]
    refine wp_readInt (fun transactionalIdLen hlength => ?_) fun fault hfault => ⟨?_, rfl⟩
    · have hlength : readIntAt message 2 8 = .ok transactionalIdLen := hlength
      rw [hlength, wp_ite]
      refine ⟨fun hpos => ⟨_, ?_, rfl⟩, fun hneg => ⟨_, ?_, rfl⟩⟩
      · simp only [bind, Except.bind, if_pos hpos]
        rfl
      · simp only [bind, Except.bind, if_neg hneg]
        rfl
    · have hfault : readIntAt message 2 8 = .error fault := hfault
      rw [hfault]
      rfl
  · rw [if_neg hversion, if_neg hversion]
    exact ⟨_, rfl, rfl⟩

/-- What the `try` block of a produce request reads, stores and writes. -/
theorem wp_produce (correlationId apiVersion : Nat) (message : List UInt8)
    (h : Storing initial room (100 * (100 * 1000)) initial) :
    wp (produce correlationId apiVersion message)
      (fun response s' => Storing initial room 0 s'.storage ∧ match response with
        | none => readProduce apiVersion message = .ok none
        | some bytes => ∃ request drafts, readProduce apiVersion message = .ok (some request) ∧
            Written (produceBlock apiVersion) ProduceBlock.partitionId (fun _ _ => True)
              request drafts ∧
            bytes = ofNat 4 correlationId ++ topicsBytes (produceBlock apiVersion) request drafts ++
              throttleBytes apiVersion)
      (fun fault s' => Storing initial room 0 s'.storage ∧
        (readProduce apiVersion message = .error fault ∨ ¬room))
      { storage := initial } := by
  have h₀ := Storing.antitone (Nat.zero_le _) _ h
  rw [produce, wp_bind]
  refine wp_mono wp_skipProduceHeader ?_ ?_
  · rintro _ _ ⟨offset, hoffset, rfl⟩
    have hread : readProduce apiVersion message =
        readTopics message (producePartitionEntry message) offset := by
      rw [readProduce, hoffset]
      rfl
    rw [hread, wp_bind, wp_fits, wp_ite, decide_eq_true_iff]
    refine ⟨fun hfits => ?_, fun hfits => ?_⟩
    · rw [wp_bind]
      refine wp_readInt (fun topicCount hcount => ?_) fun fault hfault => ⟨h₀, .inl ?_⟩
      · have hcount₄ := inRange_of_readIntAt hcount
        rw [wp_bind, wp_putBytes, wp_bind, wp_put_of_inRange hcount₄, wp_bind]
        have hround : Follows (StoringTopics initial room) (100 * 1000) (¬room)
            (Drafted (produceBlock apiVersion) ProduceBlock.partitionId fun _ _ => True) Prod.fst
            (draftBytes (produceBlock apiVersion))
            (topicEntry message (producePartitionEntry message))
            (produceTopic apiVersion message) :=
          follows_produceTopic
        refine wp_mono (wp_topics hround StoringTopics.antitone h hfits hcount rfl rfl) ?_
          fun fault s' hs' => hs'
        rintro _ s' ⟨hs', request, drafts, hrequest, hwritten, hresponse⟩
        rw [wp_bind, wp_putIf inRange_zero, wp_bind, wp_get, wp_pure]
        exact ⟨hs', request, drafts, hrequest, hwritten, by rw [hresponse]; rfl⟩
      · dsimp only at hfault hfits
        rw [readTopics, if_pos hfits, hfault]
        rfl
    · exact ⟨h₀, if_neg hfits⟩
  · rintro fault s' ⟨hoffset, hstorage⟩
    refine ⟨hstorage ▸ h₀, .inl ?_⟩
    rw [readProduce, hoffset]
    rfl

/-- What is stored afterwards, whatever the request. -/
theorem createProduceResponse_storing (correlationId apiVersion : Nat) (message : List UInt8)
    (h : Storing initial room (100 * (100 * 1000)) initial) :
    Storing initial room 0 (createProduceResponse correlationId apiVersion message initial).2 := by
  rw [createProduceResponse]
  have hproduce := wp_produce correlationId apiVersion message h
  split
  next response s' hrun => exact (of_wp_ok hproduce hrun).1
  next fault s' hrun => exact (of_wp_error hproduce hrun).1

/-- **Produce.** There is no response if the topic count is missing; otherwise it is what is
written for the request, or the simple success response if the request cannot be read or the
storage is full. -/
theorem createProduceResponse_cases (correlationId apiVersion : Nat) (message : List UInt8)
    (h : Storing initial room (100 * (100 * 1000)) initial) :
    match (createProduceResponse correlationId apiVersion message initial).1 with
    | none => readProduce apiVersion message = .ok none
    | some bytes =>
      (bytes = fallbackResponse correlationId apiVersion ∧
        ((∃ fault, readProduce apiVersion message = .error fault) ∨ ¬room)) ∨
      ∃ request drafts, readProduce apiVersion message = .ok (some request) ∧
        Written (produceBlock apiVersion) ProduceBlock.partitionId (fun _ _ => True)
          request drafts ∧
        bytes = ofNat 4 correlationId ++ topicsBytes (produceBlock apiVersion) request drafts ++
          throttleBytes apiVersion := by
  rw [createProduceResponse]
  have hproduce := wp_produce correlationId apiVersion message h
  cases hrun : produce correlationId apiVersion message { storage := initial } with
  | error fault s' =>
    exact .inl ⟨rfl, (of_wp_error hproduce hrun).2.imp_left fun hfault => ⟨fault, hfault⟩⟩
  | ok response s' =>
    have hresponse := (of_wp_ok hproduce hrun).2
    cases response with
    | none => exact hresponse
    | some bytes => exact .inr hresponse

end Produce

/-! ### Fetch -/

section Fetch

variable {initial : Storage} {message : List UInt8} {topicName : String} {apiVersion : Nat}

/-- A fetch request stores nothing. -/
def Fetching (initial : Storage) : Invariant :=
  fun _ storage _ => storage = initial

theorem Fetching.antitone : Antitone (Fetching initial) :=
  fun _ _ _ _ _ h => h

/-- The block reports how many messages its partition has. -/
def Reports (storage : Storage) (topicName : String) (block : FetchBlock) : Prop :=
  block.highWaterMark = storage.count topicName block.partitionId

/-- No aborted transactions are written as their number alone. -/
theorem encode_noTransactions {c : Prop} [Decidable c] :
    (optional c (array 4 (pair (int 8) (int 8)))).encode (if c then some [] else none) =
      (optional c (int 4)).encode (if c then some 0 else none) := by
  split <;> rfl

theorem follows_fetchPartition (hinitial : initial.Gapless) :
    Follows (Fetching initial) 0 False
      (fun block => (fetchBlock apiVersion).Fits block ∧ Reports initial topicName block)
      FetchBlock.partitionId (fetchBlock apiVersion).encode (fetchPartitionEntry message)
      (fetchPartition apiVersion message topicName) := by
  intro k s hs
  refine .fits hs (.readInt hs fun partitionId hid => .readInt hs fun _ _ =>
    .fits hs (.readInt hs fun _ _ => ⟨?_⟩))
  have hmark : InRange 8 (initial.count topicName partitionId) :=
    inRange_of_le_maxsize (hinitial.count_le topicName partitionId)
  rw [wp_bind, wp_put_of_inRange hid, wp_bind, wp_put_of_inRange inRange_zero, wp_bind,
    wp_highWaterMark hinitial, wp_bind, wp_put_of_inRange hmark, wp_bind, wp_putIf hmark, wp_bind,
    wp_putIf inRange_zero, wp_bind, wp_putIf inRange_zero, wp_bind, wp_put_of_inRange inRange_zero]
  · refine ⟨hs, some ⟨partitionId, 0, initial.count topicName partitionId,
      if 4 ≤ apiVersion then some (initial.count topicName partitionId : Int) else none,
      if 5 ≤ apiVersion then some 0 else none, if 4 ≤ apiVersion then some [] else none, []⟩,
      ?_, rfl, rfl, ?_⟩
    · rintro _ ⟨⟩
      exact ⟨⟨hid, inRange_zero, hmark, fits_optional hmark, fits_optional inRange_zero,
        fits_optional ⟨inRange_zero, nofun⟩, inRange_zero⟩, rfl⟩
    · dsimp only
      rw [← encode_noTransactions]
      simp only [List.append_assoc]
      rfl
  · exact hs

theorem follows_fetchTopic (hinitial : initial.Gapless) :
    Follows (Fetching initial) (100 * 0) False
      (Drafted (fetchBlock apiVersion) FetchBlock.partitionId (Reports initial)) Prod.fst
      (draftBytes (fetchBlock apiVersion)) (topicEntry message (fetchPartitionEntry message))
      (fetchTopic apiVersion message) :=
  follows_topicRound Fetching.antitone (fun _ => Fetching.antitone)
    (fun _ _ s hs => ⟨s.storage, rfl, hs⟩) (fun _ _ _ _ h => h)
    fun _ => follows_fetchPartition hinitial

/-- The request goes on behind the header exactly if a topic count fits there. -/
theorem wp_skipFetchHeader {storage : Storage} :
    wp (skipFetchHeader message)
      (fun goesOn s' => (goesOn = true ↔ (20 : Int) + 4 ≤ message.length) ∧
        (goesOn = true → s' = { storage := storage, offset := 20 }) ∧ s'.storage = storage)
      (fun _ _ => False) { storage := storage } := by
  rw [skipFetchHeader, wp_bind, wp_fits, wp_ite, decide_eq_true_iff]
  refine ⟨fun _ => ?_, fun hfits => ⟨iff_of_false nofun ?_, nofun, rfl⟩⟩
  · rw [wp_bind, wp_skip, wp_bind, wp_fits, wp_ite, decide_eq_true_iff]
    refine ⟨fun _ => ?_, fun hfits => ⟨iff_of_false nofun ?_, nofun, rfl⟩⟩
    · rw [wp_bind, wp_skip, wp_bind, wp_fits, wp_ite, decide_eq_true_iff]
      refine ⟨fun _ => ?_, fun hfits => ⟨iff_of_false nofun ?_, nofun, rfl⟩⟩
      · rw [wp_bind, wp_skip, wp_fits]
        exact ⟨decide_eq_true_iff, fun _ => rfl, rfl⟩
      · dsimp only at hfits
        omega
    · dsimp only at hfits
      omega
  · dsimp only at hfits
    omega

/-- What the `try` block of a fetch request reads and writes. -/
theorem wp_fetch (correlationId apiVersion : Nat) (message : List UInt8)
    (hinitial : initial.Gapless) :
    wp (fetch correlationId apiVersion message)
      (fun response s' => s'.storage = initial ∧ match response with
        | none => readFetch message = .ok none
        | some bytes => ∃ request drafts, readFetch message = .ok (some request) ∧
            Written (fetchBlock apiVersion) FetchBlock.partitionId (Reports initial)
              request drafts ∧
            bytes = ofNat 4 correlationId ++ throttleBytes apiVersion ++
              topicsBytes (fetchBlock apiVersion) request drafts)
      (fun fault s' => s'.storage = initial ∧ readFetch message = .error fault)
      { storage := initial } := by
  rw [fetch, wp_bind]
  refine wp_mono wp_skipFetchHeader ?_ fun _ _ h => h.elim
  rintro goesOn s' ⟨hgoesOn, hs', hstorage⟩
  rw [wp_ite, hgoesOn]
  refine ⟨fun hfits => ?_, fun hfits => ⟨hstorage, if_neg hfits⟩⟩
  rw [hs' (hgoesOn.mpr hfits), wp_bind]
  refine wp_readInt (fun topicCount hcount => ?_) fun fault hfault => ⟨rfl, ?_⟩
  · have hcount₄ := inRange_of_readIntAt hcount
    have hround : Follows (Fetching initial) (100 * 0) False
        (Drafted (fetchBlock apiVersion) FetchBlock.partitionId (Reports initial)) Prod.fst
        (draftBytes (fetchBlock apiVersion)) (topicEntry message (fetchPartitionEntry message))
        (fetchTopic apiVersion message) := follows_fetchTopic hinitial
    rw [wp_bind, wp_putBytes, wp_bind, wp_putIf inRange_zero, wp_bind, wp_put_of_inRange hcount₄,
      wp_bind]
    refine wp_mono (wp_topics hround Fetching.antitone rfl hfits hcount rfl rfl) ?_ ?_
    · rintro _ s' ⟨hs', request, drafts, hrequest, hwritten, hresponse⟩
      rw [wp_bind, wp_get, wp_pure]
      exact ⟨hs', request, drafts, hrequest, hwritten, hresponse⟩
    · rintro fault s' ⟨hs', hfault⟩
      exact ⟨hs', hfault.resolve_right id⟩
  · dsimp only at hfault
    rw [readFetch, readTopics, if_pos hfits, hfault]
    rfl

/-- **Fetch.** There is no response if the request cannot be read or the topic count is
missing; otherwise it is what is written for the request. Nothing is stored. -/
theorem createFetchResponse_cases (correlationId apiVersion : Nat) (message : List UInt8)
    (hinitial : initial.Gapless) :
    (createFetchResponse correlationId apiVersion message initial).2 = initial ∧
      match (createFetchResponse correlationId apiVersion message initial).1 with
      | none => ∀ request, readFetch message ≠ .ok (some request)
      | some bytes => ∃ request drafts, readFetch message = .ok (some request) ∧
          Written (fetchBlock apiVersion) FetchBlock.partitionId (Reports initial)
            request drafts ∧
          bytes = ofNat 4 correlationId ++ throttleBytes apiVersion ++
            topicsBytes (fetchBlock apiVersion) request drafts := by
  rw [createFetchResponse]
  have hfetch := wp_fetch correlationId apiVersion message hinitial
  cases hrun : fetch correlationId apiVersion message { storage := initial } with
  | error fault s' =>
    obtain ⟨hstorage, hread⟩ := of_wp_error hfetch hrun
    refine ⟨hstorage, fun request hrequest => ?_⟩
    rw [hread] at hrequest
    cases hrequest
  | ok response s' =>
    obtain ⟨hstorage, hresponse⟩ := of_wp_ok hfetch hrun
    cases response with
    | none =>
      refine ⟨hstorage, fun request hrequest => ?_⟩
      rw [hresponse] at hrequest
      cases hrequest
    | some bytes => exact ⟨hstorage, hresponse⟩

end Fetch

end Ros2Dispatcher.MockServer
