import Ros2Dispatcher.MockServer.Responses

/-!
# Offsets over a run of the mock server

Every message keeps the storage gapless and the earlier messages where they are
(`handleKafkaMessage_keeps`), whatever its bytes are, so every run does. A block of a fetch
response reports how many messages its partition has, and a well-formed fetch request gets a
block for each of its partitions (`handleKafkaMessage_fetch`).
-/

namespace Ros2Dispatcher.MockServer

open BigEndian Fallible WireFormat

/-! ### Runs -/

/-- The storage after some messages. -/
def storedAfter (messages : List (List UInt8)) : Storage :=
  messages.foldl (fun storage message => (handleKafkaMessage message storage).2) {}

/-- **Step.** A message keeps the storage gapless and the earlier messages where they are. -/
theorem handleKafkaMessage_keeps {storage : Storage} (h : storage.Gapless)
    (message : List UInt8) :
    (handleKafkaMessage message storage).2.Gapless ∧
      storage.Extends (handleKafkaMessage message storage).2 := by
  have hself : storage.Gapless ∧ storage.Extends storage := ⟨h, Storage.Extends.refl storage⟩
  have hstoring : Storing storage False (100 * (100 * 1000)) storage := ⟨h, hself.2, nofun⟩
  unfold handleKafkaMessage
  split
  · exact hself
  · dsimp only
    split
    · exact hself
    · split
      · exact hself
      · split
        · have hafter := createProduceResponse_storing (toNat ((message.drop 4).take 4))
            (toNat ((message.drop 2).take 2)) message hstoring
          exact ⟨hafter.gapless, hafter.grown⟩
        · split
          · rw [(createFetchResponse_cases _ _ message h).1]
            exact hself
          · exact hself

/-- **Run.** So do any number of messages. -/
theorem foldl_keeps {storage : Storage} (h : storage.Gapless) (messages : List (List UInt8)) :
    (messages.foldl (fun storage message => (handleKafkaMessage message storage).2)
        storage).Gapless ∧
      storage.Extends
        (messages.foldl (fun storage message => (handleKafkaMessage message storage).2)
          storage) := by
  induction messages generalizing storage with
  | nil => exact ⟨h, Storage.Extends.refl storage⟩
  | cons message messages ih =>
    obtain ⟨hgapless, hextends⟩ := handleKafkaMessage_keeps h message
    obtain ⟨hgapless', hextends'⟩ := ih hgapless
    exact ⟨hgapless', hextends.trans hextends'⟩

theorem storedAfter_gapless (messages : List (List UInt8)) : (storedAfter messages).Gapless :=
  (foldl_keeps Storage.gapless_empty messages).1

theorem storedAfter_extends (before after : List (List UInt8)) :
    (storedAfter before).Extends (storedAfter (before ++ after)) := by
  rw [storedAfter.eq_def (before ++ after), List.foldl_append]
  exact (foldl_keeps (storedAfter_gapless before) after).2

/-! ### Well-formed fetch requests -/

/-- One partition of a fetch request. -/
structure FetchPartition where
  partitionId : Int
  fetchOffset : Int
  maxBytes : Int
deriving DecidableEq, Repr

/-- A fetch request. -/
structure FetchRequest where
  apiKey : Nat
  apiVersion : Nat
  correlationId : Nat
  replicaId : Int
  maxWaitTime : Int
  minBytes : Int
  topics : List (TopicBlock FetchPartition)
deriving DecidableEq, Repr

def requestedPartition : WireFormat FetchPartition :=
  iso (pair (int 4) (pair (int 8) (int 4)))
    (fun partition => (partition.partitionId, partition.fetchOffset, partition.maxBytes))
    (fun (partitionId, fetchOffset, maxBytes) => ⟨partitionId, fetchOffset, maxBytes⟩)
    (fun _ => rfl) (fun _ => rfl)

def fetchRequest : WireFormat FetchRequest :=
  iso (pair (nat 2) (pair (nat 2) (pair (nat 4) (pair (int 4) (pair (int 4) (pair (int 4)
      (array 4 (topicBlock requestedPartition))))))))
    (fun request => (request.apiKey, request.apiVersion, request.correlationId, request.replicaId,
      request.maxWaitTime, request.minBytes, request.topics))
    (fun (apiKey, apiVersion, correlationId, replicaId, maxWaitTime, minBytes, topics) =>
      ⟨apiKey, apiVersion, correlationId, replicaId, maxWaitTime, minBytes, topics⟩)
    (fun _ => rfl) (fun _ => rfl)

/-- The handlers read at most 100 topics, and 100 partitions of each. -/
def FetchRequest.WithinCaps (request : FetchRequest) : Prop :=
  request.topics.length ≤ 100 ∧ ∀ topic ∈ request.topics, topic.partitions.length ≤ 100

/-! ### Reading what was written -/

section Reading

theorem sliceIndex_of_le {n i : Nat} (h : i ≤ n) : sliceIndex n i = i := by
  have hpos : ¬(i : Int) < 0 := Int.not_lt.mpr (Int.natCast_nonneg i)
  rw [sliceIndex, if_neg hpos, Int.toNat_natCast, Nat.min_eq_left h]

theorem slice_middle (before middle after : List UInt8) :
    slice (before ++ (middle ++ after)) before.length (before.length + middle.length : Nat) =
      middle := by
  rw [slice, sliceIndex_of_le (by simp), sliceIndex_of_le (by simp), ← List.append_assoc,
    ← List.length_append, List.take_left, List.drop_left]

/-- An integer is read as it was written. -/
theorem readIntAt_eq (before after : List UInt8) {message : List UInt8} {width : Nat}
    {value offset : Int} (h : InRange width value)
    (hmessage : message = before ++ (ofInt width value ++ after))
    (hoffset : offset = before.length) : readIntAt message width offset = .ok value := by
  have hslice : slice message offset (offset + width) = ofInt width value := by
    have hmiddle := slice_middle before (ofInt width value) after
    rwa [length_ofInt, Int.natCast_add, ← hmessage, ← hoffset] at hmiddle
  rw [readIntAt, hslice, if_pos length_ofInt, toInt_ofInt h]

/-- An entry reads what a format has written, wherever that stands. -/
def Reads {α γ : Type} (entry : List UInt8 → Entry α) (format : WireFormat γ) (read : γ → α)
    (P : γ → Prop) : Prop :=
  ∀ before x after, format.Fits x → P x →
    entry (before ++ (format.encode x ++ after)) before.length =
      .ok (some (read x), (before ++ format.encode x).length)

theorem Reads.collect {α γ : Type} {entry : List UInt8 → Entry α} {format : WireFormat γ}
    {read : γ → α} {P : γ → Prop} (h : Reads entry format read P) {items : List γ}
    (hfits : ∀ x ∈ items, format.Fits x) (hP : ∀ x ∈ items, P x) (before after : List UInt8) :
    collect (entry (before ++ (items.flatMap format.encode ++ after))) items.length before.length =
      .ok (items.map read, true, (before ++ items.flatMap format.encode).length) := by
  induction items generalizing before with
  | nil => rw [List.flatMap_nil, List.append_nil]; rfl
  | cons x items ih =>
    obtain ⟨hx, hfits⟩ := List.forall_mem_cons.mp hfits
    obtain ⟨hPx, hP⟩ := List.forall_mem_cons.mp hP
    have hentry := h before x (items.flatMap format.encode ++ after) hx hPx
    have hrest := ih hfits hP (before ++ format.encode x)
    rw [List.append_assoc] at hrest
    rw [List.flatMap_cons, List.append_assoc, List.length_cons, MockServer.collect, hentry]
    simp only [bind, Except.bind, hrest, List.append_assoc]
    rfl

theorem reads_fetchPartitionEntry :
    Reads fetchPartitionEntry requestedPartition FetchPartition.partitionId fun _ => True := by
  intro before partition after hfits _
  obtain ⟨hid, hoffset, hmaxBytes⟩ := hfits
  have hencode : requestedPartition.encode partition = ofInt 4 partition.partitionId ++
      (ofInt 8 partition.fetchOffset ++ ofInt 4 partition.maxBytes) := rfl
  rw [List.length_append, hencode]
  generalize hmessage : before ++ (ofInt 4 partition.partitionId ++
      (ofInt 8 partition.fetchOffset ++ ofInt 4 partition.maxBytes) ++ after) = message
  have hlength : message.length = before.length + 16 + after.length := by
    rw [← hmessage]
    simp only [List.length_append, length_ofInt]
    omega
  have hread₁ : readIntAt message 4 before.length = .ok partition.partitionId := by
    refine readIntAt_eq before
      (ofInt 8 partition.fetchOffset ++ ofInt 4 partition.maxBytes ++ after) hid ?_ rfl
    simp only [← hmessage, List.append_assoc]
  have hread₂ : readIntAt message 8 (before.length + 4) = .ok partition.fetchOffset := by
    refine readIntAt_eq (before ++ ofInt 4 partition.partitionId)
      (ofInt 4 partition.maxBytes ++ after) hoffset ?_ ?_
    · simp only [← hmessage, List.append_assoc]
    · rw [List.length_append, length_ofInt]
      rfl
  have hread₃ : readIntAt message 4 (before.length + 4 + 8) = .ok partition.maxBytes := by
    refine readIntAt_eq (before ++ ofInt 4 partition.partitionId ++ ofInt 8 partition.fetchOffset)
      after hmaxBytes ?_ ?_
    · simp only [← hmessage, List.append_assoc]
    · rw [List.length_append, List.length_append, length_ofInt, length_ofInt]
      rfl
  rw [fetchPartitionEntry, if_pos (by omega)]
  simp only [hread₁, hread₂, hread₃, bind, Except.bind]
  rw [if_pos (by omega)]
  simp only [List.length_append, length_ofInt]
  rfl

theorem rounds_length {n cap : Nat} (h : n ≤ cap) : rounds n cap = n := by
  rw [rounds, min_eq_left (Int.ofNat_le.mpr h), Int.toNat_natCast]

/-- A topic as it is read from its encoding. -/
def TopicBlock.asRead {γ : Type} (read : γ → Int) (topic : TopicBlock γ) : TopicRead :=
  ⟨topic.name, topic.partitions.length, topic.partitions.map read, true⟩

theorem reads_topicEntry {γ : Type} {partitionEntry : List UInt8 → Entry Int}
    {partition : WireFormat γ} {read : γ → Int}
    (h : Reads partitionEntry partition read fun _ => True) :
    Reads (fun message => topicEntry message (partitionEntry message)) (topicBlock partition)
      (TopicBlock.asRead read) fun topic => topic.partitions.length ≤ 100 := by
  intro before topic after hfits hcap
  have hname : InRange 2 topic.name.length := hfits.1
  have hcount : InRange 4 topic.partitions.length := hfits.2.1
  have hpartitions : ∀ x ∈ topic.partitions, partition.Fits x := hfits.2.2
  have hencode : (topicBlock partition).encode topic = ofInt 2 topic.name.length ++ (topic.name ++
      (ofInt 4 topic.partitions.length ++ topic.partitions.flatMap partition.encode)) :=
    List.append_assoc _ _ _
  have hcollect := h.collect hpartitions (fun _ _ => trivial)
    (before ++ (ofInt 2 topic.name.length ++ (topic.name ++ ofInt 4 topic.partitions.length))) after
  rw [hencode, List.length_append]
  dsimp only
  simp only [List.append_assoc] at hcollect ⊢
  -- each field is read where the earlier ones end, whatever stands before and after the topic
  generalize hmessage : before ++ (ofInt 2 topic.name.length ++ (topic.name ++
      (ofInt 4 topic.partitions.length ++ (topic.partitions.flatMap partition.encode ++ after)))) =
    message at hcollect ⊢
  have hlength : message.length = before.length + 2 + topic.name.length + 4 +
      (topic.partitions.flatMap partition.encode).length + after.length := by
    rw [← hmessage]
    simp only [List.length_append, length_ofInt]
    omega
  have hread₁ : readIntAt message 2 before.length = .ok topic.name.length :=
    readIntAt_eq before _ hname hmessage.symm rfl
  have hslice : slice message (before.length + 2) (before.length + 2 + topic.name.length) =
      topic.name := by
    have hmiddle := slice_middle (before ++ ofInt 2 topic.name.length) topic.name
      (ofInt 4 topic.partitions.length ++ (topic.partitions.flatMap partition.encode ++ after))
    rwa [List.append_assoc, hmessage, List.length_append, length_ofInt] at hmiddle
  have hread₂ : readIntAt message 4 (before.length + 2 + topic.name.length) =
      .ok topic.partitions.length := by
    refine readIntAt_eq (before ++ ofInt 2 topic.name.length ++ topic.name)
      (topic.partitions.flatMap partition.encode ++ after) hcount ?_ ?_
    · simp only [← hmessage, List.append_assoc]
    · rw [List.length_append, List.length_append, length_ofInt]
      rfl
  -- the response has the number of characters, which are no more than the bytes
  have hdecoded : InRange 2 (Utf8.decode topic.name).length := by
    have hle := Utf8.length_decode_le topic.name
    unfold InRange at hname ⊢
    omega
  rw [topicEntry, if_pos (by omega)]
  simp only [hread₁, hslice, hread₂, bind, Except.bind]
  rw [if_pos (by omega), if_pos (by omega), if_pos hdecoded, rounds_length hcap]
  have hoffset : ((before ++ (ofInt 2 topic.name.length ++ (topic.name ++
      ofInt 4 topic.partitions.length))).length : Int) =
      before.length + 2 + topic.name.length + 4 := by
    simp only [List.length_append, length_ofInt]
    omega
  rw [hoffset] at hcollect
  rw [hcollect]
  simp only [List.length_append, length_ofInt, TopicBlock.asRead]

/-- The handlers read a well-formed fetch request as it was written. -/
theorem readFetch_of_parse {message rest : List UInt8} {request : FetchRequest}
    (hparse : fetchRequest.parse message = some (request, rest)) (hcaps : request.WithinCaps) :
    readFetch message = .ok (some ⟨request.topics.length,
      request.topics.map (TopicBlock.asRead FetchPartition.partitionId), true⟩) := by
  obtain ⟨hfits, hmessage⟩ := fetchRequest.of_parse hparse
  obtain ⟨-, -, -, -, -, -, hcount, htopics⟩ := hfits
  obtain ⟨header, hheader, hmessage⟩ : ∃ header : List UInt8, header.length = 20 ∧
      message = header ++ (ofInt 4 request.topics.length ++
        (request.topics.flatMap (topicBlock requestedPartition).encode ++ rest)) := by
    refine ⟨ofNat 2 request.apiKey ++ ofNat 2 request.apiVersion ++
      ofNat 4 request.correlationId ++ ofInt 4 request.replicaId ++ ofInt 4 request.maxWaitTime ++
      ofInt 4 request.minBytes, ?_, ?_⟩
    · simp only [List.length_append, length_ofNat, length_ofInt]
    · rw [hmessage]
      simp only [fetchRequest, iso, pair, nat, int, array, List.append_assoc]
  have hcollect := (reads_topicEntry reads_fetchPartitionEntry).collect htopics hcaps.2
    (header ++ ofInt 4 request.topics.length) rest
  rw [List.append_assoc, ← hmessage, List.length_append, hheader, length_ofInt] at hcollect
  have hread : readIntAt message 4 20 = .ok request.topics.length :=
    readIntAt_eq header _ hcount hmessage (by rw [hheader]; rfl)
  have hlength : (20 : Int) + 4 ≤ message.length := by
    rw [hmessage, List.length_append, List.length_append, hheader, length_ofInt]
    omega
  have hoffset : (20 : Int) + 4 = (20 + 4 : Nat) := rfl
  rw [readFetch, readTopics, if_pos hlength, hread]
  simp only [bind, Except.bind]
  rw [rounds_length hcaps.1, hoffset, hcollect]

/-- The header of a well-formed fetch request. -/
theorem header_of_parse {message rest : List UInt8} {request : FetchRequest}
    (hparse : fetchRequest.parse message = some (request, rest)) :
    8 ≤ message.length ∧ toNat (message.take 2) = request.apiKey ∧
      toNat ((message.drop 2).take 2) = request.apiVersion ∧
      toNat ((message.drop 4).take 4) = request.correlationId := by
  obtain ⟨⟨hkey, hversion, hid, -⟩, hmessage⟩ := fetchRequest.of_parse hparse
  obtain ⟨body, hmessage⟩ : ∃ body : List UInt8, message = ofNat 2 request.apiKey ++
      (ofNat 2 request.apiVersion ++ (ofNat 4 request.correlationId ++ body)) := by
    simp only [fetchRequest, iso, pair, nat, List.append_assoc] at hmessage
    exact ⟨_, hmessage⟩
  have hdrop : message.drop 2 =
      ofNat 2 request.apiVersion ++ (ofNat 4 request.correlationId ++ body) := by
    rw [hmessage, List.drop_left' length_ofNat]
  have hdrop' : message.drop 4 = ofNat 4 request.correlationId ++ body := by
    rw [← List.drop_drop (i := 2) (j := 2), hdrop, List.drop_left' length_ofNat]
  refine ⟨?_, ?_, ?_, ?_⟩
  · rw [hmessage, List.length_append, List.length_append, List.length_append, length_ofNat,
      length_ofNat, length_ofNat]
    omega
  · rw [hmessage, List.take_left' length_ofNat, toNat_ofNat]
    exact Nat.mod_eq_of_lt hkey
  · rw [hdrop, List.take_left' length_ofNat, toNat_ofNat]
    exact Nat.mod_eq_of_lt hversion
  · rw [hdrop', List.take_left' length_ofNat, toNat_ofNat]
    exact Nat.mod_eq_of_lt hid

end Reading

/-! ### High water marks -/

/-- The partitions of a topic with what is reported for them. -/
def Draft.reported (draft : Draft FetchBlock) : String × List (Int × Int) :=
  (draft.1.topicName, draft.2.map fun block => (block.partitionId, block.highWaterMark))

/-- The requested partitions of a topic with the numbers of their messages. -/
def TopicBlock.counts (storage : Storage) (topic : TopicBlock FetchPartition) :
    String × List (Int × Int) :=
  let topicName := String.ofList (Utf8.decode topic.name)
  (topicName, topic.partitions.map fun partition =>
    (partition.partitionId, (storage.count topicName partition.partitionId : Int)))

/-- What is written reports the numbers of messages. -/
theorem Written.reported {apiVersion : Nat} {storage : Storage} {request : RequestRead}
    {drafts : List (Draft FetchBlock)}
    (h : Written (fetchBlock apiVersion) FetchBlock.partitionId (Reports storage) request drafts)
    {topics : List (TopicBlock FetchPartition)}
    (htopics : request.topics = topics.map (TopicBlock.asRead FetchPartition.partitionId)) :
    drafts.map Draft.reported = topics.map (TopicBlock.counts storage) := by
  let counts (topic : TopicRead) : String × List (Int × Int) := (topic.topicName,
    topic.partitions.map fun id => (id, (storage.count topic.topicName id : Int)))
  calc drafts.map Draft.reported = drafts.map (counts ∘ Prod.fst) := by
        refine List.map_congr_left fun draft hdraft => congrArg (Prod.mk _) ?_
        have hdrafted := h.drafted draft hdraft
        rw [hdrafted.partitions, List.map_map]
        exact List.map_congr_left fun block hblock =>
          congrArg (Prod.mk _) (hdrafted.blocks block hblock)
    _ = request.topics.map counts := by rw [h.topics, List.map_map]
    _ = topics.map (TopicBlock.counts storage) := by
        rw [htopics, List.map_map]
        refine List.map_congr_left fun topic _ => congrArg (Prod.mk _) ?_
        exact List.map_map

/-- A well-formed fetch request is answered with a block for each of its partitions, and each
reports how many messages the partition has. -/
theorem handleKafkaMessage_fetch {storage : Storage} (hstorage : storage.Gapless)
    {message rest : List UInt8} {request : FetchRequest}
    (hparse : fetchRequest.parse message = some (request, rest)) (hkey : request.apiKey = 1)
    (hcaps : request.WithinCaps) :
    ∃ drafts : List (Draft FetchBlock),
      drafts.map Draft.reported = request.topics.map (TopicBlock.counts storage) ∧
      handleKafkaMessage message storage =
        (some (ofNat 4 request.correlationId ++ throttleBytes request.apiVersion ++
          ofInt 4 request.topics.length ++
          drafts.flatMap (draftBytes (fetchBlock request.apiVersion))), storage) := by
  obtain ⟨hlength, hapiKey, hapiVersion, hcorrelationId⟩ := header_of_parse hparse
  have hread := readFetch_of_parse hparse hcaps
  obtain ⟨hafter, hcases⟩ := createFetchResponse_cases request.correlationId request.apiVersion
    message hstorage
  have hhandle : handleKafkaMessage message storage =
      createFetchResponse request.correlationId request.apiVersion message storage := by
    unfold handleKafkaMessage
    simp [hapiKey, hapiVersion, hcorrelationId, hkey, Nat.not_lt.mpr hlength]
  rw [hhandle]
  cases hresponse : (createFetchResponse request.correlationId request.apiVersion message
      storage).1 with
  | none =>
    rw [hresponse] at hcases
    exact absurd hread (hcases _)
  | some bytes =>
    rw [hresponse] at hcases
    obtain ⟨request', drafts, hread', hwritten, rfl⟩ := hcases
    cases hread.symm.trans hread'
    refine ⟨drafts, hwritten.reported rfl, Prod.ext ?_ hafter⟩
    rw [hresponse, topicsBytes, ← List.append_assoc]

/-! ### Main result -/

/-- **Gapless offsets.** After any messages the storage is gapless, further messages leave what
is stored where it is, whatever a fetch request is answered with reports the numbers of
messages, and a well-formed one is answered for each of its partitions. -/
theorem offsets_gapless (before after : List (List UInt8)) :
    (storedAfter before).Gapless ∧
    (storedAfter before).Extends (storedAfter (before ++ after)) ∧
    (∀ correlationId apiVersion message bytes,
      (createFetchResponse correlationId apiVersion message (storedAfter before)).1 = some bytes →
      ∃ request drafts, readFetch message = .ok (some request) ∧
        Written (fetchBlock apiVersion) FetchBlock.partitionId (Reports (storedAfter before))
          request drafts ∧
        bytes = ofNat 4 correlationId ++ throttleBytes apiVersion ++
          topicsBytes (fetchBlock apiVersion) request drafts) ∧
    (∀ message rest request, fetchRequest.parse message = some (request, rest) →
      request.apiKey = 1 → request.WithinCaps →
      ∃ drafts : List (Draft FetchBlock),
        drafts.map Draft.reported =
          request.topics.map (TopicBlock.counts (storedAfter before)) ∧
        handleKafkaMessage message (storedAfter before) =
          (some (ofNat 4 request.correlationId ++ throttleBytes request.apiVersion ++
            ofInt 4 request.topics.length ++
            drafts.flatMap (draftBytes (fetchBlock request.apiVersion))), storedAfter before)) := by
  have hgapless := storedAfter_gapless before
  refine ⟨hgapless, storedAfter_extends before after, ?_, ?_⟩
  · intro correlationId apiVersion message bytes hbytes
    obtain ⟨-, hcases⟩ := createFetchResponse_cases correlationId apiVersion message hgapless
    rwa [hbytes] at hcases
  · intro message rest request hparse hkey hcaps
    exact handleKafkaMessage_fetch hgapless hparse hkey hcaps

/-- A produce request with one record for partition 0 of the topic `a`. -/
def storeRecord : List UInt8 :=
  ofNat 2 0 ++ ofNat 2 0 ++ ofNat 4 1 ++ ofInt 2 1 ++ ofInt 4 1000 ++ ofInt 4 1 ++ ofInt 2 1 ++
    [0x61] ++ ofInt 4 1 ++ ofInt 4 0 ++ ofInt 4 1 ++ ofInt 8 0 ++ ofInt 4 2 ++ [0x01, 0x02]

/-- A fetch request for the partitions 0 and 1 of that topic. -/
def fetchRecord : FetchRequest :=
  ⟨1, 5, 7, -1, 500, 1, [⟨[0x61], [⟨0, 0, 1024⟩, ⟨1, 0, 1024⟩]⟩]⟩

theorem offsets_gapless_storeRecord :
    ∃ drafts : List (Draft FetchBlock), drafts.map Draft.reported = [("a", [(0, 2), (1, 0)])] ∧
      handleKafkaMessage (fetchRequest.encode fetchRecord)
          (storedAfter [storeRecord, storeRecord]) =
        (some (ofNat 4 7 ++ throttleBytes 5 ++ ofInt 4 1 ++
          drafts.flatMap (draftBytes (fetchBlock 5))), storedAfter [storeRecord, storeRecord]) := by
  have hparse : fetchRequest.parse (fetchRequest.encode fetchRecord) = some (fetchRecord, []) := by
    decide +kernel
  have hcounts : fetchRecord.topics.map
      (TopicBlock.counts (storedAfter [storeRecord, storeRecord])) = [("a", [(0, 2), (1, 0)])] := by
    decide +kernel
  obtain ⟨drafts, hreported, hhandle⟩ := (offsets_gapless [storeRecord, storeRecord] []).2.2.2
    (fetchRequest.encode fetchRecord) [] fetchRecord hparse rfl ⟨by decide, by decide⟩
  exact ⟨drafts, hreported.trans hcounts, hhandle⟩

end Ros2Dispatcher.MockServer
