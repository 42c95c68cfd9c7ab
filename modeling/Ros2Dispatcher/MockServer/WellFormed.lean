import Ros2Dispatcher.MockServer.Responses

/-!
# Which responses are well formed

A response is well formed if it parses completely under the layout of its version, and into the
blocks that were written: those of the request as it was read, or none in the simple success
response. The handlers write the counts of a request before they know what is behind them, and
the number of characters of a name in front of its bytes. So a response is well formed exactly
if the request is `Regular`: the counts are at most the caps and those of what is there, and
the names are ASCII (`responses_wellFormed_iff`).
-/

namespace Ros2Dispatcher.MockServer

open BigEndian Fallible WireFormat

variable {β : Type} {partition : WireFormat β} {id : β → Int} {Φ : String → β → Prop}
  {request : RequestRead} {drafts : List (Draft β)}

/-! ### Outlines -/

/-- The name and the partitions of a block. -/
def TopicBlock.outline (id : β → Int) (topic : TopicBlock β) : List UInt8 × List Int :=
  (topic.name, topic.partitions.map id)

/-- The name as it is written, and the partitions that are answered. -/
def TopicRead.outline (topic : TopicRead) : List UInt8 × List Int :=
  (Utf8.encode (Utf8.decode topic.name), topic.partitions)

/-- The block a draft stands for. -/
def Draft.block (draft : Draft β) : TopicBlock β :=
  ⟨Utf8.encode (Utf8.decode draft.1.name), draft.2⟩

/-! ### Drafts as blocks -/

/-- A draft is the encoding of its block if name and count match what comes behind them. -/
theorem Drafted.encode_block {draft : Draft β} (h : Drafted partition id Φ draft)
    (hmatches : draft.1.Matches) :
    (topicBlock partition).Fits draft.block ∧
      draftBytes partition draft = (topicBlock partition).encode draft.block := by
  obtain ⟨hname, hcount⟩ := hmatches
  have hlength : draft.1.partitions.length = draft.2.length := by
    rw [h.partitions, List.length_map]
  rw [hlength] at hcount
  have hname' := h.nameLength
  have hcount' := h.partitionCount
  rw [hname] at hname'
  rw [hcount] at hcount'
  refine ⟨⟨hname', hcount', h.fits⟩, ?_⟩
  rw [draftBytes, hname, hcount, List.append_assoc]
  rfl

/-- Where a draft is followed by bytes that begin as a block with the outline of the draft, name
and count match what comes behind them. -/
theorem Drafted.matches_of_eq {draft : Draft β} {topic : TopicBlock β} {rest rest' : List UInt8}
    (h : Drafted partition id Φ draft) (hfits : (topicBlock partition).Fits topic)
    (houtline : topic.outline id = draft.1.outline)
    (heq : draftBytes partition draft ++ rest = (topicBlock partition).encode topic ++ rest') :
    draft.1.Matches ∧ rest = rest' := by
  obtain ⟨hname, hpartitions⟩ := Prod.ext_iff.mp houtline
  have hname : topic.name = Utf8.encode (Utf8.decode draft.1.name) := hname
  have hpartitions : topic.partitions.map id = draft.1.partitions := hpartitions
  have hlength : draft.1.partitions.length = topic.partitions.length := by
    rw [← hpartitions, List.length_map]
  have hblocks : draft.2.length = topic.partitions.length := by
    rw [← hlength, h.partitions, List.length_map]
  have heq : (int 2).encode (Utf8.decode draft.1.name).length ++ (Utf8.encode (Utf8.decode
      draft.1.name) ++ ((int 4).encode draft.1.partitionCount ++
        (draft.2.flatMap partition.encode ++ rest))) =
      (int 2).encode topic.name.length ++ (topic.name ++ ((int 4).encode topic.partitions.length ++
        (topic.partitions.flatMap partition.encode ++ rest'))) := by
    simpa only [draftBytes, topicBlock, iso, pair, string, array, int, List.append_assoc] using heq
  have hnameFits : InRange 2 topic.name.length := hfits.1
  obtain ⟨hnameLength, heq⟩ := (int 2).encode_append_inj h.nameLength hnameFits heq
  rw [hname] at heq hnameLength
  obtain ⟨hcount, heq⟩ := (int 4).encode_append_inj h.partitionCount hfits.2.1
    (List.append_cancel_left heq)
  exact ⟨⟨Int.ofNat_inj.mp hnameLength, hcount.trans (congrArg Int.ofNat hlength.symm)⟩,
    (flatMap_append_inj hblocks h.fits hfits.2.2 heq).2⟩

/-- What is written for the topics is the encoding of their blocks if all counts match. -/
theorem Written.encode_topics (h : Written partition id Φ request drafts)
    (hcount : request.topicCount = request.topics.length)
    (hmatches : ∀ topic ∈ request.topics, topic.Matches) :
    (array 4 (topicBlock partition)).Fits (drafts.map Draft.block) ∧
      topicsBytes partition request drafts =
        (array 4 (topicBlock partition)).encode (drafts.map Draft.block) := by
  have hlength : request.topicCount = (drafts.map Draft.block).length := by
    rw [hcount, h.topics, List.length_map, List.length_map]
  have hdraft : ∀ draft ∈ drafts, (topicBlock partition).Fits draft.block ∧
      draftBytes partition draft = (topicBlock partition).encode draft.block := fun draft hdraft =>
    (h.drafted draft hdraft).encode_block
      (hmatches draft.1 (h.topics ▸ List.mem_map_of_mem hdraft))
  refine ⟨⟨hlength ▸ h.topicCount, List.forall_mem_map.mpr fun draft hmem =>
    (hdraft draft hmem).1⟩, ?_⟩
  rw [topicsBytes, hlength]
  refine congrArg (ofInt 4 _ ++ ·) ?_
  rw [List.flatMap_map]
  exact List.flatMap_congr fun draft hmem => (hdraft draft hmem).2

/-- Where drafts are followed by bytes that begin as blocks with their outlines, all names and
counts match what comes behind them. -/
theorem matches_of_flatMap_eq (hdrafts : ∀ draft ∈ drafts, Drafted partition id Φ draft)
    {topics : List (TopicBlock β)} {rest rest' : List UInt8}
    (hfits : ∀ topic ∈ topics, (topicBlock partition).Fits topic)
    (houtline : topics.map (TopicBlock.outline id) = drafts.map (·.1.outline))
    (heq : drafts.flatMap (draftBytes partition) ++ rest =
      topics.flatMap (topicBlock partition).encode ++ rest') :
    ∀ draft ∈ drafts, draft.1.Matches := by
  induction drafts generalizing topics with
  | nil => exact nofun
  | cons draft drafts ih =>
    obtain ⟨hdraft, hdrafts⟩ := List.forall_mem_cons.mp hdrafts
    cases topics with
    | nil => cases houtline
    | cons topic topics =>
      obtain ⟨htopic, htopics⟩ := List.forall_mem_cons.mp hfits
      obtain ⟨hfirst, hothers⟩ := List.cons.inj houtline
      rw [List.flatMap_cons, List.flatMap_cons, List.append_assoc, List.append_assoc] at heq
      obtain ⟨hmatches, heq⟩ := hdraft.matches_of_eq htopic hfirst heq
      exact List.forall_mem_cons.mpr ⟨hmatches, ih hdrafts htopics hothers heq⟩

/-- The counts match if what is written for the topics begins as blocks with their outlines. -/
theorem Written.matches_of_eq (h : Written partition id Φ request drafts)
    {topics : List (TopicBlock β)} {rest rest' : List UInt8}
    (hfits : (array 4 (topicBlock partition)).Fits topics)
    (houtline : topics.map (TopicBlock.outline id) = request.topics.map TopicRead.outline)
    (heq : topicsBytes partition request drafts ++ rest =
      (array 4 (topicBlock partition)).encode topics ++ rest') :
    request.topicCount = request.topics.length ∧ ∀ topic ∈ request.topics, topic.Matches := by
  have hlength : topics.length = request.topics.length := by
    rw [← List.length_map, houtline, List.length_map]
  rw [topicsBytes, List.append_assoc] at heq
  have heq : (int 4).encode request.topicCount ++ (drafts.flatMap (draftBytes partition) ++ rest) =
      (int 4).encode topics.length ++ (topics.flatMap (topicBlock partition).encode ++ rest') :=
    heq.trans (List.append_assoc _ _ _)
  obtain ⟨hcount, heq⟩ := (int 4).encode_append_inj h.topicCount hfits.1 heq
  refine ⟨hcount.trans (congrArg Int.ofNat hlength), ?_⟩
  rw [h.topics, List.map_map] at houtline
  rw [h.topics]
  exact List.forall_mem_map.mpr (matches_of_flatMap_eq h.drafted hfits.2 houtline heq)

/-! ### Responses -/

/-- The names and partitions of a response. -/
def Answer.outline (id : β → Int) (answer : Answer β) : List (List UInt8 × List Int) :=
  answer.topics.map (TopicBlock.outline id)

/-- The names and partitions that are written for a request. -/
def RequestRead.outline (request : RequestRead) : List (List UInt8 × List Int) :=
  request.topics.map TopicRead.outline

/-- Whatever is stored, the response to a produce request parses completely, as the simple
success response or into the blocks of the request. -/
def ProduceWellFormed (correlationId apiVersion : Nat) (message : List UInt8) : Prop :=
  ∀ storage, storage.Gapless →
    ∀ bytes, (createProduceResponse correlationId apiVersion message storage).1 = some bytes →
      ∃ answer, (produceAnswer apiVersion).parse bytes = some (answer, []) ∧
        (bytes = fallbackResponse correlationId apiVersion ∨
          ∃ request, readProduce apiVersion message = .ok (some request) ∧
            answer.outline ProduceBlock.partitionId = request.outline)

/-- Whatever is stored, the response to a fetch request parses completely into the blocks of
the request. -/
def FetchWellFormed (correlationId apiVersion : Nat) (message : List UInt8) : Prop :=
  ∀ storage, storage.Gapless →
    ∀ bytes, (createFetchResponse correlationId apiVersion message storage).1 = some bytes →
      ∃ answer, (fetchAnswer apiVersion).parse bytes = some (answer, []) ∧
        ∃ request, readFetch message = .ok (some request) ∧
          answer.outline FetchBlock.partitionId = request.outline

section Responses

variable {correlationId apiVersion : Nat} {message : List UInt8} {storage : Storage}

theorem storing_self {k : Nat} (h : storage.Gapless) : Storing storage False k storage :=
  ⟨h, Storage.Extends.refl storage, nofun⟩

/-- An empty storage has room for all that a request can store. -/
theorem storing_empty : Storing {} True (100 * (100 * 1000)) {} := by
  refine ⟨Storage.gapless_empty, Storage.Extends.refl _, fun _ topicName partitionId => ?_⟩
  have hcount : Storage.count {} topicName partitionId = 0 := rfl
  rw [hcount, maxsize]
  omega

theorem fits_correlationId (h : correlationId < 2 ^ 32) : (nat 4).Fits correlationId := by
  change correlationId < 256 ^ 4
  omega

/-- The throttle time of a response. -/
def throttleTime (apiVersion : Nat) : Option Int :=
  if 1 ≤ apiVersion then some 0 else none

theorem fits_throttleTime :
    (optional (1 ≤ apiVersion) (int 4)).Fits (throttleTime apiVersion) :=
  fits_optional inRange_zero

theorem parse_fallbackResponse (h : correlationId < 2 ^ 32) :
    (produceAnswer apiVersion).parse (fallbackResponse correlationId apiVersion) =
      some (⟨correlationId, throttleTime apiVersion, []⟩, []) := by
  have hencode : fallbackResponse correlationId apiVersion =
      (produceAnswer apiVersion).encode ⟨correlationId, throttleTime apiVersion, []⟩ := by
    rw [fallbackResponse, List.append_assoc]
    refine congrArg (ofNat 4 correlationId ++ ·) (congrArg (ofInt 4 0 ++ ·) ?_)
    unfold throttleTime
    split <;> rfl
  rw [hencode]
  exact (produceAnswer apiVersion).parse_encode_nil
    ⟨fits_correlationId h, ⟨inRange_zero, nofun⟩, fits_throttleTime⟩

/-- Blocks that stand for drafts have their outlines. -/
theorem Written.outline (h : Written partition id Φ request drafts) :
    (drafts.map Draft.block).map (TopicBlock.outline id) = request.outline := by
  rw [RequestRead.outline, h.topics, List.map_map, List.map_map]
  refine List.map_congr_left fun draft hdraft => ?_
  exact congrArg (Prod.mk _) (h.drafted draft hdraft).partitions.symm

/-- What is written for a regular produce request is the encoding of an answer. -/
theorem Written.encode_produceAnswer {drafts : List (Draft ProduceBlock)}
    {id : ProduceBlock → Int} {Φ : String → ProduceBlock → Prop} (hid : correlationId < 2 ^ 32)
    (h : Written (produceBlock apiVersion) id Φ request drafts)
    (hcount : request.topicCount = request.topics.length)
    (hmatches : ∀ topic ∈ request.topics, topic.Matches) :
    (produceAnswer apiVersion).parse (ofNat 4 correlationId ++
        topicsBytes (produceBlock apiVersion) request drafts ++ throttleBytes apiVersion) =
      some (⟨correlationId, throttleTime apiVersion, drafts.map Draft.block⟩, []) := by
  obtain ⟨hfits, hencode⟩ := h.encode_topics hcount hmatches
  have hfits : (produceAnswer apiVersion).Fits
      ⟨correlationId, throttleTime apiVersion, drafts.map Draft.block⟩ :=
    ⟨fits_correlationId hid, hfits, fits_throttleTime⟩
  rw [hencode, List.append_assoc, ← (produceAnswer apiVersion).parse_encode_nil hfits]
  rfl

/-- A response that parses into the blocks of its request matches it. -/
theorem Written.matches_of_parse_produceAnswer {drafts : List (Draft ProduceBlock)}
    {id : ProduceBlock → Int} {Φ : String → ProduceBlock → Prop} (hid : correlationId < 2 ^ 32)
    (h : Written (produceBlock apiVersion) id Φ request drafts) {answer : Answer ProduceBlock}
    (hparse : (produceAnswer apiVersion).parse (ofNat 4 correlationId ++
        topicsBytes (produceBlock apiVersion) request drafts ++ throttleBytes apiVersion) =
      some (answer, []))
    (houtline : answer.outline id = request.outline) :
    request.topicCount = request.topics.length ∧ ∀ topic ∈ request.topics, topic.Matches := by
  obtain ⟨hfits, hencode⟩ := (produceAnswer apiVersion).of_parse hparse
  rw [List.append_nil, List.append_assoc] at hencode
  obtain ⟨-, htopics⟩ := (nat 4).encode_append_inj (fits_correlationId hid) hfits.1 hencode
  exact h.matches_of_eq hfits.2.1 houtline htopics

/-- The simple success response has no topics. -/
theorem Written.outline_of_fallback {drafts : List (Draft ProduceBlock)}
    {id : ProduceBlock → Int} {Φ : String → ProduceBlock → Prop}
    (h : Written (produceBlock apiVersion) id Φ request drafts)
    (hlength : request.topics.length ≤ rounds request.topicCount 100)
    (hfallback : ofNat 4 correlationId ++ topicsBytes (produceBlock apiVersion) request drafts ++
      throttleBytes apiVersion = fallbackResponse correlationId apiVersion) :
    request.outline = [] := by
  rw [fallbackResponse, List.append_assoc, List.append_assoc, topicsBytes, List.append_assoc]
    at hfallback
  obtain ⟨hcount, -⟩ := (int 4).encode_append_inj h.topicCount inRange_zero
    (List.append_cancel_left hfallback)
  rw [hcount] at hlength
  rw [RequestRead.outline, List.eq_nil_of_length_eq_zero (Nat.le_zero.mp hlength)]
  rfl

theorem produceWellFormed_iff (hid : correlationId < 2 ^ 32) :
    ProduceWellFormed correlationId apiVersion message ↔
      ∀ request, readProduce apiVersion message = .ok (some request) → request.Regular := by
  constructor
  · intro hwell request hrequest
    obtain ⟨offset, -, htopics⟩ := bind_eq_ok_iff.mp hrequest
    have hcases := createProduceResponse_cases correlationId apiVersion message storing_empty
    have hwell := hwell {} Storage.gapless_empty
    cases hresponse : (createProduceResponse correlationId apiVersion message {}).1 with
    | none =>
      rw [hresponse] at hcases
      cases hrequest.symm.trans hcases
    | some bytes =>
      rw [hresponse] at hcases
      obtain ⟨answer, hparse, houtline⟩ := hwell bytes hresponse
      obtain ⟨-, ⟨fault, hfault⟩ | hroom⟩ | ⟨request', drafts, hrequest', hwritten, rfl⟩ := hcases
      · cases hrequest.symm.trans hfault
      · exact absurd trivial hroom
      · cases hrequest.symm.trans hrequest'
        refine (RequestRead.regular_iff htopics).mpr
          (hwritten.matches_of_parse_produceAnswer hid hparse ?_)
        obtain hfallback | ⟨request', hrequest', houtline⟩ := houtline
        · rw [hfallback, parse_fallbackResponse hid] at hparse
          cases hparse
          exact (hwritten.outline_of_fallback (readTopics_length_le htopics) hfallback).symm
        · cases hrequest.symm.trans hrequest'
          exact houtline
  · intro hregular storage hstorage bytes hbytes
    have hcases := createProduceResponse_cases correlationId apiVersion message
      (storing_self hstorage)
    rw [hbytes] at hcases
    obtain ⟨hfallback, -⟩ | ⟨request, drafts, hrequest, hwritten, rfl⟩ := hcases
    · rw [hfallback]
      exact ⟨_, parse_fallbackResponse hid, .inl rfl⟩
    · obtain ⟨offset, -, htopics⟩ := bind_eq_ok_iff.mp hrequest
      obtain ⟨hcount, hmatches⟩ := (RequestRead.regular_iff htopics).mp (hregular _ hrequest)
      exact ⟨_, hwritten.encode_produceAnswer hid hcount hmatches,
        .inr ⟨request, hrequest, hwritten.outline⟩⟩

/-- What is written for a regular fetch request is the encoding of an answer. -/
theorem Written.encode_fetchAnswer {drafts : List (Draft FetchBlock)}
    {id : FetchBlock → Int} {Φ : String → FetchBlock → Prop} (hid : correlationId < 2 ^ 32)
    (h : Written (fetchBlock apiVersion) id Φ request drafts)
    (hcount : request.topicCount = request.topics.length)
    (hmatches : ∀ topic ∈ request.topics, topic.Matches) :
    (fetchAnswer apiVersion).parse (ofNat 4 correlationId ++ throttleBytes apiVersion ++
        topicsBytes (fetchBlock apiVersion) request drafts) =
      some (⟨correlationId, throttleTime apiVersion, drafts.map Draft.block⟩, []) := by
  obtain ⟨hfits, hencode⟩ := h.encode_topics hcount hmatches
  have hfits : (fetchAnswer apiVersion).Fits
      ⟨correlationId, throttleTime apiVersion, drafts.map Draft.block⟩ :=
    ⟨fits_correlationId hid, fits_throttleTime, hfits⟩
  rw [hencode, List.append_assoc, ← (fetchAnswer apiVersion).parse_encode_nil hfits]
  rfl

/-- A response that parses into the blocks of its request matches it. -/
theorem Written.matches_of_parse_fetchAnswer {drafts : List (Draft FetchBlock)}
    {id : FetchBlock → Int} {Φ : String → FetchBlock → Prop} (hid : correlationId < 2 ^ 32)
    (h : Written (fetchBlock apiVersion) id Φ request drafts) {answer : Answer FetchBlock}
    (hparse : (fetchAnswer apiVersion).parse (ofNat 4 correlationId ++ throttleBytes apiVersion ++
        topicsBytes (fetchBlock apiVersion) request drafts) = some (answer, []))
    (houtline : answer.outline id = request.outline) :
    request.topicCount = request.topics.length ∧ ∀ topic ∈ request.topics, topic.Matches := by
  obtain ⟨hfits, hencode⟩ := (fetchAnswer apiVersion).of_parse hparse
  rw [List.append_nil, List.append_assoc] at hencode
  obtain ⟨-, hencode⟩ := (nat 4).encode_append_inj (fits_correlationId hid) hfits.1 hencode
  obtain ⟨-, htopics⟩ := (optional (1 ≤ apiVersion) (int 4)).encode_append_inj fits_throttleTime
    hfits.2.1 hencode
  exact h.matches_of_eq hfits.2.2 houtline (congrArg (· ++ []) htopics)

theorem fetchWellFormed_iff (hid : correlationId < 2 ^ 32) :
    FetchWellFormed correlationId apiVersion message ↔
      ∀ request, readFetch message = .ok (some request) → request.Regular := by
  constructor
  · intro hwell request hrequest
    obtain ⟨-, hcases⟩ := createFetchResponse_cases correlationId apiVersion message
      Storage.gapless_empty
    cases hresponse : (createFetchResponse correlationId apiVersion message {}).1 with
    | none =>
      rw [hresponse] at hcases
      exact absurd hrequest (hcases request)
    | some bytes =>
      rw [hresponse] at hcases
      obtain ⟨request', drafts, hrequest', hwritten, rfl⟩ := hcases
      cases hrequest.symm.trans hrequest'
      obtain ⟨answer, hparse, request', hrequest', houtline⟩ :=
        hwell {} Storage.gapless_empty _ hresponse
      cases hrequest.symm.trans hrequest'
      exact (RequestRead.regular_iff hrequest).mpr
        (hwritten.matches_of_parse_fetchAnswer hid hparse houtline)
  · intro hregular storage hstorage bytes hbytes
    obtain ⟨-, hcases⟩ := createFetchResponse_cases correlationId apiVersion message hstorage
    rw [hbytes] at hcases
    obtain ⟨request, drafts, hrequest, hwritten, rfl⟩ := hcases
    obtain ⟨hcount, hmatches⟩ := (RequestRead.regular_iff hrequest).mp (hregular _ hrequest)
    exact ⟨_, hwritten.encode_fetchAnswer hid hcount hmatches, request, hrequest,
      hwritten.outline⟩

end Responses

/-- **Well-formed responses.** The responses to a message are well formed exactly if the message
is regular wherever it can be read as a request. -/
theorem responses_wellFormed_iff {correlationId : Nat} (hid : correlationId < 2 ^ 32)
    (apiVersion : Nat) (message : List UInt8) :
    (ProduceWellFormed correlationId apiVersion message ↔
      ∀ request, readProduce apiVersion message = .ok (some request) → request.Regular) ∧
    (FetchWellFormed correlationId apiVersion message ↔
      ∀ request, readFetch message = .ok (some request) → request.Regular) :=
  ⟨produceWellFormed_iff hid, fetchWellFormed_iff hid⟩

/-- A produce request for partition 0 of a topic, without records. -/
def produceRequest (name : List UInt8) : List UInt8 :=
  ofNat 2 0 ++ ofNat 2 0 ++ ofNat 4 1 ++ ofInt 2 1 ++ ofInt 4 1000 ++ ofInt 4 1 ++
    ofInt 2 name.length ++ name ++ ofInt 4 1 ++ ofInt 4 0 ++ ofInt 4 0

/-- A fetch request for a number of topics that ends behind the first. -/
def fetchRequestFor (topicCount : Int) : List UInt8 :=
  ofNat 2 1 ++ ofNat 2 0 ++ ofNat 4 1 ++ ofInt 4 (-1) ++ ofInt 4 500 ++ ofInt 4 1 ++
    ofInt 4 topicCount ++ ofInt 2 1 ++ [0x61] ++ ofInt 4 1 ++ ofInt 4 0 ++ ofInt 8 0 ++ ofInt 4 1024

theorem responses_wellFormed_regular :
    ProduceWellFormed 1 0 (produceRequest [0x61]) ∧ FetchWellFormed 1 0 (fetchRequestFor 1) := by
  have hproduce : readProduce 0 (produceRequest [0x61]) =
      .ok (some ⟨1, [⟨[0x61], 1, [0], true⟩], true⟩) := by decide +kernel
  have hfetch : readFetch (fetchRequestFor 1) =
      .ok (some ⟨1, [⟨[0x61], 1, [0], true⟩], true⟩) := by decide +kernel
  have hregular : RequestRead.Regular ⟨1, [⟨[0x61], 1, [0], true⟩], true⟩ := by
    simp [RequestRead.Regular, TopicRead.Regular]
  constructor
  · refine (responses_wellFormed_iff (by decide) 0 (produceRequest [0x61])).1.mpr ?_
    intro request hrequest
    cases hproduce.symm.trans hrequest
    exact hregular
  · refine (responses_wellFormed_iff (by decide) 0 (fetchRequestFor 1)).2.mpr ?_
    intro request hrequest
    cases hfetch.symm.trans hrequest
    exact hregular

/-- The name `é` has one character and two bytes, and of two topics one is there. -/
theorem responses_not_wellFormed :
    ¬ProduceWellFormed 1 0 (produceRequest [0xc3, 0xa9]) ∧
      ¬FetchWellFormed 1 0 (fetchRequestFor 2) := by
  constructor
  · intro h
    have hresponse : (createProduceResponse 1 0 (produceRequest [0xc3, 0xa9]) {}).1 =
        some (ofNat 4 1 ++ ofInt 4 1 ++ ofInt 2 1 ++ [0xc3, 0xa9] ++ ofInt 4 1 ++ ofInt 4 0 ++
          ofInt 2 0 ++ ofInt 8 0) := by decide +kernel
    obtain ⟨answer, hparse, -⟩ := h {} Storage.gapless_empty _ hresponse
    have hnone : (produceAnswer 0).parse (ofNat 4 1 ++ ofInt 4 1 ++ ofInt 2 1 ++ [0xc3, 0xa9] ++
        ofInt 4 1 ++ ofInt 4 0 ++ ofInt 2 0 ++ ofInt 8 0) = none := by decide +kernel
    cases hnone.symm.trans hparse
  · intro h
    have hresponse : (createFetchResponse 1 0 (fetchRequestFor 2) {}).1 =
        some (ofNat 4 1 ++ ofInt 4 2 ++ ofInt 2 1 ++ [0x61] ++ ofInt 4 1 ++ ofInt 4 0 ++
          ofInt 2 0 ++ ofInt 8 0 ++ ofInt 4 0) := by decide +kernel
    obtain ⟨answer, hparse, -⟩ := h {} Storage.gapless_empty _ hresponse
    have hnone : (fetchAnswer 0).parse (ofNat 4 1 ++ ofInt 4 2 ++ ofInt 2 1 ++ [0x61] ++
        ofInt 4 1 ++ ofInt 4 0 ++ ofInt 2 0 ++ ofInt 8 0 ++ ofInt 4 0) = none := by decide +kernel
    cases hnone.symm.trans hparse

end Ros2Dispatcher.MockServer
