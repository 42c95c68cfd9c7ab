import Ros2Dispatcher.Library.Fallible
import Ros2Dispatcher.MockServer.Server

/-!
# Reading requests

What the handlers read does not depend on what is stored. An `Entry` reads one entry of a
request at an offset: it finds one (`some`), finds the request cut short (`none`, where the
handlers break) or raises. `collect` reads as many entries as a count says. `recordEntry`,
`producePartitionEntry`, `fetchPartitionEntry` and `topicEntry` read as the handlers do, and so
do `readProduce` and `readFetch` with whole requests.

A round of a loop `Follows` an entry if it ends at the entry's offset, breaks where there is no
entry, and appends the bytes of what it answers; then the loop follows `collect` (`wp_loop`).
-/

namespace Ros2Dispatcher.MockServer

open BigEndian Fallible Procedure

/-! ### Entries -/

/-- One entry at an offset, and the offset after it. -/
abbrev Entry (α : Type) :=
  Int → Except Fault (Option α × Int)

variable {α β : Type}

/-- Up to `n` entries, whether there are as many, and the offset after them. -/
def collect (entry : Entry α) : Nat → Int → Except Fault (List α × Bool × Int)
  | 0, offset => .ok ([], true, offset)
  | n + 1, offset => do
    let (found, offset) ← entry offset
    match found with
    | none => .ok ([], false, offset)
    | some x => do
      let (xs, complete, offset) ← collect entry n offset
      .ok (x :: xs, complete, offset)

theorem rounds_le {count : Int} {cap : Nat} : rounds count cap ≤ cap :=
  Int.toNat_le.mpr (min_le_right _ _)

theorem collect_length {entry : Entry α} {n : Nat} {offset offset' : Int} {xs : List α}
    {complete : Bool} (h : collect entry n offset = .ok (xs, complete, offset')) :
    xs.length ≤ n ∧ (complete = true ↔ xs.length = n) := by
  induction n generalizing offset xs with
  | zero =>
    cases h
    exact ⟨Nat.le_refl 0, by simp⟩
  | succ n ih =>
    obtain ⟨⟨found, offset₁⟩, -, h⟩ := bind_eq_ok_iff.mp h
    cases found with
    | none =>
      cases h
      exact ⟨Nat.zero_le _, by simp⟩
    | some x =>
      obtain ⟨⟨xs, complete, offset₂⟩, hrest, h⟩ := bind_eq_ok_iff.mp h
      cases h
      obtain ⟨hle, hcomplete⟩ := ih hrest
      exact ⟨Nat.succ_le_succ hle, by rw [hcomplete, List.length_cons, Nat.add_right_cancel_iff]⟩

/-- Up to a cap, there are as many entries as a count says exactly if none is missing. -/
theorem collect_count {entry : Entry α} {count : Int} {cap : Nat} {offset offset' : Int}
    {xs : List α} {complete : Bool}
    (h : collect entry (rounds count cap) offset = .ok (xs, complete, offset')) :
    count = xs.length ↔ (0 ≤ count ∧ count ≤ cap) ∧ complete = true := by
  obtain ⟨hle, hcomplete⟩ := collect_length h
  unfold rounds at hle hcomplete
  rw [hcomplete]
  omega

/-- Each of the entries was read somewhere. -/
theorem collect_mem {entry : Entry α} {n : Nat} {offset offset' : Int} {xs : List α}
    {complete : Bool} (h : collect entry n offset = .ok (xs, complete, offset')) :
    ∀ x ∈ xs, ∃ before after, entry before = .ok (some x, after) := by
  induction n generalizing offset xs with
  | zero =>
    cases h
    exact nofun
  | succ n ih =>
    obtain ⟨⟨found, offset₁⟩, hfound, h⟩ := bind_eq_ok_iff.mp h
    cases found with
    | none =>
      cases h
      exact nofun
    | some x =>
      obtain ⟨⟨xs, complete, offset₂⟩, hrest, h⟩ := bind_eq_ok_iff.mp h
      cases h
      exact List.forall_mem_cons.mpr ⟨⟨offset, offset₁, hfound⟩, ih hrest⟩

/-! ### What the handlers read -/

/-- The signed integer of `width` bytes at an offset. -/
def readIntAt (message : List UInt8) (width : Nat) (offset : Int) : Except Fault Int :=
  if (slice message offset (offset + width)).length = width then
    .ok (toInt (slice message offset (offset + width)))
  else .error .structError

/-- A record batch. -/
def recordEntry (message : List UInt8) : Entry Unit := fun offset =>
  if offset + 8 ≤ message.length then do
    let _batchOffset ← readIntAt message 8 offset
    let offset := offset + 8
    if offset + 4 ≤ message.length then do
      let batchSize ← readIntAt message 4 offset
      let offset := offset + 4
      if offset + batchSize ≤ message.length then .ok (some (), offset + batchSize)
      else .ok (none, offset)
    else .ok (none, offset)
  else .ok (none, offset)

/-- A partition of a produce request with its record batches, of which some may be missing. -/
def producePartitionEntry (message : List UInt8) : Entry Int := fun offset =>
  if offset + 4 ≤ message.length then do
    let partitionId ← readIntAt message 4 offset
    let offset := offset + 4
    if offset + 4 ≤ message.length then do
      let recordCount ← readIntAt message 4 offset
      let (_, _, offset) ← collect (recordEntry message) (rounds recordCount 1000) (offset + 4)
      .ok (some partitionId, offset)
    else .ok (none, offset)
  else .ok (none, offset)

/-- A partition of a fetch request. -/
def fetchPartitionEntry (message : List UInt8) : Entry Int := fun offset =>
  if offset + 8 ≤ message.length then do
    let partitionId ← readIntAt message 4 offset
    let offset := offset + 4
    let _fetchOffset ← readIntAt message 8 offset
    let offset := offset + 8
    if offset + 4 ≤ message.length then do
      let _maxBytes ← readIntAt message 4 offset
      .ok (some partitionId, offset + 4)
    else .ok (none, offset)
  else .ok (none, offset)

/-- A topic of a request as it is read: its name, the partition count, the partitions found, and
whether there are as many as the count says, up to the cap. -/
structure TopicRead where
  name : List UInt8
  partitionCount : Int
  partitions : List Int
  complete : Bool
deriving DecidableEq, Repr

/-- The topic a name stands for. -/
def TopicRead.topicName (topic : TopicRead) : String :=
  String.ofList (Utf8.decode topic.name)

/-- A topic. Its decoded name is packed with its length before the partitions are read. -/
def topicEntry (message : List UInt8) (partitionEntry : Entry Int) : Entry TopicRead :=
  fun offset =>
  if offset + 2 ≤ message.length then do
    let topicNameLen ← readIntAt message 2 offset
    let offset := offset + 2
    if offset + topicNameLen ≤ message.length then do
      let name := slice message offset (offset + topicNameLen)
      let offset := offset + topicNameLen
      if offset + 4 ≤ message.length then do
        let partitionCount ← readIntAt message 4 offset
        if InRange 2 (Utf8.decode name).length then do
          let (partitions, complete, offset) ←
            collect partitionEntry (rounds partitionCount 100) (offset + 4)
          .ok (some ⟨name, partitionCount, partitions, complete⟩, offset)
        else .error .structError
      else .ok (none, offset)
    else .ok (none, offset)
  else .ok (none, offset)

/-- The topics of a request as they are read. -/
structure RequestRead where
  topicCount : Int
  topics : List TopicRead
  complete : Bool
deriving DecidableEq, Repr

/-- The topics of a request from the topic count on; none if that is not there. -/
def readTopics (message : List UInt8) (partitionEntry : Entry Int) (offset : Int) :
    Except Fault (Option RequestRead) :=
  if offset + 4 ≤ message.length then do
    let topicCount ← readIntAt message 4 offset
    let (topics, complete, _) ←
      collect (topicEntry message partitionEntry) (rounds topicCount 100) (offset + 4)
    .ok (some ⟨topicCount, topics, complete⟩)
  else .ok none

/-- Where the topic count of a produce request stands. -/
def produceTopicsOffset (apiVersion : Nat) (message : List UInt8) : Except Fault Int :=
  if 1 ≤ apiVersion then do
    let transactionalIdLen ← readIntAt message 2 8
    .ok (10 + (if 0 < transactionalIdLen then transactionalIdLen else 0) + 2 + 4)
  else .ok (8 + 2 + 4)

def readProduce (apiVersion : Nat) (message : List UInt8) : Except Fault (Option RequestRead) := do
  let offset ← produceTopicsOffset apiVersion message
  readTopics message (producePartitionEntry message) offset

def readFetch (message : List UInt8) : Except Fault (Option RequestRead) :=
  readTopics message (fetchPartitionEntry message) 20

/-! ### Regular requests -/

/-- The name is ASCII, and the partitions that the count announces are there and no more than
the handlers read. -/
def TopicRead.Regular (topic : TopicRead) : Prop :=
  (∀ byte ∈ topic.name, byte < 0x80) ∧
    (0 ≤ topic.partitionCount ∧ topic.partitionCount ≤ 100) ∧ topic.complete = true

/-- The topics that the count announces are there, no more than the handlers read, and regular. -/
def RequestRead.Regular (request : RequestRead) : Prop :=
  (0 ≤ request.topicCount ∧ request.topicCount ≤ 100) ∧ request.complete = true ∧
    ∀ topic ∈ request.topics, topic.Regular

/-- What is written for the name and the count of a topic agrees with what comes behind them. -/
def TopicRead.Matches (topic : TopicRead) : Prop :=
  (Utf8.decode topic.name).length = (Utf8.encode (Utf8.decode topic.name)).length ∧
    topic.partitionCount = topic.partitions.length

theorem TopicRead.regular_iff {message : List UInt8} {partitionEntry : Entry Int}
    {topic : TopicRead} {before after : Int}
    (h : topicEntry message partitionEntry before = .ok (some topic, after)) :
    topic.Regular ↔ topic.Matches := by
  unfold topicEntry at h
  split at h
  next =>
    obtain ⟨topicNameLen, -, h⟩ := bind_eq_ok_iff.mp h
    dsimp only at h
    split at h
    next =>
      split at h
      next =>
        obtain ⟨partitionCount, -, h⟩ := bind_eq_ok_iff.mp h
        split at h
        next =>
          obtain ⟨⟨partitions, complete, offset⟩, hcollect, h⟩ := bind_eq_ok_iff.mp h
          cases h
          exact and_congr (Utf8.length_encode_decode_iff.symm.trans eq_comm)
            (collect_count hcollect).symm
        next => cases h
      next => cases h
    next => cases h
  next => cases h

/-- A request is regular if the counts are those of what is found. -/
theorem RequestRead.regular_iff {message : List UInt8} {partitionEntry : Entry Int} {offset : Int}
    {request : RequestRead} (h : readTopics message partitionEntry offset = .ok (some request)) :
    request.Regular ↔
      request.topicCount = request.topics.length ∧ ∀ topic ∈ request.topics, topic.Matches := by
  unfold readTopics at h
  split at h
  next =>
    obtain ⟨topicCount, -, h⟩ := bind_eq_ok_iff.mp h
    obtain ⟨⟨topics, complete, after⟩, hcollect, h⟩ := bind_eq_ok_iff.mp h
    cases h
    rw [Regular, ← and_assoc]
    refine and_congr (collect_count hcollect).symm (forall₂_congr fun topic htopic => ?_)
    obtain ⟨before, after, htopic⟩ := collect_mem hcollect topic htopic
    exact TopicRead.regular_iff htopic
  next => cases h

/-- There are no more topics than rounds. -/
theorem readTopics_length_le {message : List UInt8} {partitionEntry : Entry Int} {offset : Int}
    {request : RequestRead} (h : readTopics message partitionEntry offset = .ok (some request)) :
    request.topics.length ≤ rounds request.topicCount 100 := by
  unfold readTopics at h
  split at h
  next =>
    obtain ⟨topicCount, -, h⟩ := bind_eq_ok_iff.mp h
    obtain ⟨⟨topics, complete, after⟩, hcollect, h⟩ := bind_eq_ok_iff.mp h
    cases h
    exact (collect_length hcollect).1
  next => cases h

/-! ### Specifications of the parts -/

section Parts

variable {message : List UInt8} {s : Locals}

@[simp]
theorem wp_fits {n : Int} {Q : Bool → Locals → Prop} {E : Fault → Locals → Prop} :
    wp (fits message n) Q E s ↔ Q (decide (s.offset + n ≤ message.length)) s :=
  Iff.rfl

@[simp]
theorem wp_skip {n : Int} {Q : PUnit → Locals → Prop} {E : Fault → Locals → Prop} :
    wp (skip n) Q E s ↔ Q ⟨⟩ { s with offset := s.offset + n } :=
  Iff.rfl

@[simp]
theorem wp_readBytes {n : Int} {Q : List UInt8 → Locals → Prop} {E : Fault → Locals → Prop} :
    wp (readBytes message n) Q E s ↔
      Q (slice message s.offset (s.offset + n)) { s with offset := s.offset + n } :=
  Iff.rfl

@[simp]
theorem wp_putBytes {bytes : List UInt8} {Q : PUnit → Locals → Prop}
    {E : Fault → Locals → Prop} :
    wp (putBytes bytes) Q E s ↔ Q ⟨⟩ { s with response := s.response ++ bytes } :=
  Iff.rfl

/-- An integer is read as it stands at the offset. -/
theorem wp_readInt {width : Nat} {Q : Int → Locals → Prop} {E : Fault → Locals → Prop}
    (hQ : ∀ value, readIntAt message width s.offset = .ok value →
      Q value { s with offset := s.offset + width })
    (hE : ∀ fault, readIntAt message width s.offset = .error fault →
      E fault { s with offset := s.offset + width }) :
    wp (readInt message width) Q E s := by
  unfold readIntAt at hQ hE
  rw [readInt, wp_bind, wp_readBytes, wp_ite]
  exact ⟨fun hlength => hQ _ (if_pos hlength), fun hlength => hE _ (if_neg hlength)⟩

/-- An integer in range is appended. -/
theorem wp_put_of_inRange {width : Nat} {value : Int} {Q : PUnit → Locals → Prop}
    {E : Fault → Locals → Prop} (h : InRange width value) :
    wp (put width value) Q E s ↔ Q ⟨⟩ { s with response := s.response ++ ofInt width value } := by
  rw [put, if_pos h, wp_putBytes]

/-- What was read as an integer is in range. -/
theorem inRange_of_readIntAt {width : Nat} {offset value : Int}
    (h : readIntAt message width offset = .ok value) : InRange width value := by
  unfold readIntAt at h
  split at h
  next hlength =>
    cases h
    have hrange : InRange (slice message offset (offset + width)).length
        (toInt (slice message offset (offset + width))) := inRange_toInt
    rwa [hlength] at hrange
  next => cases h

end Parts

/-! ### Loops -/

/-- What loops keep of the storage and of the offsets of a batch, as long as a number of messages
can be stored. -/
abbrev Invariant :=
  Nat → Storage → List Nat → Prop

section Rounds

variable {I : Invariant} {cost k : Nat} {X : Prop} {Φ : β → Prop} {read : β → α}
  {bytes : β → List UInt8} {message : List UInt8} {response : List UInt8} {s : Locals}

/-- A round of a loop, or what is left of it, ends as `found` says, with `read` what is read for
an answer and `bytes` what is appended: it goes on if an entry was found, breaks if the request
was cut short, and raises where that is found or for the other reason `X`. Answers satisfy `Φ`,
and `I` holds at the end. -/
structure FollowsFrom (s : Locals) (I : Invariant) (k : Nat) (X : Prop) (Φ : β → Prop)
    (read : β → α) (bytes : β → List UInt8) (response : List UInt8)
    (found : Except Fault (Option α × Int)) (body : Handler Bool) : Prop where
  ends : wp body
    (fun goesOn s' => I k s'.storage s'.batchOffsets ∧
      ∃ answer : Option β, (∀ b ∈ answer, Φ b) ∧ found = .ok (answer.map read, s'.offset) ∧
        goesOn = answer.isSome ∧ s'.response = response ++ answer.elim [] bytes)
    (fun fault s' => I 0 s'.storage s'.batchOffsets ∧ (found = .error fault ∨ X)) s

/-- A round of a loop follows an entry. It stores at most `cost` messages. -/
def Follows (I : Invariant) (cost : Nat) (X : Prop) (Φ : β → Prop) (read : β → α)
    (bytes : β → List UInt8) (entry : Entry α) (body : Handler Bool) : Prop :=
  ∀ k s, I (k + cost) s.storage s.batchOffsets →
    FollowsFrom s I k X Φ read bytes s.response (entry s.offset) body

/-- Where the message ends before the next bytes, there is no entry. -/
theorem FollowsFrom.fits {n : Int} {found : Except Fault (Option α × Int)} {body : Handler Bool}
    (hs : I k s.storage s.batchOffsets)
    (h : FollowsFrom s I k X Φ read bytes s.response found body) :
    FollowsFrom s I k X Φ read bytes s.response
      (if s.offset + n ≤ message.length then found else .ok (none, s.offset))
      (do if ← fits message n then body else pure false) := by
  refine ⟨?_⟩
  rw [wp_bind, wp_fits, wp_ite, decide_eq_true_iff]
  constructor
  · intro hfits
    rw [if_pos hfits]
    exact h.ends
  · intro hfits
    rw [if_neg hfits]
    exact ⟨hs, none, fun b hb => absurd hb (Option.not_mem_none b), rfl, rfl,
      (List.append_nil _).symm⟩

/-- An integer is read. -/
theorem FollowsFrom.readInt {width : Nat} {found : Int → Except Fault (Option α × Int)}
    {body : Int → Handler Bool} (hs : I 0 s.storage s.batchOffsets)
    (h : ∀ value, InRange width value → FollowsFrom { s with offset := s.offset + width }
      I k X Φ read bytes response (found value) (body value)) :
    FollowsFrom s I k X Φ read bytes response (readIntAt message width s.offset >>= found)
      (readInt message width >>= body) := by
  refine ⟨wp_bind.mpr (wp_readInt (fun value hvalue => ?_) fun fault hfault => ⟨hs, .inl ?_⟩)⟩
  · rw [hvalue]
    exact (h value (inRange_of_readIntAt hvalue)).ends
  · rw [hfault]
    rfl

/-- Some bytes are read, and the message is known to have them. -/
theorem FollowsFrom.readBytes {n : Int} {found : Except Fault (Option α × Int)}
    {body : List UInt8 → Handler Bool}
    (h : FollowsFrom { s with offset := s.offset + n } I k X Φ read bytes response found
      (body (slice message s.offset (s.offset + n)))) :
    FollowsFrom s I k X Φ read bytes response found (readBytes message n >>= body) :=
  ⟨wp_bind.mpr h.ends⟩

theorem FollowsFrom.modify {found : Except Fault (Option α × Int)} {f : Locals → Locals}
    {body : PUnit → Handler Bool}
    (h : FollowsFrom (f s) I k X Φ read bytes response found (body ⟨⟩)) :
    FollowsFrom s I k X Φ read bytes response found (modify f >>= body) :=
  ⟨wp_bind.mpr h.ends⟩

/-- A step that reads nothing. -/
theorem FollowsFrom.bind {γ : Type} {found : Except Fault (Option α × Int)} {m : Handler γ}
    {body : γ → Handler Bool} {Q : γ → Locals → Prop}
    (hm : wp m Q (fun _ s' => I 0 s'.storage s'.batchOffsets ∧ X) s)
    (h : ∀ c s', Q c s' → FollowsFrom s' I k X Φ read bytes response found (body c)) :
    FollowsFrom s I k X Φ read bytes response found (m >>= body) :=
  ⟨wp_bind.mpr (wp_mono hm (fun c s' hc => (h c s' hc).ends)
    fun _ _ hfault => ⟨hfault.1, .inr hfault.2⟩)⟩

/-- An entry was found and answered. -/
theorem FollowsFrom.done {found : Except Fault (Option α × Int)} (b : β)
    (hfound : found = .ok (some (read b), s.offset)) (hs : I k s.storage s.batchOffsets) (hb : Φ b)
    (hresponse : s.response = response ++ bytes b) :
    FollowsFrom s I k X Φ read bytes response found (pure true) :=
  ⟨hs, some b, fun _ h => Option.some.inj h ▸ hb, hfound, rfl, hresponse⟩

/-- **Loop rule.** The loop follows the entries up to a count. -/
theorem Follows.wp_loop {entry : Entry α} {body : Handler Bool}
    (hbody : Follows I cost X Φ read bytes entry body) (hI : Antitone I) (n k : Nat)
    (hs : I (k + n * cost) s.storage s.batchOffsets) :
    wp (loop body n)
      (fun _ s' => I k s'.storage s'.batchOffsets ∧
        ∃ (answers : List β) (complete : Bool), (∀ b ∈ answers, Φ b) ∧
          collect entry n s.offset = .ok (answers.map read, complete, s'.offset) ∧
          s'.response = s.response ++ answers.flatMap bytes)
      (fun fault s' => I 0 s'.storage s'.batchOffsets ∧
        (collect entry n s.offset = .error fault ∨ X)) s := by
  induction n generalizing s with
  | zero =>
    exact ⟨hI (Nat.le_add_right k _) _ _ hs, [], true, nofun, rfl, (List.append_nil _).symm⟩
  | succ n ih =>
    rw [Nat.succ_mul, ← Nat.add_assoc] at hs
    rw [loop, wp_bind]
    refine wp_mono (hbody _ s hs).ends ?_ fun fault _ h => ⟨h.1, h.2.imp_left fun hentry => ?_⟩
    · rintro goesOn s₁ ⟨hs₁, answer, hanswer, hentry, rfl, hresponse⟩
      cases answer with
      | none =>
        refine ⟨hI (Nat.le_add_right k _) _ _ hs₁, [], false, nofun, ?_, hresponse⟩
        rw [collect, hentry]
        rfl
      | some b =>
        refine wp_mono (ih hs₁) ?_ fun fault _ h => ⟨h.1, h.2.imp_left fun hrest => ?_⟩
        · rintro _ s₂ ⟨hs₂, answers, complete, hanswers, hrest, hresponse'⟩
          refine ⟨hs₂, b :: answers, complete,
            List.forall_mem_cons.mpr ⟨hanswer b rfl, hanswers⟩, ?_, ?_⟩
          · rw [collect, hentry]
            simp only [Option.map_some, bind, Except.bind, hrest]
            rfl
          · rw [hresponse', hresponse, List.append_assoc]
            rfl
        · rw [collect, hentry]
          simp only [Option.map_some, bind, Except.bind, hrest]
    · rw [collect, hentry]
      rfl

/-- A loop within a round. -/
theorem FollowsFrom.loop (k' : Nat) {α' β' : Type} {I' : Invariant} {Φ' : β' → Prop}
    {read' : β' → α'} {bytes' : β' → List UInt8} {entry : Entry α'} {round : Handler Bool}
    {n : Nat} {found : List α' × Bool × Int → Except Fault (Option α × Int)}
    {body : PUnit → Handler Bool} (hround : Follows I' cost X Φ' read' bytes' entry round)
    (hI' : Antitone I') (hs : I' (k' + n * cost) s.storage s.batchOffsets)
    (hfault : ∀ storage batchOffsets, I' 0 storage batchOffsets → I 0 storage batchOffsets)
    (h : ∀ s' (answers : List β') complete, I' k' s'.storage s'.batchOffsets →
      (∀ b ∈ answers, Φ' b) → s'.response = s.response ++ answers.flatMap bytes' →
      FollowsFrom s' I k X Φ read bytes response (found (answers.map read', complete, s'.offset))
        (body ⟨⟩)) :
    FollowsFrom s I k X Φ read bytes response (collect entry n s.offset >>= found)
      (loop round n >>= body) := by
  refine ⟨wp_bind.mpr (wp_mono (hround.wp_loop hI' n k' hs) ?_ ?_)⟩
  · rintro _ s' ⟨hs', answers, complete, hanswers, hcollect, hresponse⟩
    rw [hcollect]
    exact (h s' answers complete hs' hanswers hresponse).ends
  · rintro fault s' ⟨hs', hcollect⟩
    refine ⟨hfault _ _ hs', hcollect.imp_left fun hcollect => ?_⟩
    rw [hcollect]
    rfl

end Rounds

end Ros2Dispatcher.MockServer
