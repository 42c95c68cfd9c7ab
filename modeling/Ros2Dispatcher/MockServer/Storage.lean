import Ros2Dispatcher.Library.Procedure
import Ros2Dispatcher.MockServer.Server

/-!
# What the mock server stores

A storage is `Gapless` if `messages` and `offsets` have the same topics and partitions, the
messages of a partition have the offsets `0, 1, …` in the order they were stored, and the next
offset is their number. Each of the three steps that write to the storage keeps this:
`initTopic`, `initPartition` and `storeMessage`. None of them raises in between, and only the
last one can raise at all, where a list is full.

`Storing initial room k storage` is the invariant of a request that found `initial`: the storage
is gapless and has every earlier message where it was, and if there was `room` for what the
request may store, then there is still room for `k` messages in every partition.
-/

namespace Ros2Dispatcher.MockServer

open Entries Procedure

/-! ### Partitions -/

namespace Storage

/-- `messages[topic][partition]`. -/
def stored (storage : Storage) (topicName : String) (partitionId : Int) : Option (List Message) :=
  (storage.messages.lookup topicName).bind (·.lookup partitionId)

/-- `offsets[topic][partition]`. -/
def next (storage : Storage) (topicName : String) (partitionId : Int) : Option Nat :=
  (storage.offsets.lookup topicName).bind (·.lookup partitionId)

/-- How many messages a partition has; an unknown one has none. -/
def count (storage : Storage) (topicName : String) (partitionId : Int) : Nat :=
  ((storage.stored topicName partitionId).getD []).length

structure Gapless (storage : Storage) : Prop where
  topics : ∀ topicName,
    (storage.offsets.lookup topicName).isSome = (storage.messages.lookup topicName).isSome
  next : ∀ topicName partitionId,
    storage.next topicName partitionId = (storage.stored topicName partitionId).map List.length
  offsets : ∀ topicName partitionId messages, storage.stored topicName partitionId = some messages →
    messages.map Message.offset = List.range messages.length
  count_le : ∀ topicName partitionId, storage.count topicName partitionId ≤ maxsize

theorem gapless_empty : Gapless {} where
  topics _ := rfl
  next _ _ := rfl
  offsets := nofun
  count_le _ _ := Nat.zero_le _

/-- The messages of each partition stay where they are, and others come behind them. -/
def Extends (storage storage' : Storage) : Prop :=
  ∀ topicName partitionId messages, storage.stored topicName partitionId = some messages →
    ∃ messages', storage'.stored topicName partitionId = some messages' ∧ messages <+: messages'

theorem Extends.refl (storage : Storage) : storage.Extends storage :=
  fun _ _ messages h => ⟨messages, h, List.prefix_rfl⟩

theorem Extends.trans {storage storage' storage'' : Storage} (h : storage.Extends storage')
    (h' : storage'.Extends storage'') : storage.Extends storage'' := by
  intro topicName partitionId messages hmessages
  obtain ⟨middle, hmiddle, hprefix⟩ := h topicName partitionId messages hmessages
  obtain ⟨messages', hmessages', hprefix'⟩ := h' topicName partitionId middle hmiddle
  exact ⟨messages', hmessages', hprefix.trans hprefix'⟩

variable {storage : Storage} {topicName : String} {partitionId : Int}

theorem Gapless.next_eq (h : storage.Gapless) {messages : List Message}
    (hmessages : storage.stored topicName partitionId = some messages) :
    storage.next topicName partitionId = some messages.length := by
  rw [h.next, hmessages, Option.map_some]

theorem count_eq {messages : List Message}
    (h : storage.stored topicName partitionId = some messages) :
    storage.count topicName partitionId = messages.length := by
  rw [count, h, Option.getD_some]

end Storage

/-! ### The invariant of a request -/

structure Storing (initial : Storage) (room : Prop) (k : Nat) (storage : Storage) : Prop where
  gapless : storage.Gapless
  grown : initial.Extends storage
  room : room → ∀ topicName partitionId, storage.count topicName partitionId + k ≤ maxsize

variable {initial storage storage' : Storage} {room : Prop} {k : Nat} {topicName : String}
  {partitionId : Int}

/-- Room for more messages is room for fewer. -/
theorem Storing.antitone : Antitone (Storing initial room) :=
  fun _ _ hle _ h => ⟨h.gapless, h.grown, fun hroom topicName partitionId =>
    (Nat.add_le_add_left hle _).trans (h.room hroom topicName partitionId)⟩

/-- The partitions are as they were. -/
theorem Storing.of_eq (h : Storing initial room k storage)
    (htopics : ∀ topic,
      (storage'.offsets.lookup topic).isSome = (storage'.messages.lookup topic).isSome)
    (hstored : storage'.stored = storage.stored) (hnext : storage'.next = storage.next) :
    Storing initial room k storage' := by
  have hcount : storage'.count = storage.count := by
    funext topic partition
    rw [Storage.count, hstored, Storage.count]
  refine ⟨⟨htopics, ?_, ?_, ?_⟩, ?_, ?_⟩
  · rw [hstored, hnext]
    exact h.gapless.next
  · rw [hstored]
    exact h.gapless.offsets
  · rw [hcount]
    exact h.gapless.count_le
  · unfold Storage.Extends
    rw [hstored]
    exact h.grown
  · rw [hcount]
    exact h.room

/-- One partition gets other messages, which begin with those it has. -/
theorem Storing.update {l : Nat} {messages : List Message} (h : Storing initial room l storage)
    (htopics : ∀ topic,
      (storage'.offsets.lookup topic).isSome = (storage'.messages.lookup topic).isSome)
    (hstored : ∀ topic partition, storage'.stored topic partition =
      if topic = topicName ∧ partition = partitionId then some messages
      else storage.stored topic partition)
    (hnext : ∀ topic partition, storage'.next topic partition =
      if topic = topicName ∧ partition = partitionId then some messages.length
      else storage.next topic partition)
    (hoffsets : messages.map Message.offset = List.range messages.length)
    (hlength : messages.length ≤ maxsize)
    (hgrown : ∀ earlier, storage.stored topicName partitionId = some earlier →
      earlier <+: messages)
    (hle : k ≤ l) (hroom : room → messages.length + k ≤ maxsize) :
    Storing initial room k storage' := by
  have hcount : ∀ topic partition, storage'.count topic partition =
      if topic = topicName ∧ partition = partitionId then messages.length
      else storage.count topic partition := by
    intro topic partition
    rw [Storage.count, hstored]
    split <;> rfl
  have hextends : storage.Extends storage' := by
    intro topic partition earlier hearlier
    rw [hstored]
    split
    next heq => exact ⟨messages, rfl, hgrown earlier (heq.1 ▸ heq.2 ▸ hearlier)⟩
    next => exact ⟨earlier, hearlier, List.prefix_rfl⟩
  refine ⟨⟨htopics, ?_, ?_, ?_⟩, h.grown.trans hextends, ?_⟩
  · intro topic partition
    rw [hnext, hstored]
    split
    · rfl
    · exact h.gapless.next topic partition
  -- offsets: only those of the partition that changed are new
  · intro topic partition stored hpartition
    rw [hstored] at hpartition
    split at hpartition
    · cases hpartition
      exact hoffsets
    · exact h.gapless.offsets topic partition stored hpartition
  · intro topic partition
    rw [hcount]
    split
    · exact hlength
    · exact h.gapless.count_le topic partition
  · intro hr topic partition
    rw [hcount]
    split
    · exact hroom hr
    · exact (Nat.add_le_add_left hle _).trans (h.room hr topic partition)

/-! ### The steps that write -/

section Steps

variable {s : Locals}

theorem wp_item {κ α : Type} [BEq κ] {entries : List (κ × α)} {key : κ} {value : α}
    {Q : α → Locals → Prop} {E : Fault → Locals → Prop} (h : entries.lookup key = some value) :
    wp (item entries key) Q E s ↔ Q value s := by
  unfold item
  rw [h]
  exact Iff.rfl

/-- Both dictionaries have the topic of a partition that is there. -/
theorem Storage.Gapless.lookups (h : storage.Gapless) {messages : List Message}
    (hmessages : storage.stored topicName partitionId = some messages) :
    ∃ partitions offsets, storage.messages.lookup topicName = some partitions ∧
      partitions.lookup partitionId = some messages ∧
      storage.offsets.lookup topicName = some offsets ∧
      offsets.lookup partitionId = some messages.length := by
  obtain ⟨partitions, hpartitions, hlookup⟩ := Option.bind_eq_some_iff.mp hmessages
  obtain ⟨offsets, hoffsets, hlookup'⟩ := Option.bind_eq_some_iff.mp (h.next_eq hmessages)
  exact ⟨partitions, offsets, hpartitions, hlookup, hoffsets, hlookup'⟩

theorem wp_initTopic (h : Storing initial room k s.storage) :
    wp (initTopic topicName)
      (fun _ s' => ∃ storage, s' = { s with storage := storage } ∧
        Storing initial room k storage ∧ (storage.messages.lookup topicName).isSome = true)
      (fun _ _ => False) s := by
  rw [initTopic, wp_bind, wp_get, wp_ite]
  refine ⟨fun hknown => ⟨_, rfl, h, hknown⟩, fun hunknown => ?_⟩
  have hmessages : s.storage.messages.lookup topicName = none :=
    Option.not_isSome_iff_eq_none.mp hunknown
  have hoffsets : s.storage.offsets.lookup topicName = none := by
    rw [← Option.isNone_iff_eq_none, ← Option.not_isSome, h.gapless.topics, hmessages]
    rfl
  refine ⟨_, rfl, h.of_eq ?_ ?_ ?_, ?_⟩
  · intro topic
    dsimp only
    rw [lookup_set, lookup_set]
    split
    · rfl
    · exact h.gapless.topics topic
  · funext topic partition
    dsimp only [Storage.stored]
    rw [lookup_set]
    split
    next heq =>
      rw [heq, hmessages]
      rfl
    next => rfl
  · funext topic partition
    dsimp only [Storage.next]
    rw [lookup_set]
    split
    next heq =>
      rw [heq, hoffsets]
      rfl
    next => rfl
  · dsimp only
    rw [lookup_set_self]
    rfl

/-- Both dictionaries get the topic. -/
theorem isSome_lookup_set_both {partitions : List (Int × List Message)}
    {offsets : List (Int × Nat)} (h : storage.Gapless) (topic : String) :
    ((set topicName offsets storage.offsets).lookup topic).isSome =
      ((set topicName partitions storage.messages).lookup topic).isSome := by
  rw [lookup_set, lookup_set]
  split
  · rfl
  · exact h.topics topic

theorem wp_initPartition (h : Storing initial room k s.storage)
    (hknown : (s.storage.messages.lookup topicName).isSome = true) :
    wp (initPartition topicName partitionId)
      (fun _ s' => ∃ storage, s' = { s with storage := storage } ∧
        Storing initial room k storage ∧ (storage.stored topicName partitionId).isSome = true)
      (fun _ _ => False) s := by
  obtain ⟨partitions, hpartitions⟩ := Option.isSome_iff_exists.mp hknown
  obtain ⟨offsets, hoffsets⟩ :=
    Option.isSome_iff_exists.mp ((h.gapless.topics topicName).trans hknown)
  have hstored : s.storage.stored topicName partitionId = partitions.lookup partitionId := by
    rw [Storage.stored, hpartitions, Option.bind_some]
  rw [initPartition, wp_bind, wp_get, wp_bind, wp_item hpartitions, wp_ite]
  refine ⟨fun hfound => ⟨_, rfl, h, hstored ▸ hfound⟩, fun hmissing => ?_⟩
  have hnone : s.storage.stored topicName partitionId = none :=
    hstored.trans (Option.not_isSome_iff_eq_none.mp hmissing)
  rw [wp_bind, setMessages, wp_modify, wp_bind, wp_item hoffsets, setOffsets, wp_modify]
  have hupdate : ∀ topic partition, Storage.stored
      { messages := set topicName (set partitionId [] partitions) s.storage.messages,
        offsets := set topicName (set partitionId 0 offsets) s.storage.offsets } topic partition =
      if topic = topicName ∧ partition = partitionId then some []
      else s.storage.stored topic partition := fun _ _ => bind_lookup_set hpartitions
  refine ⟨_, rfl, h.update (isSome_lookup_set_both h.gapless) hupdate
    (fun _ _ => bind_lookup_set hoffsets) rfl (Nat.zero_le _) ?_ le_rfl fun hroom => ?_, ?_⟩
  · intro earlier hearlier
    rw [hnone] at hearlier
    cases hearlier
  · exact (Nat.add_le_add_right (Nat.zero_le _) k).trans (h.room hroom topicName partitionId)
  · rw [hupdate, if_pos ⟨rfl, rfl⟩]
    rfl

/-- A message is stored under an offset in range, unless its partition is full. -/
theorem wp_storeMessage {batchOffset : Int} {batchData : List UInt8}
    (h : Storing initial room (k + 1) s.storage)
    (hknown : (s.storage.stored topicName partitionId).isSome = true) :
    wp (storeMessage topicName partitionId batchOffset batchData)
      (fun _ s' => ∃ storage, ∃ offset ≤ maxsize,
        s' = { s with storage := storage, batchOffsets := s.batchOffsets ++ [offset] } ∧
        Storing initial room k storage ∧ (storage.stored topicName partitionId).isSome = true)
      (fun _ s' => s' = s ∧ ¬room) s := by
  obtain ⟨messages, hmessages⟩ := Option.isSome_iff_exists.mp hknown
  obtain ⟨partitions, offsets, hpartitions, hlookup, hoffsets, hlookup'⟩ :=
    h.gapless.lookups hmessages
  have hcount := Storage.count_eq hmessages
  rw [storeMessage, wp_bind, wp_get, wp_bind, wp_item hoffsets, wp_bind, wp_item hlookup', wp_bind,
    wp_item hpartitions, wp_bind, wp_item hlookup, wp_ite]
  -- the partition takes one more message, or it is full and there was no room
  refine ⟨fun hlt => ?_, fun hfull => ⟨rfl, fun hroom => hfull ?_⟩⟩
  · let message : Message :=
      { offset := messages.length, batchOffset := batchOffset, payload := batchData }
    have hupdate : ∀ topic partition, Storage.stored
        { messages := set topicName (set partitionId (messages ++ [message]) partitions)
            s.storage.messages,
          offsets := set topicName (set partitionId (messages.length + 1) offsets)
            s.storage.offsets } topic partition =
        if topic = topicName ∧ partition = partitionId then some (messages ++ [message])
        else s.storage.stored topic partition := fun _ _ => bind_lookup_set hpartitions
    have hlength : (messages ++ [message]).length = messages.length + 1 := List.length_append
    refine ⟨_, messages.length, Nat.le_of_lt hlt, rfl, h.update (isSome_lookup_set_both h.gapless)
      hupdate ?_ ?_ ?_ ?_ (Nat.le_succ k) ?_, ?_⟩
    · intro topic partition
      rw [hlength]
      exact bind_lookup_set hoffsets
    · rw [hlength, List.range_succ, List.map_append,
        h.gapless.offsets topicName partitionId messages hmessages]
      rfl
    · exact hlength.le.trans hlt
    · intro earlier hearlier
      rw [hmessages] at hearlier
      cases hearlier
      exact List.prefix_append _ _
    · intro hroom
      have hle := h.room hroom topicName partitionId
      omega
    · dsimp only
      rw [hupdate, if_pos ⟨rfl, rfl⟩]
      rfl
  · have hle := h.room hroom topicName partitionId
    omega

/-- The high water mark is the number of messages. -/
theorem wp_highWaterMark {Q : Nat → Locals → Prop} {E : Fault → Locals → Prop}
    (h : storage.Gapless) (hs : s.storage = storage) :
    wp (highWaterMark topicName partitionId) Q E s ↔ Q (storage.count topicName partitionId) s := by
  rw [highWaterMark, wp_bind, wp_get, hs]
  cases hstored : storage.stored topicName partitionId with
  | none =>
    rw [← Storage.stored, hstored, Storage.count, hstored]
    exact Iff.rfl
  | some messages =>
    obtain ⟨partitions, offsets, hpartitions, hlookup, hoffsets, hlookup'⟩ := h.lookups hstored
    rw [← Storage.stored, hstored, Storage.count_eq hstored, if_pos Option.isSome_some, wp_bind,
      wp_item hoffsets, wp_item hlookup']

end Steps

end Ros2Dispatcher.MockServer
