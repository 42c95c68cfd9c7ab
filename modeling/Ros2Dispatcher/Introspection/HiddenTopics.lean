import Ros2Dispatcher.Introspection.Filters
import Ros2Dispatcher.Library.StdStrings
import Ros2Dispatcher.Library.Utf8

/-!
# The loop of `is_topic_hidden`

The loop walks from slash to slash. It looks for the next one with `find`, takes what is before
it with `substr` and starts again behind it; behind the last slash `find` returns `npos`, and
the length of the last token is a difference from `npos`. It works for every string:

* `scanTokens_iff`: the loop ends, after at most one round more than there are slashes, and
  finds an underscore at the front or behind a slash if there is one.
* `scanTokens_encode`: on the bytes of a name it returns what `isTopicHidden` does.
* `isTopicHidden_spec`: so the filter keeps the topics without such an underscore.
-/

namespace Ros2Dispatcher.Introspection

/-- `'/'`. -/
def slash : UInt8 := 0x2f

/-- `'_'`. -/
def underscore : UInt8 := 0x5f

/-- So many rounds of the loop of `is_topic_hidden`, from `start` on: none if it has not ended
by then, and if `substr` throws. -/
def scanTokens (topicName : StdString) : ℕ → UInt64 → Option Bool
  | 0, _ => none
  | rounds + 1, start =>
    if start < topicName.size then
      let tokenEnd := topicName.find slash start
      match topicName.substr start (tokenEnd - start) with
      | none => none
      | some token =>
        if token.bytes.head? = some underscore then some true
        else if tokenEnd = npos then some false
        else scanTokens topicName rounds (tokenEnd + 1)
    else some false

/-- An underscore is at position 0 or right behind a slash. -/
def HasHidingUnderscore (name : List UInt8) : Prop :=
  ∃ i, name[i]? = some underscore ∧ (i = 0 ∨ name[i - 1]? = some slash)

/-! ### The loop -/

section Loop

variable {topicName : StdString} {start : UInt64}

/-- Behind a slash there is one slash less. -/
theorem count_tail_dropWhile_lt {bytes : List UInt8} (h : slash ∈ bytes) :
    (bytes.dropWhile (· ≠ slash)).tail.count slash < bytes.count slash := by
  obtain ⟨before, after, rfl, hbefore⟩ := List.eq_append_cons_of_mem h
  have hall : ∀ byte ∈ before, decide (byte ≠ slash) = true := fun byte hbyte =>
    decide_eq_true fun heq => hbefore (heq ▸ hbyte)
  rw [List.dropWhile_append_of_pos hall, List.dropWhile_cons_of_neg (by simp), List.tail_cons,
    List.count_append, List.count_cons_self]
  omega

/-- **Loop of `is_topic_hidden`.** From the beginning of a token on, the loop ends and looks for
a token that begins with an underscore. -/
theorem scanTokens_spec {rounds : ℕ} (hstart : start ≤ topicName.size)
    (hrounds : (topicName.bytes.drop start.toNat).count slash < rounds) :
    ∃ hidden, scanTokens topicName rounds start = some hidden ∧
      (hidden = true ↔ ∃ token ∈ (topicName.bytes.drop start.toNat).splitOn slash,
        token.head? = some underscore) := by
  induction rounds generalizing start with
  | zero => exact absurd hrounds (Nat.not_lt_zero _)
  | succ rounds ih =>
    rw [scanTokens]
    by_cases hsize : start < topicName.size
    · obtain ⟨token, htoken, hbytes⟩ :=
        Option.map_eq_some_iff.mp (StdString.substr_find hstart slash)
      rw [if_pos hsize]
      simp only [htoken, hbytes]
      by_cases hhead : ((topicName.bytes.drop start.toNat).takeWhile (· ≠ slash)).head? =
          some underscore
      · rw [Tokens.splitOn_eq_cons]
        exact ⟨true, if_pos hhead, iff_of_true rfl ⟨_, List.mem_cons_self, hhead⟩⟩
      by_cases hslash : slash ∈ topicName.bytes.drop start.toNat
      · -- the next token begins behind the slash
        obtain ⟨hnext, hdrop⟩ := StdString.drop_find_add_one hslash
        have hless := count_tail_dropWhile_lt hslash
        rw [← hdrop] at hless
        obtain ⟨hidden, hscan, hiff⟩ := ih hnext (by omega)
        refine ⟨hidden, ?_, ?_⟩
        · rw [if_neg hhead, if_neg (StdString.find_ne_npos hslash)]
          exact hscan
        · have hrest : (topicName.bytes.drop start.toNat).dropWhile (· ≠ slash) ≠ [] :=
            fun hnil => Tokens.dropWhile_ne_eq_nil_iff.mp hnil hslash
          rw [Tokens.splitOn_eq_cons, if_neg hrest, List.exists_mem_cons_iff, or_iff_right hhead,
            ← hdrop]
          exact hiff
      · -- the last token
        refine ⟨false, ?_, ?_⟩
        · rw [if_neg hhead, if_pos (StdString.find_of_notMem hslash)]
        · rw [Tokens.splitOn_eq_cons, if_pos (Tokens.dropWhile_ne_eq_nil_iff.mpr hslash)]
          simpa using hhead
    · have hend : topicName.bytes.drop start.toNat = [] := by
        rw [List.drop_eq_nil_iff, ← StdString.toNat_size]
        exact UInt64.le_iff_toNat_le.mp (UInt64.not_lt.mp hsize)
      rw [hend, List.splitOn_nil]
      exact ⟨false, if_neg hsize, by simp⟩

/-- The loop ends and finds an underscore at the front or behind a slash. -/
theorem scanTokens_iff (topicName : StdString) {rounds : ℕ}
    (hrounds : topicName.bytes.count slash < rounds) :
    ∃ hidden, scanTokens topicName rounds 0 = some hidden ∧
      (hidden = true ↔ HasHidingUnderscore topicName.bytes) := by
  have hzero : (0 : UInt64) ≤ topicName.size := UInt64.le_iff_toNat_le.mpr (Nat.zero_le _)
  obtain ⟨hidden, hscan, hiff⟩ := scanTokens_spec hzero hrounds
  refine ⟨hidden, hscan, hiff.trans ?_⟩
  exact Tokens.exists_mem_splitOn_iff (by decide)

/-- `/a//_b`, whose third token is empty: the last of four rounds sees the underscore. -/
example : scanTokens ⟨[0x2f, 0x61, 0x2f, 0x2f, 0x5f, 0x62], by decide⟩ 4 0 = some true := by
  decide

end Loop

/-! ### Names of topics -/

/-- A segment begins with an underscore exactly if its bytes do. -/
theorem head?_encode_iff {segment : List Char} :
    (Utf8.encode segment).head? = some underscore ↔ segment.head? = some '_' := by
  cases segment with
  | nil => simp [Utf8.encode]
  | cons c segment =>
    rw [List.head?_cons, Option.some_inj]
    constructor
    · intro h
      obtain ⟨first, rest, hbytes⟩ :=
        List.exists_cons_of_ne_nil (String.utf8EncodeChar_ne_nil (c := c))
      rw [Utf8.encode, List.flatMap_cons, hbytes, List.cons_append, List.head?_cons,
        Option.some_inj] at h
      exact Utf8.eq_ofNat_of_mem_utf8EncodeChar
        (by rw [hbytes, h]; exact List.mem_cons_self) (by decide)
    · rintro rfl
      rfl

/-- A name has a hidden segment exactly if its bytes have such an underscore. -/
theorem hasHidingUnderscore_encode (name : List Char) :
    HasHidingUnderscore (Utf8.encode name) ↔ HasHiddenSegment name := by
  have hother : ∀ c ≠ '/', slash ∉ String.utf8EncodeChar c := fun c hc hmem =>
    hc (Utf8.eq_ofNat_of_mem_utf8EncodeChar hmem (by decide))
  rw [HasHidingUnderscore, ← Tokens.exists_mem_splitOn_iff (by decide), Utf8.encode,
    Tokens.splitOn_flatMap (c := '/') rfl hother]
  simp only [List.mem_map, exists_exists_and_eq_and]
  exact exists_congr fun segment => and_congr_right fun _ => head?_encode_iff

/-- On the bytes of a name the loop returns what `isTopicHidden` does. -/
theorem scanTokens_encode (topicName : String)
    (hlength : (Utf8.encode topicName.toList).length < npos.toNat) {rounds : ℕ}
    (hrounds : (Utf8.encode topicName.toList).count slash < rounds) :
    scanTokens ⟨Utf8.encode topicName.toList, hlength⟩ rounds 0 =
      some (isTopicHidden topicName) := by
  obtain ⟨hidden, hscan, hiff⟩ :=
    scanTokens_iff ⟨Utf8.encode topicName.toList, hlength⟩ hrounds
  rw [hscan, Option.some_inj, Bool.eq_iff_iff, hiff, isTopicHidden_iff]
  exact hasHidingUnderscore_encode topicName.toList

/-- The filter keeps the topics whose names have no such underscore, with their types. -/
theorem Manager.mem_filterHiddenTopics {m : Manager} {topics : TopicMap}
    (h : m.filterHidden = true) {entry : String × List String} :
    entry ∈ (m.filterHiddenTopics topics).entries ↔
      entry ∈ topics.entries ∧ ¬HasHidingUnderscore (Utf8.encode entry.1.toList) := by
  rw [Manager.filterHiddenTopics, if_pos h, TopicMap.filter, List.mem_filter,
    hasHidingUnderscore_encode, ← isTopicHidden_iff]
  simp

/-- What has been filtered is left alone. -/
theorem Manager.filterHiddenTopics_idem (m : Manager) (topics : TopicMap) :
    m.filterHiddenTopics (m.filterHiddenTopics topics) = m.filterHiddenTopics topics := by
  unfold Manager.filterHiddenTopics
  split
  · simp [TopicMap.filter]
  · rfl

/-- **Hidden topics.** For every string the loop of `is_topic_hidden` ends, after at most one
round more than there are slashes, and returns whether an underscore is at position 0 or right
behind a slash; on the name of a topic that is the test of the filter. With filtering on,
`filter_hidden_topics` keeps exactly the entries whose names have no such underscore, and
filtering again changes nothing. -/
theorem isTopicHidden_spec :
    (∀ (topicName : StdString) (rounds : ℕ), topicName.bytes.count slash < rounds →
      ∃ hidden, scanTokens topicName rounds 0 = some hidden ∧
        (hidden = true ↔ HasHidingUnderscore topicName.bytes)) ∧
    (∀ (topicName : String) (hlength : (Utf8.encode topicName.toList).length < npos.toNat)
        (rounds : ℕ), (Utf8.encode topicName.toList).count slash < rounds →
      scanTokens ⟨Utf8.encode topicName.toList, hlength⟩ rounds 0 =
        some (isTopicHidden topicName)) ∧
    ∀ (m : Manager) (topics : TopicMap), m.filterHidden = true →
      (∀ entry, entry ∈ (m.filterHiddenTopics topics).entries ↔
        entry ∈ topics.entries ∧ ¬HasHidingUnderscore (Utf8.encode entry.1.toList)) ∧
      m.filterHiddenTopics (m.filterHiddenTopics topics) = m.filterHiddenTopics topics := by
  refine ⟨fun topicName _ hrounds => scanTokens_iff topicName hrounds,
    fun topicName hlength _ hrounds => scanTokens_encode topicName hlength hrounds,
    fun m topics h => ⟨fun _ => Manager.mem_filterHiddenTopics h, ?_⟩⟩
  exact m.filterHiddenTopics_idem topics

/-- A string with an empty token before a hidden one, a name with a slash at its end, and a filter
that meets a hidden topic. -/
theorem isTopicHidden_spec_hidden :
    (∃ hidden, scanTokens ⟨[0x2f, 0x61, 0x2f, 0x2f, 0x5f, 0x62], by decide⟩ 4 0 = some hidden ∧
      (hidden = true ↔ HasHidingUnderscore [0x2f, 0x61, 0x2f, 0x2f, 0x5f, 0x62])) ∧
    scanTokens ⟨Utf8.encode "/a_/".toList, by decide⟩ 3 0 = some (isTopicHidden "/a_/") ∧
    ∀ entry, entry ∈ ((Manager.boot true true true .empty).filterHiddenTopics
        (.single "/_a" "T")).entries ↔
      entry ∈ (TopicMap.single "/_a" "T").entries ∧
        ¬HasHidingUnderscore (Utf8.encode entry.1.toList) :=
  ⟨isTopicHidden_spec.1 _ 4 (by decide), isTopicHidden_spec.2.1 "/a_/" (by decide) 3 (by decide),
    (isTopicHidden_spec.2.2 _ _ rfl).1⟩

end Ros2Dispatcher.Introspection
