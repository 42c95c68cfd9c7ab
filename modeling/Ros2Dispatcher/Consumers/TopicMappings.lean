import Ros2Dispatcher.Consumers.Consumer
import Ros2Dispatcher.Library.Entries

/-!
# Topic mappings

`parse_topic_mappings`, which both consumers have, reads a text of entries `key=value` between
commas. A segment without an equals sign, or with nothing but blanks on one of its sides, is
passed over, and of several entries for a key the last one counts. A text stands for any bytes, one
letter each.

* `parseTopicMappings_eq_getlines`: the segments are the ones `getline` reads.
* `parseTopicMappings_spec`: what a text maps a key to, and which texts a map is read from.
-/

namespace Ros2Dispatcher.Consumers

open Tokens

variable {segment : List Char} {key value : String}

/-! ### Segments -/

/-- The segment assigns the value to the key: what stands before its first equals sign trims to
the key, and what stands behind it to the value, and neither is blank. -/
def Assigns (segment : List Char) (key value : String) : Prop :=
  ∃ before after, segment = before ++ '=' :: after ∧ '=' ∉ before ∧
    trim (String.ofList before) = key ∧ key ≠ "" ∧
    HasText (String.ofList after) ∧ trim (String.ofList after) = value

/-- The entry of a segment, if it has one. -/
def entryOf (segment : List Char) : Option (String × String) :=
  match segment.dropWhile (· ≠ '=') with
  | [] => none
  | _ :: rest =>
    let key := trim (String.ofList (segment.takeWhile (· ≠ '=')))
    let value := trim (String.ofList rest)
    if key ≠ "" ∧ value ≠ "" then some (key, value) else none

theorem addMapping_eq (result : TopicMappings) (segment : List Char) :
    addMapping result segment = (entryOf segment).toList ++ result := by
  rw [addMapping, entryOf]
  cases segment.dropWhile (· ≠ '=') with
  | nil => rfl
  | cons c rest =>
    dsimp only
    split <;> rfl

/-- A segment without an equals sign has no entry. -/
theorem entryOf_eq_none (h : '=' ∉ segment) : entryOf segment = none := by
  have hdrop : segment.dropWhile (· ≠ '=') = [] :=
    List.dropWhile_eq_nil_iff.mpr fun c hc =>
      decide_eq_true fun heq : c = '=' => h (heq ▸ hc)
  rw [entryOf, hdrop]

/-- The entry of a segment with an equals sign. -/
theorem entryOf_append {before after : List Char} (h : '=' ∉ before) :
    entryOf (before ++ '=' :: after) =
      if trim (String.ofList before) ≠ "" ∧ trim (String.ofList after) ≠ "" then
        some (trim (String.ofList before), trim (String.ofList after))
      else none := by
  have hbefore : ∀ c ∈ before, decide (c ≠ '=') = true := fun c hc =>
    decide_eq_true fun heq => h (heq ▸ hc)
  have htake : (before ++ '=' :: after).takeWhile (· ≠ '=') = before := by
    rw [List.takeWhile_append_of_pos hbefore, List.takeWhile_cons_of_neg (by decide),
      List.append_nil]
  have hdrop : (before ++ '=' :: after).dropWhile (· ≠ '=') = '=' :: after := by
    rw [List.dropWhile_append_of_pos hbefore, List.dropWhile_cons_of_neg (by decide)]
  rw [entryOf, htake, hdrop]

theorem entryOf_eq_some_iff : entryOf segment = some (key, value) ↔ Assigns segment key value := by
  by_cases hequals : '=' ∈ segment
  · obtain ⟨before, after, rfl, hbefore⟩ := List.eq_append_cons_of_mem hequals
    rw [entryOf_append hbefore, Option.ite_none_right_eq_some, Option.some_inj, Prod.mk.injEq]
    constructor
    · rintro ⟨⟨hkey, hvalue⟩, rfl, rfl⟩
      exact ⟨before, after, rfl, hbefore, rfl, hkey, trim_ne_empty_iff.mp hvalue, rfl⟩
    · rintro ⟨before', after', heq, hbefore', rfl, hkey, htext, rfl⟩
      obtain ⟨rfl, rfl⟩ := append_cons_inj hbefore hbefore' heq
      exact ⟨⟨hkey, trim_ne_empty_iff.mpr htext⟩, rfl, rfl⟩
  · rw [entryOf_eq_none hequals]
    refine iff_of_false (Option.some_ne_none _).symm ?_
    rintro ⟨before, after, rfl, -⟩
    exact hequals (List.mem_append_right before List.mem_cons_self)

/-! ### Texts -/

theorem foldl_addMapping (result : TopicMappings) (segments : List (List Char)) :
    segments.foldl addMapping result = (segments.filterMap entryOf).reverse ++ result := by
  induction segments generalizing result with
  | nil => rfl
  | cons segment segments ih =>
    rw [List.foldl_cons, addMapping_eq, ih, List.filterMap_cons]
    cases entryOf segment with
    | none => rfl
    | some entry =>
      rw [List.reverse_cons, List.append_assoc]
      rfl

theorem parseTopicMappings_eq (text : String) :
    parseTopicMappings text = ((text.toList.splitOn ',').filterMap entryOf).reverse := by
  rw [parseTopicMappings, foldl_addMapping, List.append_nil]

/-- The segments are read line by line. -/
theorem parseTopicMappings_eq_getlines (text : String) :
    parseTopicMappings text = (getlines ',' text.toList).foldl addMapping [] := by
  rw [parseTopicMappings_eq, foldl_addMapping, List.append_nil]
  obtain hsplit | hsplit := splitOn_eq_getlines ',' text.toList
  · rw [hsplit]
  · rw [hsplit, List.filterMap_append, List.filterMap_cons, entryOf_eq_none List.not_mem_nil,
      List.filterMap_nil, List.append_nil]

/-- An entry that can be written: the key and the value are trimmed and not empty, and without
the signs that end them. -/
structure Writable (entry : String × String) : Prop where
  key_ne : entry.1 ≠ ""
  key_trimmed : trim entry.1 = entry.1
  key_comma : ',' ∉ entry.1.toList
  key_equals : '=' ∉ entry.1.toList
  value_ne : entry.2 ≠ ""
  value_trimmed : trim entry.2 = entry.2
  value_comma : ',' ∉ entry.2.toList

/-- The text of entries. -/
def joinEntries (entries : List (String × String)) : String :=
  ",".intercalate (entries.map fun entry => entry.1 ++ "=" ++ entry.2)

/-- What is written is read back, the last entry first. -/
theorem parseTopicMappings_joinEntries {entries : List (String × String)}
    (h : ∀ entry ∈ entries, Writable entry) :
    parseTopicMappings (joinEntries entries) = entries.reverse := by
  rw [parseTopicMappings_eq]
  by_cases hne : entries = []
  · rw [hne]
    rfl
  let segmentOf := fun entry : String × String => entry.1.toList ++ '=' :: entry.2.toList
  have htext : (joinEntries entries).toList = [','].intercalate (entries.map segmentOf) := by
    rw [joinEntries, String.toList_intercalate, List.map_map]
    refine congrArg _ (List.map_congr_left fun entry _ => ?_)
    rw [Function.comp_apply, String.toList_append, String.toList_append, List.append_assoc]
    rfl
  have hcomma : ∀ segment ∈ entries.map segmentOf, ',' ∉ segment := by
    intro segment hsegment
    obtain ⟨entry, hentry, rfl⟩ := List.mem_map.mp hsegment
    have hwritable := h entry hentry
    rw [List.mem_append, List.mem_cons, not_or, not_or]
    exact ⟨hwritable.key_comma, by decide, hwritable.value_comma⟩
  have hentry : ∀ entry ∈ entries, entryOf (segmentOf entry) = some entry := by
    intro entry hentry
    have hwritable := h entry hentry
    rw [entryOf_append hwritable.key_equals, String.ofList_toList, String.ofList_toList,
      hwritable.key_trimmed, hwritable.value_trimmed,
      if_pos ⟨hwritable.key_ne, hwritable.value_ne⟩]
  rw [htext, List.splitOn_intercalate ',' hcomma (mt List.map_eq_nil_iff.mp hne),
    List.filterMap_map]
  exact congrArg List.reverse ((List.filterMap_congr hentry).trans List.filterMap_some)

/-- **Topic mappings.** A key is mapped to the value that the last segment with an entry for it
assigns to it. A map whose entries can be written is read from its entries in any order. -/
theorem parseTopicMappings_spec :
    (∀ text key value, (parseTopicMappings text).find key = some value ↔
      ∃ earlier segment later, text.toList.splitOn ',' = earlier ++ segment :: later ∧
        Assigns segment key value ∧
        ∀ segment ∈ later, ∀ value, ¬Assigns segment key value) ∧
    ∀ (map : String → Option String) (entries : List (String × String)),
      (∀ key value, (key, value) ∈ entries ↔ map key = some value) →
      (∀ entry ∈ entries, Writable entry) →
      ∀ key, (parseTopicMappings (joinEntries entries)).find key = map key := by
  refine ⟨fun text key value => ?_, fun map entries hlists hwritable key => ?_⟩
  · rw [TopicMappings.find, parseTopicMappings_eq, Entries.lookup_reverse_filterMap]
    simp only [ne_eq, entryOf_eq_some_iff]
  · rw [TopicMappings.find, parseTopicMappings_joinEntries hwritable]
    refine Entries.lookup_eq_of_mem_iff (fun key value => ?_) key
    rw [List.mem_reverse]
    exact hlists key value

/-- A map of two entries, read from its text. -/
theorem parseTopicMappings_swapped :
    (parseTopicMappings (joinEntries [("b", "c=d"), ("a", "e")])).find "b" = some "c=d" := by
  refine parseTopicMappings_spec.2 (fun key => if key = "a" then some "e"
    else if key = "b" then some "c=d" else none) _ (fun key value => ?_) ?_ "b"
  · simp only [List.mem_cons, List.not_mem_nil, or_false, Prod.mk.injEq]
    grind
  · refine List.forall_mem_cons.mpr ⟨?_, List.forall_mem_singleton.mpr ?_⟩ <;>
      constructor <;> decide +kernel

/-- The last entry for a topic counts, and blank ones do not. -/
example : (parseTopicMappings " a = b=c,,a=d ,=e, f ,a= ").find "a" = some "d" := by
  decide +kernel

end Ros2Dispatcher.Consumers
