import Mathlib.Data.Finset.Basic
import Mathlib.Data.List.Infix
import Ros2Dispatcher.Gui.TopicTools

/-!
# The list of topics in the GUI

The GUI shows a topic as `name [type]`, and the text of its row is all it has of it afterwards:
what is applied, saved or remembered as saved is read back from there, by a search for the last
brackets. A name may have brackets and spaces inside.

* `extractTopicInfo_itemText_iff`: which topics their texts give back.
* `IntrospectionPlugin.texts_run`: whatever happened before, the rows are those of the topics that
  match the filter.
* `selection_names_picked`: an applied or saved selection is of the topics whose rows were picked.
-/

namespace Ros2Dispatcher.Gui

/-! ### Texts of rows -/

/-- `_extract_topic_name`. -/
def extractTopicName (item : String) : String :=
  let chars := item.toList
  if '[' ∈ chars then strip (String.ofList (chars.take (rfind '[' chars))) else strip item

/-- There is no whitespace at the ends of a text. -/
structure Trimmed (text : String) : Prop where
  head : ∀ c ∈ text.toList.head?, isSpace c = false
  last : ∀ c ∈ text.toList.getLast?, isSpace c = false

/-- Stripping leaves a part of a text. -/
theorem strip_sublist (text : String) : (strip text).toList.Sublist text.toList := by
  rw [strip, String.toList_ofList]
  exact (List.rdropWhile_prefix _ _).sublist.trans (List.dropWhile_sublist _)

theorem dropWhile_eq_self_iff_head? {chars : List Char} :
    chars.dropWhile isSpace = chars ↔ ∀ c ∈ chars.head?, isSpace c = false := by
  cases chars with
  | nil => simp
  | cons c chars =>
    rw [List.dropWhile_eq_self_iff]
    simp

theorem rdropWhile_eq_self_iff_getLast? {chars : List Char} :
    chars.rdropWhile isSpace = chars ↔ ∀ c ∈ chars.getLast?, isSpace c = false := by
  rw [List.rdropWhile, List.reverse_eq_iff, dropWhile_eq_self_iff_head?, List.head?_reverse]

/-- Stripping keeps the texts without whitespace at their ends, and no others. -/
theorem strip_eq_self_iff {text : String} : strip text = text ↔ Trimmed text := by
  rw [strip, ← String.toList_inj, String.toList_ofList]
  constructor
  · intro h
    -- the first half of the stripping has dropped nothing, then
    have hstart : text.toList.dropWhile isSpace = text.toList := by
      refine (List.dropWhile_sublist _).eq_of_length_le ?_
      exact (congrArg List.length h).symm.le.trans (List.rdropWhile_prefix _ _).length_le
    rw [hstart] at h
    exact ⟨dropWhile_eq_self_iff_head?.mp hstart, rdropWhile_eq_self_iff_getLast?.mp h⟩
  · rintro ⟨hhead, hlast⟩
    rw [dropWhile_eq_self_iff_head?.mpr hhead, rdropWhile_eq_self_iff_getLast?.mpr hlast]

instance decidableTrimmed (text : String) : Decidable (Trimmed text) :=
  decidable_of_iff _ strip_eq_self_iff

/-- The type has no whitespace at its ends and no opening bracket; a closing one does no harm. The
name has no whitespace at its ends either. -/
structure Readable (topic : TopicInfo) : Prop where
  name : Trimmed topic.name
  type : Trimmed topic.type
  bracket : '[' ∉ topic.type.toList

/-- The name is read as in `_extract_topic_info`. -/
theorem extractTopicName_itemText (topic : TopicInfo) :
    extractTopicName (itemText topic) = (extractTopicInfo (itemText topic)).name := by
  have hopening : '[' ∈ (itemText topic).toList := by simp [itemText]
  have hclosing : ']' ∈ (itemText topic).toList := by simp [itemText]
  rw [extractTopicName, if_pos hopening, extractTopicInfo,
    if_neg (not_or.mpr ⟨not_not.mpr hopening, not_not.mpr hclosing⟩)]

/-- **Labels.** Exactly the readable topics are read back from the texts of their rows. -/
theorem extractTopicInfo_itemText_iff {topic : TopicInfo} :
    extractTopicInfo (itemText topic) = topic ↔ Readable topic := by
  constructor
  · intro h
    by_cases hbracket : '[' ∈ topic.type.toList
    · -- what is read as the type stands behind the last bracket, and is shorter
      obtain ⟨after, before, hreverse, hafter⟩ :=
        List.eq_append_cons_of_mem (List.mem_reverse.mpr hbracket)
      have hchars : topic.type.toList = before.reverse ++ '[' :: after.reverse := by
        rw [← List.reverse_reverse topic.type.toList, hreverse]
        simp
      have htext : itemText topic = topic.name ++ " [" ++ String.ofList before.reverse ++ "[" ++
          String.ofList after.reverse ++ "]" := by
        rw [itemText, ← String.toList_inj]
        simp [hchars]
      have hrest : '[' ∉ (String.ofList after.reverse).toList := by
        rw [String.toList_ofList, List.mem_reverse]
        exact hafter
      rw [htext, extractTopicInfo_append hrest] at h
      have htype : strip (String.ofList after.reverse) = topic.type := congrArg TopicInfo.type h
      have hlength := (strip_sublist (String.ofList after.reverse)).length_le
      rw [htype, hchars, String.toList_ofList, List.length_append, List.length_cons] at hlength
      omega
    · rw [itemText_eq, extractTopicInfo_append hbracket, strip_concat_space] at h
      exact ⟨strip_eq_self_iff.mp (congrArg TopicInfo.name h),
        strip_eq_self_iff.mp (congrArg TopicInfo.type h), hbracket⟩
  · rintro ⟨hname, htype, hbracket⟩
    exact extractTopicInfo_itemText (strip_eq_self_iff.mpr hname) (strip_eq_self_iff.mpr htype)
      hbracket

instance decidableReadable (topic : TopicInfo) : Decidable (Readable topic) :=
  decidable_of_iff _ extractTopicInfo_itemText_iff

/-! ### The list -/

/-- A row of the list: its text, and whether it has the colors of a saved topic. -/
structure Item where
  text : String
  saved : Bool := false
deriving DecidableEq, Repr

/-- What `IntrospectionPlugin` keeps of the topics, and its list. -/
structure IntrospectionPlugin where
  allTopics : List TopicInfo := []
  savedTopics : Finset String := ∅
  filterText : String := ""
  topicList : List Item := []

variable (lower : String → String)

/-- The test of `filter_topics`, with `str.lower`. -/
def matchesFilter (filterText : String) (topic : TopicInfo) : Bool :=
  (lower filterText).toList <:+: (lower topic.name).toList ||
    (lower filterText).toList <:+: (lower topic.type).toList

namespace IntrospectionPlugin

/-- The topics that match the filter, in the order of their rows. -/
def shownTopics (plugin : IntrospectionPlugin) : List TopicInfo :=
  plugin.allTopics.filter (matchesFilter lower plugin.filterText)

/-- `filter_topics`. -/
def filterTopics (plugin : IntrospectionPlugin) : IntrospectionPlugin :=
  { plugin with
    topicList := (plugin.shownTopics lower).map fun topic =>
      { text := itemText topic, saved := topic.name ∈ plugin.savedTopics } }

/-- `_on_get_topics_response`. -/
def onGetTopicsResponse (plugin : IntrospectionPlugin) (topics : List TopicInfo) :
    IntrospectionPlugin :=
  filterTopics lower { plugin with allTopics := topics }

/-- A change of `filter_edit`, which `filter_topics` is connected to. -/
def enterFilter (plugin : IntrospectionPlugin) (filterText : String) : IntrospectionPlugin :=
  filterTopics lower { plugin with filterText }

/-- The texts of `selectedItems`, where rows are selected by their numbers. -/
def selectedTexts (plugin : IntrospectionPlugin) (rows : List Nat) : List String :=
  rows.filterMap fun row => plugin.topicList[row]?.map Item.text

/-- The topics whose rows are selected. -/
def pickedTopics (plugin : IntrospectionPlugin) (rows : List Nat) : List TopicInfo :=
  rows.filterMap fun row => (plugin.shownTopics lower)[row]?

/-- What `handle_save_selection` does once the file is written: it marks every row with the text of
a selected one. -/
def markSaved (plugin : IntrospectionPlugin) (rows : List Nat) : IntrospectionPlugin :=
  let texts := plugin.selectedTexts rows
  { plugin with
    topicList := plugin.topicList.map fun item =>
      if item.text ∈ texts then { item with saved := true } else item
    savedTopics := plugin.savedTopics ∪
      ((plugin.topicList.filter (·.text ∈ texts)).map (extractTopicName ·.text)).toFinset }

/-- `handle_unselect_saved`, for one of the selected rows. -/
def unselectRow (plugin : IntrospectionPlugin) (row : Nat) : IntrospectionPlugin :=
  match plugin.topicList[row]? with
  | some item =>
    if item.saved then
      { plugin with
        topicList := plugin.topicList.set row { item with saved := false }
        savedTopics := plugin.savedTopics.erase (extractTopicName item.text) }
    else plugin
  | none => plugin

/-- What a user and the nodes do to the list. A save is one whose dialog was accepted and whose file
was written; nothing changes in the others. -/
inductive Action
  | updateTopics (topics : List TopicInfo)
  | enterFilter (filterText : String)
  | save (rows : List Nat)
  | unselectSaved (rows : List Nat)

def step (plugin : IntrospectionPlugin) : Action → IntrospectionPlugin
  | .updateTopics topics => plugin.onGetTopicsResponse lower topics
  | .enterFilter filterText => plugin.enterFilter lower filterText
  | .save rows => plugin.markSaved rows
  | .unselectSaved rows => rows.foldl unselectRow plugin

def run (plugin : IntrospectionPlugin) (actions : List Action) : IntrospectionPlugin :=
  actions.foldl (step lower) plugin

/-! ### The rows -/

/-- The rows are those of the topics that match the filter. -/
def ShowsTopics (plugin : IntrospectionPlugin) : Prop :=
  plugin.topicList.map Item.text = (plugin.shownTopics lower).map itemText

variable {lower} {plugin : IntrospectionPlugin}

theorem showsTopics_filterTopics (plugin : IntrospectionPlugin) :
    (plugin.filterTopics lower).ShowsTopics lower := by
  rw [ShowsTopics, filterTopics, List.map_map]
  rfl

theorem ShowsTopics.markSaved (h : plugin.ShowsTopics lower) (rows : List Nat) :
    (plugin.markSaved rows).ShowsTopics lower := by
  rw [ShowsTopics, IntrospectionPlugin.markSaved, List.map_map]
  refine Eq.trans (List.map_congr_left fun item _ => ?_) h
  rw [Function.comp_apply]
  split <;> rfl

theorem ShowsTopics.unselectRow (h : plugin.ShowsTopics lower) (row : Nat) :
    (plugin.unselectRow row).ShowsTopics lower := by
  unfold IntrospectionPlugin.unselectRow
  split
  next item hitem =>
    split
    · obtain ⟨hlt, rfl⟩ := List.getElem?_eq_some_iff.mp hitem
      refine Eq.trans ?_ h
      rw [List.map_set, ← List.getElem_map Item.text (h := by simpa using hlt)]
      exact List.set_getElem_self _
    · exact h
  next => exact h

theorem ShowsTopics.step (h : plugin.ShowsTopics lower) (action : Action) :
    (plugin.step lower action).ShowsTopics lower := by
  cases action with
  | updateTopics topics => exact showsTopics_filterTopics _
  | enterFilter filterText => exact showsTopics_filterTopics _
  | save rows => exact h.markSaved rows
  | unselectSaved rows =>
    rw [IntrospectionPlugin.step]
    induction rows generalizing plugin with
    | nil => exact h
    | cons row rows ih => exact ih (h.unselectRow row)

/-- **Rows.** Whatever happened to the list, its rows are those of the topics that match the
filter. -/
theorem ShowsTopics.run (h : plugin.ShowsTopics lower) (actions : List Action) :
    (plugin.run lower actions).ShowsTopics lower := by
  induction actions generalizing plugin with
  | nil => exact h
  | cons action actions ih => exact ih (h.step action)

theorem showsTopics_initial : ({} : IntrospectionPlugin).ShowsTopics lower :=
  rfl

/-- The selected texts are those of the picked topics. -/
theorem ShowsTopics.selectedTexts (h : plugin.ShowsTopics lower) (rows : List Nat) :
    plugin.selectedTexts rows = (plugin.pickedTopics lower rows).map itemText := by
  have hrow : ∀ row : Nat, plugin.topicList[row]?.map Item.text =
      (plugin.shownTopics lower)[row]?.map itemText := by
    intro row
    rw [← List.getElem?_map, h, List.getElem?_map]
  rw [IntrospectionPlugin.selectedTexts, pickedTopics, List.map_filterMap]
  simp only [hrow]

theorem mem_shownTopics_of_mem_pickedTopics {rows : List Nat} {topic : TopicInfo}
    (h : topic ∈ plugin.pickedTopics lower rows) : topic ∈ plugin.shownTopics lower := by
  obtain ⟨row, -, hrow⟩ := List.mem_filterMap.mp h
  exact List.mem_of_getElem? hrow

/-! ### Readable topics -/

theorem allTopics_unselectRow (plugin : IntrospectionPlugin) (row : Nat) :
    (plugin.unselectRow row).allTopics = plugin.allTopics := by
  unfold unselectRow
  split
  · split <;> rfl
  · rfl

theorem allTopics_foldl_unselectRow (plugin : IntrospectionPlugin) (rows : List Nat) :
    (rows.foldl unselectRow plugin).allTopics = plugin.allTopics := by
  induction rows generalizing plugin with
  | nil => rfl
  | cons row rows ih => exact (ih _).trans (plugin.allTopics_unselectRow row)

/-- The topics in the list are readable as long as those are that it is updated with. -/
theorem readable_run {actions : List Action} (h : ∀ topic ∈ plugin.allTopics, Readable topic)
    (hactions : ∀ topics, .updateTopics topics ∈ actions → ∀ topic ∈ topics, Readable topic) :
    ∀ topic ∈ (plugin.run lower actions).allTopics, Readable topic := by
  induction actions generalizing plugin with
  | nil => exact h
  | cons action actions ih =>
    have hstep : ∀ topic ∈ (plugin.step lower action).allTopics, Readable topic := by
      cases action with
      | updateTopics topics => exact hactions topics List.mem_cons_self
      | enterFilter filterText => exact h
      | save rows => exact h
      | unselectSaved rows =>
        rw [step, allTopics_foldl_unselectRow]
        exact h
    exact ih hstep fun topics htopics => hactions topics (List.mem_cons_of_mem _ htopics)

theorem readable_of_mem_pickedTopics (h : ∀ topic ∈ plugin.allTopics, Readable topic)
    {rows : List Nat} : ∀ topic ∈ plugin.pickedTopics lower rows, Readable topic :=
  fun topic htopic =>
    h topic (List.mem_of_mem_filter (mem_shownTopics_of_mem_pickedTopics htopic))

/-! ### Selections -/

/-- A topic as `handle_apply_selection` requests it: the dispatcher infers a type that is not
known. -/
def requestedTopic (lower : String → String) (topic : TopicInfo) : TopicInfo where
  name := topic.name
  type :=
    if topic.type ≠ "" ∧ lower topic.type ∉ ["unknown", "unknown_type"] then topic.type else ""

/-- The topics of the request that `handle_apply_selection` sends, if it sends one. -/
def handleApplySelection (lower : String → String) (plugin : IntrospectionPlugin)
    (rows : List Nat) (available : Bool) : Option (List TopicInfo) :=
  let texts := plugin.selectedTexts rows
  if texts.isEmpty then none
  else if available then some (texts.map fun text => requestedTopic lower (extractTopicInfo text))
  else none

/-- An entry of a saved configuration is of a topic. -/
def IsEntryOf (topic : TopicInfo) (entry : PyValue) : Prop :=
  ∃ tools, entry = .dict (("topic_name", .str topic.name) :: ("msg_type", .str topic.type) :: tools)

/-- What is read from the selected rows are the picked topics. -/
theorem map_extractTopicInfo_selectedTexts (hshows : plugin.ShowsTopics lower)
    (h : ∀ topic ∈ plugin.allTopics, Readable topic) (rows : List Nat) :
    (plugin.selectedTexts rows).map extractTopicInfo = plugin.pickedTopics lower rows := by
  rw [hshows.selectedTexts, List.map_map]
  refine (List.map_congr_left fun topic htopic => ?_).trans (List.map_id _)
  exact extractTopicInfo_itemText_iff.mpr (readable_of_mem_pickedTopics h topic htopic)

/-- Rows that show picked topics are selected. -/
theorem isEmpty_selectedTexts (hshows : plugin.ShowsTopics lower) {rows : List Nat}
    (hpicked : plugin.pickedTopics lower rows ≠ []) :
    ¬(plugin.selectedTexts rows).isEmpty = true := by
  rw [hshows.selectedTexts, List.isEmpty_iff, List.map_eq_nil_iff]
  exact hpicked

/-- An applied selection is of the picked topics. -/
theorem handleApplySelection_eq (hshows : plugin.ShowsTopics lower)
    (h : ∀ topic ∈ plugin.allTopics, Readable topic) {rows : List Nat}
    (hpicked : plugin.pickedTopics lower rows ≠ []) :
    plugin.handleApplySelection lower rows true =
      some ((plugin.pickedTopics lower rows).map (requestedTopic lower)) := by
  rw [handleApplySelection, if_neg (isEmpty_selectedTexts hshows hpicked), if_pos rfl,
    ← map_extractTopicInfo_selectedTexts hshows h, List.map_map]
  rfl

theorem isEntryOf_configEntry (python : Python) (topic : TopicInfo) (config : ToolConfig) :
    IsEntryOf topic (configEntry python topic config) := by
  unfold configEntry
  split
  · exact ⟨_, rfl⟩
  · exact ⟨[], rfl⟩

/-- A configuration has an entry for each row of its dialog. -/
theorem getConfig_entries (python : Python) (dialog : Dialog) :
    ∃ entries, dialog.getConfig python = .list entries ∧
      List.Forall₂ IsEntryOf (dialog.rows.map Row.topic) entries := by
  refine ⟨_, rfl, ?_⟩
  rw [List.forall₂_map_right_iff, List.forall₂_map_left_iff, List.forall₂_same]
  exact fun row _ => isEntryOf_configEntry python row.topic _

/-- A saved selection is of the picked topics, whatever the user does with the dialog. -/
theorem handleSaveSelection_entries (python : Python) (hshows : plugin.ShowsTopics lower)
    (h : ∀ topic ∈ plugin.allTopics, Readable topic) {rows : List Nat}
    (hpicked : plugin.pickedTopics lower rows ≠ []) (actions : List Gui.Action) :
    ∃ entries, handleSaveSelection python (plugin.selectedTexts rows) actions =
        some (.list entries) ∧
      List.Forall₂ IsEntryOf (plugin.pickedTopics lower rows) entries := by
  obtain ⟨entries, hconfig, hentries⟩ :=
    getConfig_entries python ((Dialog.init (plugin.pickedTopics lower rows)).run actions)
  rw [Dialog.map_topic_run_init] at hentries
  rw [handleSaveSelection, if_neg (isEmpty_selectedTexts hshows hpicked),
    map_extractTopicInfo_selectedTexts hshows h, hconfig]
  exact ⟨entries, rfl, hentries⟩

/-- A save remembers the names of the picked topics. -/
theorem savedTopics_markSaved (hshows : plugin.ShowsTopics lower)
    (h : ∀ topic ∈ plugin.allTopics, Readable topic) (rows : List Nat) :
    (plugin.markSaved rows).savedTopics = plugin.savedTopics ∪
      ((plugin.pickedTopics lower rows).map TopicInfo.name).toFinset := by
  have hname : ∀ topic ∈ plugin.pickedTopics lower rows,
      extractTopicName (itemText topic) = topic.name := by
    intro topic htopic
    rw [extractTopicName_itemText,
      extractTopicInfo_itemText_iff.mpr (readable_of_mem_pickedTopics h topic htopic)]
  have htexts := hshows.selectedTexts rows
  rw [markSaved]
  refine congrArg (plugin.savedTopics ∪ ·) (Finset.ext fun name => ?_)
  rw [List.mem_toFinset, List.mem_toFinset, List.mem_map, List.mem_map]
  constructor
  · rintro ⟨item, hitem, rfl⟩
    obtain ⟨-, hselected⟩ := List.mem_filter.mp hitem
    rw [decide_eq_true_iff, htexts] at hselected
    obtain ⟨topic, htopic, htext⟩ := List.mem_map.mp hselected
    exact ⟨topic, htopic, by rw [← htext, hname topic htopic]⟩
  · rintro ⟨topic, htopic, rfl⟩
    have htext : itemText topic ∈ plugin.topicList.map Item.text := by
      rw [hshows]
      exact List.mem_map_of_mem (mem_shownTopics_of_mem_pickedTopics htopic)
    obtain ⟨item, hitem, htext⟩ := List.mem_map.mp htext
    refine ⟨item, List.mem_filter.mpr ⟨hitem, ?_⟩, by rw [htext, hname topic htopic]⟩
    rw [decide_eq_true_iff, htexts, htext]
    exact List.mem_map_of_mem htopic

end IntrospectionPlugin

open IntrospectionPlugin in
/-- **Labels of topics.** A name and a type without whitespace at their ends, the type without an
opening bracket, are read back from the text of their row. So after anything that happened to a
list of such topics, the applied request, the saved configuration and the remembered names are
those of the topics whose rows are selected. -/
theorem selection_names_picked (lower : String → String) (python : Python) :
    (∀ topic : TopicInfo, Readable topic →
      extractTopicInfo (itemText topic) = topic ∧
      extractTopicName (itemText topic) = topic.name) ∧
    ∀ actions, (∀ topics, .updateTopics topics ∈ actions → ∀ topic ∈ topics, Readable topic) →
      ∀ plugin, ({} : IntrospectionPlugin).run lower actions = plugin →
      ∀ rows picked, plugin.pickedTopics lower rows = picked → picked ≠ [] →
        (∃ request, plugin.handleApplySelection lower rows true = some request ∧
          request.map TopicInfo.name = picked.map TopicInfo.name) ∧
        (∀ dialog, ∃ entries,
          handleSaveSelection python (plugin.selectedTexts rows) dialog = some (.list entries) ∧
          List.Forall₂ IsEntryOf picked entries) ∧
        (plugin.markSaved rows).savedTopics =
          plugin.savedTopics ∪ (picked.map TopicInfo.name).toFinset := by
  constructor
  · intro topic h
    have hinfo := extractTopicInfo_itemText_iff.mpr h
    exact ⟨hinfo, by rw [extractTopicName_itemText, hinfo]⟩
  · rintro actions hactions plugin rfl rows picked rfl hpicked
    have hshows : (({} : IntrospectionPlugin).run lower actions).ShowsTopics lower :=
      showsTopics_initial.run actions
    have hreadable : ∀ topic ∈ (({} : IntrospectionPlugin).run lower actions).allTopics,
        Readable topic :=
      readable_run (fun _ htopic => absurd htopic List.not_mem_nil) hactions
    refine ⟨⟨_, handleApplySelection_eq hshows hreadable hpicked, ?_⟩,
      handleSaveSelection_entries python hshows hreadable hpicked,
      savedTopics_markSaved hshows hreadable rows⟩
    rw [List.map_map]
    rfl

/-- A name with brackets and spaces in it. -/
def rawScan : TopicInfo :=
  ⟨"/scan [raw] 1", "sensor_msgs/msg/LaserScan"⟩

theorem selection_names_picked_rawScan :
    (extractTopicInfo (itemText rawScan) = rawScan ∧
      extractTopicName (itemText rawScan) = "/scan [raw] 1") ∧
    ∃ request, (({} : IntrospectionPlugin).run String.toLower
        [.updateTopics [⟨"/odom", "nav_msgs/msg/Odometry"⟩, rawScan],
          .enterFilter "Scan"]).handleApplySelection String.toLower [0] true = some request ∧
      request.map TopicInfo.name = ["/scan [raw] 1"] := by
  have hreadable : ∀ topics, IntrospectionPlugin.Action.updateTopics topics ∈
      [.updateTopics [⟨"/odom", "nav_msgs/msg/Odometry"⟩, rawScan], .enterFilter "Scan"] →
      ∀ topic ∈ topics, Readable topic := by
    intro topics htopics
    obtain rfl : topics = [⟨"/odom", "nav_msgs/msg/Odometry"⟩, rawScan] := by
      simpa using htopics
    decide +kernel
  have hpicked := (selection_names_picked String.toLower scanPython).2 _ hreadable _ rfl [0]
    [rawScan] (by decide +kernel) (by decide)
  exact ⟨(selection_names_picked String.toLower scanPython).1 rawScan (by decide +kernel),
    hpicked.1⟩

end Ros2Dispatcher.Gui
