import Mathlib.Data.List.DropRight
import Mathlib.Logic.Function.Basic
import Ros2Dispatcher.Controller.SelectionFile
import Ros2Dispatcher.Records.RosNames

/-!
# Selections saved from the GUI

The GUI saves the selected topics with `TopicToolsDialog`, a table with a row for each of them
where the user chooses a tool and enters its parameters. What the rows say goes through
`tool_configs`, which has one entry for each topic and not for each row, and `get_config` makes
of it the list that is written as YAML and that the dispatcher loads as a selection file.

* `handleSaveSelection_topics`: the loader takes the file, and reads the selected topics from it.
* `loadFileSelection_of_distinct`: the rows of different topics keep their tools.
* `getConfig_loads_iff`: a file gives what its rows say exactly if no row has a tool, since the
  output topic of a tool has an empty segment.
-/

namespace Ros2Dispatcher.Gui

/-! ### Python -/

/-- `str.isspace`, of one character. -/
def isSpace (c : Char) : Bool :=
  c.toNat ∈ List.range' 0x09 5 ++ List.range' 0x1C 5 ++ List.range' 0x2000 11 ++
    [0x85, 0xA0, 0x1680, 0x2028, 0x2029, 0x202F, 0x205F, 0x3000]

/-- `str.strip`. -/
def strip (text : String) : String :=
  String.ofList ((text.toList.dropWhile isSpace).rdropWhile isSpace)

/-- A number, where a float is kept as its bit pattern. -/
inductive PyNumber
  | int (value : Int)
  | float (bits : UInt64)
deriving DecidableEq, Repr

/-- The values of a configuration. -/
inductive PyValue
  | str (text : String)
  | number (value : PyNumber)
  | list (items : List PyValue)
  | dict (entries : List (String × PyValue))

/-- What `float` and `int` make of a text; `none` is a `ValueError`. -/
structure Python where
  float : String → Option UInt64
  int : String → Option Int

mutual

/-- The YAML document of a value, with the texts of its numbers. -/
def PyValue.document (text : PyNumber → String) : PyValue → Yaml
  | .str value => .scalar value
  | .number value => .scalar (text value)
  | .list items => .sequence (documents text items)
  | .dict entries => .map (entryDocuments text entries)

def documents (text : PyNumber → String) : List PyValue → List Yaml
  | [] => []
  | item :: items => item.document text :: documents text items

def entryDocuments (text : PyNumber → String) : List (String × PyValue) → List (Yaml × Yaml)
  | [] => []
  | (key, value) :: entries => (.scalar key, value.document text) :: entryDocuments text entries

end

/-- The YAML libraries at the two ends of a file: `yaml.dump`, the text it writes for a number,
and `YAML::LoadFile` on what was written. -/
structure YamlFiles where
  dump : PyValue → String
  text : PyNumber → String
  loadFile : String → Except String Yaml

/-! ### The list of topics -/

/-- The item of a topic in the list. -/
def itemText (topic : TopicInfo) : String :=
  topic.name ++ " [" ++ topic.type ++ "]"

/-- `str.rfind`, for a character that is there. -/
def rfind (c : Char) (chars : List Char) : Nat :=
  chars.length - 1 - chars.reverse.idxOf c

/-- `_extract_topic_info`. -/
def extractTopicInfo (item : String) : TopicInfo :=
  let chars := item.toList
  if '[' ∉ chars ∨ ']' ∉ chars then ⟨strip item, "unknown"⟩
  else
    ⟨strip (String.ofList (chars.take (rfind '[' chars))),
      strip (String.ofList ((chars.take (rfind ']' chars)).drop (rfind '[' chars + 1)))⟩

theorem rfind_append_cons {c : Char} {before after : List Char} (h : c ∉ after) :
    rfind c (before ++ c :: after) = before.length := by
  have hindex : (before ++ c :: after).reverse.idxOf c = after.length := by
    rw [List.reverse_append, List.reverse_cons, List.append_assoc,
      List.idxOf_append_of_notMem (by simpa using h)]
    simp
  rw [rfind, hindex, List.length_append, List.length_cons]
  omega

/-- A space at the end is dropped. -/
theorem strip_concat_space (text : String) : strip (text ++ " ") = strip text := by
  have hspace : isSpace ' ' = true := by decide
  rw [strip, strip, String.toList_append]
  change String.ofList ((List.dropWhile isSpace (text.toList ++ [' '])).rdropWhile isSpace) = _
  rw [List.dropWhile_append]
  split
  next hempty => simp [List.isEmpty_iff.mp hempty, hspace]
  next => rw [List.rdropWhile_concat_pos isSpace _ _ hspace]

/-- Text without spaces is kept. -/
theorem strip_eq_self {text : String} (h : ∀ c ∈ text.toList, isSpace c = false) :
    strip text = text := by
  have hstart : text.toList.dropWhile isSpace = text.toList := by
    rw [List.dropWhile_eq_self_iff]
    intro hlt
    simp [h _ (List.getElem_mem hlt)]
  have hend : text.toList.rdropWhile isSpace = text.toList := by
    rw [List.rdropWhile_eq_self_iff]
    intro hne
    simp [h _ (List.getLast_mem hne)]
  rw [strip, hstart, hend, String.ofList_toList]

/-- The letters of names are between `0` and `z`. -/
theorem toNat_of_isNameChar {c : Char} (h : isNameChar c = true) :
    0x30 ≤ c.toNat ∧ c.toNat ≤ 0x7A := by
  have hbetween : ∀ {first last : Char}, 0x30 ≤ first.toNat → last.toNat ≤ 0x7A →
      first.val ≤ c.val → c.val ≤ last.val → 0x30 ≤ c.toNat ∧ c.toNat ≤ 0x7A :=
    fun hfirst hlast hmin hmax =>
      ⟨hfirst.trans (UInt32.le_iff_toNat_le.mp hmin), (UInt32.le_iff_toNat_le.mp hmax).trans hlast⟩
  rcases Bool.or_eq_true_iff.mp h with halphanum | hunderscore
  · rcases Bool.or_eq_true_iff.mp halphanum with halpha | hdigit
    · rcases Bool.or_eq_true_iff.mp halpha with hupper | hlower
      · obtain ⟨hmin, hmax⟩ := of_decide_eq_true hupper
        exact hbetween (by decide) (by decide) hmin hmax
      · obtain ⟨hmin, hmax⟩ := Bool.and_eq_true_iff.mp hlower
        exact hbetween (by decide) (by decide) (of_decide_eq_true hmin) (of_decide_eq_true hmax)
    · obtain ⟨hmin, hmax⟩ := Bool.and_eq_true_iff.mp hdigit
      exact hbetween (by decide) (by decide) (of_decide_eq_true hmin) (of_decide_eq_true hmax)
  · rw [of_decide_eq_true hunderscore]
    decide

/-- There are no spaces in the name of a topic. -/
theorem strip_of_isFullTopicName {name : String} (h : isFullTopicName name = true) :
    strip name = name := by
  refine strip_eq_self fun c hc => ?_
  rw [isSpace, decide_eq_false_iff_not]
  intro hspace
  rcases eq_or_isNameChar_of_mem h hc with rfl | hletter
  · exact absurd hspace (by decide)
  · have hrange := toNat_of_isNameChar hletter
    simp only [List.mem_append, List.mem_range'_1, List.mem_cons, List.not_mem_nil,
      or_false] at hspace
    omega

/-- The last brackets are found. -/
theorem extractTopicInfo_append {start rest : String} (h : '[' ∉ rest.toList) :
    extractTopicInfo (start ++ "[" ++ rest ++ "]") = ⟨strip start, strip rest⟩ := by
  have hopening : (start ++ "[" ++ rest ++ "]").toList =
      start.toList ++ '[' :: (rest.toList ++ [']']) := by
    simp
  have hclosing : (start ++ "[" ++ rest ++ "]").toList =
      (start.toList ++ '[' :: rest.toList) ++ ']' :: [] := by
    simp
  have hfirst : rfind '[' (start ++ "[" ++ rest ++ "]").toList = start.toList.length := by
    rw [hopening, rfind_append_cons (by simp [h])]
  have hlast : rfind ']' (start ++ "[" ++ rest ++ "]").toList =
      (start.toList ++ '[' :: rest.toList).length := by
    rw [hclosing, rfind_append_cons (by simp)]
  have hname : (start ++ "[" ++ rest ++ "]").toList.take
      (rfind '[' (start ++ "[" ++ rest ++ "]").toList) = start.toList := by
    rw [hfirst, hopening, List.take_left]
  have htype : ((start ++ "[" ++ rest ++ "]").toList.take
      (rfind ']' (start ++ "[" ++ rest ++ "]").toList)).drop
        (rfind '[' (start ++ "[" ++ rest ++ "]").toList + 1) = rest.toList := by
    rw [hlast, hfirst, hclosing, List.take_left, ← List.drop_drop, List.drop_left]
    rfl
  have hthere : ¬('[' ∉ (start ++ "[" ++ rest ++ "]").toList ∨
      ']' ∉ (start ++ "[" ++ rest ++ "]").toList) := by
    simp [hopening]
  rw [extractTopicInfo, if_neg hthere, hname, htype, String.ofList_toList, String.ofList_toList]

/-- The text of a row ends in its name and a space, before the last brackets. -/
theorem itemText_eq (topic : TopicInfo) :
    itemText topic = topic.name ++ " " ++ "[" ++ topic.type ++ "]" := by
  have hspace : topic.name ++ " [" = topic.name ++ " " ++ "[" := by
    rw [String.append_assoc]
    rfl
  rw [itemText, hspace]

/-- The list gives back a topic whose type has no bracket and no spaces at its ends. -/
theorem extractTopicInfo_itemText {topic : TopicInfo} (hname : strip topic.name = topic.name)
    (htype : strip topic.type = topic.type) (hbracket : '[' ∉ topic.type.toList) :
    extractTopicInfo (itemText topic) = topic := by
  rw [itemText_eq, extractTopicInfo_append hbracket, strip_concat_space, hname, htype]

/-! ### The dialog -/

/-- The items of a tool combo. -/
inductive Tool
  | none
  | throttle
  | drop
  | delay
deriving DecidableEq, Repr

namespace Tool

def text : Tool → String
  | none => "None"
  | throttle => "Throttle"
  | drop => "Drop"
  | delay => "Delay"

/-- The parameters table of a tool: the names, and the texts it begins with. -/
def fields : Tool → List (String × String)
  | none => []
  | throttle => [("period", "0.05")]
  | drop => [("x", "1"), ("y", "2")]
  | delay => [("delay", "1.0")]

def plugin (tool : Tool) : String :=
  "topic_tools::" ++ tool.text ++ "Node"

def outputTopic (tool : Tool) (topicName : String) : String :=
  "/" ++ tool.text.toLower ++ "/" ++ topicName

end Tool

/-- A row of the table: its topic, the tool in its combo, and a text for each parameter. -/
structure Row where
  topic : TopicInfo
  tool : Tool := .none
  texts : List String := []
  length_texts : texts.length = tool.fields.length := by rfl

/-- The parameters of a row, as `get_config` reads them. -/
def Row.params (row : Row) : List (String × String) :=
  (row.tool.fields.map Prod.fst).zip (row.texts.map strip)

/-- An entry of `tool_configs`. -/
structure ToolConfig where
  tool : Tool := .none
  params : List (String × String) := []
deriving DecidableEq, Repr

/-- `TopicToolsDialog`; `toolConfigs` is never looked at for other topics than those of the
rows. -/
structure Dialog where
  rows : List Row
  toolConfigs : String → ToolConfig

/-- `__init__`. -/
def Dialog.init (topics : List TopicInfo) : Dialog where
  rows := topics.map fun topic => { topic }
  toolConfigs _ := {}

/-- Another tool in a combo comes with its own table. -/
def Row.changeTool (row : Row) (tool : Tool) : Row where
  topic := row.topic
  tool := tool
  texts := tool.fields.map Prod.snd
  length_texts := List.length_map Prod.snd

/-- `_on_tool_changed`. -/
def Dialog.onToolChanged (dialog : Dialog) (row : Nat) (tool : Tool) : Dialog where
  rows := dialog.rows.modify row (·.changeTool tool)
  toolConfigs :=
    match dialog.rows[row]? with
    | some { topic, .. } => Function.update dialog.toolConfigs topic.name { tool }
    | none => dialog.toolConfigs

/-- What a user does with the dialog. -/
inductive Action
  | chooseTool (row : Nat) (tool : Tool)
  | enterText (row field : Nat) (text : String)

def Row.enterText (row : Row) (field : Nat) (text : String) : Row where
  topic := row.topic
  tool := row.tool
  texts := row.texts.set field text
  length_texts := by rw [List.length_set, row.length_texts]

/-- A combo signals only another text than it has. -/
def Dialog.step (dialog : Dialog) : Action → Dialog
  | .chooseTool row tool =>
    if dialog.rows[row]?.map Row.tool = some tool then dialog else dialog.onToolChanged row tool
  | .enterText row field text =>
    { dialog with rows := dialog.rows.modify row (·.enterText field text) }

/-- The dialog after some actions of the user. -/
def Dialog.run (dialog : Dialog) (actions : List Action) : Dialog :=
  actions.foldl Dialog.step dialog

/-- The parameters of a topic are those of its last row. -/
def updateParams (toolConfigs : String → ToolConfig) (row : Row) : String → ToolConfig :=
  Function.update toolConfigs row.topic.name
    { toolConfigs row.topic.name with params := row.params }

/-- `tool_configs` after the loop over the rows. -/
def Dialog.updatedConfigs (dialog : Dialog) : String → ToolConfig :=
  dialog.rows.foldl updateParams dialog.toolConfigs

/-! ### The configuration -/

variable (python : Python)

/-- `params_dict.get`. -/
def getParam (params : List (String × String)) (name default : String) : String :=
  (params.lookup name).getD default

/-- `_parse_params`. -/
def parseParams (params : List (String × String)) : Tool → List (String × PyNumber)
  | .throttle =>
    match python.float (getParam params "period" "1.0") with
    | some period => [("period", .float period)]
    | none => [("period", .float 0x3FF0000000000000)]
  | .drop =>
    match python.int (getParam params "x" "1"), python.int (getParam params "y" "2") with
    | some x, some y => [("x", .int x), ("y", .int y)]
    | _, _ => [("x", .int 1), ("y", .int 2)]
  | .delay =>
    match python.float (getParam params "delay" "1.0") with
    | some delay => [("delay", .float delay)]
    | none => [("delay", .float 0x3FF0000000000000)]
  | .none => []

/-- The parameters of a tool as a configuration has them. -/
def paramEntries (params : List (String × PyNumber)) : List (String × PyValue) :=
  params.map fun param => (param.1, .number param.2)

/-- The `topic_tools` of a topic. -/
def toolEntries (config : ToolConfig) (topicName : String) : List (String × PyValue) :=
  [("plugin", .str config.tool.plugin),
   ("output_topic", .str (config.tool.outputTopic topicName)),
   ("parameters", .dict (paramEntries (parseParams python config.params config.tool)))]

/-- A topic gets a tool only if there are parameters for it. -/
def ToolConfig.HasTool (config : ToolConfig) : Prop :=
  config.tool ≠ .none ∧ config.params ≠ []

instance ToolConfig.decidableHasTool (config : ToolConfig) : Decidable config.HasTool :=
  inferInstanceAs (Decidable (_ ∧ _))

/-- The entry of a topic. -/
def configEntry (topic : TopicInfo) (config : ToolConfig) : PyValue :=
  let entry := [("topic_name", .str topic.name), ("msg_type", .str topic.type)]
  if config.HasTool then
    .dict (entry ++ [("topic_tools", .dict (toolEntries python config topic.name))])
  else .dict entry

/-- `get_config`. -/
def Dialog.getConfig (dialog : Dialog) : PyValue :=
  -- rows of one topic share its entry of `tool_configs`
  .list (dialog.rows.map fun row =>
    configEntry python row.topic (dialog.updatedConfigs row.topic.name))

/-- `handle_save_selection`, on the selected items and what the user does with the dialog. -/
def handleSaveSelection (items : List String) (actions : List Action) : Option PyValue :=
  if items.isEmpty then none
  else some (((Dialog.init (items.map extractTopicInfo)).run actions).getConfig python)

/-! ### What the loader makes of it -/

section Loading

variable (cpp : YamlCpp) (text : PyNumber → String)

/-- What a parameter is loaded as whose value is a scalar. -/
def scalarValue (scalar : String) : ParameterValue :=
  match cpp.asBool scalar, cpp.asInt64 scalar, cpp.asDouble scalar with
  | some value, _, _ => .bool value
  | none, some value, _ => .integer value
  | none, none, some value => .double value
  | none, none, none => .string scalar

theorem parseParameterValue_scalar (name scalar : String) :
    parseParameterValue cpp name (.scalar scalar) = .ok ⟨name, scalarValue cpp scalar⟩ := by
  unfold parseParameterValue scalarValue
  dsimp only
  cases cpp.asBool scalar with
  | some value => rfl
  | none =>
    cases cpp.asInt64 scalar with
    | some value => rfl
    | none => cases cpp.asDouble scalar <;> rfl

/-- Parameters with the names of a tool's, of which none is renamed. -/
theorem mapThrottleRate_eq {parameters : List Parameter}
    (h : ∀ p ∈ parameters, p.name ≠ "throttle_type") : mapThrottleRate parameters = parameters := by
  have hnone : parameters.find? (fun p => p.name = "throttle_type") = none := by
    simpa using h
  rw [mapThrottleRate, hnone]

theorem parseParams_ne_throttle_type (params : List (String × String)) (tool : Tool) :
    ∀ p ∈ parseParams python params tool, p.1 ≠ "throttle_type" := by
  unfold parseParams
  split
  · split <;> simp
  · split <;> simp
  · split <;> simp
  · simp

/-- The parameters that are loaded for those of a tool. -/
def loadedParameters (params : List (String × PyNumber)) : List Parameter :=
  params.map fun param => ⟨param.1, scalarValue cpp (text param.2)⟩

theorem loadParameter_scalar (name scalar : String) :
    loadParameter cpp (.scalar name, .scalar scalar) = .ok ⟨name, scalarValue cpp scalar⟩ :=
  parseParameterValue_scalar cpp name scalar

theorem mapM_loadParameter (params : List (String × PyNumber)) :
    (entryDocuments text (paramEntries params)).mapM (loadParameter cpp) =
      .ok (loadedParameters cpp text params) := by
  induction params with
  | nil => rfl
  | cons param params ih =>
    rw [paramEntries, List.map_cons, entryDocuments, List.mapM_cons]
    rw [paramEntries] at ih
    rw [ih, PyValue.document, loadParameter_scalar]
    rfl

/-- The tool that is loaded for a topic. -/
def loadedTool (config : ToolConfig) (topicName : String) : TopicToolsConfig where
  enabled := true
  pluginName := config.tool.plugin
  outputTopic := config.tool.outputTopic topicName
  parameters := loadedParameters cpp text (parseParams python config.params config.tool)

/-- The parameters of a tool are loaded under their names. -/
theorem loadParameters_toolEntries (config : ToolConfig) (topicName : String) :
    loadParameters cpp (.map (entryDocuments text (toolEntries python config topicName))) =
      .ok (loadedTool python cpp text config topicName).parameters := by
  have hfield : (Yaml.map (entryDocuments text (toolEntries python config topicName))).field
      "parameters" = .ok (some (.map (entryDocuments text
        (paramEntries (parseParams python config.params config.tool))))) := by
    simp [toolEntries, entryDocuments, PyValue.document, Yaml.field, Yaml.isKey]
  have hnames : ∀ p ∈ loadedParameters cpp text (parseParams python config.params config.tool),
      p.name ≠ "throttle_type" := by
    intro p hp
    obtain ⟨param, hparam, rfl⟩ := List.mem_map.mp hp
    exact parseParams_ne_throttle_type python _ _ param hparam
  rw [loadParameters, hfield]
  simp [bind, Except.bind, pure, Except.pure, mapM_loadParameter, mapThrottleRate_eq hnames,
    loadedTool]

theorem loadTopicTools_toolEntries (config : ToolConfig) (topicName : String) :
    loadTopicTools cpp topicName
        (.map (entryDocuments text (toolEntries python config topicName))) =
      .ok (some (loadedTool python cpp text config topicName)) := by
  have hplugin : config.tool.plugin ≠ "" := by cases config.tool <;> decide
  have hparameters := loadParameters_toolEntries python cpp text config topicName
  simp only [toolEntries, entryDocuments, PyValue.document] at hparameters ⊢
  simp [loadTopicTools, hparameters, Yaml.field, Yaml.isKey, stringFieldOr, Yaml.asString,
    Yaml.stringValue?, Yaml.orThrow, bind, Except.bind, pure, Except.pure, hplugin]
  rfl

/-- What is loaded for a topic. -/
def loadedEntry (topic : TopicInfo) (config : ToolConfig) : TopicSelection where
  topic := topic
  topicTools :=
    if config.HasTool then some (loadedTool python cpp text config topic.name) else none

/-- The loader takes the entry of a topic. -/
theorem loadEntry_configEntry {topic : TopicInfo} (config : ToolConfig) (hname : topic.name ≠ "") :
    loadEntry cpp ((configEntry python topic config).document text) =
      .ok (loadedEntry python cpp text topic config) := by
  unfold configEntry loadedEntry
  by_cases htool : config.HasTool
  · have hload := loadTopicTools_toolEntries python cpp text config topic.name
    rw [if_pos htool, if_pos htool]
    simp [PyValue.document, entryDocuments, loadEntry, stringFieldAlias, Yaml.field, Yaml.isKey,
      Yaml.asString, Yaml.stringValue?, Yaml.orThrow, bind, Except.bind, pure, Except.pure, hname,
      hload]
  · rw [if_neg htool, if_neg htool]
    simp [PyValue.document, entryDocuments, loadEntry, stringFieldAlias, Yaml.field, Yaml.isKey,
      Yaml.asString, Yaml.stringValue?, Yaml.orThrow, bind, Except.bind, pure, Except.pure, hname]

theorem mapM_loadEntry {rows : List Row} (configs : String → ToolConfig)
    (hnames : ∀ row ∈ rows, row.topic.name ≠ "") :
    (documents text (rows.map fun row =>
        configEntry python row.topic (configs row.topic.name))).mapM (loadEntry cpp) =
      .ok (rows.map fun row =>
        loadedEntry python cpp text row.topic (configs row.topic.name)) := by
  induction rows with
  | nil => rfl
  | cons row rows ih =>
    obtain ⟨hname, hnames⟩ := List.forall_mem_cons.mp hnames
    rw [List.map_cons, documents, List.mapM_cons, loadEntry_configEntry python cpp text _ hname,
      ih hnames]
    rfl

/-- **Saved selections.** The loader takes the file of a dialog, with one entry for each row. -/
theorem loadFileSelection_getConfig {dialog : Dialog} {path : String} (hpath : path ≠ "")
    (hnames : ∀ row ∈ dialog.rows, row.topic.name ≠ "") :
    loadFileSelection cpp path (.ok ((dialog.getConfig python).document text)) =
      .ok (dialog.rows.map fun row =>
        loadedEntry python cpp text row.topic (dialog.updatedConfigs row.topic.name)) := by
  have hempty : ¬path.isEmpty = true := fun h => hpath (String.isEmpty_iff.mp h)
  rw [Dialog.getConfig, PyValue.document, loadFileSelection, if_neg hempty]
  exact mapM_loadEntry python cpp text dialog.updatedConfigs hnames

end Loading

/-! ### The tools of the rows -/

/-- The loop over the rows leaves the tools. -/
theorem tool_foldl_updateParams (rows : List Row) (toolConfigs : String → ToolConfig)
    (name : String) :
    (rows.foldl updateParams toolConfigs name).tool = (toolConfigs name).tool := by
  induction rows generalizing toolConfigs with
  | nil => rfl
  | cons row rows ih =>
    rw [List.foldl_cons, ih, updateParams]
    by_cases hname : name = row.topic.name
    · rw [hname, Function.update_self]
    · rw [Function.update_of_ne hname]

/-- A topic has the parameters of one of its rows. -/
theorem exists_params_foldl_updateParams (rows : List Row) (toolConfigs : String → ToolConfig) :
    ∀ row ∈ rows, ∃ last ∈ rows, last.topic.name = row.topic.name ∧
      (rows.foldl updateParams toolConfigs row.topic.name).params = last.params := by
  induction rows using List.reverseRecOn with
  | nil => exact nofun
  | append_singleton rows last ih =>
    intro row hrow
    rw [List.foldl_concat, updateParams]
    by_cases hname : row.topic.name = last.topic.name
    · exact ⟨last, by simp, hname.symm, by rw [hname, Function.update_self]⟩
    · have hrow : row ∈ rows := by
        rcases List.mem_append.mp hrow with hrow | hlast
        · exact hrow
        · exact absurd (by rw [List.mem_singleton.mp hlast]) hname
      obtain ⟨other, hother, hsame, hparams⟩ := ih row hrow
      exact ⟨other, List.mem_append_left _ hother, hsame,
        by rw [Function.update_of_ne hname, hparams]⟩

/-- A row has as many parameters as its tool. -/
theorem Row.params_eq_nil_iff {row : Row} : row.params = [] ↔ row.tool = .none := by
  obtain ⟨topic, tool, texts, hlength⟩ := row
  have hfields : tool.fields = [] ↔ tool = .none := by cases tool <;> simp [Tool.fields]
  rw [← hfields, ← List.length_eq_zero_iff, ← List.length_eq_zero_iff]
  simp [Row.params, hlength]

/-- Without tools in the rows no topic has one. -/
theorem Dialog.not_hasTool {dialog : Dialog} (h : ∀ row ∈ dialog.rows, row.tool = .none) :
    ∀ row ∈ dialog.rows, ¬(dialog.updatedConfigs row.topic.name).HasTool := by
  intro row hrow hhas
  obtain ⟨last, hlast, -, hparams⟩ :=
    exists_params_foldl_updateParams dialog.rows dialog.toolConfigs row hrow
  have hnil : last.params = [] := Row.params_eq_nil_iff.mpr (h last hlast)
  exact hhas.2 (hparams.trans hnil)

/-! ### The topics of the rows -/

theorem Dialog.map_topic_init (topics : List TopicInfo) :
    (Dialog.init topics).rows.map Row.topic = topics := by
  simp [Dialog.init, Function.comp_def]

/-- A change of one row leaves the topics. -/
theorem map_topic_modify (change : Row → Row) (hchange : ∀ row, (change row).topic = row.topic)
    (rows : List Row) (row : Nat) :
    (rows.modify row change).map Row.topic = rows.map Row.topic := by
  induction rows generalizing row with
  | nil => simp
  | cons first rows ih => cases row <;> simp [hchange, ih]

theorem Dialog.map_topic_step (dialog : Dialog) (action : Action) :
    (dialog.step action).rows.map Row.topic = dialog.rows.map Row.topic := by
  cases action with
  | chooseTool row tool =>
    rw [Dialog.step]
    split
    · rfl
    · exact map_topic_modify (·.changeTool tool) (fun _ => rfl) dialog.rows row
  | enterText row field text =>
    exact map_topic_modify (·.enterText field text) (fun _ => rfl) dialog.rows row

theorem Dialog.map_topic_run (dialog : Dialog) (actions : List Action) :
    (dialog.run actions).rows.map Row.topic = dialog.rows.map Row.topic := by
  induction actions generalizing dialog with
  | nil => rfl
  | cons action actions ih => exact (ih (dialog.step action)).trans (dialog.map_topic_step action)

theorem Dialog.map_topic_run_init (topics : List TopicInfo) (actions : List Action) :
    ((Dialog.init topics).run actions).rows.map Row.topic = topics :=
  (Dialog.map_topic_run _ actions).trans (Dialog.map_topic_init topics)

theorem Dialog.topic_mem_of_mem_run {topics : List TopicInfo} {actions : List Action} {row : Row}
    (hrow : row ∈ ((Dialog.init topics).run actions).rows) : row.topic ∈ topics := by
  rw [← Dialog.map_topic_run_init topics actions]
  exact List.mem_map_of_mem hrow

/-- **Selected topics.** Whatever the user does with the dialog, the loader takes what is saved,
and reads from it the topics that were selected. -/
theorem handleSaveSelection_topics {topics : List TopicInfo} (htopics : topics ≠ [])
    (hnames : ∀ topic ∈ topics, isFullTopicName topic.name = true)
    (htypes : ∀ topic ∈ topics, strip topic.type = topic.type ∧ '[' ∉ topic.type.toList)
    (actions : List Action) {cpp : YamlCpp} {text : PyNumber → String} {path : String}
    (hpath : path ≠ "") :
    ∃ config entries, handleSaveSelection python (topics.map itemText) actions = some config ∧
      loadFileSelection cpp path (.ok (config.document text)) = .ok entries ∧
      entries.map TopicSelection.topic = topics := by
  have hextracted : (topics.map itemText).map extractTopicInfo = topics := by
    rw [List.map_map]
    refine (List.map_congr_left fun topic htopic => ?_).trans topics.map_id
    exact extractTopicInfo_itemText (strip_of_isFullTopicName (hnames topic htopic))
      (htypes topic htopic).1 (htypes topic htopic).2
  have hnonempty : ∀ row ∈ ((Dialog.init topics).run actions).rows, row.topic.name ≠ "" :=
    fun row hrow => ne_empty_of_isFullTopicName (hnames _ (Dialog.topic_mem_of_mem_run hrow))
  have hsave : handleSaveSelection python (topics.map itemText) actions =
      some (((Dialog.init topics).run actions).getConfig python) := by
    rw [handleSaveSelection, hextracted]
    exact if_neg (by simpa using htopics)
  refine ⟨_, _, hsave, loadFileSelection_getConfig python cpp text hpath hnonempty, ?_⟩
  rw [List.map_map]
  exact Dialog.map_topic_run_init topics actions

/-! ### Rows of different topics -/

/-- The rows are of different topics, and `tool_configs` has the tool of each. -/
structure Dialog.Matches (dialog : Dialog) : Prop where
  distinct : ((dialog.rows.map Row.topic).map TopicInfo.name).Nodup
  tool : ∀ row ∈ dialog.rows, (dialog.toolConfigs row.topic.name).tool = row.tool

theorem Dialog.matches_init {topics : List TopicInfo}
    (hdistinct : (topics.map TopicInfo.name).Nodup) : (Dialog.init topics).Matches where
  distinct := by rwa [Dialog.map_topic_init]
  tool := by simp [Dialog.init]

theorem eq_of_name_eq {rows : List Row}
    (hdistinct : ((rows.map Row.topic).map TopicInfo.name).Nodup) {row row' : Row}
    (hrow : row ∈ rows) (hrow' : row' ∈ rows) (hname : row.topic.name = row'.topic.name) :
    row = row' := by
  rw [List.map_map] at hdistinct
  exact List.inj_on_of_nodup_map hdistinct hrow hrow' hname

theorem mem_modify {change : Row → Row} {rows : List Row} {row : Nat} {other : Row}
    (h : other ∈ rows.modify row change) :
    other ∈ rows ∨ ∃ changed, rows[row]? = some changed ∧ change changed = other := by
  obtain ⟨index, hindex⟩ := List.mem_iff_getElem?.mp h
  by_cases hrow : row = index
  · rw [← hrow, List.getElem?_modify_eq] at hindex
    exact .inr (Option.map_eq_some_iff.mp hindex)
  · rw [List.getElem?_modify_ne _ _ hrow] at hindex
    exact .inl (List.mem_of_getElem? hindex)

/-- Another tool in one row is the only change to the tools. -/
theorem Dialog.Matches.onToolChanged {dialog : Dialog} (h : dialog.Matches) (row : Nat)
    (tool : Tool) : (dialog.onToolChanged row tool).Matches := by
  have hdistinct : (((dialog.onToolChanged row tool).rows.map Row.topic).map
      TopicInfo.name).Nodup := by
    have htopics : (dialog.onToolChanged row tool).rows.map Row.topic = dialog.rows.map Row.topic :=
      map_topic_modify (·.changeTool tool) (fun _ => rfl) dialog.rows row
    rw [htopics]
    exact h.distinct
  refine ⟨hdistinct, fun other hother => ?_⟩
  cases hrow : dialog.rows[row]? with
  | none =>
    rw [Dialog.onToolChanged, List.modify_eq_self (List.getElem?_eq_none_iff.mp hrow)] at hother
    rw [Dialog.onToolChanged, hrow]
    exact h.tool other hother
  | some changed =>
    have hconfigs : (dialog.onToolChanged row tool).toolConfigs =
        Function.update dialog.toolConfigs changed.topic.name { tool } := by
      rw [Dialog.onToolChanged, hrow]
    have hchanged : changed.changeTool tool ∈ (dialog.onToolChanged row tool).rows := by
      refine List.mem_of_getElem? (i := row) ?_
      rw [Dialog.onToolChanged, List.getElem?_modify_eq, hrow]
      rfl
    rw [hconfigs]
    by_cases hname : other.topic.name = changed.topic.name
    · rw [eq_of_name_eq hdistinct hother hchanged hname, Row.changeTool, Function.update_self]
    · rw [Function.update_of_ne hname]
      rcases mem_modify hother with hother | ⟨changed', hrow', rfl⟩
      · exact h.tool other hother
      · rw [Option.some.inj (hrow.symm.trans hrow')] at hname
        exact absurd rfl hname

theorem Dialog.Matches.step {dialog : Dialog} (h : dialog.Matches) (action : Action) :
    (dialog.step action).Matches := by
  cases action with
  | chooseTool row tool =>
    rw [Dialog.step]
    split
    · exact h
    · exact h.onToolChanged row tool
  | enterText row field text =>
    refine ⟨by rw [dialog.map_topic_step]; exact h.distinct, fun other hother => ?_⟩
    rcases mem_modify hother with hother | ⟨changed, hrow, rfl⟩
    · exact h.tool other hother
    · exact h.tool changed (List.mem_of_getElem? hrow)

theorem Dialog.Matches.run {dialog : Dialog} (h : dialog.Matches) (actions : List Action) :
    (dialog.run actions).Matches := by
  induction actions generalizing dialog with
  | nil => exact h
  | cons action actions ih => exact ih (h.step action)

/-- Where the rows are of different topics, each has its own entry in `tool_configs`. -/
theorem Dialog.Matches.updatedConfigs {dialog : Dialog} (h : dialog.Matches) :
    ∀ row ∈ dialog.rows, dialog.updatedConfigs row.topic.name = ⟨row.tool, row.params⟩ := by
  intro row hrow
  obtain ⟨last, hlast, hname, hparams⟩ :=
    exists_params_foldl_updateParams dialog.rows dialog.toolConfigs row hrow
  rw [eq_of_name_eq h.distinct hlast hrow hname] at hparams
  have htool := tool_foldl_updateParams dialog.rows dialog.toolConfigs row.topic.name
  exact congrArg₂ ToolConfig.mk (htool.trans (h.tool row hrow)) hparams

/-- Whatever the user does with a dialog for different topics, each row is loaded with its own
tool. -/
theorem loadFileSelection_of_distinct {topics : List TopicInfo}
    (hdistinct : (topics.map TopicInfo.name).Nodup) (hnames : ∀ topic ∈ topics, topic.name ≠ "")
    (actions : List Action) {cpp : YamlCpp} {text : PyNumber → String} {path : String}
    (hpath : path ≠ "") :
    loadFileSelection cpp path
        (.ok ((((Dialog.init topics).run actions).getConfig python).document text)) =
      .ok (((Dialog.init topics).run actions).rows.map fun row =>
        loadedEntry python cpp text row.topic ⟨row.tool, row.params⟩) := by
  have hnonempty : ∀ row ∈ ((Dialog.init topics).run actions).rows, row.topic.name ≠ "" :=
    fun row hrow => hnames row.topic (Dialog.topic_mem_of_mem_run hrow)
  have hmatches := (Dialog.matches_init hdistinct).run actions
  rw [loadFileSelection_getConfig python cpp text hpath hnonempty]
  exact congrArg Except.ok (List.map_congr_left fun row hrow => by
    rw [hmatches.updatedConfigs row hrow])

/-! ### Output topics -/

/-- A topic in an output topic begins behind a slash with another one. -/
theorem Tool.isFullTopicName_outputTopic (tool : Tool) {topicName : String}
    (h : isFullTopicName topicName = true) :
    isFullTopicName (tool.outputTopic topicName) = false := by
  by_contra hfull
  have hnormal := normal_of_isFullTopicName (Bool.of_not_eq_false hfull)
  obtain ⟨rest, hrest⟩ := List.head?_eq_some_iff.mp (normal_of_isFullTopicName h).head
  have houtput : (tool.outputTopic topicName).toList =
      '/' :: tool.text.toLower.toList ++ '/' :: '/' :: rest := by
    simp [Tool.outputTopic, hrest]
  have hchain := hnormal.chain
  rw [houtput, List.isChain_append_cons_cons] at hchain
  exact hchain.2.1 ⟨rfl, rfl⟩

/-! ### When a selection is saved -/

section Saved

/-- A number as the value of a parameter. -/
def PyNumber.parameterValue : PyNumber → ParameterValue
  | int value => .integer value
  | float bits => .double bits

/-- What is to be loaded for a row: its topic, and its tool, if there is one, with its parameters
and an output topic. -/
structure Row.LoadedAs (row : Row) (entry : TopicSelection) : Prop where
  topic : entry.topic = row.topic
  plain : row.tool = .none → entry.topicTools = none
  tool : row.tool ≠ .none → ∃ cfg, entry.topicTools = some cfg ∧
    cfg.pluginName = row.tool.plugin ∧
    cfg.parameters = (parseParams python row.params row.tool).map
      (fun param => ⟨param.1, param.2.parameterValue⟩) ∧
    isFullTopicName cfg.outputTopic = true

/-- **Saved selections.** What the loader reads of the file that a dialog writes is what its rows
say, exactly if none of them has a tool. -/
theorem getConfig_loads_iff {dialog : Dialog} {yaml : YamlFiles} {cpp : YamlCpp} {path : String}
    (hpath : path ≠ "") (hnames : ∀ row ∈ dialog.rows, isFullTopicName row.topic.name = true)
    (hyaml : yaml.loadFile (yaml.dump (dialog.getConfig python)) =
      .ok ((dialog.getConfig python).document yaml.text)) :
    (∃ entries, loadFileSelection cpp path
        (yaml.loadFile (yaml.dump (dialog.getConfig python))) = .ok entries ∧
      List.Forall₂ (Row.LoadedAs python) dialog.rows entries) ↔
      ∀ row ∈ dialog.rows, row.tool = .none := by
  have hnonempty : ∀ row ∈ dialog.rows, row.topic.name ≠ "" := fun row hrow =>
    ne_empty_of_isFullTopicName (hnames row hrow)
  rw [hyaml, loadFileSelection_getConfig python cpp yaml.text hpath hnonempty]
  constructor
  · rintro ⟨entries, hentries, hloaded⟩ row hrow
    obtain rfl := Except.ok.inj hentries
    rw [List.forall₂_map_right_iff, List.forall₂_same] at hloaded
    by_contra htool
    obtain ⟨cfg, hcfg, -, -, houtput⟩ := (hloaded row hrow).tool htool
    obtain ⟨-, hloadedTool⟩ := Option.ite_none_right_eq_some.mp hcfg
    rw [← Option.some.inj hloadedTool] at houtput
    have hnot := Tool.isFullTopicName_outputTopic
      (dialog.updatedConfigs row.topic.name).tool (hnames row hrow)
    exact absurd houtput (Bool.eq_false_iff.mp hnot)
  · intro hnone
    refine ⟨_, rfl, ?_⟩
    rw [List.forall₂_map_right_iff, List.forall₂_same]
    intro row hrow
    refine ⟨rfl, fun _ => ?_, fun htool => absurd (hnone row hrow) htool⟩
    exact if_neg (Dialog.not_hasTool hnone row hrow)

/-- A file with one text. -/
def YamlFiles.ofFile (written : String) (document : Yaml) : YamlFiles where
  dump _ := written
  text
    | .int value => toString value
    | .float _ => "0.05"
  loadFile file := if file = written then .ok document else .error "bad file"

theorem YamlFiles.loadFile_ofFile (written : String) (document : Yaml) (config : PyValue) :
    (ofFile written document).loadFile ((ofFile written document).dump config) = .ok document :=
  if_pos rfl

/-- Conversions that take one text for a number. -/
def scanPython : Python where
  float text := if text = "0.05" then some 0x3FA999999999999A else none
  int _ := none

def scanCpp : YamlCpp where
  asBool _ := none
  asInt64 _ := none
  asDouble := scanPython.float
  nullAsString := none

/-- The dialog for one topic. -/
def scanDialog : Dialog :=
  .init [⟨"/scan", "sensor_msgs/msg/LaserScan"⟩]

/-- The file of the dialog as it opens. -/
def scanFiles : YamlFiles :=
  .ofFile "- topic_name: /scan\n  msg_type: sensor_msgs/msg/LaserScan\n"
    (.sequence [.map [(.scalar "topic_name", .scalar "/scan"),
      (.scalar "msg_type", .scalar "sensor_msgs/msg/LaserScan")]])

theorem scan_loads :
    ∃ entries, loadFileSelection scanCpp "selected_topics.yaml"
        (scanFiles.loadFile (scanFiles.dump (scanDialog.getConfig scanPython))) = .ok entries ∧
      List.Forall₂ (Row.LoadedAs scanPython) scanDialog.rows entries :=
  (getConfig_loads_iff scanPython (by decide) (by decide +kernel) rfl).mpr (by decide)

/-- The dialog with a tool for the topic. -/
def throttledScan : Dialog :=
  scanDialog.run [.chooseTool 0 .throttle]

def throttledFiles : YamlFiles :=
  .ofFile ("- topic_name: /scan\n  msg_type: sensor_msgs/msg/LaserScan\n  topic_tools:\n" ++
      "    plugin: topic_tools::ThrottleNode\n    output_topic: /throttle//scan\n" ++
      "    parameters:\n      period: 0.05\n")
    (.sequence [.map [(.scalar "topic_name", .scalar "/scan"),
      (.scalar "msg_type", .scalar "sensor_msgs/msg/LaserScan"),
      (.scalar "topic_tools", .map [(.scalar "plugin", .scalar "topic_tools::ThrottleNode"),
        (.scalar "output_topic", .scalar "/throttle//scan"),
        (.scalar "parameters", .map [(.scalar "period", .scalar "0.05")])])]])

theorem throttled_scan_not_loaded :
    throttledFiles.loadFile (throttledFiles.dump (throttledScan.getConfig scanPython)) =
        .ok ((throttledScan.getConfig scanPython).document throttledFiles.text) ∧
    ¬∃ entries, loadFileSelection scanCpp "selected_topics.yaml"
        (throttledFiles.loadFile (throttledFiles.dump (throttledScan.getConfig scanPython))) =
          .ok entries ∧
      List.Forall₂ (Row.LoadedAs scanPython) throttledScan.rows entries := by
  have houtput : Tool.throttle.outputTopic "/scan" = "/throttle//scan" := by decide +kernel
  have hconfig : throttledScan.getConfig scanPython =
      .list [.dict [("topic_name", .str "/scan"), ("msg_type", .str "sensor_msgs/msg/LaserScan"),
        ("topic_tools", .dict [("plugin", .str "topic_tools::ThrottleNode"),
          ("output_topic", .str "/throttle//scan"),
          ("parameters", .dict [("period", .number (.float 0x3FA999999999999A))])])]] := by
    rw [← houtput]
    rfl
  refine ⟨(YamlFiles.loadFile_ofFile _ _ _).trans (by rw [hconfig]; rfl), ?_⟩
  rintro ⟨entries, hentries, hloaded⟩
  have hentry : loadFileSelection scanCpp "selected_topics.yaml"
      (throttledFiles.loadFile (throttledFiles.dump (throttledScan.getConfig scanPython))) =
      .ok [{ topic := ⟨"/scan", "sensor_msgs/msg/LaserScan"⟩
             topicTools := some { enabled := true, pluginName := "topic_tools::ThrottleNode"
                                  outputTopic := "/throttle//scan"
                                  parameters := [⟨"period", .double 0x3FA999999999999A⟩] } }] := by
    decide +kernel
  obtain rfl := Except.ok.inj (hentry.symm.trans hentries)
  obtain ⟨hrow, -⟩ := List.forall₂_cons.mp hloaded
  obtain ⟨cfg, hcfg, -, -, houtput⟩ := hrow.tool (by decide)
  obtain rfl := Option.some.inj hcfg
  exact absurd houtput (by decide +kernel)

end Saved

end Ros2Dispatcher.Gui
