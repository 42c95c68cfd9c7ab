import Ros2Dispatcher.Controller.Outcomes
import Ros2Dispatcher.Library.Fallible

/-!
# Which selection files are answered

The loader converts what a selection file holds without asking for its shape first, and the
exceptions of these conversions are not caught: an entry that is a plain scalar, or a name
that is a list, ends the program. `Convertible` and `Accepted` say of the shape of an entry
alone that it raises no exception, and that it is loaded. A file is answered exactly if every
entry is convertible that only has accepted ones before it (`loadsCleanly_iff`); the loader is
the only source of exceptions in the controller (`run_thrown`).
-/

namespace Ros2Dispatcher

open Procedure Fallible

/-! ### The shape of an entry -/

namespace Yaml

variable (cpp : YamlCpp)

/-- The value of a map under `key`. -/
def lookup (key : String) : Yaml → Option Yaml
  | map entries => (entries.find? fun entry => entry.1.isKey key).map Prod.snd
  | _ => none

/-- The node is a scalar. -/
def IsScalar : Yaml → Prop
  | scalar _ => True
  | _ => False

/-- The string under `key`, or `default` where there is nothing; `none` if what is there does
not convert. -/
def textAt (node : Yaml) (key default : String) : Option String :=
  match node.lookup key with
  | some value => value.stringValue? cpp
  | none => some default

/-- The string under `key`, else the one under `alias`. -/
def textAtAlias (node : Yaml) (key «alias» : String) : Option String :=
  match node.lookup key with
  | some value => value.stringValue? cpp
  | none => node.textAt cpp «alias» ""

/-- The flag `enabled`, which is set where it is missing. -/
def enabled (node : Yaml) : Option Bool :=
  match node.lookup "enabled" with
  | some value => value.scalarAs? cpp.asBool
  | none => some true

/-- The `topic_tools` block of an entry, if it is a map and enabled. -/
def toolBlock (node : Yaml) : Option Yaml :=
  match node.lookup "topic_tools" with
  | some (map entries) =>
    if (map entries).enabled cpp = some true then some (map entries) else none
  | _ => none

/-- The value of a parameter is supported: a scalar, or a sequence of strings. -/
def Supported : Yaml → Prop
  | scalar _ => True
  | sequence items => ∀ item ∈ items, (item.stringValue? cpp).isSome = true
  | _ => False

/-- The name of a parameter converts. -/
def NamesParameter (entry : Yaml × Yaml) : Prop :=
  (entry.1.stringValue? cpp).isSome = true

/-- A parameter that is loaded. -/
def GivesParameter (entry : Yaml × Yaml) : Prop :=
  NamesParameter cpp entry ∧ entry.2.Supported cpp

/-- The loader gets through the names of the parameters; it stops at the first value that is
not supported. -/
def ConvertibleParameters (block : Yaml) : Prop :=
  ∀ entries, block.lookup "parameters" = some (.map entries) →
    ∀ before entry after, entries = before ++ entry :: after →
      (∀ e ∈ before, GivesParameter cpp e) → NamesParameter cpp entry

/-- The parameters, if there are any, are a map of parameters that are loaded. -/
def AcceptedParameters (block : Yaml) : Prop :=
  ∀ value, block.lookup "parameters" = some value →
    ∃ entries, value = .map entries ∧ ∀ entry ∈ entries, GivesParameter cpp entry

/-- A `topic_tools` block without a value that does not convert. -/
structure ConvertibleTool (block : Yaml) : Prop where
  enabled : (block.enabled cpp).isSome = true
  texts : block.enabled cpp = some true →
    ∀ key ∈ ["package", "plugin", "name", "output_topic", "output_type"],
      (block.textAt cpp key "").isSome = true
  outputName : block.enabled cpp = some true → block.textAt cpp "output_topic" "" = some "" →
    (block.textAt cpp "output_name" "").isSome = true
  parameters : block.enabled cpp = some true → block.ConvertibleParameters cpp

/-- A `topic_tools` block that is loaded. -/
structure AcceptedTool (block : Yaml) : Prop extends ConvertibleTool cpp block where
  plugin : block.enabled cpp = some true → block.textAt cpp "plugin" "" ≠ some ""
  supported : block.enabled cpp = some true → block.AcceptedParameters cpp

/-- An entry without a value that does not convert. -/
structure Convertible (node : Yaml) : Prop where
  subscriptable : ¬node.IsScalar
  name : (node.textAtAlias cpp "topic_name" "name").isSome = true
  type : (node.textAtAlias cpp "msg_type" "type").isSome = true
  tool : node.textAtAlias cpp "topic_name" "name" ≠ some "" → ∀ entries,
    node.lookup "topic_tools" = some (.map entries) → ConvertibleTool cpp (.map entries)

/-- An entry that is loaded. -/
structure Accepted (node : Yaml) : Prop extends Convertible cpp node where
  named : node.textAtAlias cpp "topic_name" "name" ≠ some ""
  block : ∀ value, node.lookup "topic_tools" = some value →
    ∃ entries, value = .map entries ∧ AcceptedTool cpp (.map entries)

end Yaml

/-! ### What the loader does with it -/

section Loading

open Yaml

variable {cpp : YamlCpp}

/-- A failure tells the shape: an exception that something does not convert, an error, which
is explained, that everything converts and is not accepted all the same. -/
def Failure.Tells (convertible accepted : Prop) : Failure → Prop
  | .error message => message ≠ "" ∧ convertible ∧ ¬accepted
  | .thrown _ => ¬convertible

theorem field_eq {node : Yaml} (hnode : ¬node.IsScalar) (key : String) :
    node.field key = .ok (node.lookup key) := by
  cases node with
  | scalar text => exact absurd trivial hnode
  | null => rfl
  | sequence items => rfl
  | map entries => rfl

theorem ends_field {α : Type} {node : Yaml} {key : String} {f : Option Yaml → Except Failure α}
    {Q : α → Prop} {E : Failure → Prop} (hnode : ¬node.IsScalar) :
    Ends (node.field key >>= f) Q E ↔ Ends (f (node.lookup key)) Q E := by
  rw [field_eq hnode]
  rfl

theorem stringFieldOr_eq {node : Yaml} (hnode : ¬node.IsScalar) (key default : String) :
    stringFieldOr cpp node key default = orThrow (node.textAt cpp key default) := by
  rw [stringFieldOr, field_eq hnode, textAt]
  cases node.lookup key <;> rfl

theorem stringFieldAlias_eq {node : Yaml} (hnode : ¬node.IsScalar) (key «alias» : String) :
    stringFieldAlias cpp node key «alias» = orThrow (node.textAtAlias cpp key «alias») := by
  rw [stringFieldAlias, field_eq hnode, stringFieldOr_eq hnode, textAtAlias]
  cases node.lookup key <;> rfl

theorem ends_orThrow {α : Type} {converted : Option α} {Q : α → Prop} {E : Failure → Prop}
    (hok : ∀ a, converted = some a → Q a)
    (hthrown : converted = none → E (.thrown "bad conversion")) : Ends (orThrow converted) Q E := by
  cases converted with
  | none => exact hthrown rfl
  | some a => exact hok a rfl

/-- Of a list, all items are accepted, or the first one that is not decides. -/
theorem ends_mapM_tells {α β : Type} {f : α → Except Failure β} {Q : α → β → Prop}
    {C A : α → Prop} (hconvertible : ∀ x, A x → C x)
    (hf : ∀ x, Ends (f x) (fun y => A x ∧ Q x y) (Failure.Tells (C x) (A x))) (xs : List α) :
    Ends (xs.mapM f) (fun ys => (∀ x ∈ xs, A x) ∧ List.Forall₂ Q xs ys)
      (Failure.Tells (∀ before x after, xs = before ++ x :: after → (∀ y ∈ before, A y) → C x)
        (∀ x ∈ xs, A x)) := by
  refine ends_mono (ends_mapM hf xs) (fun ys hys => (List.forall₂_and_left xs ys).mp hys) ?_
  rintro failure ⟨before, x, after, rfl, hbefore, hx⟩
  have haccepted : ∀ y ∈ before, A y := fun y hy => (hbefore y hy).elim fun _ h => h.1
  cases failure with
  | thrown what => exact fun h => hx (h before x after rfl haccepted)
  | error message =>
    obtain ⟨hmessage, hC, hA⟩ := hx
    refine ⟨hmessage, fun before' x' after' hsplit hbefore' => ?_, fun h => hA (h x (by simp))⟩
    -- the other item is in front of `x`, is `x` itself, or comes with `x` in front of it
    rcases List.append_eq_append_iff.mp hsplit with ⟨rest, rfl, htail⟩ | ⟨rest, rfl, htail⟩
    · cases rest with
      | nil => exact (List.cons.inj htail).1 ▸ hC
      | cons z rest =>
        have hx : x ∈ before ++ z :: rest := by simp [(List.cons.inj htail).1]
        exact absurd (hbefore' x hx) hA
    · cases rest with
      | nil => exact (List.cons.inj htail).1 ▸ hC
      | cons z rest =>
        have hx' : x' ∈ before' ++ z :: rest := by simp [(List.cons.inj htail).1]
        exact hconvertible x' (haccepted x' hx')

/-! ### Parameters -/

/-- A scalar that converts at all converts to a string. -/
theorem stringValue?_isSome {α : Type} {convert : String → Option α} {node : Yaml}
    (h : (node.scalarAs? convert).isSome = true) : (node.stringValue? cpp).isSome = true := by
  cases node with
  | scalar text => rfl
  | null => cases h
  | sequence items => cases h
  | map entries => cases h

theorem supported_of_mapM {α : Type} {convert : String → Option α} {items : List Yaml}
    {values : List α} (h : items.mapM (scalarAs? convert) = some values) :
    (sequence items).Supported cpp := fun item hitem =>
  stringValue?_isSome (mapM_isSome_iff.mp (Option.isSome_of_mem h) item hitem)

/-- `parse_parameter_value` loads what is supported, and never throws. -/
theorem ends_parseParameterValue {name : String} {value : Yaml} :
    Ends (parseParameterValue cpp name value) (fun p => p.name = name ∧ value.Supported cpp)
      (Failure.Tells True (value.Supported cpp)) := by
  have hmessage : "Unsupported parameter value for " ++ name ≠ "" := by simp
  cases value with
  | null => exact ⟨hmessage, trivial, id⟩
  | map entries => exact ⟨hmessage, trivial, id⟩
  | scalar text =>
    unfold parseParameterValue
    dsimp only
    cases cpp.asBool text with
    | some _ => exact ⟨rfl, trivial⟩
    | none =>
      cases cpp.asInt64 text with
      | some _ => exact ⟨rfl, trivial⟩
      | none => cases cpp.asDouble text <;> exact ⟨rfl, trivial⟩
  | sequence items =>
    unfold parseParameterValue
    dsimp only
    cases hbool : items.mapM (scalarAs? cpp.asBool) with
    | some _ => exact ⟨rfl, supported_of_mapM hbool⟩
    | none =>
      cases hint : items.mapM (scalarAs? cpp.asInt64) with
      | some _ => exact ⟨rfl, supported_of_mapM hint⟩
      | none =>
        cases hdouble : items.mapM (scalarAs? cpp.asDouble) with
        | some _ => exact ⟨rfl, supported_of_mapM hdouble⟩
        | none =>
          have hstrings : (items.mapM (Yaml.stringValue? cpp)).isSome = true ↔ _ :=
            mapM_isSome_iff
          cases htext : items.mapM (Yaml.stringValue? cpp) with
          | some _ => exact ⟨rfl, hstrings.mp (Option.isSome_of_mem htext)⟩
          | none =>
            rw [htext] at hstrings
            exact ⟨hmessage, trivial, fun h => by simpa using hstrings.mpr h⟩

/-- One entry of the `parameters` map. -/
theorem ends_loadParameter {entry : Yaml × Yaml} :
    Ends (loadParameter cpp entry) (fun _ => GivesParameter cpp entry)
      (Failure.Tells (NamesParameter cpp entry) (GivesParameter cpp entry)) := by
  rw [loadParameter, ends_bind]
  refine ends_orThrow (fun name hname => ?_) fun hnone => ?_
  · have hnames : NamesParameter cpp entry := Option.isSome_of_mem hname
    refine ends_mono ends_parseParameterValue (fun _ h => ⟨hnames, h.2⟩) fun failure h => ?_
    cases failure with
    | error message => exact ⟨h.1, hnames, fun hgives => h.2.2 hgives.2⟩
    | thrown what => exact absurd trivial h
  · intro hnames
    rw [NamesParameter, hnone] at hnames
    cases hnames

/-- The `parameters` map. -/
theorem ends_loadParameters {block : Yaml} (hblock : ¬block.IsScalar) :
    Ends (loadParameters cpp block) (fun _ => block.AcceptedParameters cpp)
      (Failure.Tells (block.ConvertibleParameters cpp) (block.AcceptedParameters cpp)) := by
  have hother : ∀ {value : Yaml}, block.lookup "parameters" = some value →
      (∀ entries, value ≠ .map entries) →
      Failure.Tells (block.ConvertibleParameters cpp) (block.AcceptedParameters cpp)
        (.error "topic_tools.parameters must be a map") := by
    intro value hvalue hmap
    refine ⟨by decide, fun entries hentries => ?_, fun haccepted => ?_⟩
    · rw [hvalue] at hentries
      exact absurd (Option.some.inj hentries) (hmap entries)
    · obtain ⟨entries, hentries, -⟩ := haccepted value hvalue
      exact hmap entries hentries
  rw [loadParameters, ends_field hblock]
  cases hlookup : block.lookup "parameters" with
  | none =>
    intro value hvalue
    rw [hlookup] at hvalue
    cases hvalue
  | some value =>
    cases value with
    | null => exact hother hlookup (by simp)
    | scalar text => exact hother hlookup (by simp)
    | sequence items => exact hother hlookup (by simp)
    | map entries =>
      have hload := ends_mapM_tells (f := loadParameter cpp) (Q := fun _ _ => True)
        (fun entry (h : GivesParameter cpp entry) => h.1)
        (fun entry => ends_mono ends_loadParameter (fun _ h => ⟨h, trivial⟩) fun _ h => h) entries
      have hconvertible : block.ConvertibleParameters cpp ↔ ∀ before entry after,
          entries = before ++ entry :: after → (∀ e ∈ before, GivesParameter cpp e) →
          NamesParameter cpp entry := by simp [ConvertibleParameters, hlookup]
      have haccepted : block.AcceptedParameters cpp ↔
          ∀ entry ∈ entries, GivesParameter cpp entry := by
        simp [AcceptedParameters, hlookup]
      rw [hconvertible, haccepted]
      exact ends_bind.mpr (ends_mono hload (fun _ h => h.1) fun _ h => h)

theorem Yaml.AcceptedParameters.convertible {block : Yaml} (h : block.AcceptedParameters cpp) :
    block.ConvertibleParameters cpp := by
  intro entries hentries before entry after hsplit _
  obtain ⟨entries', hentries', hgives⟩ := h _ hentries
  rw [← Yaml.map.inj hentries', hsplit] at hgives
  exact (hgives entry (by simp)).1

/-! ### Tools -/

/-- A missing text has the default; one that does not convert has none. -/
theorem textAt_isSome_iff {node : Yaml} {key default : String} :
    (node.textAt cpp key default).isSome = true ↔ (node.textAt cpp key "").isSome = true := by
  unfold textAt
  cases node.lookup key <;> rfl

theorem not_convertibleTool_of_text {block : Yaml} {key default : String}
    (henabled : block.enabled cpp = some true)
    (hkey : key ∈ ["package", "plugin", "name", "output_topic", "output_type"])
    (hnone : block.textAt cpp key default = none) : ¬ConvertibleTool cpp block := by
  intro h
  have htext : (block.textAt cpp key default).isSome = true :=
    textAt_isSome_iff.mpr (h.texts henabled key hkey)
  rw [hnone] at htext
  cases htext

/-- What the loader makes of a `topic_tools` block: an enabled one gives a tool with a plugin
and with the parameters of the block. -/
structure GivesTool (cpp : YamlCpp) (block : Yaml) (tool : Option TopicToolsConfig) : Prop where
  enabled : block.enabled cpp = some true → ∃ cfg, tool = some cfg ∧ cfg.enabled = true ∧
    cfg.pluginName ≠ "" ∧ loadParameters cpp block = .ok cfg.parameters
  disabled : block.enabled cpp ≠ some true → tool = none

/-- A text that the block of an enabled tool needs. -/
theorem ends_toolText {α : Type} {block : Yaml} {key default : String}
    {f : String → Except Failure α} {Q : α → Prop} (hblock : ¬block.IsScalar)
    (henabled : block.enabled cpp = some true)
    (hkey : key ∈ ["package", "plugin", "name", "output_topic", "output_type"])
    (hf : ∀ text, block.textAt cpp key default = some text →
      Ends (f text) Q (Failure.Tells (ConvertibleTool cpp block) (AcceptedTool cpp block))) :
    Ends (stringFieldOr cpp block key default >>= f) Q
      (Failure.Tells (ConvertibleTool cpp block) (AcceptedTool cpp block)) := by
  rw [stringFieldOr_eq hblock, ends_bind]
  exact ends_orThrow hf fun hnone => not_convertibleTool_of_text henabled hkey hnone

/-- A tool that is switched off is accepted, and gives nothing. -/
theorem acceptedTool_of_disabled {block : Yaml} (hflag : block.enabled cpp = some false) :
    AcceptedTool cpp block ∧ GivesTool cpp block none := by
  have hoff : block.enabled cpp ≠ some true := by simp [hflag]
  have hconvertible : ConvertibleTool cpp block :=
    { enabled := by simp [hflag]
      texts := fun h => absurd h hoff
      outputName := fun h => absurd h hoff
      parameters := fun h => absurd h hoff }
  exact ⟨⟨hconvertible, fun h => absurd h hoff, fun h => absurd h hoff⟩,
    fun h => absurd h hoff, fun _ => rfl⟩

/-- The block of an enabled tool has these texts. -/
structure ReadsTool (cpp : YamlCpp) (block : Yaml)
    (packageName pluginName nodeName explicitOutput : String) : Prop where
  subscriptable : ¬block.IsScalar
  enabled : block.enabled cpp = some true
  package : block.textAt cpp "package" "topic_tools" = some packageName
  plugin : block.textAt cpp "plugin" "" = some pluginName
  name : block.textAt cpp "name" "" = some nodeName
  output : block.textAt cpp "output_topic" "" = some explicitOutput

namespace ReadsTool

variable {block : Yaml} {packageName pluginName nodeName explicitOutput outputType : String}

/-- The other values convert as well. -/
theorem convertible (h : ReadsTool cpp block packageName pluginName nodeName explicitOutput)
    (houtputName : explicitOutput = "" → (block.textAt cpp "output_name" "").isSome = true)
    (htype : block.textAt cpp "output_type" "" = some outputType)
    (hparameters : block.ConvertibleParameters cpp) : ConvertibleTool cpp block where
  enabled := by simp [h.enabled]
  texts _ := by
    simp only [List.forall_mem_cons, List.not_mem_nil, false_implies, implies_true, and_true]
    exact ⟨textAt_isSome_iff.mp (Option.isSome_of_mem h.package), Option.isSome_of_mem h.plugin,
      Option.isSome_of_mem h.name, Option.isSome_of_mem h.output, Option.isSome_of_mem htype⟩
  outputName _ hempty := houtputName (Option.some.inj (h.output.symm.trans hempty))
  parameters _ := hparameters

/-- The rest of the block, once the output topic is settled. -/
theorem ends_finish (h : ReadsTool cpp block packageName pluginName nodeName explicitOutput)
    (houtputName : explicitOutput = "" → (block.textAt cpp "output_name" "").isSome = true)
    (outputTopic : String) :
    Ends (do
      let outputType ← stringFieldOr cpp block "output_type" ""
      let parameters ← loadParameters cpp block
      if pluginName.isEmpty then .error (.error "topic_tools.plugin is required")
      else pure (some { enabled := true, packageName, pluginName, nodeName, outputTopic,
                        outputType, parameters }))
      (fun tool => AcceptedTool cpp block ∧ GivesTool cpp block tool)
      (Failure.Tells (ConvertibleTool cpp block) (AcceptedTool cpp block)) := by
  refine ends_toolText h.subscriptable h.enabled (by simp) fun outputType htype => ?_
  have hload : Ends (loadParameters cpp block) _ _ := ends_loadParameters h.subscriptable
  rw [ends_bind]
  cases hparameters : loadParameters cpp block with
  | error failure =>
    rw [hparameters] at hload
    cases failure with
    | thrown what => exact fun htool => hload (htool.parameters h.enabled)
    | error message =>
      exact ⟨hload.1, h.convertible houtputName htype hload.2.1,
        fun htool => hload.2.2 (htool.supported h.enabled)⟩
  | ok parameters =>
    rw [hparameters] at hload
    have htool := h.convertible houtputName htype hload.convertible
    change Ends (if pluginName.isEmpty = true then _ else _) _ _
    split
    next hempty =>
      refine ⟨by decide, htool, fun haccepted => haccepted.plugin h.enabled ?_⟩
      rw [h.plugin, String.isEmpty_iff.mp hempty]
    next hgiven =>
      have hnonempty : pluginName ≠ "" := fun hempty => hgiven (String.isEmpty_iff.mpr hempty)
      refine ⟨⟨htool, fun _ hempty => ?_, fun _ => hload⟩,
        fun _ => ⟨_, rfl, rfl, hnonempty, hparameters⟩, fun hoff => absurd h.enabled hoff⟩
      exact hnonempty (Option.some.inj (h.plugin.symm.trans hempty))

end ReadsTool

/-- The `topic_tools` block. -/
theorem ends_loadTopicTools {topicName : String} {block : Yaml} (hblock : ¬block.IsScalar) :
    Ends (loadTopicTools cpp topicName block)
      (fun tool => AcceptedTool cpp block ∧ GivesTool cpp block tool)
      (Failure.Tells (ConvertibleTool cpp block) (AcceptedTool cpp block)) := by
  rw [loadTopicTools, ends_field hblock]
  extract_lets proceed
  have hproceed : ∀ flag, block.enabled cpp = some flag → Ends (proceed flag)
      (fun tool => AcceptedTool cpp block ∧ GivesTool cpp block tool)
      (Failure.Tells (ConvertibleTool cpp block) (AcceptedTool cpp block)) := by
    intro flag hflag
    cases flag with
    | false => exact acceptedTool_of_disabled hflag
    | true =>
      refine ends_toolText hblock hflag (by simp) fun packageName hpackage => ?_
      refine ends_toolText hblock hflag (by simp) fun pluginName hplugin => ?_
      refine ends_toolText hblock hflag (by simp) fun nodeName hname => ?_
      refine ends_toolText hblock hflag (by simp) fun explicitOutput houtput => ?_
      have hreads : ReadsTool cpp block packageName pluginName nodeName explicitOutput :=
        ⟨hblock, hflag, hpackage, hplugin, hname, houtput⟩
      rw [ends_field hblock]
      cases hvalue : block.lookup "output_name" with
      | none => exact hreads.ends_finish (fun _ => by rw [textAt, hvalue]; rfl) explicitOutput
      | some value =>
        dsimp only
        split
        next hempty =>
          rw [ends_bind]
          refine ends_orThrow (fun outputName hconverted => ?_) fun hnone h => ?_
          · refine hreads.ends_finish (fun _ => ?_) _
            rw [textAt, hvalue]
            exact Option.isSome_of_mem hconverted
          · have hconverted := h.outputName hflag (by rw [houtput, String.isEmpty_iff.mp hempty])
            rw [textAt, hvalue] at hconverted
            exact absurd hconverted (by simp [hnone])
        next hgiven =>
          exact hreads.ends_finish (fun h => absurd (String.isEmpty_iff.mpr h) hgiven)
            explicitOutput
  cases hvalue : block.lookup "enabled" with
  | none => exact hproceed true (by rw [Yaml.enabled, hvalue])
  | some value =>
    refine ends_bind.mpr (ends_orThrow (fun flag hflag => ?_) fun hnone h => ?_)
    · exact hproceed flag (by rw [Yaml.enabled, hvalue]; exact hflag)
    · have hconverted := h.enabled
      rw [Yaml.enabled, hvalue] at hconverted
      exact absurd hconverted (by simp [hnone])

/-! ### Entries and files -/

/-- The selection entry that an entry of the file asks for. -/
structure Describes (cpp : YamlCpp) (node : Yaml) (entry : TopicSelection) : Prop where
  name : node.textAtAlias cpp "topic_name" "name" = some entry.topic.name
  named : entry.topic.name ≠ ""
  type : node.textAtAlias cpp "msg_type" "type" = some entry.topic.type
  plain : node.toolBlock cpp = none → entry.topicTools = none
  tool : ∀ block, node.toolBlock cpp = some block → ∃ cfg, entry.topicTools = some cfg ∧
    cfg.enabled = true ∧ cfg.pluginName ≠ "" ∧ loadParameters cpp block = .ok cfg.parameters

/-- The entry has this name and type, which may both be empty. -/
structure ReadsEntry (cpp : YamlCpp) (node : Yaml) (name type : String) : Prop where
  subscriptable : ¬node.IsScalar
  name : node.textAtAlias cpp "topic_name" "name" = some name
  type : node.textAtAlias cpp "msg_type" "type" = some type

namespace ReadsEntry

variable {node : Yaml} {name type : String}

theorem named (h : ReadsEntry cpp node name type) (hname : name ≠ "") :
    node.textAtAlias cpp "topic_name" "name" ≠ some "" := fun hempty =>
  hname (Option.some.inj (h.name.symm.trans hempty))

theorem convertible (h : ReadsEntry cpp node name type) (htool : name ≠ "" → ∀ entries,
    node.lookup "topic_tools" = some (.map entries) → ConvertibleTool cpp (.map entries)) :
    Convertible cpp node where
  subscriptable := h.subscriptable
  name := Option.isSome_of_mem h.name
  type := Option.isSome_of_mem h.type
  tool hgiven := htool fun hempty => hgiven (h.name.trans (congrArg some hempty))

theorem tells_unnamed (h : ReadsEntry cpp node name type) (hname : name = "") :
    Failure.Tells (Convertible cpp node) (Accepted cpp node)
      (.error "Selection file entry missing topic_name") :=
  ⟨by decide, h.convertible fun hgiven => absurd hname hgiven,
    fun haccepted => haccepted.named (h.name.trans (congrArg some hname))⟩

theorem tells_not_map (h : ReadsEntry cpp node name type) {value : Yaml}
    (hlookup : node.lookup "topic_tools" = some value) (hmap : ∀ entries, value ≠ .map entries) :
    Failure.Tells (Convertible cpp node) (Accepted cpp node)
      (.error "topic_tools must be a map") := by
  refine ⟨by decide, h.convertible fun _ entries hentries => ?_, fun haccepted => ?_⟩
  · rw [hlookup] at hentries
    exact absurd (Option.some.inj hentries) (hmap entries)
  · obtain ⟨entries, hentries, -⟩ := haccepted.block value hlookup
    exact hmap entries hentries

/-- An entry without tools. -/
theorem plain (h : ReadsEntry cpp node name type) (hname : name ≠ "")
    (hlookup : node.lookup "topic_tools" = none) :
    Accepted cpp node ∧ Describes cpp node { topic := ⟨name, type⟩ } := by
  have hblock : ∀ value, node.lookup "topic_tools" ≠ some value := by simp [hlookup]
  refine ⟨⟨h.convertible fun _ _ h' => absurd h' (hblock _), h.named hname,
    fun _ h' => absurd h' (hblock _)⟩, h.name, hname, h.type, fun _ => rfl, fun _ htool => ?_⟩
  rw [toolBlock, hlookup] at htool
  cases htool

variable {entries : List (Yaml × Yaml)}

theorem convertible_of_tool (h : ReadsEntry cpp node name type)
    (hlookup : node.lookup "topic_tools" = some (.map entries))
    (htool : ConvertibleTool cpp (.map entries)) : Convertible cpp node := by
  refine h.convertible fun _ entries' hentries => ?_
  rw [hlookup] at hentries
  rwa [← Yaml.map.inj (Option.some.inj hentries)]

/-- An entry with a block that is accepted. -/
theorem withTool (h : ReadsEntry cpp node name type) (hname : name ≠ "")
    (hlookup : node.lookup "topic_tools" = some (.map entries))
    {tool : Option TopicToolsConfig} (haccepted : AcceptedTool cpp (.map entries))
    (hgives : GivesTool cpp (.map entries) tool) :
    Accepted cpp node ∧ Describes cpp node { topic := ⟨name, type⟩, topicTools := tool } := by
  refine ⟨⟨h.convertible_of_tool hlookup haccepted.toConvertibleTool, h.named hname,
    fun value hvalue => ?_⟩, h.name, hname, h.type, fun hplain => ?_, fun block htool => ?_⟩
  · exact ⟨entries, Option.some.inj (hvalue.symm.trans hlookup), haccepted⟩
  · refine hgives.disabled fun henabled => ?_
    rw [toolBlock, hlookup] at hplain
    exact absurd hplain (by simp [henabled])
  · rw [toolBlock, hlookup] at htool
    obtain ⟨henabled, hsome⟩ := Option.ite_none_right_eq_some.mp htool
    rw [← Option.some.inj hsome]
    exact hgives.enabled henabled

/-- An entry whose block fails. -/
theorem tells_of_tool (h : ReadsEntry cpp node name type) (hname : name ≠ "")
    (hlookup : node.lookup "topic_tools" = some (.map entries)) {failure : Failure}
    (htells : failure.Tells (ConvertibleTool cpp (.map entries))
      (AcceptedTool cpp (.map entries))) :
    failure.Tells (Convertible cpp node) (Accepted cpp node) := by
  cases failure with
  | thrown what =>
    exact fun hconvertible => htells (hconvertible.tool (h.named hname) entries hlookup)
  | error message =>
    refine ⟨htells.1, h.convertible_of_tool hlookup htells.2.1, fun haccepted => htells.2.2 ?_⟩
    obtain ⟨entries', hentries, htool⟩ := haccepted.block _ hlookup
    rwa [Yaml.map.inj hentries]

end ReadsEntry

/-- An entry of the file. -/
theorem ends_loadEntry (node : Yaml) :
    Ends (loadEntry cpp node) (fun entry => Accepted cpp node ∧ Describes cpp node entry)
      (Failure.Tells (Convertible cpp node) (Accepted cpp node)) := by
  by_cases hnode : node.IsScalar
  · cases node with
    | scalar text => exact fun h => h.subscriptable trivial
    | null => exact hnode.elim
    | sequence items => exact hnode.elim
    | map entries => exact hnode.elim
  rw [loadEntry, stringFieldAlias_eq hnode, ends_bind]
  refine ends_orThrow (fun name hname => ?_) fun hnone h => by simpa [hnone] using h.name
  rw [stringFieldAlias_eq hnode, ends_bind]
  refine ends_orThrow (fun type htype => ?_) fun hnone h => by simpa [hnone] using h.type
  have hreads : ReadsEntry cpp node name type := ⟨hnode, hname, htype⟩
  split
  next hempty => exact hreads.tells_unnamed (String.isEmpty_iff.mp hempty)
  next hgiven =>
    have hnonempty : name ≠ "" := fun h => hgiven (String.isEmpty_iff.mpr h)
    rw [ends_field hnode]
    cases hlookup : node.lookup "topic_tools" with
    | none => exact hreads.plain hnonempty hlookup
    | some value =>
      cases value with
      | null => exact hreads.tells_not_map hlookup (by simp)
      | scalar text => exact hreads.tells_not_map hlookup (by simp)
      | sequence items => exact hreads.tells_not_map hlookup (by simp)
      | map entries =>
        rw [ends_bind]
        exact ends_mono (ends_loadTopicTools id)
          (fun tool ⟨haccepted, hgives⟩ => hreads.withTool hnonempty hlookup haccepted hgives)
          fun failure htells => hreads.tells_of_tool hnonempty hlookup htells

/-- The loader gets through the entries; it stops at the first one that is not accepted. -/
def ConvertibleFile (cpp : YamlCpp) (doc : Yaml) : Prop :=
  ∀ items, doc = .sequence items → ∀ before node after, items = before ++ node :: after →
    (∀ n ∈ before, Accepted cpp n) → Convertible cpp node

/-- A file that has been opened. -/
theorem ends_loadFileSelection {path : String} {doc : Yaml} :
    Ends (loadFileSelection cpp path (.ok doc))
      (fun out => ConvertibleFile cpp doc ∧
        ∃ items, doc = .sequence items ∧ List.Forall₂ (Describes cpp) items out)
      (fun failure => (path = "" ∧ failure = .error "selection_file_path is empty") ∨
        failure.Tells (ConvertibleFile cpp doc) False) := by
  unfold loadFileSelection
  split
  next hpath => exact .inl ⟨String.isEmpty_iff.mp hpath, rfl⟩
  next hpath =>
    have hother : (∀ items, doc ≠ .sequence items) → Failure.Tells (ConvertibleFile cpp doc) False
        (.error "Selection file must be a YAML sequence") := fun hdoc =>
      ⟨by decide, fun items h => absurd h (hdoc items), id⟩
    cases doc with
    | null => exact .inr (hother (by simp))
    | scalar text => exact .inr (hother (by simp))
    | map entries => exact .inr (hother (by simp))
    | sequence items =>
      have hload := ends_mapM_tells (fun node (h : Accepted cpp node) => h.toConvertible)
        ends_loadEntry items
      refine ends_mono hload (fun out ⟨haccepted, hdescribes⟩ => ⟨?_, items, rfl, hdescribes⟩)
        fun failure htells => .inr ?_
      · rintro _ ⟨⟩ before node after rfl _
        exact (haccepted node (by simp)).toConvertible
      · cases failure with
        | thrown what => exact fun h => htells (h items rfl)
        | error message =>
          refine ⟨htells.1, ?_, id⟩
          rintro _ ⟨⟩
          exact htells.2.1

end Loading

/-! ### The only source of exceptions -/

section Exceptions

variable {ω α : Type} {params : Parameters} {env : Environment ω}

/-- The loader fails so on a file that can be there. -/
def FromLoader (env : Environment ω) (failure : Failure) : Prop :=
  ∃ path w, loadFileSelection env.yaml path (env.loadFile path w) = .error failure

/-- A failure that is reported or comes from the loader. -/
def FromLoaderIfThrown (env : Environment ω) (failure : Failure) : Prop :=
  failure.IsReported ∨ FromLoader env failure

instance : Covers (FromLoaderIfThrown env) where
  plain message _ := .inl ⟨message, rfl⟩
  types _ _ message _ := .inl ⟨message, rfl⟩
  plan _ message _ := .inl ⟨message, rfl⟩

theorem fromLoaderIfThrown_coversChecks : CoversChecks params env (FromLoaderIfThrown env) where
  limit _ message _ := .inl ⟨message, rfl⟩
  file path w _ h := .inr ⟨path, w, h⟩

/-- An operation that ends in an exception has read a file the loader throws it on. -/
theorem run_thrown {op : Operation} {s s' : NodeState ω} {what : String}
    (h : op.run params env s = .error (.thrown what) s') : FromLoader env (.thrown what) := by
  have hchecks : CoversChecks params env (FromLoaderIfThrown env) := fromLoaderIfThrown_coversChecks
  have hyields := op.run_yields hchecks
  rcases (of_wp_error (hyields s fun _ => .inl ⟨_, rfl⟩) h).1 with ⟨message, hmessage⟩ | hloader
  · cases hmessage
  · exact hloader

end Exceptions

/-! ### Files that are answered -/

/-- The file is answered: the loader returns the entry that each of its entries asks for, or
an explained error, and no operation of a node that finds it ends in an exception. -/
structure LoadsCleanly (cpp : YamlCpp) (doc : Yaml) : Prop where
  answered : ∀ path, Ends (loadFileSelection cpp path (.ok doc))
    (fun out => ∃ items, doc = .sequence items ∧ List.Forall₂ (Describes cpp) items out)
    fun failure => ∃ message, failure = .error message ∧ message ≠ ""
  handled : ∀ (ω : Type) (env : Environment ω), env.yaml = cpp →
    (∀ path w, env.loadFile path w = .ok doc) →
    ∀ params (op : Operation) s what s', op.run params env s ≠ .error (.thrown what) s'

/-- The loader answers every file whose entries it gets through. -/
theorem ConvertibleFile.answered {cpp : YamlCpp} {doc : Yaml} (h : ConvertibleFile cpp doc)
    (path : String) :
    Ends (loadFileSelection cpp path (.ok doc))
      (fun out => ∃ items, doc = .sequence items ∧ List.Forall₂ (Describes cpp) items out)
      fun failure => ∃ message, failure = .error message ∧ message ≠ "" := by
  refine ends_mono ends_loadFileSelection (fun _ hout => hout.2) fun failure htells => ?_
  rcases htells with ⟨-, rfl⟩ | htells
  · exact ⟨_, rfl, by decide⟩
  · cases failure with
    | error message => exact ⟨message, rfl, htells.1⟩
    | thrown what => exact absurd h htells

/-- **Selection files.** A file is answered if each entry is convertible that only has
accepted entries before it, and in no other case. -/
theorem loadsCleanly_iff {cpp : YamlCpp} {doc : Yaml} :
    LoadsCleanly cpp doc ↔ ∀ items, doc = .sequence items →
      ∀ before node after, items = before ++ node :: after →
        (∀ n ∈ before, n.Accepted cpp) → node.Convertible cpp := by
  constructor
  · intro h
    have hends : Ends (loadFileSelection cpp "selection.yaml" (.ok doc)) _ _ :=
      ends_loadFileSelection
    have hanswered := h.answered "selection.yaml"
    cases hload : loadFileSelection cpp "selection.yaml" (.ok doc) with
    | ok out =>
      rw [hload] at hends
      exact hends.1
    | error failure =>
      rw [hload] at hends hanswered
      obtain ⟨message, rfl, -⟩ := hanswered
      rcases hends with ⟨hpath, -⟩ | htells
      · exact absurd hpath (by decide)
      · exact htells.2.1
  · intro h
    have hfile : ConvertibleFile cpp doc := h
    refine ⟨hfile.answered, fun ω env hyaml hfiles params op s what s' hrun => ?_⟩
    obtain ⟨path, w, hloader⟩ := run_thrown hrun
    have hanswered := hfile.answered path
    rw [← hyaml, ← hfiles path w, hloader] at hanswered
    obtain ⟨message, hmessage, -⟩ := hanswered
    cases hmessage

/-- Conversions that take every scalar for a string. -/
def YamlCpp.strings : YamlCpp where
  asBool _ := none
  asInt64 _ := none
  asDouble _ := none
  nullAsString := none

/-- A topic name that stands for its entry is an exception. -/
theorem scalar_entry_thrown : ¬LoadsCleanly .strings (.sequence [.scalar "/chatter"]) := by
  intro h
  obtain ⟨message, hmessage, -⟩ := h.answered "selection.yaml"
  cases hmessage

end Ros2Dispatcher
