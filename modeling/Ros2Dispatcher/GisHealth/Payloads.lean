import Ros2Dispatcher.Library.JsonObjects
import Ros2Dispatcher.Library.JsonText

/-!
# What a health node reports

`gis_health_node` tells a fleet manager about its robots: a `REGISTRATION` says which topics a
robot has and what their records look like, a `PING` that the robot is there. Both are JSON
objects. `Report` is what the fleet manager makes of such a text.

* `reports_read_back`: a payload is read as the report it was built from; there is one exactly
  if the strings in it are UTF-8, and otherwise `dump` throws.
-/

namespace Ros2Dispatcher.GisHealth

open Json

/-- A `std::string` that goes into a payload. -/
abbrev Text : Type :=
  List UInt8

/-- `Parameters`, over the type `F` of a `double`; the defaults are those of the header. -/
structure Parameters (F : Type) where
  bootstrapServers : String := "localhost:9092"
  clientId : String := "gis_health_node"
  acks : String := "1"
  strictStartup : Bool := false
  robotList : List Text := []
  healthTopic : String := "robot_health"
  registrationTopic : String := "robot_registration"
  healthPeriodS : F
  odomKafkaTopic : Text := bytes "ros_filtered_odom"
  gpsKafkaTopic : Text := bytes "ros_gps_fix"
deriving DecidableEq

/-! ### The payloads -/

/-- A column of the table a topic is read into. -/
structure Column where
  name : String
  type : String
deriving DecidableEq, Repr

def odomSchema : List Column :=
  [⟨"timestamp", "BIGINT"⟩, ⟨"position_x", "DOUBLE"⟩, ⟨"position_y", "DOUBLE"⟩,
    ⟨"position_z", "DOUBLE"⟩, ⟨"source_topic", "VARCHAR"⟩]

def gpsSchema : List Column :=
  [⟨"timestamp", "BIGINT"⟩, ⟨"latitude", "DOUBLE"⟩, ⟨"longitude", "DOUBLE"⟩,
    ⟨"altitude", "DOUBLE"⟩]

def columnJson (column : Column) : Json Text :=
  ofPairs [("name", string (bytes column.name)), ("type", string (bytes column.type))]

/-- An element of `topics`. -/
def topicJson (topic : Text) (schema : List Column) : Json Text :=
  ofPairs [("name", string topic), ("schema", array (schema.map columnJson))]

section

variable {F : Type} (codec : Codec) (parameters : Parameters F) (robotId : Text) (nowMs : Int64)

/-- The value of `build_registration_payload`. -/
def registrationJson : Json Text :=
  ofPairs [("msg_type", string (bytes "REGISTRATION")), ("serial_number", string robotId),
    ("topics", array [topicJson parameters.odomKafkaTopic odomSchema,
      topicJson parameters.gpsKafkaTopic gpsSchema]),
    ("timestamp", int nowMs.toInt)]

/-- `build_registration_payload`; no result is the `type_error` that `dump` throws. -/
def buildRegistrationPayload : Option Text :=
  codec.dump (registrationJson parameters robotId nowMs)

/-- The value of `build_ping_payload`. -/
def pingJson : Json Text :=
  ofPairs [("msg_type", string (bytes "PING")), ("serial_number", string robotId),
    ("robot_name", string robotId), ("timestamp", int nowMs.toInt)]

/-- `build_ping_payload`; no result is the `type_error` that `dump` throws. -/
def buildPingPayload : Option Text :=
  codec.dump (pingJson robotId nowMs)

end

/-! ### Reading them -/

/-- A topic a robot is registered with. -/
structure TopicSchema where
  name : String
  schema : List Column
deriving DecidableEq, Repr

/-- The messages of the fleet manager. -/
inductive Report
  | registration (serialNumber : String) (topics : List TopicSchema) (timestamp : Int)
  | ping (serialNumber robotName : String) (timestamp : Int)
deriving DecidableEq, Repr

def string? : Json String → Option String
  | .string value => some value
  | _ => none

def int? : Json String → Option Int
  | .int value => some value
  | _ => none

def items? : Json String → Option (List (Json String))
  | .array items => some items
  | _ => none

def Column.read (j : Json String) : Option Column := do
  let name ← (j.member? "name").bind string?
  let type ← (j.member? "type").bind string?
  return ⟨name, type⟩

def TopicSchema.read (j : Json String) : Option TopicSchema := do
  let name ← (j.member? "name").bind string?
  let columns ← (j.member? "schema").bind items?
  return ⟨name, ← columns.mapM Column.read⟩

/-- A message, by its `msg_type`. -/
def Report.read (j : Json String) : Option Report := do
  let msgType ← (j.member? "msg_type").bind string?
  let serialNumber ← (j.member? "serial_number").bind string?
  let timestamp ← (j.member? "timestamp").bind int?
  if msgType = "REGISTRATION" then
    let topics ← (j.member? "topics").bind items?
    return .registration serialNumber (← topics.mapM TopicSchema.read) timestamp
  else if msgType = "PING" then
    let robotName ← (j.member? "robot_name").bind string?
    return .ping serialNumber robotName timestamp
  else none

/-- The message in the value of a record, if it is one. -/
def Report.ofText (codec : Codec) (text : Text) : Option Report :=
  (codec.parse text).bind Report.read

/-! ### What is read is what was built -/

/-- The message `build_registration_payload` is about, where its strings are UTF-8. -/
def registrationReport {F : Type} (parameters : Parameters F) (robotId : Text) (nowMs : Int64) :
    Option Report := do
  let serialNumber ← utf8? robotId
  let odom ← utf8? parameters.odomKafkaTopic
  let gps ← utf8? parameters.gpsKafkaTopic
  return .registration serialNumber [⟨odom, odomSchema⟩, ⟨gps, gpsSchema⟩] nowMs.toInt

/-- The message `build_ping_payload` is about. -/
def pingReport (robotId : Text) (nowMs : Int64) : Option Report :=
  (utf8? robotId).map fun name => .ping name name nowMs.toInt

section

variable {F : Type} {codec : Codec} {parameters : Parameters F} {robotId : Text} {nowMs : Int64}
variable {j' : Json String}

theorem string?_of_traverse {s : Text} (h : (string s : Json Text).traverse utf8? = some j') :
    string? j' = utf8? s := by
  obtain ⟨value, hvalue, rfl⟩ := Option.map_eq_some_iff.mp h
  exact hvalue.symm

/-- The items of an array are read back if each of them is. -/
theorem mapM_read_of_traverse {α : Type} {items : List (Json Text)} {results : List α}
    {read : Json String → Option α}
    (hread : List.Forall₂ (fun item x => ∀ j', item.traverse utf8? = some j' →
      read j' = some x) items results)
    (h : (array items).traverse utf8? = some j') :
    (items? j').bind (List.mapM read) = some results := by
  obtain ⟨items', rfl, hmap⟩ := exists_mapM_of_traverse hread h
  exact hmap

theorem Column.read_of_traverse {column : Column}
    (h : (columnJson column).traverse utf8? = some j') : Column.read j' = some column := by
  obtain ⟨name', hname, hmember⟩ := member?_traverse h (member?_ofPairs (by simp) (.head _))
  obtain ⟨type', htype, hmember'⟩ :=
    member?_traverse h (member?_ofPairs (by simp) (.tail _ (.head _)))
  have hname' := string?_of_traverse hname
  have htype' := string?_of_traverse htype
  rw [utf8?_bytes] at hname' htype'
  simp [Column.read, hmember, hmember', hname', htype']

theorem TopicSchema.read_of_traverse {topic : Text} {name : String} {schema : List Column}
    (htopic : utf8? topic = some name)
    (h : (topicJson topic schema).traverse utf8? = some j') :
    TopicSchema.read j' = some ⟨name, schema⟩ := by
  obtain ⟨name', hname, hmember⟩ := member?_traverse h (member?_ofPairs (by simp) (.head _))
  obtain ⟨columns', hcolumns, hmember'⟩ :=
    member?_traverse h (member?_ofPairs (by simp) (.tail _ (.head _)))
  have hname' := (string?_of_traverse hname).trans htopic
  have hcolumns' := mapM_read_of_traverse (List.forall₂_map_left_iff.mpr
    (List.forall₂_same.mpr fun column _ _ => Column.read_of_traverse)) hcolumns
  obtain ⟨items', hitems, hread⟩ := Option.bind_eq_some_iff.mp hcolumns'
  simp [TopicSchema.read, hmember, hmember', hname', hitems, hread]

theorem wellFormed_columnJson (column : Column) : (columnJson column).wellFormed = true := by
  refine wellFormed_ofPairs fun pair hpair => ?_
  simp only [List.mem_cons, List.not_mem_nil, or_false] at hpair
  rcases hpair with rfl | rfl <;> rfl

theorem wellFormed_topicJson (topic : Text) (schema : List Column) :
    (topicJson topic schema).wellFormed = true := by
  have hschema : (array (schema.map columnJson)).wellFormed = true := by
    refine wellFormed_array.mpr fun item hitem => ?_
    obtain ⟨column, -, rfl⟩ := List.mem_map.mp hitem
    exact wellFormed_columnJson column
  refine wellFormed_ofPairs fun pair hpair => ?_
  simp only [List.mem_cons, List.not_mem_nil, or_false] at hpair
  rcases hpair with rfl | rfl
  · rfl
  · exact hschema

theorem wellFormed_registrationJson :
    (registrationJson parameters robotId nowMs).wellFormed = true := by
  refine wellFormed_ofPairs fun pair hpair => ?_
  simp only [List.mem_cons, List.not_mem_nil, or_false] at hpair
  rcases hpair with rfl | rfl | rfl | rfl
  · rfl
  · rfl
  · exact wellFormed_array.mpr (by simp [wellFormed_topicJson])
  · exact wellFormed_toInt nowMs

theorem wellFormed_pingJson : (pingJson robotId nowMs).wellFormed = true := by
  refine wellFormed_ofPairs fun pair hpair => ?_
  simp only [List.mem_cons, List.not_mem_nil, or_false] at hpair
  rcases hpair with rfl | rfl | rfl | rfl
  · rfl
  · rfl
  · rfl
  · exact wellFormed_toInt nowMs

/-- The columns of a schema have literal names. -/
theorem forall_utf8_columnJson (column : Column) :
    ∀ s ∈ (columnJson column).strings, (utf8? s).isSome = true := by
  rw [columnJson, forall_mem_strings_ofPairs (by simp)]
  simp [strings]

theorem forall_utf8_topicJson_iff {topic : Text} {schema : List Column} :
    (∀ s ∈ (topicJson topic schema).strings, (utf8? s).isSome = true) ↔
      (utf8? topic).isSome = true := by
  have hcolumns : ∀ column ∈ schema, ∀ s ∈ (columnJson column).strings,
      (utf8? s).isSome = true := fun column _ => forall_utf8_columnJson column
  rw [topicJson, forall_mem_strings_ofPairs (by simp)]
  simp only [List.forall_mem_cons, strings_array, List.forall_mem_flatMap, List.forall_mem_map]
  simpa [strings] using fun (_ : (utf8? topic).isSome = true) => hcolumns

/-- A registration is built unless the robot or one of the two topics is not UTF-8. -/
theorem buildRegistrationPayload_isSome_iff :
    (buildRegistrationPayload codec parameters robotId nowMs).isSome = true ↔
      (registrationReport parameters robotId nowMs).isSome = true := by
  rw [buildRegistrationPayload, Codec.dump_isSome_iff, registrationJson,
    forall_mem_strings_ofPairs (by simp)]
  simp only [List.forall_mem_cons, strings_array, List.forall_mem_flatMap,
    forall_utf8_topicJson_iff]
  simp only [strings, List.forall_mem_cons, utf8?_bytes, Option.isSome_some, List.not_mem_nil,
    false_imp_iff, implies_true, and_true, true_and]
  rw [registrationReport]
  cases utf8? robotId <;> cases utf8? parameters.odomKafkaTopic <;>
    cases utf8? parameters.gpsKafkaTopic <;> simp

theorem buildPingPayload_isSome_iff :
    (buildPingPayload codec robotId nowMs).isSome = true ↔
      (pingReport robotId nowMs).isSome = true := by
  rw [buildPingPayload, Codec.dump_isSome_iff, pingJson, forall_mem_strings_ofPairs (by simp)]
  simp [strings, pingReport]

theorem Report.read_registrationJson {report : Report}
    (h : (registrationJson parameters robotId nowMs).traverse utf8? = some j')
    (hreport : registrationReport parameters robotId nowMs = some report) :
    Report.read j' = some report := by
  simp only [registrationReport, bind, Option.bind_eq_some_iff] at hreport
  obtain ⟨serialNumber, hserial, odom, hodom, gps, hgps, hreport⟩ := hreport
  cases hreport
  obtain ⟨msgType', hmsgType, hmsgTypeMember⟩ :=
    member?_traverse h (member?_ofPairs (by simp) (.head _))
  obtain ⟨serial', hserial', hserialMember⟩ :=
    member?_traverse h (member?_ofPairs (by simp) (.tail _ (.head _)))
  obtain ⟨topics', htopics, htopicsMember⟩ :=
    member?_traverse h (member?_ofPairs (by simp) (.tail _ (.tail _ (.head _))))
  obtain ⟨timestamp', htimestamp, htimestampMember⟩ :=
    member?_traverse h (member?_ofPairs (by simp) (.tail _ (.tail _ (.tail _ (.head _)))))
  have hmsgType' := string?_of_traverse hmsgType
  have hserialNumber := (string?_of_traverse hserial').trans hserial
  have htopics' := mapM_read_of_traverse
    (.cons (fun j' => TopicSchema.read_of_traverse hodom)
      (.cons (fun j' => TopicSchema.read_of_traverse hgps) .nil)) htopics
  obtain ⟨items', hitems, hread⟩ := Option.bind_eq_some_iff.mp htopics'
  obtain rfl := Option.some.inj htimestamp
  rw [utf8?_bytes] at hmsgType'
  simp [Report.read, hmsgTypeMember, hserialMember, htopicsMember, htimestampMember, hmsgType',
    hserialNumber, hitems, hread, int?]

theorem Report.read_pingJson {report : Report}
    (h : (pingJson robotId nowMs).traverse utf8? = some j')
    (hreport : pingReport robotId nowMs = some report) : Report.read j' = some report := by
  obtain ⟨name, hname, rfl⟩ := Option.map_eq_some_iff.mp hreport
  obtain ⟨msgType', hmsgType, hmsgTypeMember⟩ :=
    member?_traverse h (member?_ofPairs (by simp) (.head _))
  obtain ⟨serial', hserial, hserialMember⟩ :=
    member?_traverse h (member?_ofPairs (by simp) (.tail _ (.head _)))
  obtain ⟨robotName', hrobotName, hrobotNameMember⟩ :=
    member?_traverse h (member?_ofPairs (by simp) (.tail _ (.tail _ (.head _))))
  obtain ⟨timestamp', htimestamp, htimestampMember⟩ :=
    member?_traverse h (member?_ofPairs (by simp) (.tail _ (.tail _ (.tail _ (.head _)))))
  have hmsgType' := string?_of_traverse hmsgType
  have hserialNumber := (string?_of_traverse hserial).trans hname
  have hrobotName' := (string?_of_traverse hrobotName).trans hname
  obtain rfl := Option.some.inj htimestamp
  rw [utf8?_bytes] at hmsgType'
  simp [Report.read, hmsgTypeMember, hserialMember, hrobotNameMember, htimestampMember,
    hmsgType', hserialNumber, hrobotName', int?]

/-- A registration that was built is read as its report. -/
theorem ofText_registration {text : Text} (hcodec : codec.Lawful)
    (h : buildRegistrationPayload codec parameters robotId nowMs = some text) :
    ∃ report, registrationReport parameters robotId nowMs = some report ∧
      Report.ofText codec text = some report := by
  have hsome : (registrationReport parameters robotId nowMs).isSome = true :=
    buildRegistrationPayload_isSome_iff.mp (by rw [h]; rfl)
  obtain ⟨report, hreport⟩ := Option.isSome_iff_exists.mp hsome
  obtain ⟨j', htraverse, hparse⟩ := hcodec.parse_dump wellFormed_registrationJson h
  refine ⟨report, hreport, ?_⟩
  rw [Report.ofText, hparse]
  exact Report.read_registrationJson htraverse hreport

/-- A ping that was built is read as its report. -/
theorem ofText_ping {text : Text} (hcodec : codec.Lawful)
    (h : buildPingPayload codec robotId nowMs = some text) :
    ∃ report, pingReport robotId nowMs = some report ∧
      Report.ofText codec text = some report := by
  have hsome : (pingReport robotId nowMs).isSome = true :=
    buildPingPayload_isSome_iff.mp (by rw [h]; rfl)
  obtain ⟨report, hreport⟩ := Option.isSome_iff_exists.mp hsome
  obtain ⟨j', htraverse, hparse⟩ := hcodec.parse_dump wellFormed_pingJson h
  refine ⟨report, hreport, ?_⟩
  rw [Report.ofText, hparse]
  exact Report.read_pingJson htraverse hreport

/-- A text that is there exactly if a report is, and is read as that report. -/
theorem map_ofText_eq {payload : Option Text} {report : Option Report}
    (hsome : payload.isSome = true ↔ report.isSome = true)
    (hread : ∀ text, payload = some text →
      ∃ r, report = some r ∧ Report.ofText codec text = some r) :
    payload.map (Report.ofText codec) = report.map some := by
  cases payload with
  | none =>
    have habsent : report = none := Option.not_isSome_iff_eq_none.mp fun h => by
      cases hsome.mpr h
    rw [habsent]
    rfl
  | some text =>
    obtain ⟨r, rfl, hr⟩ := hread text rfl
    exact congrArg some hr

end

/-- **Payloads read back.** Whatever the parameters and the robot, a registration and a ping are
each built exactly if the strings that go into them are UTF-8, and the fleet manager then reads
the report they are about: the robot, its topics with their columns, and the time. -/
theorem reports_read_back {F : Type} {codec : Codec} (hcodec : codec.Lawful)
    (parameters : Parameters F) (robotId : Text) (nowMs : Int64) :
    (buildRegistrationPayload codec parameters robotId nowMs).map (Report.ofText codec) =
        (registrationReport parameters robotId nowMs).map some ∧
      (buildPingPayload codec robotId nowMs).map (Report.ofText codec) =
        (pingReport robotId nowMs).map some :=
  ⟨map_ofText_eq buildRegistrationPayload_isSome_iff fun _ => ofText_registration hcodec,
    map_ofText_eq buildPingPayload_isSome_iff fun _ => ofText_ping hcodec⟩

/-- The reports of the robot `leader`, by default. -/
theorem reports_read_back_leader :
    (buildRegistrationPayload plain { healthPeriodS := () } (bytes "leader") 5).map
        (Report.ofText plain) =
      some (some (.registration "leader"
        [⟨"ros_filtered_odom", odomSchema⟩, ⟨"ros_gps_fix", gpsSchema⟩] 5)) ∧
      (buildPingPayload plain (bytes "leader") 5).map (Report.ofText plain) =
        some (some (.ping "leader" "leader" 5)) := by
  obtain ⟨hregistration, hping⟩ :=
    reports_read_back plain_lawful { healthPeriodS := () } (bytes "leader") 5
  refine ⟨hregistration.trans ?_, hping.trans ?_⟩
  · simp [registrationReport]
  · simp [pingReport]

end Ros2Dispatcher.GisHealth
