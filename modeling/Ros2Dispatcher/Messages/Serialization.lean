import Ros2Dispatcher.Messages.ArrayFields

/-!
# Serializing messages to JSON

`serialize_message_to_json` takes a serialized message apart, builds its JSON object and prints
it. Its first steps may fail, and then it returns `false` with an error. After them it calls
`build_json_message` and `dump`, and neither is guarded: strings that are no UTF-8 and wide
strings that the converter does not take end it with an exception.

* `serializeWith_returns_iff`: the messages for which it returns, whatever the converter takes.
* `serializeMessageToJson_returns_iff`: those for which it does in the three nodes, with a
  converter that throws on every surrogate without its partner.
-/

namespace Ros2Dispatcher.Messages

open Json (Codec utf8?)

/-! ### The function -/

/-- How a call ends: with the text, with an error, or not at all. -/
inductive Outcome
  | returned (output : List UInt8)
  | failed (errorMessage : String)
  | left (fault : Fault)
deriving DecidableEq, Repr

variable {members : Members}

/-- The steps to the message; where one fails, its error. -/
def TypeSupport.message (support : TypeSupport members) (serialized : List UInt8) :
    Except String members.Value :=
  if !support.rmwTypeSupport || !support.introspectionTypeSupport then
    .error "Missing type support for JSON serialization."
  else if !support.data || support.sizeOf = 0 then
    .error "Introspection metadata unavailable."
  else if !support.malloc then
    .error "Failed to allocate message for JSON serialization."
  else
    match support.rmwDeserialize serialized with
    | none => .error "Failed to deserialize message for JSON serialization."
    | some message => .ok message

/-- `serialize_message_to_json`, where `extra` is assigned to the object before it is dumped. -/
def serializeWith (converter : Converter) (codec : Codec) (extra : List (String × Built))
    (support : TypeSupport members) (serialized : List UInt8) : Outcome :=
  match support.message serialized with
  | .error errorMessage => .failed errorMessage
  | .ok message =>
    match buildJsonMembers converter members message [] with
    | .error fault => .left fault
    | .ok entries =>
      match codec.dump (.object (Entries.setAll extra entries)) with
      | some output => .returned output
      | none => .left .thrown

/-- `serialize_message_to_json` of `kafka_sink`. -/
def KafkaSink.serializeMessageToJson (converter : Converter) (codec : Codec)
    (support : TypeSupport members) (serialized : List UInt8) : Outcome :=
  serializeWith converter codec [] support serialized

/-- `serialize_message_to_json` of `mosquitto_sink`. -/
def MosquittoSink.serializeMessageToJson (converter : Converter) (codec : Codec)
    (support : TypeSupport members) (serialized : List UInt8) : Outcome :=
  serializeWith converter codec [] support serialized

/-- What the function of `kafka_cdr_to_json` adds to the object. -/
def KafkaCdrToJson.extraMembers (rosType : String) (kafkaTimestampMs : Option Int64)
    (includeRosType includeTimestamp : Bool) : List (String × Built) :=
  (if includeRosType then [("__ros_type", .string (Json.bytes rosType))] else []) ++
    if includeTimestamp then
      [("__kafka_timestamp_ms", kafkaTimestampMs.elim .null fun ms => .int ms.toInt)]
    else []

/-- `serialize_message_to_json` of `kafka_cdr_to_json`. -/
def KafkaCdrToJson.serializeMessageToJson (converter : Converter) (codec : Codec)
    (support : TypeSupport members) (rosType : String) (kafkaTimestampMs : Option Int64)
    (includeRosType includeTimestamp : Bool) (serialized : List UInt8) : Outcome :=
  serializeWith converter codec
    (extraMembers rosType kafkaTimestampMs includeRosType includeTimestamp) support serialized

/-! ### Values that can be printed -/

/-- All strings of a value are UTF-8. -/
def Printable (j : Built) : Prop :=
  ∀ value ∈ j.strings, (utf8? value).isSome = true

theorem printable_array (items : List Built) :
    Printable (.array items) ↔ ∀ item ∈ items, Printable item := by
  simp only [Printable, Json.strings_array, List.forall_mem_flatMap]

theorem printable_object {entries : List (String × Built)} :
    Printable (.object entries) ↔ ∀ entry ∈ entries, Printable entry.2 := by
  simp only [Printable, Json.strings_object, List.forall_mem_flatMap]

/-- Of fields under different names all have to be printable. -/
theorem printable_setAll {fields : List (String × Built)}
    (hnames : (fields.map Prod.fst).Nodup) :
    Printable (.object (Entries.setAll fields [])) ↔ ∀ field ∈ fields, Printable field.2 := by
  rw [printable_object]
  constructor
  · intro h field hfield
    exact h field (Entries.mem_of_lookup (Entries.lookup_setAll_of_mem hnames hfield))
  · intro h entry hentry
    rcases Entries.mem_of_mem_setAll hentry with hfield | hnil
    · exact h entry hfield
    · cases hnil

/-- A string is UTF-8, and a wide string is one that a converter takes. -/
def Primitive.Serializable (wide : List UInt16 → Bool) : (type : Primitive) → type.Value → Prop
  | string, value => (utf8? value).isSome = true
  | wstring, value => wide value = true
  | _, _ => True

variable {converter : Converter} {wide : List UInt16 → Bool}

theorem Primitive.serializable_iff (hconverter : converter.Takes wide) {type : Primitive}
    {value : type.Value} :
    type.Serializable wide value ↔ ∃ j, type.toJson converter value = .ok j ∧ Printable j := by
  cases type with
  | wstring =>
    rw [Serializable, ← hconverter.isSome, Option.isSome_iff_exists]
    simp only [toJson_wstring_eq_ok_iff]
    constructor
    · rintro ⟨bytes, hbytes⟩
      have hutf8 := hconverter.utf8 value bytes hbytes
      exact ⟨.string bytes, ⟨bytes, hbytes, rfl⟩, by simpa [Printable, Json.strings] using hutf8⟩
    · rintro ⟨_, ⟨bytes, hbytes, -⟩, -⟩
      exact ⟨bytes, hbytes⟩
  | string => simp [toJson, Serializable, Printable, Json.strings]
  | float => cases value <;> simp [toJson, Serializable, Printable, Json.strings, finiteOrNull]
  | double => cases value <;> simp [toJson, Serializable, Printable, Json.strings, finiteOrNull]
  | _ => simp [toJson, Serializable, Printable, Json.strings]

section Field

variable {α : Type} {layout : Layout} {elementSize : Nat} {scalar : α → Except Fault Built}
  {j : Built}

/-- One member is built and can be printed, if each of its elements is and can. -/
theorem exists_printable (value : layout.kind.Value α)
    (hrange : layout.InRange elementSize (layout.kind.elements value).length)
    (helements : ∀ element ∈ layout.reached elementSize (layout.kind.elements value),
      ∃ item, scalar element = .ok item ∧ Printable item) :
    ∃ j, buildJsonValue layout elementSize scalar value = .ok j ∧ Printable j := by
  obtain ⟨j, hj⟩ := Layout.exists_assembles value helements
  obtain ⟨hbuild, hprint⟩ := (ArrayKind.assembles_and_iff printable_array).mpr hj
  exact ⟨j, buildJsonValue_eq_ok_iff.mpr ⟨hrange, hbuild⟩, hprint⟩

theorem elements_of_printable {value : layout.kind.Value α}
    (hbuild : buildJsonValue layout elementSize scalar value = .ok j) (hprint : Printable j) :
    layout.InRange elementSize (layout.kind.elements value).length ∧
      ∀ element ∈ layout.reached elementSize (layout.kind.elements value),
        ∃ item, scalar element = .ok item ∧ Printable item := by
  obtain ⟨hrange, hassembles⟩ := buildJsonValue_eq_ok_iff.mp hbuild
  have hboth := (ArrayKind.assembles_and_iff printable_array).mp ⟨hassembles, hprint⟩
  refine ⟨hrange, fun element helement => ?_⟩
  obtain ⟨item, hitem, -⟩ := hboth.exists_both hboth element helement
  exact ⟨item, hitem⟩

end Field

mutual

/-- Serializable values are built and can be printed, by induction over their type. -/
theorem FieldType.exists_printable (hconverter : converter.Takes wide) : (type : FieldType) →
    type.Distinct → (value : type.Value) →
    type.Holds Layout.InRange (Primitive.Serializable wide) value →
      ∃ j, buildJsonScalar converter type value = .ok j ∧ Printable j
  | .primitive type, _, value, hleaf => (Primitive.serializable_iff hconverter).mp hleaf
  | .message _ members, hdistinct, message, hholds => by
    obtain ⟨fields, hbuilds, hprint⟩ :=
      members.exists_printable hconverter hdistinct message hholds
    refine ⟨.object (Entries.setAll fields []), ?_, ?_⟩
    · exact Fallible.map_eq_ok_iff.mpr
        ⟨_, (buildJsonMembers_eq_ok_iff _ _ _).mpr ⟨fields, hbuilds, rfl⟩, rfl⟩
    · exact (printable_setAll (hbuilds.names ▸ hdistinct.nodup_names)).mpr hprint

theorem Members.exists_printable (hconverter : converter.Takes wide) : (members : Members) →
    members.Distinct → (message : members.Value) →
    members.Holds Layout.InRange (Primitive.Serializable wide) message →
      ∃ fields, members.Builds converter message fields ∧ ∀ field ∈ fields, Printable field.2
  | .nil, _, _, _ => ⟨[], rfl, nofun⟩
  | .cons name type layout rest, ⟨_, htype, hrest⟩, message, ⟨hrange, helements, hholds⟩ => by
    obtain ⟨j, hbuild, hj⟩ := Messages.exists_printable message.1 hrange
      fun element helement =>
        type.exists_printable hconverter htype element (helements element helement)
    obtain ⟨fields, hbuilds, hprint⟩ := rest.exists_printable hconverter hrest message.2 hholds
    exact ⟨(name, j) :: fields, ⟨j, fields, hbuild, hbuilds, rfl⟩,
      List.forall_mem_cons.mpr ⟨hj, hprint⟩⟩

end

mutual

/-- What is built and can be printed is serializable, by induction over its type. -/
theorem FieldType.serializable_of_printable (hconverter : converter.Takes wide) :
    (type : FieldType) → type.Distinct → (value : type.Value) → (j : Built) →
      buildJsonScalar converter type value = .ok j → Printable j →
        type.Holds Layout.InRange (Primitive.Serializable wide) value
  | .primitive type, _, value, j, hbuild, hprint =>
    (Primitive.serializable_iff hconverter).mpr ⟨j, hbuild, hprint⟩
  | .message _ members, hdistinct, message, j, hbuild, hprint => by
    obtain ⟨_, hmembers, rfl⟩ := Fallible.map_eq_ok_iff.mp hbuild
    obtain ⟨fields, hbuilds, rfl⟩ := (buildJsonMembers_eq_ok_iff _ _ _).mp hmembers
    exact members.serializable_of_printable hconverter hdistinct message fields hbuilds
      ((printable_setAll (hbuilds.names ▸ hdistinct.nodup_names)).mp hprint)

theorem Members.serializable_of_printable (hconverter : converter.Takes wide) :
    (members : Members) → members.Distinct → (message : members.Value) →
      (fields : List (String × Built)) → members.Builds converter message fields →
        (∀ field ∈ fields, Printable field.2) →
          members.Holds Layout.InRange (Primitive.Serializable wide) message
  | .nil, _, _, _, _, _ => trivial
  | .cons name type layout rest, ⟨_, htype, hrest⟩, message, _,
      ⟨value, others, hbuild, hbuilds, rfl⟩, hprint => by
    obtain ⟨hvalue, hothers⟩ := List.forall_mem_cons.mp hprint
    obtain ⟨hrange, helements⟩ := elements_of_printable hbuild hvalue
    refine ⟨hrange, fun element helement => ?_,
      rest.serializable_of_printable hconverter hrest message.2 others hbuilds hothers⟩
    obtain ⟨item, hitem, hitemPrint⟩ := helements element helement
    exact type.serializable_of_printable hconverter htype element item hitem hitemPrint

end

/-! ### Values that can be read back -/

theorem wellFormed_signed {n : Int} {bits : Nat} (hlower : -2 ^ bits ≤ n) (hupper : n < 2 ^ bits)
    (hbits : (2 ^ bits : Int) ≤ 2 ^ 63) : (.int n : Built).wellFormed = true :=
  decide_eq_true ⟨by omega, by omega⟩

theorem wellFormed_unsigned {n bits : Nat} (hn : n < 2 ^ bits) (hbits : bits ≤ 64) :
    (.int n : Built).wellFormed = true := by
  have hupper : n < 2 ^ 64 := hn.trans_le (Nat.pow_le_pow_right (by decide) hbits)
  simp only [Json.wellFormed, decide_eq_true_eq]
  omega

/-- Every integer of a message fits in 64 bits. -/
theorem Primitive.wellFormed_toJson {type : Primitive} {value : type.Value} {j : Built}
    (h : type.toJson converter value = .ok j) : j.wellFormed = true := by
  cases type with
  | wstring =>
    obtain ⟨bytes, -, rfl⟩ := toJson_wstring_eq_ok_iff.mp h
    rfl
  | float => cases h; cases value <;> rfl
  | double => cases h; cases value <;> rfl
  | char => cases h; exact wellFormed_signed (Int8.le_toInt value) (Int8.toInt_lt value) (by decide)
  | int8 => cases h; exact wellFormed_signed (Int8.le_toInt value) (Int8.toInt_lt value) (by decide)
  | int16 =>
    cases h
    exact wellFormed_signed (Int16.le_toInt value) (Int16.toInt_lt value) (by decide)
  | int32 =>
    cases h
    exact wellFormed_signed (Int32.le_toInt value) (Int32.toInt_lt value) (by decide)
  | int64 =>
    cases h
    exact wellFormed_signed (Int64.le_toInt value) (Int64.toInt_lt value) (by decide)
  | octet => cases h; exact wellFormed_unsigned (UInt8.toNat_lt value) (by decide)
  | uint8 => cases h; exact wellFormed_unsigned (UInt8.toNat_lt value) (by decide)
  | uint16 => cases h; exact wellFormed_unsigned (UInt16.toNat_lt value) (by decide)
  | uint32 => cases h; exact wellFormed_unsigned (UInt32.toNat_lt value) (by decide)
  | uint64 => cases h; exact wellFormed_unsigned (UInt64.toNat_lt value) (by decide)
  | _ => cases h; rfl

theorem wellFormed_setAll {fields : List (String × Built)}
    (h : ∀ field ∈ fields, field.2.wellFormed = true) :
    (.object (Entries.setAll fields []) : Built).wellFormed = true := by
  refine Json.wellFormed_object.mpr
    ⟨Entries.Sorted.setAll List.Pairwise.nil, fun entry hentry => ?_⟩
  rcases Entries.mem_of_mem_setAll hentry with hfield | hnil
  · exact h entry hfield
  · cases hnil

mutual

/-- What is built is well-formed, by induction over its type. -/
theorem FieldType.wellFormed_build : (type : FieldType) → (value : type.Value) → (j : Built) →
    buildJsonScalar converter type value = .ok j → j.wellFormed = true
  | .primitive type, value, j, hbuild => Primitive.wellFormed_toJson hbuild
  | .message _ members, message, j, hbuild => by
    obtain ⟨_, hmembers, rfl⟩ := Fallible.map_eq_ok_iff.mp hbuild
    obtain ⟨fields, hbuilds, rfl⟩ := (buildJsonMembers_eq_ok_iff _ _ _).mp hmembers
    exact wellFormed_setAll (members.wellFormed_builds message fields hbuilds)

theorem Members.wellFormed_builds : (members : Members) → (message : members.Value) →
    (fields : List (String × Built)) → members.Builds converter message fields →
      ∀ field ∈ fields, field.2.wellFormed = true
  | .nil, _, _, rfl => nofun
  | .cons name type layout rest, message, _, ⟨value, others, hbuild, hbuilds, rfl⟩ => by
    obtain ⟨-, hassembles⟩ := buildJsonValue_eq_ok_iff.mp hbuild
    have hitems := hassembles.imp fun element item hitem =>
      (⟨hitem, type.wellFormed_build element item hitem⟩ :
        buildJsonScalar converter type element = .ok item ∧ item.wellFormed = true)
    have hwell := (ArrayKind.assembles_and_iff fun items => Json.wellFormed_array).mpr hitems
    exact List.forall_mem_cons.mpr ⟨hwell.2, rest.wellFormed_builds message.2 others hbuilds⟩

end

/-! ### When the function returns -/

/-- The function returns: `false` with an error, or `true` with the text of an object. -/
def Outcome.Returns (codec : Codec) (outcome : Outcome) : Prop :=
  (∃ errorMessage, outcome = .failed errorMessage) ∨
    ∃ output entries, outcome = .returned output ∧ codec.parse output = some (.object entries)

/-- What is taken from the serialized message, if anything, has no array that is read past its
elements, and no string that cannot be printed. -/
def TypeSupport.Serializable (wide : List UInt16 → Bool) (support : TypeSupport members)
    (serialized : List UInt8) : Prop :=
  ∀ message, support.message serialized = .ok message →
    members.Holds Layout.InRange (Primitive.Serializable wide) message

theorem setAll_append {first second : List (String × Built)} :
    Entries.setAll second (Entries.setAll first []) = Entries.setAll (first ++ second) [] :=
  (List.foldl_append ..).symm

/-- The text of fields that can be printed. -/
theorem exists_dump (codec : Codec) {fields : List (String × Built)}
    (hnames : (fields.map Prod.fst).Nodup) (hprint : ∀ field ∈ fields, Printable field.2)
    (hwell : ∀ field ∈ fields, field.2.wellFormed = true) (hcodec : codec.Lawful) :
    ∃ output entries, codec.dump (.object (Entries.setAll fields [])) = some output ∧
      codec.parse output = some (.object entries) := by
  have hsome := Json.traverse_isSome_iff.mpr ((printable_setAll hnames).mpr hprint)
  obtain ⟨j, hj⟩ := Option.isSome_iff_exists.mp hsome
  obtain ⟨entries, rfl⟩ : ∃ entries, j = .object entries := by
    rw [Json.traverse, Option.map_eq_some_iff] at hj
    obtain ⟨entries, -, rfl⟩ := hj
    exact ⟨entries, rfl⟩
  refine ⟨codec.print (.object entries), entries, by rw [Codec.dump, hj]; rfl, ?_⟩
  exact hcodec.parse_print _ (Json.wellFormed_traverse (wellFormed_setAll hwell) hj)

/-- The function returns if the message is serializable, whatever else goes into the object that
has other names. -/
theorem serializeWith_returns_iff (hconverter : converter.Takes wide) {codec : Codec}
    (hcodec : codec.Lawful) (hdistinct : members.Distinct) {extra : List (String × Built)}
    (hextra : ∀ field ∈ extra, Printable field.2 ∧ field.2.wellFormed = true)
    (hnames : (members.names ++ extra.map Prod.fst).Nodup) (support : TypeSupport members)
    (serialized : List UInt8) :
    (serializeWith converter codec extra support serialized).Returns codec ↔
      support.Serializable wide serialized := by
  have hkeys : ∀ message fields, members.Builds converter message fields →
      ((fields ++ extra).map Prod.fst).Nodup := by
    intro message fields hbuilds
    rwa [List.map_append, hbuilds.names]
  unfold serializeWith TypeSupport.Serializable
  cases support.message serialized with
  | error errorMessage => simp [Outcome.Returns]
  | ok message =>
    simp only [Except.ok.injEq, forall_eq']
    constructor
    · intro hreturns
      cases hbuild : buildJsonMembers converter members message [] with
      | error fault => simp [hbuild, Outcome.Returns] at hreturns
      | ok entries =>
        obtain ⟨fields, hbuilds, rfl⟩ := (buildJsonMembers_eq_ok_iff _ _ _).mp hbuild
        have hdump :
            (codec.dump (.object (Entries.setAll (fields ++ extra) []))).isSome = true := by
          rw [← setAll_append, Option.isSome_iff_ne_none]
          intro hnone
          simp [hbuild, hnone, Outcome.Returns] at hreturns
        rw [Codec.dump, Option.isSome_map, Json.traverse_isSome_iff] at hdump
        have hprint := (printable_setAll (hkeys message fields hbuilds)).mp hdump
        exact members.serializable_of_printable hconverter hdistinct message fields hbuilds
          fun field hfield => hprint field (List.mem_append_left extra hfield)
    · intro hholds
      obtain ⟨fields, hbuilds, hprint⟩ :=
        members.exists_printable hconverter hdistinct message hholds
      have hbuild := (buildJsonMembers_eq_ok_iff members message []).mpr ⟨fields, hbuilds, rfl⟩
      have hwell := members.wellFormed_builds message fields hbuilds
      obtain ⟨output, entries, hdump, hparse⟩ := exists_dump codec (hkeys message fields hbuilds)
        (List.forall_mem_append.mpr ⟨hprint, fun field hfield => (hextra field hfield).1⟩)
        (List.forall_mem_append.mpr ⟨hwell, fun field hfield => (hextra field hfield).2⟩) hcodec
      rw [← setAll_append] at hdump
      exact .inr ⟨output, entries, by simp [hbuild, hdump], hparse⟩

theorem KafkaCdrToJson.mem_extraMembers {rosType : String} {kafkaTimestampMs : Option Int64}
    {includeRosType includeTimestamp : Bool} {field : String × Built}
    (h : field ∈ extraMembers rosType kafkaTimestampMs includeRosType includeTimestamp) :
    Printable field.2 ∧ field.2.wellFormed = true := by
  rcases List.mem_append.mp h with h | h
  · cases includeRosType with
    | false => cases h
    | true =>
      obtain rfl := List.mem_singleton.mp h
      exact ⟨by simp [Printable, Json.strings], rfl⟩
  · cases includeTimestamp with
    | false => cases h
    | true =>
      obtain rfl := List.mem_singleton.mp h
      cases kafkaTimestampMs with
      | none => exact ⟨by simp [Printable, Json.strings], rfl⟩
      | some ms =>
        exact ⟨by simp [Printable, Json.strings],
          wellFormed_signed ms.le_toInt ms.toInt_lt (by decide)⟩

/-- The members added have other names than those of a message. -/
theorem KafkaCdrToJson.nodup_append_extraMembers {names : List String} (hnames : names.Nodup)
    (hreserved : "__ros_type" ∉ names ∧ "__kafka_timestamp_ms" ∉ names) (rosType : String)
    (kafkaTimestampMs : Option Int64) (includeRosType includeTimestamp : Bool) :
    (names ++ (extraMembers rosType kafkaTimestampMs includeRosType includeTimestamp).map
      Prod.fst).Nodup := by
  have hsublist : List.Sublist
      ((extraMembers rosType kafkaTimestampMs includeRosType includeTimestamp).map Prod.fst)
      ["__ros_type", "__kafka_timestamp_ms"] := by
    cases includeRosType <;> cases includeTimestamp <;> simp [extraMembers]
  have hboth : (names ++ ["__ros_type", "__kafka_timestamp_ms"]).Nodup := by
    refine List.nodup_append.mpr ⟨hnames, by decide, fun name hname other hother => ?_⟩
    rintro rfl
    rcases List.mem_pair.mp hother with rfl | rfl
    · exact hreserved.1 hname
    · exact hreserved.2 hname
  exact hboth.sublist (hsublist.append_left names)

/-- **Serialization.** If the converter throws on every surrogate without its partner and on
nothing else, then in all three nodes the function returns, with an error or with the JSON text of
an object, exactly if the message, when it gets that far, is serializable. -/
theorem serializeMessageToJson_returns_iff (hconverter : converter.Takes Utf16.paired)
    {codec : Codec} (hcodec : codec.Lawful) (hdistinct : members.Distinct)
    (hreserved : "__ros_type" ∉ members.names ∧ "__kafka_timestamp_ms" ∉ members.names)
    (support : TypeSupport members) (serialized : List UInt8) (rosType : String)
    (kafkaTimestampMs : Option Int64) (includeRosType includeTimestamp : Bool) :
    ((KafkaSink.serializeMessageToJson converter codec support serialized).Returns codec ↔
        support.Serializable Utf16.paired serialized) ∧
      ((MosquittoSink.serializeMessageToJson converter codec support serialized).Returns codec ↔
        support.Serializable Utf16.paired serialized) ∧
      ((KafkaCdrToJson.serializeMessageToJson converter codec support rosType kafkaTimestampMs
          includeRosType includeTimestamp serialized).Returns codec ↔
        support.Serializable Utf16.paired serialized) := by
  have hnodup := hdistinct.nodup_names
  have hsink : (serializeWith converter codec [] support serialized).Returns codec ↔
      support.Serializable Utf16.paired serialized := by
    refine serializeWith_returns_iff hconverter hcodec hdistinct (fun field hfield => ?_) ?_
      support serialized
    · cases hfield
    · simpa using hnodup
  refine ⟨hsink, hsink, serializeWith_returns_iff hconverter hcodec hdistinct
    (fun field => KafkaCdrToJson.mem_extraMembers) ?_ support serialized⟩
  exact KafkaCdrToJson.nodup_append_extraMembers hnodup hreserved _ _ _ _

/-- A converter that throws on every surrogate without its partner. -/
def strictConverter : Converter := fun value =>
  (Utf16.decode value).map fun chars => Json.bytes (String.ofList chars)

theorem strictConverter_takes : strictConverter.Takes Utf16.paired where
  isSome value := by rw [strictConverter, Option.isSome_map, Utf16.isSome_decode]
  utf8 value bytes h := by
    obtain ⟨chars, -, rfl⟩ := Option.map_eq_some_iff.mp h
    rw [Json.utf8?_bytes]
    rfl

/-- The members of `std_msgs/msg/String`. -/
def stringMembers : Members :=
  .cons "data" (.primitive .string) {} .nil

/-- The type support of a message with a string, while that is taken from its bytes. -/
def stringSupport (data : List UInt8) : TypeSupport stringMembers where
  sizeOf := 32
  rmwDeserialize serialized :=
    if serialized = [0, 1, 0, 0, data.length.toUInt8 + 1, 0, 0, 0] ++ data ++ [0] then
      some (data, ())
    else none

theorem text_message_returns :
    (KafkaSink.serializeMessageToJson strictConverter Json.plain (stringSupport [0x68, 0x69])
      [0, 1, 0, 0, 3, 0, 0, 0, 0x68, 0x69, 0]).Returns Json.plain := by
  have hdistinct : stringMembers.Distinct := ⟨by decide, trivial, trivial⟩
  refine (serializeMessageToJson_returns_iff strictConverter_takes Json.plain_lawful hdistinct
    (by decide) (stringSupport [0x68, 0x69]) _ "std_msgs/msg/String" none true true).1.mpr ?_
  intro message hmessage
  obtain rfl : (([0x68, 0x69], ()) : stringMembers.Value) = message := Except.ok.inj hmessage
  have hutf8 : (utf8? [0x68, 0x69]).isSome = true := by decide +kernel
  exact ⟨.inl rfl, List.forall_mem_singleton.mpr hutf8, trivial⟩

theorem latin_message_throws :
    ¬(KafkaSink.serializeMessageToJson strictConverter Json.plain (stringSupport [0xff])
      [0, 1, 0, 0, 2, 0, 0, 0, 0xff, 0]).Returns Json.plain := by
  have hthrown : KafkaSink.serializeMessageToJson strictConverter Json.plain
      (stringSupport [0xff]) [0, 1, 0, 0, 2, 0, 0, 0, 0xff, 0] = .left .thrown := by
    decide +kernel
  simp [hthrown, Outcome.Returns]

end Ros2Dispatcher.Messages
