import Ros2Dispatcher.Library.JsonObjects
import Ros2Dispatcher.Messages.Serialization

/-!
# Reading messages from JSON

What a consumer of the JSON texts can do: `Members.read` takes a value for a message of a known
type, field by field. A number that is not finite is `null` there, and of a `long double` and a
`wchar` nothing is left; where a type has none of these (`Members.Textual`), the text says all but
a high surrogate that ends a wide string (`Members.whole`).

* `Members.read_of_converts`: what stands for a message is read as it.
* `serializeWith_writes`: whenever `serialize_message_to_json` returns a text, it is that of an
  object that stands for the message, whatever else went into it under other names.
* `serializeMessageToJson_textOf`: so it is in all three nodes.
-/

namespace Ros2Dispatcher.Messages

open Json (Codec utf8?)

variable {α : Type}

/-! ### Readers -/

/-- An integer of a signed type. -/
def readInt (ofInt : Int → α) (toInt : α → Int) : Json String → Option α
  | .int n => if toInt (ofInt n) = n then some (ofInt n) else none
  | _ => none

/-- An integer of an unsigned type. -/
def readNat (ofNat : Nat → α) (toNat : α → Nat) : Json String → Option α :=
  readInt (fun n => ofNat n.toNat) fun value => toNat value

/-- A number; one that is not finite is not told from the others. -/
def readDouble : Json String → Option (Option Double)
  | .float value => some (some value)
  | .null => some none
  | _ => none

/-- A value that is no message. -/
def Primitive.read : (type : Primitive) → Json String → Option type.Value
  | boolean, .bool value => some value
  | char, j => readInt Int8.ofInt Int8.toInt j
  | octet, j => readNat UInt8.ofNat UInt8.toNat j
  | uint8, j => readNat UInt8.ofNat UInt8.toNat j
  | int8, j => readInt Int8.ofInt Int8.toInt j
  | uint16, j => readNat UInt16.ofNat UInt16.toNat j
  | int16, j => readInt Int16.ofInt Int16.toInt j
  | uint32, j => readNat UInt32.ofNat UInt32.toNat j
  | int32, j => readInt Int32.ofInt Int32.toInt j
  | uint64, j => readNat UInt64.ofNat UInt64.toNat j
  | int64, j => readInt Int64.ofInt Int64.toInt j
  | float, j => readDouble j
  | double, j => readDouble j
  | string, .string s => some (Json.bytes s)
  | wstring, .string s => some (Utf16.encode s.toList)
  | _, _ => none

/-- What a member holds, its elements read by `read`. -/
def ArrayKind.read (read : Json String → Option α) : (kind : ArrayKind) → Json String →
    Option (kind.Value α)
  | single, j => read j
  | fixed size, .array items => do
    let elements ← items.mapM read
    if h : elements.length = size then some ⟨elements, h⟩ else none
  | unbounded, .array items => items.mapM read
  | bounded size, .array items => do
    let elements ← items.mapM read
    if h : elements.length ≤ size then some ⟨elements, h⟩ else none
  | _, _ => none

mutual

def FieldType.read : (type : FieldType) → Json String → Option type.Value
  | .primitive type, j => type.read j
  | .message _ members, j => members.read j

/-- A message, of which each member is read from the member under its name. -/
def Members.read : (members : Members) → Json String → Option members.Value
  | .nil, _ => some ()
  | .cons name type layout rest, j => do
    let value ← layout.kind.read type.read (← j.member? name)
    return (value, ← rest.read j)

end

/-- A value of the type is told by its text. -/
def Primitive.Textual (type : Primitive) : Prop :=
  type ≠ .longDouble ∧ type ≠ .wchar

mutual

/-- All values in a message are told by their texts, and no message is empty. -/
def FieldType.Textual : FieldType → Prop
  | .primitive type => type.Textual
  | .message sizeOf members => sizeOf ≠ 0 ∧ members.Textual

def Members.Textual : Members → Prop
  | .nil => True
  | .cons _ type _ rest => type.Textual ∧ rest.Textual

end

/-! ### What the texts leave out -/

/-- The value that the converter of libstdc++ writes. -/
def Primitive.whole : (type : Primitive) → type.Value → type.Value
  | wstring, value => Utf16.whole value
  | _, value => value

/-- What a member holds, with other elements. -/
def ArrayKind.map (f : α → α) : (kind : ArrayKind) → kind.Value α → kind.Value α
  | single, value => f value
  | fixed _, ⟨elements, h⟩ => ⟨elements.map f, (List.length_map f).trans h⟩
  | unbounded, elements => elements.map f
  | bounded _, ⟨elements, h⟩ => ⟨elements.map f, (List.length_map f).trans_le h⟩

mutual

def FieldType.whole : (type : FieldType) → type.Value → type.Value
  | .primitive type, value => type.whole value
  | .message _ members, message => members.whole message

/-- A message without the high surrogates that end its wide strings. -/
def Members.whole : (members : Members) → members.Value → members.Value
  | .nil, message => message
  | .cons _ type layout rest, message =>
    (layout.kind.map type.whole message.1, rest.whole message.2)

end

/-! ### What is read is what was converted -/

variable {kind : ArrayKind} {j : Built} {j' : Json String}

theorem readInt_of_traverse {ofInt : Int → α} {toInt : α → Int} {value : α}
    (hinverse : ∀ value, ofInt (toInt value) = value)
    (h : (.int (toInt value) : Built).traverse utf8? = some j') :
    readInt ofInt toInt j' = some value := by
  obtain rfl := Option.some.inj h
  rw [readInt, hinverse, if_pos rfl]

theorem readNat_of_traverse {ofNat : Nat → α} {toNat : α → Nat} {value : α}
    (hinverse : ∀ {value}, ofNat (toNat value) = value)
    (h : (.int (toNat value) : Built).traverse utf8? = some j') :
    readNat ofNat toNat j' = some value := by
  obtain rfl := Option.some.inj h
  rw [readNat, readInt, Int.toNat_natCast, hinverse, if_pos rfl]

theorem readDouble_of_traverse {value : Option Double}
    (h : (finiteOrNull value).traverse utf8? = some j') : readDouble j' = some value := by
  cases value <;> cases h <;> rfl

/-- A value that is no message is read as it was written, if its text tells it. -/
theorem Primitive.read_of_toJson {type : Primitive} {value : type.Value}
    (htextual : type.Textual) (h : type.toJson wstringToBytes value = .ok j)
    (htraverse : j.traverse utf8? = some j') : type.read j' = some (type.whole value) := by
  cases type with
  | longDouble => exact absurd rfl htextual.1
  | wchar => exact absurd rfl htextual.2
  | boolean => cases h; cases htraverse; rfl
  | float => cases h; exact readDouble_of_traverse htraverse
  | double => cases h; exact readDouble_of_traverse htraverse
  | string =>
    cases h
    obtain ⟨s, hs, rfl⟩ := Option.map_eq_some_iff.mp htraverse
    exact congrArg some (Json.bytes_of_utf8? hs)
  | wstring =>
    obtain ⟨text, htext, rfl⟩ := toJson_wstring_eq_ok_iff.mp h
    obtain ⟨s, hs, rfl⟩ := Option.map_eq_some_iff.mp htraverse
    obtain ⟨chars, hchars, rfl⟩ := Option.map_eq_some_iff.mp htext
    rw [Json.utf8?_bytes] at hs
    obtain rfl := Option.some.inj hs
    have hunits := Utf16.encode_of_decode hchars
    simp only [read, String.toList_ofList, hunits, whole]
  | char => cases h; exact readInt_of_traverse Int8.ofInt_toInt htraverse
  | int8 => cases h; exact readInt_of_traverse Int8.ofInt_toInt htraverse
  | int16 => cases h; exact readInt_of_traverse Int16.ofInt_toInt htraverse
  | int32 => cases h; exact readInt_of_traverse Int32.ofInt_toInt htraverse
  | int64 => cases h; exact readInt_of_traverse Int64.ofInt_toInt htraverse
  | octet => cases h; exact readNat_of_traverse @UInt8.ofNat_toNat htraverse
  | uint8 => cases h; exact readNat_of_traverse @UInt8.ofNat_toNat htraverse
  | uint16 => cases h; exact readNat_of_traverse @UInt16.ofNat_toNat htraverse
  | uint32 => cases h; exact readNat_of_traverse @UInt32.ofNat_toNat htraverse
  | uint64 => cases h; exact readNat_of_traverse @UInt64.ofNat_toNat htraverse

/-- What a member holds is read as it was written, if each of its elements is. -/
theorem ArrayKind.read_of_assembles {converts : α → Built → Prop}
    {read : Json String → Option α} {f : α → α} {value : kind.Value α}
    (helements : ∀ element ∈ kind.elements value, ∀ item item', converts element item →
      item.traverse utf8? = some item' → read item' = some (f element))
    (h : kind.Assembles converts (kind.elements value) j)
    (htraverse : j.traverse utf8? = some j') : kind.read read j' = some (kind.map f value) := by
  have harray : ∀ items, List.Forall₂ converts (kind.elements value) items →
      (.array items : Built).traverse utf8? = some j' →
      ∃ items', j' = .array items' ∧ items'.mapM read = some ((kind.elements value).map f) := by
    intro items hitems htraverse
    have hboth := (List.forall₂_and_left (kind.elements value) items).mpr
      ⟨fun _ hmem => hmem, hitems⟩
    refine Json.exists_mapM_of_traverse ?_ htraverse
    refine List.forall₂_map_right_iff.mpr (List.Forall₂.flip (hboth.imp ?_))
    intro element item ⟨hmem, hitem⟩ item' hitem'
    exact helements element hmem item item' hitem hitem'
  cases kind with
  | single =>
    have hitem := ArrayKind.assembles_single.mp h
    exact helements value List.mem_cons_self j j' hitem htraverse
  | fixed size =>
    obtain ⟨items, hitems, rfl⟩ := (ArrayKind.assembles_array (by simp)).mp h
    obtain ⟨items', rfl, hmap⟩ := harray items hitems htraverse
    obtain ⟨elements, hlength⟩ := value
    exact (congrArg (· >>= _) hmap).trans (dif_pos ((List.length_map f).trans hlength))
  | unbounded =>
    obtain ⟨items, hitems, rfl⟩ := (ArrayKind.assembles_array (by simp)).mp h
    obtain ⟨items', rfl, hmap⟩ := harray items hitems htraverse
    exact hmap
  | bounded size =>
    obtain ⟨items, hitems, rfl⟩ := (ArrayKind.assembles_array (by simp)).mp h
    obtain ⟨items', rfl, hmap⟩ := harray items hitems htraverse
    obtain ⟨elements, hlength⟩ := value
    exact (congrArg (· >>= _) hmap).trans (dif_pos ((List.length_map f).trans_le hlength))

mutual

/-- What stands for a value is read as it, by induction over its type. -/
theorem FieldType.read_of_converts : (type : FieldType) → type.Textual → (value : type.Value) →
    (j : Built) → (j' : Json String) → type.Converts wstringToBytes value j →
      j.traverse utf8? = some j' → type.read j' = some (type.whole value)
  | .primitive type, htextual, _, _, _, hconverts, htraverse =>
    type.read_of_toJson htextual hconverts htraverse
  | .message _ members, htextual, message, _, j', ⟨entries, rfl, _, _, hconverts⟩, htraverse =>
    members.read_of_converts htextual.2 message entries j' hconverts htraverse

theorem Members.read_of_converts : (members : Members) → members.Textual →
    (message : members.Value) → (entries : List (String × Built)) → (j' : Json String) →
      members.Converts wstringToBytes message entries →
        (Json.object entries).traverse utf8? = some j' →
          members.read j' = some (members.whole message)
  | .nil, _, _, _, _, _, _ => rfl
  | .cons name type layout rest, ⟨htype, hrest⟩, message, entries, j',
      ⟨⟨j, hlookup, hassembles⟩, hconverts⟩, htraverse => by
    obtain ⟨value', hvalue, hmember⟩ := Json.member?_traverse htraverse hlookup
    have hread := ArrayKind.read_of_assembles (fun element _ item item' hitem hitem' =>
      type.read_of_converts htype element item item' hitem hitem') hassembles hvalue
    have hothers := rest.read_of_converts hrest message.2 entries j' hconverts htraverse
    rw [Members.read, hmember]
    change (layout.kind.read type.read value' >>= _) = _
    rw [hread]
    change (rest.read j' >>= _) = _
    rw [hothers]
    rfl

end

/-! ### What the function returns is read as the message -/

variable {wide : List UInt16 → Bool}

theorem Primitive.Serializable.convertible {type : Primitive} {value : type.Value}
    (h : type.Serializable wide value) : type.Convertible wide value := by
  cases type with
  | wstring => exact h
  | _ => trivial

theorem FieldType.Textual.memberElementSize_ne_zero {type : FieldType} (h : type.Textual) :
    type.memberElementSize ≠ 0 := by
  cases type with
  | message sizeOf members => exact h.1
  | primitive type =>
    cases type with
    | longDouble => exact absurd rfl h.1
    | wchar => exact absurd rfl h.2
    | _ => exact Nat.succ_ne_zero _

mutual

/-- Where all values are told by their texts, every element of an array that can be printed is
found, by induction over the type. -/
theorem FieldType.readable_of_serializable : (type : FieldType) → type.Textual →
    (value : type.Value) → type.Holds Layout.InRange (Primitive.Serializable wide) value →
      type.Holds Layout.Readable (Primitive.Convertible wide) value
  | .primitive _, _, _, hleaf => hleaf.convertible
  | .message _ members, htextual, message, hholds =>
    members.readable_of_serializable htextual.2 message hholds

theorem Members.readable_of_serializable : (members : Members) → members.Textual →
    (message : members.Value) → members.Holds Layout.InRange (Primitive.Serializable wide) message →
      members.Holds Layout.Readable (Primitive.Convertible wide) message
  | .nil, _, _, _ => trivial
  | .cons _ type _ rest, ⟨htype, hrest⟩, message, ⟨hrange, helements, hholds⟩ =>
    ⟨⟨hrange, .inr (.inr (.inl htype.memberElementSize_ne_zero))⟩,
      fun element helement => type.readable_of_serializable htype element
        (helements element helement),
      rest.readable_of_serializable hrest message.2 hholds⟩

end

variable {members : Members}

/-- What can be printed of a message, with fields of other names, stands for it. -/
theorem exists_converted (hdistinct : members.Distinct) (htextual : members.Textual)
    {extra entries : List (String × Built)}
    (hnames : (members.names ++ extra.map Prod.fst).Nodup) {message : members.Value}
    (hbuild : buildJsonMembers wstringToBytes members message [] = .ok entries)
    (hprint : Printable (.object (Entries.setAll extra entries))) :
    ∃ fields, members.Builds wstringToBytes message fields ∧
      Entries.setAll extra entries = Entries.setAll (fields ++ extra) [] ∧
      members.Converts wstringToBytes message (Entries.setAll (fields ++ extra) []) := by
  have hkeys : ∀ fields, members.Builds wstringToBytes message fields →
      ((fields ++ extra).map Prod.fst).Nodup := by
    intro fields hbuilds
    rwa [List.map_append, hbuilds.names]
  obtain ⟨fields, hbuilds, rfl⟩ := (buildJsonMembers_eq_ok_iff _ _ _).mp hbuild
  rw [setAll_append, printable_setAll (hkeys fields hbuilds)] at hprint
  have hserializable := members.serializable_of_printable wstringToBytes_takes hdistinct message
    fields hbuilds
    fun field hfield => hprint field (List.mem_append_left extra hfield)
  have hreadable := members.readable_of_serializable htextual message hserializable
  obtain ⟨fields', hbuilds', hconverts⟩ :=
    members.exists_converts wstringToBytes_takes hdistinct message hreadable
  have hbuild' := (buildJsonMembers_eq_ok_iff members message []).mpr ⟨fields', hbuilds', rfl⟩
  have hentries := Except.ok.inj (hbuild.symm.trans hbuild')
  refine ⟨fields', hbuilds', by rw [hentries, setAll_append], hconverts _ fun field hfield => ?_⟩
  exact Entries.lookup_setAll_of_mem (hkeys fields' hbuilds') (List.mem_append_left extra hfield)

/-- A text is that of the message in a serialized one, with the members `added` next to its
fields and no others. -/
def TypeSupport.TextOf (support : TypeSupport members) (codec : Codec) (serialized : List UInt8)
    (added : List (String × Json String)) (output : List UInt8) : Prop :=
  ∃ message j, support.message serialized = .ok message ∧ codec.parse output = some j ∧
    members.read j = some (members.whole message) ∧
    (∀ field ∈ added, j.member? field.1 = some field.2) ∧
    ∀ name, (j.member? name).isSome = true ↔ name ∈ members.names ∨ name ∈ added.map Prod.fst

/-- A text is that of an object that stands for the message in a serialized one, and has the
`extra` fields next to it. -/
structure TypeSupport.Writes (support : TypeSupport members) (codec : Codec)
    (serialized : List UInt8) (extra : List (String × Built)) (message : members.Value)
    (entries : List (String × Built)) (j : Json String) (output : List UInt8) : Prop where
  taken : support.message serialized = .ok message
  converts : members.Converts wstringToBytes message entries
  lookup : ∀ field ∈ extra, entries.lookup field.1 = some field.2
  keys : ∀ name, name ∈ entries.map Prod.fst ↔ name ∈ members.names ∨ name ∈ extra.map Prod.fst
  traverse : (Json.object entries).traverse utf8? = some j
  parse : codec.parse output = some j

/-- What the function returns is the text of such an object. -/
theorem serializeWith_writes {codec : Codec} (hcodec : codec.Lawful)
    (hdistinct : members.Distinct) (htextual : members.Textual) {extra : List (String × Built)}
    (hextra : ∀ field ∈ extra, field.2.wellFormed = true)
    (hnames : (members.names ++ extra.map Prod.fst).Nodup) {support : TypeSupport members}
    {serialized output : List UInt8}
    (h : serializeWith wstringToBytes codec extra support serialized = .returned output) :
    ∃ message entries j, support.Writes codec serialized extra message entries j output := by
  unfold serializeWith at h
  cases hmessage : support.message serialized with
  | error errorMessage => simp [hmessage] at h
  | ok message =>
    cases hbuild : buildJsonMembers wstringToBytes members message [] with
    | error fault => simp [hmessage, hbuild] at h
    | ok entries =>
      cases hdump : codec.dump (.object (Entries.setAll extra entries)) with
      | none => simp [hmessage, hbuild, hdump] at h
      | some text =>
        obtain rfl : text = output := by simpa [hmessage, hbuild, hdump] using h
        have hprint := Codec.dump_isSome_iff.mp (Option.isSome_of_mem hdump)
        obtain ⟨fields, hbuilds, hentries, hconverts⟩ :=
          exists_converted hdistinct htextual hnames hbuild hprint
        have hkeys : ((fields ++ extra).map Prod.fst).Nodup := by
          rwa [List.map_append, hbuilds.names]
        have hwell := wellFormed_setAll (List.forall_mem_append.mpr
          ⟨members.wellFormed_builds message fields hbuilds, hextra⟩)
        rw [hentries] at hdump
        obtain ⟨j, htraverse, hparse⟩ := hcodec.parse_dump hwell hdump
        refine ⟨message, _, j, hmessage, hconverts, fun field hfield => ?_, fun name => ?_,
          htraverse, hparse⟩
        · exact Entries.lookup_setAll_of_mem hkeys (List.mem_append_right fields hfield)
        · rw [Entries.mem_keys_setAll, List.map_append, hbuilds.names]
          simp

/-- The text of a message is read as the message. -/
theorem TypeSupport.Writes.textOf {support : TypeSupport members} {codec : Codec}
    {serialized output : List UInt8} {extra entries : List (String × Built)}
    {message : members.Value} {j : Json String}
    (h : support.Writes codec serialized extra message entries j output)
    (htextual : members.Textual) {added : List (String × Json String)}
    (hadded : (Json.object extra).traverse utf8? = some (.object added)) :
    support.TextOf codec serialized added output := by
  have hread := members.read_of_converts htextual message entries j h.converts h.traverse
  refine ⟨message, j, h.taken, h.parse, hread, ?_, fun name => ?_⟩
  · intro field' hfield'
    obtain ⟨value, hfield, hvalue⟩ := Json.exists_of_mem_traverse hadded hfield'
    obtain ⟨value', hvalue', hmember⟩ := Json.member?_traverse h.traverse (h.lookup _ hfield)
    rw [hmember, ← hvalue', hvalue]
  · rw [Json.member?_traverse_isSome h.traverse, Json.isSome_member?_object, h.keys,
      Json.map_fst_of_traverse hadded]

/-- What a consumer finds that `kafka_cdr_to_json` added. -/
def KafkaCdrToJson.addedMembers (rosType : String) (kafkaTimestampMs : Option Int64)
    (includeRosType includeTimestamp : Bool) : List (String × Json String) :=
  (if includeRosType then [("__ros_type", .string rosType)] else []) ++
    if includeTimestamp then
      [("__kafka_timestamp_ms", kafkaTimestampMs.elim .null fun ms => .int ms.toInt)]
    else []

theorem KafkaCdrToJson.traverse_extraMembers (rosType : String) (kafkaTimestampMs : Option Int64)
    (includeRosType includeTimestamp : Bool) :
    (Json.object (extraMembers rosType kafkaTimestampMs includeRosType includeTimestamp)).traverse
        utf8? =
      some (.object (addedMembers rosType kafkaTimestampMs includeRosType includeTimestamp)) := by
  have hrosType : (.string (Json.bytes rosType) : Built).traverse utf8? = some (.string rosType) :=
    congrArg (Option.map Json.string) (Json.utf8?_bytes rosType)
  have htimestamp : (kafkaTimestampMs.elim .null fun ms => .int ms.toInt : Built).traverse utf8? =
      some (kafkaTimestampMs.elim .null fun ms => .int ms.toInt) := by
    cases kafkaTimestampMs <;> rfl
  rw [Json.traverse_object]
  cases includeRosType <;> cases includeTimestamp <;>
    simp [extraMembers, addedMembers, hrosType, htimestamp]

/-- **Reading the texts.** Whatever text one of the three functions returns, the message it was
called with is read from it, but for a high surrogate that ends a wide string, and nothing stands
next to the message's members but what `kafka_cdr_to_json` was told to add. -/
theorem serializeMessageToJson_textOf {codec : Codec} (hcodec : codec.Lawful)
    (hdistinct : members.Distinct) (htextual : members.Textual)
    (hreserved : "__ros_type" ∉ members.names ∧ "__kafka_timestamp_ms" ∉ members.names)
    (support : TypeSupport members) (serialized : List UInt8) (rosType : String)
    (kafkaTimestampMs : Option Int64) (includeRosType includeTimestamp : Bool)
    (output : List UInt8) :
    (KafkaSink.serializeMessageToJson wstringToBytes codec support serialized =
          .returned output →
        support.TextOf codec serialized [] output) ∧
      (MosquittoSink.serializeMessageToJson wstringToBytes codec support serialized =
          .returned output →
        support.TextOf codec serialized [] output) ∧
      (KafkaCdrToJson.serializeMessageToJson wstringToBytes codec support rosType
          kafkaTimestampMs includeRosType includeTimestamp serialized = .returned output →
        support.TextOf codec serialized (KafkaCdrToJson.addedMembers rosType kafkaTimestampMs
          includeRosType includeTimestamp) output) := by
  have hnodup := hdistinct.nodup_names
  have hsink : serializeWith wstringToBytes codec [] support serialized = .returned output →
      support.TextOf codec serialized [] output := by
    intro h
    obtain ⟨_, _, _, hwrites⟩ :=
      serializeWith_writes hcodec hdistinct htextual (by simp) (by simpa using hnodup) h
    exact hwrites.textOf htextual rfl
  refine ⟨hsink, hsink, fun h => ?_⟩
  obtain ⟨_, _, _, hwrites⟩ := serializeWith_writes hcodec hdistinct htextual
    (fun field hfield => (KafkaCdrToJson.mem_extraMembers hfield).2)
    (KafkaCdrToJson.nodup_append_extraMembers hnodup hreserved _ _ _ _) h
  exact hwrites.textOf htextual (KafkaCdrToJson.traverse_extraMembers ..)

/-- The type support of tracks, which takes one from any bytes. -/
def trackSupport : TypeSupport trackMembers where
  sizeOf := 56
  rmwDeserialize _ := some track

/-- The text that a consumer of the track gets. -/
def trackText : String :=
  "\x7b\"__kafka_timestamp_ms\":5,\"__ros_type\":\"nav/msg/Track\"," ++
    "\"label\":\"😀\",\"points\":[\x7b\"x\":1\x7d,\x7b\"x\":2\x7d]\x7d"

theorem serializeMessageToJson_textOf_track :
    trackSupport.TextOf Json.plain [0, 1, 0, 0]
      [("__ros_type", .string "nav/msg/Track"), ("__kafka_timestamp_ms", .int 5)]
      (Json.bytes trackText) := by
  have hdistinct : trackMembers.Distinct :=
    ⟨by decide, trivial, by decide, ⟨by decide, trivial, trivial⟩, trivial⟩
  have htextual : trackMembers.Textual :=
    ⟨⟨nofun, nofun⟩, ⟨by decide, ⟨nofun, nofun⟩, trivial⟩, trivial⟩
  have hreturned : KafkaCdrToJson.serializeMessageToJson wstringToBytes Json.plain trackSupport
      "nav/msg/Track" (some 5) true true [0, 1, 0, 0] = .returned (Json.bytes trackText) := by
    decide +kernel
  exact (serializeMessageToJson_textOf Json.plain_lawful hdistinct htextual (by decide)
    trackSupport _ "nav/msg/Track" (some 5) true true _).2.2 hreturned

end Ros2Dispatcher.Messages
