import Ros2Dispatcher.Sinks.Stamps
import Ros2Dispatcher.Sinks.Totals

/-!
# What the payloads carry

A sink publishes a message as it came or as JSON, and `mosquitto_sink` puts its message key into
either. In JSON the message is built, edited as text for the key, and edited as text once more
for the time; in CDR it is edited in memory and serialized again.

* `Members.read_of_replacesOne`: a message is read with a field replaced where its JSON is the
  same but for that field.
* `Members.replacesOne_of_editFirst`: what the loops over the members write is one field.
* `Members.Keyed.whole`: putting in the key commutes with leaving out what the texts leave out.
* `payloads_carry_message`: in both formats a consumer gets the same message.
-/

namespace Ros2Dispatcher.Messages

open Json (utf8? SameExcept)

variable {members : Members} {j j' : Json String} {name : String}

/-! ### Messages field by field -/

/-- A field is read from a value. -/
def Field.ReadFrom (field : Field) (j : Json String) : Prop :=
  (j.member? field.name).bind (field.layout.kind.read field.type.read) = some field.value

theorem Field.ReadFrom.congr {field : Field} (h : field.ReadFrom j)
    (hsame : j'.member? field.name = j.member? field.name) : field.ReadFrom j' := by
  rwa [Field.ReadFrom, hsame]

/-- A message is read from what its fields are read from. -/
theorem Members.read_eq_some_iff : (members : Members) → (j : Json String) →
    (message : members.Value) →
      (members.read j = some message ↔ ∀ field ∈ members.fields message, field.ReadFrom j)
  | .nil, _, _ => iff_of_true rfl nofun
  | .cons name type layout rest, j, message => by
    rw [Members.fields, List.forall_mem_cons, ← rest.read_eq_some_iff j message.2, Members.read]
    refine Option.bind_eq_some_iff.trans ?_
    constructor
    · rintro ⟨member, hmember, h⟩
      obtain ⟨value, hvalue, h⟩ := Option.bind_eq_some_iff.mp h
      obtain ⟨others, hothers, h⟩ := Option.bind_eq_some_iff.mp h
      obtain rfl : (value, others) = message := Option.some.inj h
      exact ⟨Option.bind_eq_some_iff.mpr ⟨member, hmember, hvalue⟩, hothers⟩
    · rintro ⟨hfield, hothers⟩
      obtain ⟨member, hmember, hvalue⟩ := Option.bind_eq_some_iff.mp hfield
      refine ⟨member, hmember, Option.bind_eq_some_iff.mpr ⟨message.1, hvalue, ?_⟩⟩
      exact Option.bind_eq_some_iff.mpr ⟨message.2, hothers, rfl⟩

theorem Field.name_mem {message : members.Value} {field : Field}
    (h : field ∈ members.fields message) : field.name ∈ members.names := by
  rw [← members.map_name_fields message]
  exact List.mem_map_of_mem h

/-- A member that is none of the message's does not matter. -/
theorem Members.read_of_sameExcept {message : members.Value} (hname : name ∉ members.names)
    (hsame : SameExcept name j j') (hread : members.read j = some message) :
    members.read j' = some message := by
  rw [Members.read_eq_some_iff] at hread ⊢
  intro field hfield
  have hne : field.name ≠ name := fun heq => hname (heq ▸ Field.name_mem hfield)
  exact (hread field hfield).congr (hsame field.name hne)

/-- Where only one member is another, and the field of its name is read from that with its new
value, the message is read with the field replaced. -/
theorem Members.read_of_replacesOne {replaces : Field → Field → Prop}
    {message message' : members.Value} (hdistinct : members.Distinct)
    (hreplaced : ReplacesOne replaces (members.fields message) (members.fields message'))
    (hname : ∀ field field', replaces field field' → field.name = name)
    (hfield : ∀ field ∈ members.fields message, ∀ field', replaces field field' →
      field.ReadFrom j → field'.ReadFrom j')
    (hsame : SameExcept name j j') (hread : members.read j = some message) :
    members.read j' = some message' := by
  rw [Members.read_eq_some_iff] at hread ⊢
  obtain ⟨before, field, field', after, hfields, hfields', hreplaces⟩ := hreplaced
  have hnodup : ((members.fields message).map Field.name).Nodup := by
    rw [members.map_name_fields]
    exact hdistinct.nodup_names
  have hmem : field ∈ members.fields message := by simp [hfields]
  have hread' := hfield field hmem field' hreplaces (hread field hmem)
  rw [hfields] at hread hnodup
  have hothers : ∀ other, other ∈ before ∨ other ∈ after → other.ReadFrom j' := by
    intro other hmem
    have hne : other.name ≠ field.name := by
      intro heq
      have hperm := (List.perm_middle.map Field.name).nodup_iff.mp hnodup
      have hnot := (List.nodup_cons.mp hperm).1
      exact hnot (heq ▸ List.mem_map_of_mem (List.mem_append.mpr hmem))
    refine (hread other ?_).congr (hsame other.name (hname field field' hreplaces ▸ hne))
    rcases hmem with hmem | hmem
    · exact List.mem_append_left _ hmem
    · exact List.mem_append_right _ (List.mem_cons_of_mem field hmem)
  rw [hfields']
  refine List.forall_mem_append.mpr ⟨fun other hmem => hothers other (.inl hmem),
    List.forall_mem_cons.mpr ⟨hread', fun other hmem => hothers other (.inr hmem)⟩⟩

/-! ### What the loops write -/

/-- A loop over the members writes one field. -/
theorem Members.replacesOne_of_editFirst {here : MemberEdit}
    {P : String → FieldType → Layout → Prop} {replaces : Field → Field → Prop}
    (hreplaces : ∀ (field : Field) edit value, P field.name field.type field.layout →
      here field.name field.type field.layout = some edit → edit field.value = .written value →
        replaces field { field with value }) :
    (members : Members) → members.Each P → (message message' : members.Value) →
      members.editFirst here message = .written message' →
        ReplacesOne replaces (members.fields message) (members.fields message')
  | .nil, _, _, _, h => by cases h
  | .cons name type layout rest, ⟨hP, hrest⟩, message, message', h => by
    rw [Members.editFirst] at h
    cases hhere : here name type layout with
    | some edit =>
      rw [hhere] at h
      cases hedit : edit message.1 with
      | written value =>
        simp only [hedit, Edit.map] at h
        obtain rfl := Edit.written.inj h
        exact ⟨[], _, _, rest.fields message.2, rfl, rfl,
          hreplaces ⟨name, type, layout, message.1⟩ edit value hP hhere hedit⟩
      | absent => simp [hedit, Edit.map] at h
      | corrupted => simp [hedit, Edit.map] at h
    | none =>
      rw [hhere] at h
      cases hedit : rest.editFirst here message.2 with
      | written others =>
        simp only [hedit, Edit.map] at h
        obtain rfl := Edit.written.inj h
        obtain ⟨before, field, field', after, hfields, hfields', hfield⟩ :=
          rest.replacesOne_of_editFirst hreplaces hrest message.2 others hedit
        exact ⟨⟨name, type, layout, message.1⟩ :: before, field, field', after,
          congrArg (_ :: ·) hfields, congrArg (_ :: ·) hfields', hfield⟩
      | absent => simp [hedit, Edit.map] at h
      | corrupted => simp [hedit, Edit.map] at h

/-- A loop that never writes elsewhere at a member does not. -/
theorem Members.editFirst_ne_corrupted {here : MemberEdit} {P : String → FieldType → Layout → Prop}
    (hedit : ∀ name type layout edit, P name type layout → here name type layout = some edit →
      ∀ value, edit value ≠ .corrupted) :
    (members : Members) → members.Each P → (message : members.Value) →
      members.editFirst here message ≠ .corrupted
  | .nil, _, _ => nofun
  | .cons name type layout rest, ⟨hP, hrest⟩, message => by
    have hmap : ∀ {α β : Type} {f : α → β} {edit : Edit α}, edit ≠ .corrupted →
        edit.map f ≠ .corrupted := by
      intro α β f edit hne
      cases edit <;> simp_all [Edit.map]
    rw [Members.editFirst]
    cases hhere : here name type layout with
    | some edit => exact hmap (hedit name type layout edit hP hhere message.1)
    | none => exact hmap (rest.editFirst_ne_corrupted hedit hrest message.2)

/-- What a member named `frame_id` of a header should be. -/
abbrev IsFrameId (name : String) (type : FieldType) (layout : Layout) : Prop :=
  name = "frame_id" → layout.kind = .single ∧ type = .primitive .string

/-- What a member named `header` of a message should be. -/
abbrev IsHeader (name : String) (type : FieldType) (layout : Layout) : Prop :=
  name = "header" → layout.kind = .single ∧
    ∀ sizeOf header, type = .message sizeOf header → header.Each IsFrameId

theorem editFrameId_eq_some {frameId : List UInt8} {type : FieldType} {layout : Layout}
    {edit : layout.kind.Value type.Value → Edit (layout.kind.Value type.Value)}
    (h : editFrameId frameId name type layout = some edit) :
    name = "frame_id" ∧ type = .primitive .string := by
  unfold editFrameId at h
  split at h
  · obtain ⟨hname, -⟩ := Option.ite_none_right_eq_some.mp h
    exact ⟨hname, rfl⟩
  · cases h

/-- The loop over the members of a header writes the frame id. -/
theorem Members.replacesFrameId {frameId : List UInt8} {header header' : members.Value}
    (hone : members.Each IsFrameId)
    (h : members.editFirst (editFrameId frameId) header = .written header') :
    ReplacesOne (ReplacesFrameId frameId) (members.fields header) (members.fields header') := by
  refine members.replacesOne_of_editFirst ?_ hone header header' h
  rintro ⟨name, type, ⟨kind, getConstFunction⟩, old⟩ edit value hone hhere hvalue
  obtain ⟨hname, htype⟩ := editFrameId_eq_some hhere
  obtain ⟨hkind, -⟩ := hone hname
  dsimp only at hname htype hkind
  subst hname htype hkind
  obtain rfl : (fun _ => Edit.written frameId) = edit := Option.some.inj hhere
  obtain rfl := Edit.written.inj hvalue
  exact ⟨getConstFunction, old, rfl, rfl⟩

theorem Members.editFrameId_ne_corrupted {frameId : List UInt8} {header : members.Value}
    (hone : members.Each IsFrameId) :
    members.editFirst (editFrameId frameId) header ≠ .corrupted := by
  refine members.editFirst_ne_corrupted ?_ hone header
  rintro name type ⟨kind, getConstFunction⟩ edit hone hhere value
  obtain ⟨hname, htype⟩ := editFrameId_eq_some hhere
  obtain ⟨hkind, -⟩ := hone hname
  dsimp only at hname htype hkind
  subst hname htype hkind
  obtain rfl : (fun _ => Edit.written frameId) = edit := Option.some.inj hhere
  exact nofun

theorem editHeader_eq_some {frameId : List UInt8} {type : FieldType} {layout : Layout}
    {edit : layout.kind.Value type.Value → Edit (layout.kind.Value type.Value)}
    (h : editHeader frameId name type layout = some edit) :
    name = "header" ∧ ∃ sizeOf header, type = .message sizeOf header := by
  unfold editHeader at h
  split at h
  · obtain ⟨hname, -⟩ := Option.ite_none_right_eq_some.mp h
    exact ⟨hname, _, _, rfl⟩
  · cases h

/-- The loop over the members of a message writes the frame id of the header. -/
theorem Members.frameIdReplaced {frameId : List UInt8} {message message' : members.Value}
    (hone : members.Each IsHeader)
    (h : members.editFirst (editHeader frameId) message = .written message') :
    FrameIdReplaced frameId message message' := by
  refine members.replacesOne_of_editFirst ?_ hone message message' h
  rintro ⟨name, type, ⟨kind, getConstFunction⟩, old⟩ edit value hone hhere hvalue
  obtain ⟨hname, sizeOf, header, htype⟩ := editHeader_eq_some hhere
  obtain ⟨hkind, hheader⟩ := hone hname
  dsimp only at hname htype hkind hheader
  subst hname htype hkind
  obtain rfl : header.editFirst (editFrameId frameId) = edit := Option.some.inj hhere
  exact ⟨sizeOf, header, getConstFunction, old, value, rfl, rfl,
    Members.replacesFrameId (hheader sizeOf header rfl) hvalue⟩

theorem Members.editHeader_ne_corrupted {frameId : List UInt8} {message : members.Value}
    (hone : members.Each IsHeader) :
    members.editFirst (editHeader frameId) message ≠ .corrupted := by
  refine members.editFirst_ne_corrupted ?_ hone message
  rintro name type ⟨kind, getConstFunction⟩ edit hone hhere value
  obtain ⟨hname, sizeOf, header, htype⟩ := editHeader_eq_some hhere
  obtain ⟨hkind, hheader⟩ := hone hname
  dsimp only at hname htype hkind hheader
  subst hname htype hkind
  obtain rfl : header.editFirst (editFrameId frameId) = edit := Option.some.inj hhere
  exact Members.editFrameId_ne_corrupted (hheader sizeOf header rfl)

/-! ### What the loops do not find -/

/-- Where the loop over the members of a header finds no frame id, there is no such member. -/
theorem Members.Each.not_mem_of_finds : {members : Members} → members.Each IsFrameId →
    members.finds frameIdFound = false → "frame_id" ∉ members.names
  | .nil, _, _ => List.not_mem_nil
  | .cons name type layout rest, ⟨hone, hrest⟩, hfinds => by
    by_cases hname : name = "frame_id"
    · obtain ⟨-, rfl⟩ := hone hname
      simp [Members.finds, frameIdFound, hname] at hfinds
    · have hnone : frameIdFound name type = none := by
        unfold frameIdFound
        split
        · exact if_neg hname
        · rfl
      rw [Members.finds, hnone] at hfinds
      intro hmem
      rcases List.mem_cons.mp hmem with heq | hmem
      · exact hname heq.symm
      · exact hrest.not_mem_of_finds hfinds hmem

/-- Where the loop over the members of a message finds none, its header has no such member. -/
theorem Members.each_of_finds : {members : Members} → members.Distinct → members.Each IsHeader →
    members.finds headerFound = false →
      members.Each fun name type _ => name = "header" →
        ∀ sizeOf header, type = .message sizeOf header → "frame_id" ∉ header.names
  | .nil, _, _, _ => trivial
  | .cons name type layout rest, ⟨hname, _, hdistinct⟩, ⟨hone, hrest⟩, hfinds => by
    by_cases hheader : name = "header"
    · subst hheader
      refine ⟨fun _ sizeOf header htype => ?_, Members.each_of_not_mem hname⟩
      subst htype
      have hfinds : header.finds frameIdFound = false := by
        simpa [Members.finds, headerFound] using hfinds
      exact ((hone rfl).2 sizeOf header rfl).not_mem_of_finds hfinds
    · have hnone : headerFound name type = none := by
        unfold headerFound
        split
        · exact if_neg hheader
        · rfl
      rw [Members.finds, hnone] at hfinds
      exact ⟨fun heq => absurd heq hheader, each_of_finds hdistinct hrest hfinds⟩

/-! ### The message with the key -/

/-- The second message is the first with the key for its frame id, if there is a key and the
loops find the field. -/
def Members.Keyed (members : Members) (messageKey : String) (message message' : members.Value) :
    Prop :=
  if messageKey ≠ "" ∧ members.finds headerFound = true then
    FrameIdReplaced (Json.bytes messageKey) message message'
  else message' = message

theorem Members.Distinct.each : {members : Members} → members.Distinct →
    members.Each fun _ type _ => type.Distinct
  | .nil, _ => trivial
  | .cons _ _ _ _, ⟨_, htype, hrest⟩ => ⟨htype, hrest.each⟩

theorem Members.exists_readFrom {replaces : Field → Field → Prop} {message message' : members.Value}
    (hreplaced : ReplacesOne replaces (members.fields message) (members.fields message'))
    (hread : members.read j = some message) :
    ∃ field field', replaces field field' ∧ field.ReadFrom j := by
  obtain ⟨before, field, field', after, hfields, -, hreplaces⟩ := hreplaced
  have hmem : field ∈ members.fields message := by simp [hfields]
  exact ⟨field, field', hreplaces, (members.read_eq_some_iff j message).mp hread field hmem⟩

/-- A header that is read with a frame id is an object. -/
theorem exists_object_of_frameId {frameId : List UInt8} {header header' : members.Value}
    (hreplaced : ReplacesOne (ReplacesFrameId frameId) (members.fields header)
      (members.fields header'))
    (hread : members.read j = some header) : ∃ entries, j = .object entries := by
  obtain ⟨_, _, ⟨getConstFunction, old, rfl, -⟩, hfield⟩ := members.exists_readFrom hreplaced hread
  obtain ⟨member, hmember, -⟩ := Option.bind_eq_some_iff.mp hfield
  obtain ⟨entries, rfl, -⟩ := Json.member?_eq_some_iff.mp hmember
  exact ⟨entries, rfl⟩

theorem exists_header_of_frameId {frameId : List UInt8} {message message' : members.Value}
    (hreplaced : FrameIdReplaced frameId message message')
    (hread : members.read j = some message) :
    ∃ header, j.member? "header" = some (.object header) := by
  obtain ⟨_, _, ⟨sizeOf, type, getConstFunction, header, header', rfl, -, hheader⟩, hfield⟩ :=
    members.exists_readFrom hreplaced hread
  obtain ⟨member, hmember, hread⟩ := Option.bind_eq_some_iff.mp hfield
  obtain ⟨entries, rfl⟩ := exists_object_of_frameId hheader hread
  exact ⟨entries, hmember⟩

/-- A field without the high surrogates that end its wide strings. -/
def Field.whole (field : Field) : Field :=
  { field with value := field.layout.kind.map field.type.whole field.value }

theorem Members.fields_whole : (members : Members) → (message : members.Value) →
    members.fields (members.whole message) = (members.fields message).map Field.whole
  | .nil, _ => rfl
  | .cons _ _ _ rest, message => congrArg (_ :: ·) (rest.fields_whole message.2)

theorem ReplacesOne.whole {replaces : Field → Field → Prop} {message message' : members.Value}
    (hreplaces : ∀ field field', replaces field field' → replaces field.whole field'.whole)
    (h : ReplacesOne replaces (members.fields message) (members.fields message')) :
    ReplacesOne replaces (members.fields (members.whole message))
      (members.fields (members.whole message')) := by
  obtain ⟨before, field, field', after, hfields, hfields', hfield⟩ := h
  refine ⟨before.map Field.whole, field.whole, field'.whole, after.map Field.whole, ?_, ?_,
    hreplaces field field' hfield⟩
  · rw [members.fields_whole, hfields, List.map_append, List.map_cons]
  · rw [members.fields_whole, hfields', List.map_append, List.map_cons]

/-- With the key for its frame id or without, a message is read back the same. -/
theorem Members.Keyed.whole {messageKey : String} {message message' : members.Value}
    (h : members.Keyed messageKey message message') :
    members.Keyed messageKey (members.whole message) (members.whole message') := by
  unfold Members.Keyed at h ⊢
  split at h
  next hfinds =>
    rw [if_pos hfinds]
    refine ReplacesOne.whole ?_ h
    rintro field field' ⟨sizeOf, type, getConstFunction, header, header', rfl, rfl, hheader⟩
    refine ⟨sizeOf, type, getConstFunction, type.whole header, type.whole header', rfl, rfl, ?_⟩
    refine hheader.whole ?_
    rintro field field' ⟨getConstFunction, old, rfl, rfl⟩
    exact ⟨getConstFunction, old, rfl, rfl⟩
  next hfinds => rw [if_neg hfinds, h]

variable {messageKey : String} {entries header : List (String × Json String)}

theorem sameExcept_object_set (name : String) (value : Json String) :
    SameExcept name (.object entries) (.object (Entries.set name value entries)) :=
  fun _ hne => Entries.lookup_set_of_ne hne

/-- A header with the key in it is read with its frame id replaced. -/
theorem Members.read_keyed_header {value value' : members.Value} (hdistinct : members.Distinct)
    (hreplaced : ReplacesOne (ReplacesFrameId (Json.bytes messageKey)) (members.fields value)
      (members.fields value'))
    (hread : members.read (.object header) = some value) :
    members.read (.object (Entries.set "frame_id" (.string messageKey) header)) =
      some value' := by
  refine members.read_of_replacesOne hdistinct hreplaced ?_ ?_
    (sameExcept_object_set "frame_id" _) hread
  · rintro field field' ⟨getConstFunction, old, rfl, -⟩
    rfl
  · rintro field - field' ⟨getConstFunction, old, rfl, rfl⟩ -
    exact congrArg (Option.bind · _) Entries.lookup_set_self

theorem Primitive.read_object (type : Primitive) : type.read (.object entries) = none := by
  cases type <;> rfl

/-- With the key in its header, a message is read as the one with the key. -/
theorem Members.read_keyed {message message' : members.Value} (hdistinct : members.Distinct)
    (hone : members.Each IsHeader) (hkey : messageKey ≠ "")
    (hheader : entries.lookup "header" = some (.object header))
    (hkeyed : members.Keyed messageKey message message')
    (hread : members.read (.object entries) = some message) :
    members.read (.object (Entries.set "header"
      (.object (Entries.set "frame_id" (.string messageKey) header)) entries)) =
        some message' := by
  have hsame : SameExcept "header" (.object entries) (.object (Entries.set "header"
      (.object (Entries.set "frame_id" (.string messageKey) header)) entries)) :=
    sameExcept_object_set "header" _
  have hmember : Json.member? "header" (.object (Entries.set "header"
      (.object (Entries.set "frame_id" (.string messageKey) header)) entries)) =
        some (.object (Entries.set "frame_id" (.string messageKey) header)) :=
    Entries.lookup_set_self
  by_cases hfinds : members.finds headerFound = true
  · rw [Members.Keyed, if_pos ⟨hkey, hfinds⟩] at hkeyed
    refine members.read_of_replacesOne hdistinct hkeyed ?_ ?_ hsame hread
    · rintro field field' ⟨sizeOf, type, getConstFunction, value, value', rfl, -⟩
      rfl
    · rintro field hfield field'
        ⟨sizeOf, type, getConstFunction, value, value', rfl, rfl, hreplaced⟩ hread
      have hread : type.read (.object header) = some value := by
        rw [Field.ReadFrom, Json.member?, hheader] at hread
        exact hread
      have htype : type.Distinct := hdistinct.each.of_mem_fields hfield
      rw [Field.ReadFrom, hmember]
      exact type.read_keyed_header htype hreplaced hread
  · rw [Members.Keyed, if_neg fun h => hfinds h.2] at hkeyed
    subst hkeyed
    rw [Bool.not_eq_true] at hfinds
    have hnone := (hone.and (members.each_of_finds hdistinct hone hfinds))
    rw [Members.read_eq_some_iff] at hread ⊢
    intro field hfield
    by_cases hname : field.name = "header"
    · obtain ⟨hsingle, hnone⟩ := hnone.of_mem_fields hfield
      obtain ⟨name, type, ⟨kind, getConstFunction⟩, value⟩ := field
      obtain ⟨hkind, -⟩ := hsingle hname
      dsimp only at hname hkind
      subst hname hkind
      have hread := hread _ hfield
      rw [Field.ReadFrom, Json.member?, hheader] at hread
      rw [Field.ReadFrom, hmember]
      cases type with
      | primitive type =>
        have hread : type.read (.object header) = some value := hread
        rw [Primitive.read_object] at hread
        cases hread
      | message sizeOf type =>
        exact type.read_of_sameExcept (hnone rfl sizeOf type rfl)
          (sameExcept_object_set "frame_id" _) hread
    · exact (hread field hfield).congr (hsame field.name hname)

end Ros2Dispatcher.Messages

namespace Ros2Dispatcher.Sinks

open Json Messages

variable {members : Members}

/-! ### The steps of the callbacks -/

/-- How a call of `serialize_message_to_json` ends for the callback. -/
def serialization : Messages.Outcome → Serialization
  | .returned output => .text output
  | .failed _ => .failed
  | .left _ => .thrown

/-- The steps of `kafka_sink` to a JSON text. -/
def kafkaJson (codec : Codec) (support : TypeSupport members) : KafkaSink.JsonConversion where
  serializeMessageToJson _ msg :=
    (serialization (KafkaSink.serializeMessageToJson wstringToBytes codec support msg)).payload?
  applyTsEnvelopeToJson payload t1 := (applyTsEnvelopeToJson codec payload t1).map Prod.snd

/-- A message for a subscription of `mosquitto_sink` whose steps are those of the node. -/
def mosquittoDelivery (codec : Codec) (support : TypeSupport members)
    (rmwSerialize : members.Value → Option (List UInt8)) (msg : List UInt8) (nowNs : Int64) :
    MosquittoSink.Delivery where
  msg
  nowNs
  serializeMessageToJson _ msg :=
    serialization (MosquittoSink.serializeMessageToJson wstringToBytes codec support msg)
  applyMessageKeyToJson payload messageKey :=
    some (applyMessageKeyToJson codec payload messageKey).2
  applyTsEnvelopeToJson payload t1 := (applyTsEnvelopeToJson codec payload t1).map Prod.snd
  injectFrameIdIntoCdr _ msg messageKey :=
    (injectFrameIdIntoCdr support rmwSerialize (bytes messageKey) msg).bind Injection.assigned

/-- A payload is the text of a message with the time. -/
def StampedText (codec : Codec) (message : members.Value) (t1 : Int64) (payload : List UInt8) :
    Prop :=
  ∃ j ts, codec.parse payload = some j ∧ members.read j = some message ∧
    j.member? "_ts" = some ts ∧ ts.member? "t1_ns" = some (int t1.toInt)

/-! ### Editing the texts -/

variable {codec : Codec} {payload stamped : List UInt8} {j : Json String} {messageKey : String}
  {message message' : members.Value} {t1 : Int64}

/-- Without an object for a header the text stays. -/
theorem applyMessageKeyToJson_of_no_header (hparse : codec.parse payload = some j)
    (h : ¬∃ header, j.member? "header" = some (object header)) :
    (applyMessageKeyToJson codec payload messageKey).2 = payload := by
  cases j with
  | object entries =>
    rw [applyMessageKeyToJson_of_not hparse fun hboth => h hboth.2]
  | _ =>
    unfold applyMessageKeyToJson
    split
    · rfl
    · rw [hparse]

/-- The text with the key is that of the message with the key. -/
theorem exists_read_keyed (hcodec : codec.Lawful) (hdistinct : members.Distinct)
    (hone : members.Each IsHeader) (hparse : codec.parse payload = some j)
    (hread : members.read j = some message) (hstampable : Stampable j)
    (hkeyed : members.Keyed messageKey message message') :
    ∃ j', codec.parse (applyMessageKeyToJson codec payload messageKey).2 = some j' ∧
      members.read j' = some message' ∧ Stampable j' := by
  by_cases hkey : messageKey = ""
  · rw [Members.Keyed, if_neg fun h => h.1 hkey] at hkeyed
    subst hkeyed
    refine ⟨j, ?_, hread, hstampable⟩
    rw [applyMessageKeyToJson, if_pos hkey]
    exact hparse
  · by_cases hheader : ∃ header, j.member? "header" = some (object header)
    · obtain ⟨header, hheader⟩ := hheader
      obtain ⟨entries, rfl, hlookup⟩ := member?_eq_some_iff.mp hheader
      refine ⟨_, parse_keyed hcodec hparse hkey hlookup,
        members.read_keyed hdistinct hone hkey hlookup hkeyed hread, rfl, ?_⟩
      rw [stampParts_keyed hlookup]
      exact hstampable.2
    · refine ⟨j, by rw [applyMessageKeyToJson_of_no_header hparse hheader, hparse], ?_, hstampable⟩
      unfold Members.Keyed at hkeyed
      split at hkeyed
      · exact absurd (exists_header_of_frameId hkeyed hread) hheader
      · exact hkeyed ▸ hread

/-- The time can be put in, and the text with it is still that of the message. -/
theorem exists_stampedText (hcodec : codec.Lawful) (hts : "_ts" ∉ members.names)
    (hparse : codec.parse payload = some j) (hread : members.read j = some message)
    (hstampable : Stampable j) (t1 : Int64) :
    ∃ stamped, (applyTsEnvelopeToJson codec payload t1).map Prod.snd = some stamped ∧
      StampedText codec message t1 stamped := by
  obtain ⟨t0, after, ht0, hset⟩ := exists_stamped hstampable t1
  have hresult : applyTsEnvelopeToJson codec payload t1 = some (true, codec.print after) := by
    simp [applyTsEnvelopeToJson_of_parse hparse, ht0, hset]
  obtain ⟨t0, after, -, hset, -, hafter⟩ := stamped_of_applied hcodec hparse hresult
  exact ⟨_, congrArg (Option.map Prod.snd) hresult, after, _, hafter,
    members.read_of_sameExcept hts (sameExcept_setMember hset) hread, member?_setMember hset,
    member?_tsEnvelope_t1 t0⟩

/-! ### The payloads -/

variable {support : TypeSupport members} {rmwSerialize : members.Value → Option (List UInt8)}
  {decode : List UInt8 → Option members.Value} {serialized value : List UInt8} {nowNs : Int64}

theorem deserialized_of_message (h : support.message serialized = .ok message) :
    support.deserialized serialized = some message ∧
      support.rmwDeserialize serialized = some message := by
  unfold TypeSupport.message at h
  unfold TypeSupport.deserialized
  split at h
  · cases h
  · split at h
    · cases h
    next hdata =>
      split at h
      · cases h
      next hmalloc =>
        split at h
        · cases h
        next message' hdeserialize =>
          obtain rfl := Except.ok.inj h
          simp_all

theorem serializeWith_ne_failed {extra : List (String × Built)}
    (hmessage : support.message serialized = .ok message) (errorMessage : String) :
    serializeWith wstringToBytes codec extra support serialized ≠ .failed errorMessage := by
  intro h
  unfold serializeWith at h
  rw [hmessage] at h
  dsimp only at h
  split at h
  · cases h
  · split at h <;> cases h

/-- A text is returned exactly if the message is serializable, and is read as it. -/
theorem payload_of_message (hcodec : codec.Lawful) (hdistinct : members.Distinct)
    (htextual : members.Textual) (hstamped : members.Each IsStamped)
    (hmessage : support.message serialized = .ok message) :
    ((serialization (serializeWith wstringToBytes codec [] support serialized)).payload?.isSome =
        true ↔ members.Holds Layout.InRange (Primitive.Serializable Utf16.pairedSoFar) message) ∧
      ∀ payload,
        (serialization (serializeWith wstringToBytes codec [] support serialized)).payload? =
            some payload →
          ∃ j, codec.parse payload = some j ∧ members.read j = some (members.whole message) ∧
            Stampable j := by
  have hnodup : (members.names ++ ([] : List (String × Built)).map Prod.fst).Nodup := by
    simpa using hdistinct.nodup_names
  have hreturns := serializeWith_returns_iff wstringToBytes_takes hcodec hdistinct
    (List.forall_mem_nil _) hnodup support serialized
  rw [TypeSupport.Serializable, hmessage] at hreturns
  simp only [Except.ok.injEq, forall_eq'] at hreturns
  rw [← hreturns]
  cases houtcome : serializeWith wstringToBytes codec [] support serialized with
  | failed errorMessage => exact absurd houtcome (serializeWith_ne_failed hmessage errorMessage)
  | left fault => simp [serialization, Serialization.payload?, Messages.Outcome.Returns]
  | returned output =>
    obtain ⟨message', entries, j, hwrites⟩ :=
      serializeWith_writes hcodec hdistinct htextual (List.forall_mem_nil _) hnodup houtcome
    obtain rfl := Except.ok.inj (hwrites.taken.symm.trans hmessage)
    obtain ⟨entries', rfl⟩ := hwrites.parsed.exists_object
    refine ⟨iff_of_true rfl (.inr ⟨output, entries', rfl, hwrites.parse⟩), fun payload h => ?_⟩
    obtain rfl := Option.some.inj h
    exact ⟨_, hwrites.parse,
      members.read_of_converts htextual message' entries _ hwrites.converts hwrites.traverse,
      stampable_of_parsed hwrites.parsed hstamped⟩

/-- What a callback publishes in JSON: something exactly if a condition holds, and then the text
of a message with the time. -/
structure PublishesText (codec : Codec) (message : members.Value) (t1 : Int64) (condition : Prop)
    (value : Option (List UInt8)) : Prop where
  isSome_iff : value.isSome = true ↔ condition
  text : ∀ payload, value = some payload → StampedText codec message t1 payload

/-- The three steps to a text: from the message to its text, the key, and the time. -/
theorem publishesText (hcodec : codec.Lawful) (hdistinct : members.Distinct)
    (htextual : members.Textual) (hone : members.Each IsHeader)
    (hstamped : members.Each IsStamped) (hts : "_ts" ∉ members.names)
    (hmessage : support.message serialized = .ok message)
    (hkeyed : members.Keyed messageKey message message') (t1 : Int64) :
    PublishesText codec (members.whole message') t1
      (members.Holds Layout.InRange (Primitive.Serializable Utf16.pairedSoFar) message)
      ((serialization (serializeWith wstringToBytes codec [] support serialized)).payload?.bind
        fun payload => (applyTsEnvelopeToJson codec
          (applyMessageKeyToJson codec payload messageKey).2 t1).map Prod.snd) := by
  obtain ⟨hisSome, hpayload⟩ :=
    payload_of_message hcodec hdistinct htextual hstamped hmessage
  rw [← hisSome]
  cases hvalue : (serialization
      (serializeWith wstringToBytes codec [] support serialized)).payload? with
  | none => exact ⟨Iff.rfl, fun _ h => by cases h⟩
  | some payload =>
    obtain ⟨j, hparse, hread, hstampable⟩ := hpayload payload hvalue
    obtain ⟨j', hparse', hread', hstampable'⟩ :=
      exists_read_keyed hcodec hdistinct hone hparse hread hstampable hkeyed.whole
    obtain ⟨stamped, happlied, htext⟩ := exists_stampedText hcodec hts hparse' hread' hstampable' t1
    rw [Option.bind_some, happlied]
    refine ⟨iff_of_true rfl rfl, fun value h => ?_⟩
    obtain rfl := Option.some.inj h
    exact htext

/-- What the loops over the members write is the message with the key. -/
theorem exists_keyed (hone : members.Each IsHeader) (messageKey : String)
    (message : members.Value) :
    ∃ message', members.Keyed messageKey message message' ∧ (messageKey ≠ "" →
      members.editFirst (editHeader (bytes messageKey)) message = .written message' ∨
        members.editFirst (editHeader (bytes messageKey)) message = .absent ∧
          message' = message) := by
  by_cases hkey : messageKey = ""
  · exact ⟨message, by rw [Members.Keyed, if_neg fun h => h.1 hkey], fun h => absurd hkey h⟩
  · have habsent := members.editHeader_eq_absent_iff (bytes messageKey) message
    cases hedit : members.editFirst (editHeader (bytes messageKey)) message with
    | absent =>
      refine ⟨message, ?_, fun _ => .inr ⟨rfl, rfl⟩⟩
      have hfinds : ¬members.finds headerFound = true := by
        rw [habsent.mp hedit]
        exact Bool.false_ne_true
      rw [Members.Keyed, if_neg fun h => hfinds h.2]
    | corrupted => exact absurd hedit (Members.editHeader_ne_corrupted hone)
    | written message' =>
      refine ⟨message', ?_, fun _ => .inl rfl⟩
      have hfinds : members.finds headerFound = true := by
        rw [← Bool.not_eq_false, ← habsent, hedit]
        exact nofun
      rw [Members.Keyed, if_pos ⟨hkey, hfinds⟩]
      exact Members.frameIdReplaced hone hedit

/-- The bytes with the key put in are those of the message with the key, unless they stay. -/
theorem decode_of_injected (hdecode : decode serialized = some message)
    (hserialize : ∀ message bytes, rmwSerialize message = some bytes →
      decode bytes = some message)
    (hdeserialized : support.deserialized serialized = some message)
    (hedit : members.editFirst (editHeader (bytes messageKey)) message = .written message' ∨
      members.editFirst (editHeader (bytes messageKey)) message = .absent ∧ message' = message)
    (hvalue : ((injectFrameIdIntoCdr support rmwSerialize (bytes messageKey) serialized).bind
      Injection.assigned).getD serialized = value) :
    decode value = some message' ∨
      rmwSerialize message' = none ∧ decode value = some message := by
  unfold injectFrameIdIntoCdr at hvalue
  rw [hdeserialized] at hvalue
  rcases hedit with hwritten | ⟨habsent, rfl⟩
  · simp only [hwritten, Edit.injection, Option.bind_some] at hvalue
    cases houtput : rmwSerialize message' with
    | none =>
      rw [houtput] at hvalue
      exact .inr ⟨rfl, hvalue ▸ hdecode⟩
    | some output =>
      rw [houtput] at hvalue
      exact .inl (hvalue ▸ hserialize message' output houtput)
  · simp only [habsent, Edit.injection, Option.bind_some] at hvalue
    exact .inl (hvalue ▸ hdecode)

section Values

variable {mqtt : MosquittoSink.SubscriptionRuntime} {kafka : KafkaSink.SubscriptionRuntime}

theorem mosquitto_value_cdr (hformat : mqtt.payloadFormat = .cdr)
    (hmqtt : mqtt.rmwTypeSupport = true ∧ mqtt.introspectionTypeSupport = true) :
    mqtt.value (mosquittoDelivery codec support rmwSerialize serialized nowNs) =
      some (if mqtt.messageKey = "" then serialized else
        ((injectFrameIdIntoCdr support rmwSerialize (bytes mqtt.messageKey) serialized).bind
          Injection.assigned).getD serialized) := by
  unfold MosquittoSink.SubscriptionRuntime.value
  rw [hformat]
  by_cases hkey : mqtt.messageKey = ""
  · simp [mosquittoDelivery, hkey]
  · simp [mosquittoDelivery, hkey, hmqtt]

theorem mosquitto_value_json (hformat : mqtt.payloadFormat = .json)
    (hmqtt : mqtt.rmwTypeSupport = true ∧ mqtt.introspectionTypeSupport = true) :
    mqtt.value (mosquittoDelivery codec support rmwSerialize serialized nowNs) =
      (serialization (serializeWith wstringToBytes codec [] support serialized)).payload?.bind
        fun payload => (applyTsEnvelopeToJson codec
          (applyMessageKeyToJson codec payload mqtt.messageKey).2 nowNs).map Prod.snd := by
  unfold MosquittoSink.SubscriptionRuntime.value
  rw [hformat, hmqtt.1, hmqtt.2]
  refine Option.bind_congr fun payload _ => ?_
  by_cases hkey : mqtt.messageKey = ""
  · rw [if_pos hkey, applyMessageKeyToJson, if_pos hkey]
    rfl
  · rw [if_neg hkey]
    rfl

theorem kafka_value_json (hformat : kafka.payloadFormat = .json)
    (hkafka : kafka.rmwTypeSupport = true ∧ kafka.introspectionTypeSupport = true) :
    kafka.value (kafkaJson codec support) serialized nowNs =
      (serialization (serializeWith wstringToBytes codec [] support serialized)).payload?.bind
        fun payload => (applyTsEnvelopeToJson codec
          (applyMessageKeyToJson codec payload "").2 nowNs).map Prod.snd := by
  unfold KafkaSink.SubscriptionRuntime.value
  rw [hformat, hkafka.1, hkafka.2]
  rfl

end Values

/-- **The payloads.** Where a message gets to a sink that has its type support, its values are
told by their texts, and its `header`, if it has one, is one with one string for a frame id and a
time for a stamp: in CDR and in JSON alike `mosquitto_sink` publishes the message with the key for
its frame id, and `kafka_sink` the message as it is. In CDR they always publish, and only where
the message with the key cannot be serialized again, it is what came; in JSON exactly if the
message is serializable, without the high surrogates that end its wide strings, and with the time
next to it. -/
theorem payloads_carry_message (hcodec : codec.Lawful) (hdistinct : members.Distinct)
    (htextual : members.Textual) (hone : members.Each IsHeader)
    (hstamped : members.Each IsStamped) (hts : "_ts" ∉ members.names)
    (hdeserialize : ∀ bytes message, support.rmwDeserialize bytes = some message →
      decode bytes = some message)
    (hserialize : ∀ message bytes, rmwSerialize message = some bytes →
      decode bytes = some message)
    (hmessage : support.message serialized = .ok message)
    (mqtt : MosquittoSink.SubscriptionRuntime)
    (hmqtt : mqtt.rmwTypeSupport = true ∧ mqtt.introspectionTypeSupport = true)
    (kafka : KafkaSink.SubscriptionRuntime)
    (hkafka : kafka.rmwTypeSupport = true ∧ kafka.introspectionTypeSupport = true)
    (nowNs : Int64) :
    ∃ message', members.Keyed mqtt.messageKey message message' ∧
      (match mqtt.payloadFormat with
        | .cdr => ∃ value,
          mqtt.value (mosquittoDelivery codec support rmwSerialize serialized nowNs) = some value ∧
            (decode value = some message' ∨
              rmwSerialize message' = none ∧ decode value = some message)
        | .json => PublishesText codec (members.whole message') nowNs
          (members.Holds Layout.InRange (Primitive.Serializable Utf16.pairedSoFar) message)
          (mqtt.value (mosquittoDelivery codec support rmwSerialize serialized nowNs))) ∧
      match kafka.payloadFormat with
        | .cdr => ∃ value,
          kafka.value (kafkaJson codec support) serialized nowNs = some value ∧
            decode value = some message
        | .json => PublishesText codec (members.whole message) nowNs
          (members.Holds Layout.InRange (Primitive.Serializable Utf16.pairedSoFar) message)
          (kafka.value (kafkaJson codec support) serialized nowNs) := by
  obtain ⟨hdeserialized, hdecoded⟩ := deserialized_of_message hmessage
  have hdecode := hdeserialize serialized message hdecoded
  obtain ⟨message', hkeyed, hedit⟩ := exists_keyed hone mqtt.messageKey message
  refine ⟨message', hkeyed, ?_, ?_⟩
  · cases hformat : mqtt.payloadFormat with
    | cdr =>
      refine ⟨_, mosquitto_value_cdr hformat hmqtt, ?_⟩
      by_cases hkey : mqtt.messageKey = ""
      · rw [Members.Keyed, if_neg fun h => h.1 hkey] at hkeyed
        rw [if_pos hkey]
        exact .inl (hkeyed ▸ hdecode)
      · rw [if_neg hkey]
        exact decode_of_injected hdecode hserialize hdeserialized (hedit hkey) rfl
    | json =>
      rw [mosquitto_value_json hformat hmqtt]
      exact publishesText hcodec hdistinct htextual hone hstamped hts hmessage hkeyed nowNs
  · cases hformat : kafka.payloadFormat with
    | cdr => exact ⟨serialized, by rw [KafkaSink.SubscriptionRuntime.value, hformat], hdecode⟩
    | json =>
      have hsame : members.Keyed "" message message := by
        rw [Members.Keyed, if_neg fun h => h.1 rfl]
      rw [kafka_value_json hformat hkafka]
      exact publishesText hcodec hdistinct htextual hone hstamped hts hmessage hsame nowNs

/-- A subscription of `mosquitto_sink` to `/a` in JSON, with a key. -/
def keyedForMqtt : MosquittoSink.SubscriptionRuntime where
  rosTopic := "/a"
  msgType := "T"
  mqttTopic := "ros2/a"
  messageKey := "b"
  payloadFormat := .json
  rmwTypeSupport := true
  introspectionTypeSupport := true

/-- One of `kafka_sink` in CDR. -/
def loadedForKafka : KafkaSink.SubscriptionRuntime :=
  { KafkaSink.SubscriptionRuntime.sample with
    rmwTypeSupport := true
    introspectionTypeSupport := true }

/-- A message with a header, through both sinks. -/
theorem payloads_carry_message_header :
    ∃ message', headerMembers.Keyed "b" (headedBy [0x61]) message' ∧
      PublishesText plain (headerMembers.whole message') 9
        (headerMembers.Holds Layout.InRange (Primitive.Serializable Utf16.pairedSoFar)
          (headedBy [0x61]))
        (keyedForMqtt.value (mosquittoDelivery plain headerSupport serializeHeader headerBytes 9)) ∧
      ∃ value, loadedForKafka.value (kafkaJson plain headerSupport) headerBytes 9 = some value ∧
        deserializeHeader value = some (headedBy [0x61]) := by
  have hdistinct : headerMembers.Distinct := ⟨by decide, ⟨by decide, trivial, trivial⟩, trivial⟩
  have htextual : headerMembers.Textual := ⟨⟨by decide, ⟨nofun, nofun⟩, trivial⟩, trivial⟩
  have hone : headerMembers.Each IsHeader := by
    refine ⟨fun _ => ⟨rfl, fun sizeOf header htype => ?_⟩, trivial⟩
    obtain ⟨-, rfl⟩ := FieldType.message.inj htype
    exact ⟨fun _ => ⟨rfl, rfl⟩, trivial⟩
  have hstamped : headerMembers.Each IsStamped := by
    refine ⟨fun _ sizeOf header htype => ?_, trivial⟩
    obtain ⟨-, rfl⟩ := FieldType.message.inj htype
    exact ⟨fun hname => absurd hname (by decide), trivial⟩
  have hmessage : headerSupport.message headerBytes = .ok (headedBy [0x61]) := by rfl
  exact payloads_carry_message plain_lawful hdistinct htextual hone hstamped (by decide)
    (fun _ _ h => h) deserializeHeader_of_serialize hmessage keyedForMqtt ⟨rfl, rfl⟩ loadedForKafka
    ⟨rfl, rfl⟩ 9

end Ros2Dispatcher.Sinks
