import Ros2Dispatcher.Messages.Descriptors

/-!
# The frame id of a serialized message

In CDR mode `mosquitto_sink` puts its message key into a message as `header.frame_id`:
`inject_frame_id_into_cdr` deserializes the message, looks for the field by its descriptor,
overwrites it and serializes the message again. It returns whether it found the field, also
where it could not serialize the message and the output is still what it was; and of the two
members it checks the types, but not that they are no arrays.

* `FrameIdReplaced`: the same message with another frame id.
* `injectFrameIdIntoCdr_faithful_iff`: when the function makes that of a message.
-/

namespace Ros2Dispatcher.Messages

/-! ### The function -/

/-- What the loops over the members do to a value. -/
inductive Edit (α : Type)
  /-- The field they look for is not there. -/
  | absent
  | written (value : α)
  /-- They write to memory that holds no such field. -/
  | corrupted

def Edit.map {α β : Type} (f : α → β) : Edit α → Edit β
  | absent => absent
  | written value => written (f value)
  | corrupted => corrupted

/-- An edit of the value where a member begins: in a fixed array that is its first element,
and a sequence has no element there. -/
def ArrayKind.editAt {α : Type} (elsewhere : Edit α) (edit : α → Edit α) :
    (kind : ArrayKind) → kind.Value α → Edit (kind.Value α)
  | single, value => edit value
  | fixed _, ⟨element :: elements, hlength⟩ =>
    (edit element).map fun element => ⟨element :: elements, hlength⟩
  | fixed _, ⟨[], hlength⟩ => elsewhere.map fun _ => ⟨[], hlength⟩
  | unbounded, elements => elsewhere.map fun _ => elements
  | bounded _, elements => elsewhere.map fun _ => elements

/-- What a loop does with a member that it looks for. -/
abbrev MemberEdit : Type :=
  String → (type : FieldType) → (layout : Layout) →
    Option (layout.kind.Value type.Value → Edit (layout.kind.Value type.Value))

/-- A loop over the members up to the first that it looks for. -/
def Members.editFirst (here : MemberEdit) : (members : Members) → members.Value →
    Edit members.Value
  | .nil, _ => .absent
  | .cons name type layout rest, message =>
    match here name type layout with
    | some edit => (edit message.1).map (·, message.2)
    | none => (rest.editFirst here message.2).map (message.1, ·)

/-- The body of the loop over the members of the header. -/
def editFrameId (frameId : List UInt8) : MemberEdit
  | name, .primitive .string, layout =>
    if name = "frame_id" then some (layout.kind.editAt .corrupted fun _ => .written frameId)
    else none
  | _, _, _ => none

/-- What a loop finds by the members alone, where `found` decides for those it looks for. -/
def Members.finds (found : String → FieldType → Option Bool) : Members → Bool
  | nil => false
  | cons name type _ rest => (found name type).getD (rest.finds found)

/-- A member that the loop over the members of the header looks for. -/
def frameIdFound : String → FieldType → Option Bool
  | name, .primitive .string => if name = "frame_id" then some true else none
  | _, _ => none

/-- The body of the loop over the members of the message. -/
def editHeader (frameId : List UInt8) : MemberEdit
  | name, .message _ members, layout =>
    if name = "header" then
      some (layout.kind.editAt (if members.finds frameIdFound then .corrupted else .absent)
        (members.editFirst (editFrameId frameId)))
    else none
  | _, _, _ => none

/-- A member that the loop over the members of the message looks for, with what the other loop
finds there. -/
def headerFound : String → FieldType → Option Bool
  | name, .message _ members =>
    if name = "header" then some (members.finds frameIdFound) else none
  | _, _ => none

/-- What a call returns, and the bytes it assigned to the output, if it did. -/
structure Injection where
  returned : Bool
  assigned : Option (List UInt8)
deriving DecidableEq, Repr

variable {members : Members}

/-- The message that the function deserializes, if it gets that far. -/
def TypeSupport.deserialized (support : TypeSupport members) (serialized : List UInt8) :
    Option members.Value :=
  if !support.data || support.sizeOf = 0 || !support.malloc then none
  else support.rmwDeserialize serialized

/-- What the function does after its loops: `modified` is whether they wrote the field. -/
def Edit.injection (rmwSerialize : members.Value → Option (List UInt8)) :
    Edit members.Value → Option Injection
  | absent => some ⟨false, none⟩
  | written message => some ⟨true, rmwSerialize message⟩
  | corrupted => none

/-- `inject_frame_id_into_cdr`; no result is a write to other memory. -/
def injectFrameIdIntoCdr (support : TypeSupport members)
    (rmwSerialize : members.Value → Option (List UInt8)) (frameId serialized : List UInt8) :
    Option Injection :=
  match support.deserialized serialized with
  | none => some ⟨false, none⟩
  | some message => (members.editFirst (editHeader frameId) message).injection rmwSerialize

/-! ### The message with another frame id -/

/-- A member with its value. -/
structure Field where
  name : String
  type : FieldType
  layout : Layout
  value : layout.kind.Value type.Value

/-- The fields of a message, in order. -/
def Members.fields : (members : Members) → members.Value → List Field
  | .nil, _ => []
  | .cons name type layout rest, message =>
    ⟨name, type, layout, message.1⟩ :: rest.fields message.2

/-- One field is another, and the others are the same. -/
def ReplacesOne (replaces : Field → Field → Prop) (fields fields' : List Field) : Prop :=
  ∃ before field field' after, fields = before ++ field :: after ∧
    fields' = before ++ field' :: after ∧ replaces field field'

/-- A string named `frame_id` is replaced. -/
def ReplacesFrameId (frameId : List UInt8) (field field' : Field) : Prop :=
  ∃ getConstFunction old,
    field = ⟨"frame_id", .primitive .string, ⟨.single, getConstFunction⟩, old⟩ ∧
    field' = ⟨"frame_id", .primitive .string, ⟨.single, getConstFunction⟩, frameId⟩

/-- In a message named `header` the frame id is replaced. -/
def ReplacesHeader (frameId : List UInt8) (field field' : Field) : Prop :=
  ∃ sizeOf members getConstFunction header header',
    field = ⟨"header", .message sizeOf members, ⟨.single, getConstFunction⟩, header⟩ ∧
    field' = ⟨"header", .message sizeOf members, ⟨.single, getConstFunction⟩, header'⟩ ∧
    ReplacesOne (ReplacesFrameId frameId) (members.fields header) (members.fields header')

/-- The second message is the first with another `header.frame_id`. -/
def FrameIdReplaced (frameId : List UInt8) (message message' : members.Value) : Prop :=
  ReplacesOne (ReplacesHeader frameId) (members.fields message) (members.fields message')

/-! ### What the loops find -/

theorem Members.map_name_fields : (members : Members) → (message : members.Value) →
    (members.fields message).map Field.name = members.names
  | .nil, _ => rfl
  | .cons name _ _ rest, message => congrArg (name :: ·) (rest.map_name_fields message.2)

/-- A message is its fields. -/
theorem Members.fields_injective : (members : Members) → (message message' : members.Value) →
    members.fields message = members.fields message' → message = message'
  | .nil, _, _, _ => rfl
  | .cons _ _ _ rest, message, message', h => by
    obtain ⟨hfirst, hrest⟩ := List.cons.inj h
    have hvalue : message.1 = message'.1 := by simpa using hfirst
    exact Prod.ext hvalue (rest.fields_injective message.2 message'.2 hrest)

/-- A loop that looks for one name finds the field that is replaced there, and replaces it. -/
theorem Members.editFirst_of_replacesOne {here : MemberEdit} {name : String}
    {replaces : Field → Field → Prop}
    (hother : ∀ other type layout, other ≠ name → here other type layout = none)
    (hname : ∀ field field', replaces field field' → field.name = name)
    (hreplaces : ∀ field field', field.type.Distinct → replaces field field' →
      ∃ edit value, here field.name field.type field.layout = some edit ∧
        edit field.value = .written value ∧ field' = { field with value }) :
    (members : Members) → members.Distinct → (message message' : members.Value) →
      ReplacesOne replaces (members.fields message) (members.fields message') →
        members.editFirst here message = .written message'
  | .nil, _, _, _, ⟨before, field, field', after, hfields, _, _⟩ => by
    cases before <;> cases hfields
  | .cons first type layout rest, ⟨_, htype, hrest⟩, message, message',
      ⟨[], field, field', after, hfields, hfields', hfield⟩ => by
    obtain ⟨rfl, rfl⟩ := List.cons.inj hfields
    obtain ⟨edit, value, hhere, hedit, rfl⟩ := hreplaces _ _ htype hfield
    obtain ⟨hvalue, hothers⟩ := List.cons.inj hfields'
    have hvalue : message'.1 = value := by simpa using hvalue
    have hothers := rest.fields_injective _ _ hothers
    rw [Members.editFirst, hhere]
    simp only [hedit, Edit.map]
    exact congrArg Edit.written (Prod.ext hvalue.symm hothers.symm)
  | .cons first type layout rest, ⟨hfirst, _, hrest⟩, message, message',
      ⟨_ :: before, field, field', after, hfields, hfields', hfield⟩ => by
    obtain ⟨rfl, hothers⟩ := List.cons.inj hfields
    obtain ⟨hvalue, hothers'⟩ := List.cons.inj hfields'
    have hvalue : message'.1 = message.1 := by simpa using hvalue
    have hmem : field.name ∈ rest.names := by
      rw [← rest.map_name_fields message.2, hothers]
      simp
    have hne : first ≠ name := fun heq => hfirst (heq ▸ hname _ _ hfield ▸ hmem)
    have hwritten := rest.editFirst_of_replacesOne hother hname hreplaces hrest message.2
      message'.2 ⟨before, field, field', after, hothers, hothers', hfield⟩
    rw [Members.editFirst, hother first type layout hne]
    simp only [hwritten, Edit.map]
    exact congrArg Edit.written (Prod.ext hvalue.symm rfl)

theorem editFrameId_of_ne {frameId : List UInt8} {name : String} (type : FieldType)
    (layout : Layout) (hname : name ≠ "frame_id") :
    editFrameId frameId name type layout = none := by
  unfold editFrameId
  split
  · exact if_neg hname
  · rfl

theorem editHeader_of_ne {frameId : List UInt8} {name : String} (type : FieldType)
    (layout : Layout) (hname : name ≠ "header") : editHeader frameId name type layout = none := by
  unfold editHeader
  split
  · exact if_neg hname
  · rfl

/-- The loop over the members of a header replaces its frame id. -/
theorem Members.editFirst_editFrameId {frameId : List UInt8} {header header' : members.Value}
    (hdistinct : members.Distinct)
    (h : ReplacesOne (ReplacesFrameId frameId) (members.fields header) (members.fields header')) :
    members.editFirst (editFrameId frameId) header = .written header' := by
  refine members.editFirst_of_replacesOne (fun _ => editFrameId_of_ne) ?_ ?_ hdistinct _ _ h
  · rintro field field' ⟨getConstFunction, old, rfl, -⟩
    rfl
  · rintro field field' - ⟨getConstFunction, old, rfl, rfl⟩
    exact ⟨_, frameId, rfl, rfl, rfl⟩

/-- The loop over the members of a message replaces the frame id of its header. -/
theorem Members.editFirst_editHeader {frameId : List UInt8} {message message' : members.Value}
    (hdistinct : members.Distinct) (h : FrameIdReplaced frameId message message') :
    members.editFirst (editHeader frameId) message = .written message' := by
  refine members.editFirst_of_replacesOne (fun _ => editHeader_of_ne) ?_ ?_ hdistinct _ _ h
  · rintro field field' ⟨sizeOf, members, getConstFunction, header, header', rfl, -⟩
    rfl
  · rintro field field' htype
      ⟨sizeOf, members, getConstFunction, header, header', rfl, rfl, hheader⟩
    exact ⟨_, header', rfl, members.editFirst_editFrameId htype hheader, rfl⟩

/-! ### What leaves a value as it is -/

theorem Edit.map_eq_absent_iff {α β : Type} {f : α → β} {edit : Edit α} :
    edit.map f = .absent ↔ edit = .absent := by
  cases edit <;> simp [Edit.map]

theorem ArrayKind.editAt_eq_absent_iff {α : Type} {elsewhere : Edit α} {edit : α → Edit α}
    {P : Prop} (helsewhere : elsewhere = .absent ↔ P) (hedit : ∀ value, edit value = .absent ↔ P)
    (kind : ArrayKind) (value : kind.Value α) :
    kind.editAt elsewhere edit value = .absent ↔ P := by
  cases kind with
  | single => exact hedit value
  | fixed size =>
    obtain ⟨_ | ⟨element, elements⟩, hlength⟩ := value
    · exact Edit.map_eq_absent_iff.trans helsewhere
    · exact Edit.map_eq_absent_iff.trans (hedit element)
  | unbounded => exact Edit.map_eq_absent_iff.trans helsewhere
  | bounded size => exact Edit.map_eq_absent_iff.trans helsewhere

/-- A loop leaves a value as it is exactly if it finds nothing by the members. -/
theorem Members.editFirst_eq_absent_iff {here : MemberEdit}
    {found : String → FieldType → Option Bool}
    (hnone : ∀ name type layout, here name type layout = none → found name type = none)
    (hsome : ∀ name type layout edit, here name type layout = some edit →
      ∃ finds, found name type = some finds ∧ ∀ value, edit value = .absent ↔ finds = false) :
    (members : Members) → (message : members.Value) →
      (members.editFirst here message = .absent ↔ members.finds found = false)
  | .nil, _ => iff_of_true rfl rfl
  | .cons name type layout rest, message => by
    rw [Members.editFirst, Members.finds]
    cases hhere : here name type layout with
    | none =>
      rw [hnone name type layout hhere]
      exact Edit.map_eq_absent_iff.trans
        (rest.editFirst_eq_absent_iff hnone hsome message.2)
    | some edit =>
      obtain ⟨finds, hfound, hedit⟩ := hsome name type layout edit hhere
      rw [hfound]
      exact Edit.map_eq_absent_iff.trans (hedit message.1)

theorem Members.editFrameId_eq_absent_iff {frameId : List UInt8} (header : members.Value) :
    members.editFirst (editFrameId frameId) header = .absent ↔
      members.finds frameIdFound = false := by
  refine members.editFirst_eq_absent_iff (fun name type layout h => ?_)
    (fun name type layout edit h => ?_) header
  · cases type with
    | message sizeOf members => rfl
    | primitive type =>
      cases type with
      | string => simpa [editFrameId, frameIdFound] using h
      | _ => rfl
  · cases type with
    | message sizeOf members => cases h
    | primitive type =>
      cases type with
      | string =>
        obtain ⟨hname, hedit⟩ := Option.ite_none_right_eq_some.mp h
        obtain rfl := Option.some.inj hedit
        refine ⟨true, if_pos hname, ArrayKind.editAt_eq_absent_iff ?_ (fun _ => ?_) layout.kind⟩
        · exact iff_of_false nofun Bool.false_ne_true.symm
        · exact iff_of_false nofun Bool.false_ne_true.symm
      | _ => cases h

theorem Members.editHeader_eq_absent_iff (frameId : List UInt8) (message : members.Value) :
    members.editFirst (editHeader frameId) message = .absent ↔
      members.finds headerFound = false := by
  refine members.editFirst_eq_absent_iff (fun name type layout h => ?_)
    (fun name type layout edit h => ?_) message
  · cases type with
    | message sizeOf members => simpa [editHeader, headerFound] using h
    | primitive type => rfl
  · cases type with
    | message sizeOf members =>
      obtain ⟨hname, hedit⟩ := Option.ite_none_right_eq_some.mp h
      obtain rfl := Option.some.inj hedit
      refine ⟨_, if_pos hname, ArrayKind.editAt_eq_absent_iff ?_
        members.editFrameId_eq_absent_iff layout.kind⟩
      cases members.finds frameIdFound <;> simp
    | primitive type => cases h

/-! ### When the function is faithful -/

/-- What the function is for: it returns `true` exactly if it replaced the output, and then by
a serialization of the message with the frame id. `decode` is what bytes stand for. -/
def Faithful (decode : List UInt8 → Option members.Value) (frameId serialized : List UInt8)
    (result : Option Injection) : Prop :=
  ∃ injection, result = some injection ∧ (injection.returned = true ↔ injection.assigned.isSome) ∧
    ∀ output, injection.assigned = some output → ∃ message message',
      decode serialized = some message ∧ decode output = some message' ∧
        FrameIdReplaced frameId message message'

/-- A message that the function can give another frame id, or whose type has none that it looks
for: the message it makes of it can be serialized. -/
def Injectable (rmwSerialize : members.Value → Option (List UInt8)) (frameId : List UInt8)
    (message : members.Value) : Prop :=
  members.finds headerFound = false ∨
    ∃ message', FrameIdReplaced frameId message message' ∧ (rmwSerialize message').isSome = true

/-- A written message is faithful if it is the one with the frame id and can be serialized. -/
theorem faithful_written_iff {rmwSerialize : members.Value → Option (List UInt8)}
    {decode : List UInt8 → Option members.Value} {frameId serialized : List UInt8}
    {message message' : members.Value} (hdecode : decode serialized = some message)
    (hserialize : ∀ message bytes, rmwSerialize message = some bytes →
      decode bytes = some message) :
    Faithful decode frameId serialized ((Edit.written message').injection rmwSerialize) ↔
      FrameIdReplaced frameId message message' ∧ (rmwSerialize message').isSome = true := by
  constructor
  · rintro ⟨injection, hinjection, hreturned, hassigned⟩
    obtain rfl := Option.some.inj hinjection
    have hsome : (rmwSerialize message').isSome = true := hreturned.mp rfl
    obtain ⟨output, houtput⟩ := Option.isSome_iff_exists.mp hsome
    obtain ⟨first, second, hfirst, hsecond, hreplaced⟩ := hassigned output houtput
    obtain rfl := Option.some.inj (hdecode.symm.trans hfirst)
    obtain rfl := Option.some.inj ((hserialize _ _ houtput).symm.trans hsecond)
    exact ⟨hreplaced, hsome⟩
  · rintro ⟨hreplaced, hsome⟩
    refine ⟨_, rfl, iff_of_true rfl hsome, fun output houtput => ?_⟩
    exact ⟨message, message', hdecode, hserialize _ _ houtput, hreplaced⟩

/-- **Frame ids.** The function is faithful exactly if it does not get a message, or the message
is of a type without the field, or the field is a single one and the message can be serialized
with its new value. -/
theorem injectFrameIdIntoCdr_faithful_iff (hdistinct : members.Distinct)
    {support : TypeSupport members} {rmwSerialize : members.Value → Option (List UInt8)}
    {decode : List UInt8 → Option members.Value}
    (hdeserialize : ∀ bytes message, support.rmwDeserialize bytes = some message →
      decode bytes = some message)
    (hserialize : ∀ message bytes, rmwSerialize message = some bytes →
      decode bytes = some message)
    (frameId serialized : List UInt8) :
    Faithful decode frameId serialized
        (injectFrameIdIntoCdr support rmwSerialize frameId serialized) ↔
      ∀ message, support.deserialized serialized = some message →
        Injectable rmwSerialize frameId message := by
  unfold injectFrameIdIntoCdr
  cases hmessage : support.deserialized serialized with
  | none => simp [Faithful]
  | some message =>
    have hdecode : decode serialized = some message := by
      obtain ⟨-, h⟩ := Option.ite_none_left_eq_some.mp hmessage
      exact hdeserialize serialized message h
    have habsent := members.editHeader_eq_absent_iff frameId message
    have hwrites : ∀ message', FrameIdReplaced frameId message message' →
        members.editFirst (editHeader frameId) message = .written message' :=
      fun _ => members.editFirst_editHeader hdistinct
    simp only [Option.some.injEq, forall_eq']
    cases hedit : members.editFirst (editHeader frameId) message with
    | absent => exact iff_of_true ⟨_, rfl, by simp⟩ (.inl (habsent.mp hedit))
    | corrupted =>
      refine iff_of_false nofun ?_
      rintro (hnone | ⟨message', hreplaced, -⟩)
      · cases hedit.symm.trans (habsent.mpr hnone)
      · cases hedit.symm.trans (hwrites message' hreplaced)
    | written message' =>
      rw [faithful_written_iff hdecode hserialize]
      constructor
      · rintro ⟨hreplaced, hsome⟩
        exact .inr ⟨message', hreplaced, hsome⟩
      · rintro (hnone | ⟨second, hreplaced, hsome⟩)
        · cases hedit.symm.trans (habsent.mpr hnone)
        · obtain rfl := Edit.written.inj (hedit.symm.trans (hwrites second hreplaced))
          exact ⟨hreplaced, hsome⟩

/-- The members of a header with nothing but the frame id. -/
def idMembers : Members :=
  .cons "frame_id" (.primitive .string) {} .nil

/-- The members of a message with nothing but such a header. -/
def headerMembers : Members :=
  .cons "header" (.message 32 idMembers) {} .nil

def headedBy (frameId : List UInt8) : headerMembers.Value :=
  ((frameId, ()), ())

/-- The bytes of a string, unless it is long. -/
def serializeFrameId (frameId : List UInt8) : Option (List UInt8) :=
  if frameId.length < 255 then
    some ([0, 1, 0, 0, frameId.length.toUInt8 + 1, 0, 0, 0] ++ (frameId ++ [0]))
  else none

def serializeHeader (message : headerMembers.Value) : Option (List UInt8) :=
  serializeFrameId message.1.1

def deserializeHeader (bytes : List UInt8) : Option headerMembers.Value :=
  let frameId := (bytes.drop 8).dropLast
  if serializeFrameId frameId = some bytes then some (headedBy frameId) else none

def headerSupport : TypeSupport headerMembers where
  sizeOf := 32
  rmwDeserialize := deserializeHeader

theorem drop_serializeFrameId {frameId bytes : List UInt8}
    (h : serializeFrameId frameId = some bytes) : (bytes.drop 8).dropLast = frameId := by
  obtain ⟨-, hbytes⟩ := Option.ite_none_right_eq_some.mp h
  obtain rfl := Option.some.inj hbytes
  exact List.dropLast_concat

theorem deserializeHeader_of_serialize (message : headerMembers.Value) (bytes : List UInt8)
    (h : serializeHeader message = some bytes) : deserializeHeader bytes = some message := by
  obtain ⟨⟨frameId, ⟨⟩⟩, ⟨⟩⟩ := message
  have hfrom : (bytes.drop 8).dropLast = frameId := drop_serializeFrameId h
  unfold deserializeHeader
  simp only [hfrom]
  exact if_pos h

/-- The bytes of a message of the frame `a`. -/
def headerBytes : List UInt8 :=
  [0, 1, 0, 0, 2, 0, 0, 0, 0x61, 0]

theorem header_faithful :
    Faithful deserializeHeader [0x62] headerBytes
      (injectFrameIdIntoCdr headerSupport serializeHeader [0x62] headerBytes) := by
  have hdistinct : headerMembers.Distinct := ⟨by decide, ⟨by decide, trivial, trivial⟩, trivial⟩
  refine (injectFrameIdIntoCdr_faithful_iff hdistinct (fun _ _ h => h)
    deserializeHeader_of_serialize [0x62] headerBytes).mpr fun message hmessage => ?_
  obtain rfl : headedBy [0x61] = message := Option.some.inj hmessage
  refine .inr ⟨headedBy [0x62], ?_, rfl⟩
  have hheader : ReplacesOne (ReplacesFrameId [0x62]) (idMembers.fields ([0x61], ()))
      (idMembers.fields ([0x62], ())) := ⟨[], _, _, [], rfl, rfl, true, [0x61], rfl, rfl⟩
  have hreplaces : ReplacesHeader [0x62]
      ⟨"header", .message 32 idMembers, ⟨.single, true⟩, ([0x61], ())⟩
      ⟨"header", .message 32 idMembers, ⟨.single, true⟩, ([0x62], ())⟩ :=
    ⟨32, idMembers, true, _, _, rfl, rfl, hheader⟩
  exact ⟨[], _, _, [], rfl, rfl, hreplaces⟩

theorem unserialized_header_not_faithful :
    ¬Faithful deserializeHeader [0x62] headerBytes
      (injectFrameIdIntoCdr headerSupport (fun _ => none) [0x62] headerBytes) := by
  have hresult : injectFrameIdIntoCdr headerSupport (fun _ => none) [0x62] headerBytes =
      some ⟨true, none⟩ := by decide +kernel
  rintro ⟨injection, hinjection, hreturned, -⟩
  obtain rfl := Option.some.inj (hresult.symm.trans hinjection)
  exact Bool.false_ne_true (hreturned.mp rfl)

end Ros2Dispatcher.Messages
