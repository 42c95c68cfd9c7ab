import Ros2Dispatcher.Messages.FrameId
import Ros2Dispatcher.Messages.Reading
import Ros2Dispatcher.Sinks.Envelope

/-!
# Stamps

`apply_ts_envelope_to_json` reads the stamp of a text with a conversion that throws. In the text
of a message the stamp is a member of the message's header, and by their types its parts are
integers: there the conversion does not throw.

* `Members.Parsed`: a value that was read back of the object that stands for a message.
* `Members.Parsed.exists_message`: a member that has members itself is of a message type.
* `stampable_of_parsed`: the envelope can be put in the text of a message.
-/

namespace Ros2Dispatcher.Messages

open Json (utf8?)

variable {members : Members} {name : String}

/-! ### Members of a type -/

/-- All members of a message satisfy a condition. -/
def Members.Each (P : String → FieldType → Layout → Prop) : Members → Prop
  | nil => True
  | cons name type layout rest => P name type layout ∧ rest.Each P

section Each

variable {P Q : String → FieldType → Layout → Prop}

protected theorem Members.Each.and : {members : Members} → members.Each P → members.Each Q →
    members.Each fun name type layout => P name type layout ∧ Q name type layout
  | .nil, _, _ => trivial
  | .cons _ _ _ _, ⟨hP, hPrest⟩, ⟨hQ, hQrest⟩ => ⟨⟨hP, hQ⟩, hPrest.and hQrest⟩

theorem Members.Each.of_mem_fields : {members : Members} → members.Each P →
    {message : members.Value} → {field : Field} → field ∈ members.fields message →
      P field.name field.type field.layout
  | .cons _ _ _ _, ⟨hP, hrest⟩, _, _, hfield => by
    rcases List.mem_cons.mp hfield with rfl | hfield
    · exact hP
    · exact hrest.of_mem_fields hfield

/-- What holds of a member of some name holds where there is none. -/
theorem Members.each_of_not_mem : {members : Members} → name ∉ members.names →
    members.Each fun other type layout => other = name → P other type layout
  | .nil, _ => trivial
  | .cons _ _ _ _, hname =>
    ⟨fun heq => absurd (heq ▸ List.mem_cons_self) hname,
      each_of_not_mem fun hmem => hname (List.mem_cons_of_mem _ hmem)⟩

end Each

/-! ### What was read back -/

variable {P : String → FieldType → Layout → Prop} {converter : Converter} {j value : Json String}

/-- A value is the object that stands for a message, read back. -/
def Members.Parsed (converter : Converter) (members : Members) (j : Json String) : Prop :=
  ∃ message entries, members.Converts converter message entries ∧
    (∀ name, name ∈ entries.map Prod.fst ↔ name ∈ members.names) ∧
    (Json.object entries).traverse utf8? = some j

theorem TypeSupport.Writes.parsed {support : TypeSupport members} {codec : Json.Codec}
    {serialized output : List UInt8} {entries : List (String × Built)} {message : members.Value}
    (h : support.Writes codec serialized [] message entries j output) :
    members.Parsed wstringToBytes j := by
  refine ⟨message, entries, h.converts, fun name => ?_, h.traverse⟩
  rw [h.keys, List.map_nil, or_iff_left List.not_mem_nil]

theorem Members.Parsed.exists_object (hparsed : members.Parsed converter j) :
    ∃ entries, j = .object entries := by
  obtain ⟨_, _, -, -, htraverse⟩ := hparsed
  rw [Json.traverse_object, Option.map_eq_some_iff] at htraverse
  obtain ⟨entries, -, rfl⟩ := htraverse
  exact ⟨entries, rfl⟩

/-- Under the name of a member is what stands for its value. -/
theorem Members.exists_of_converts : {members : Members} → members.Each P →
    {message : members.Value} → {entries : List (String × Built)} →
      members.Converts converter message entries → name ∈ members.names →
        ∃ (type : FieldType) (layout : Layout) (value : layout.kind.Value type.Value)
          (built : Built), P name type layout ∧ entries.lookup name = some built ∧
            layout.kind.Assembles (type.Converts converter) (layout.kind.elements value) built
  | .cons _ type layout _, ⟨hP, hrest⟩, message, _, ⟨⟨built, hlookup, hassembles⟩, hconverts⟩,
      hname => by
    rcases List.mem_cons.mp hname with rfl | hname
    · exact ⟨type, layout, message.1, built, hP, hlookup, hassembles⟩
    · exact exists_of_converts hrest hconverts hname

/-- A member of a value that was read back is the value of a member, read back. -/
theorem Members.Parsed.exists_member (hparsed : members.Parsed converter j)
    (heach : members.Each P) (hmember : j.member? name = some value) :
    ∃ (type : FieldType) (layout : Layout) (old : layout.kind.Value type.Value) (built : Built),
      P name type layout ∧ built.traverse utf8? = some value ∧
        layout.kind.Assembles (type.Converts converter) (layout.kind.elements old) built := by
  obtain ⟨message, entries, hconverts, hkeys, htraverse⟩ := hparsed
  have hname : name ∈ members.names := by
    rw [← hkeys, ← Json.isSome_member?_object, ← Json.member?_traverse_isSome htraverse, hmember]
    rfl
  obtain ⟨type, layout, old, built, hP, hlookup, hassembles⟩ :=
    Members.exists_of_converts heach hconverts hname
  obtain ⟨value', hvalue', hmember'⟩ := Json.member?_traverse htraverse hlookup
  obtain rfl := Option.some.inj (hmember'.symm.trans hmember)
  exact ⟨type, layout, old, built, hP, hvalue', hassembles⟩

theorem Primitive.toJson_ne_object {type : Primitive} {value : type.Value}
    {entries : List (String × Built)} : type.toJson converter value ≠ .ok (.object entries) := by
  intro h
  cases type with
  | wstring =>
    obtain ⟨bytes, -, hobject⟩ := toJson_wstring_eq_ok_iff.mp h
    cases hobject
  | float => cases value <;> cases h
  | double => cases value <;> cases h
  | _ => cases h

/-- Only what stands for a message is an object. -/
theorem exists_message_of_assembles {type : FieldType} {layout : Layout}
    {old : layout.kind.Value type.Value} {entries : List (String × Built)}
    (h : layout.kind.Assembles (type.Converts converter) (layout.kind.elements old)
      (.object entries)) :
    ∃ sizeOf members, type = .message sizeOf members ∧ ∃ message,
      members.Converts converter message entries ∧
        ∀ name, name ∈ entries.map Prod.fst ↔ name ∈ members.names := by
  obtain ⟨kind, getConstFunction⟩ := layout
  by_cases harray : kind = .single
  · subst harray
    have hconverts : type.Converts converter old (.object entries) :=
      ArrayKind.assembles_single.mp h
    cases type with
    | primitive type => exact absurd hconverts Primitive.toJson_ne_object
    | message sizeOf members =>
      obtain ⟨entries', hobject, -, hkeys, hconverts⟩ := hconverts
      obtain rfl := Json.object.inj hobject
      exact ⟨sizeOf, members, rfl, old, hconverts, hkeys⟩
  · obtain ⟨items, -, hobject⟩ := (ArrayKind.assembles_array harray).mp h
    cases hobject

/-- A member that has members is the value of a message, read back. -/
theorem Members.Parsed.exists_message {other : String} (hparsed : members.Parsed converter j)
    (heach : members.Each P) (hmember : j.member? name = some value)
    (hother : (value.member? other).isSome = true) :
    ∃ sizeOf type layout, P name (.message sizeOf type) layout ∧
      type.Parsed converter value := by
  obtain ⟨type, layout, old, built, hP, htraverse, hassembles⟩ :=
    hparsed.exists_member heach hmember
  rw [Json.member?_traverse_isSome htraverse, Option.isSome_iff_exists] at hother
  obtain ⟨inner, hinner⟩ := hother
  obtain ⟨entries, rfl, -⟩ := Json.member?_eq_some_iff.mp hinner
  obtain ⟨sizeOf, members, rfl, message, hconverts, hkeys⟩ :=
    exists_message_of_assembles hassembles
  exact ⟨sizeOf, members, layout, hP, message, entries, hconverts, hkeys, htraverse⟩

/-! ### Types with a stamp -/

/-- What the members of a time should be. -/
abbrev IsTime (name : String) (type : FieldType) (layout : Layout) : Prop :=
  (name = "sec" → layout.kind = .single ∧ type = .primitive .int32) ∧
    (name = "nanosec" → layout.kind = .single ∧ type = .primitive .uint32)

/-- What a member named `stamp` of a header should be, if it is a message. -/
abbrev IsStamp (name : String) (type : FieldType) (_ : Layout) : Prop :=
  name = "stamp" → ∀ sizeOf time, type = .message sizeOf time → time.Each IsTime

/-- What a member named `header` of a message should be, if it is a message. -/
abbrev IsStamped (name : String) (type : FieldType) (_ : Layout) : Prop :=
  name = "header" → ∀ sizeOf header, type = .message sizeOf header → header.Each IsStamp

/-- The parts of a time are numbers. -/
theorem Members.Parsed.isSome_number? (hparsed : members.Parsed converter j)
    (htime : members.Each IsTime) (hname : name = "sec" ∨ name = "nanosec")
    (hmember : j.member? name = some value) : value.number?.isSome = true := by
  obtain ⟨type, ⟨kind, getConstFunction⟩, old, built, ⟨hsec, hnanosec⟩, htraverse, hassembles⟩ :=
    hparsed.exists_member htime hmember
  dsimp only at hsec hnanosec
  rcases hname with hname | hname
  · obtain ⟨rfl, rfl⟩ := hsec hname
    obtain rfl := Except.ok.inj (ArrayKind.assembles_single.mp hassembles)
    obtain rfl := Option.some.inj htraverse
    rfl
  · obtain ⟨rfl, rfl⟩ := hnanosec hname
    obtain rfl := Except.ok.inj (ArrayKind.assembles_single.mp hassembles)
    obtain rfl := Option.some.inj htraverse
    rfl

end Ros2Dispatcher.Messages

namespace Ros2Dispatcher.Sinks

open Json Messages

/-- **Stamps.** The envelope can be put in the text of a message. -/
theorem stampable_of_parsed {members : Members} {converter : Converter} {j : Json String}
    (hparsed : members.Parsed converter j) (hstamped : members.Each IsStamped) : Stampable j := by
  constructor
  · obtain ⟨entries, rfl⟩ := hparsed.exists_object
    rfl
  · intro parts hparts
    simp only [stampParts, bind, Option.bind_eq_some_iff] at hparts
    obtain ⟨header, hheader, stamp, hstamp, sec, hsec, nanosec, hnanosec, hparts⟩ := hparts
    obtain rfl := Option.some.inj hparts
    obtain ⟨_, type, _, hstamped, hparsed⟩ := hparsed.exists_message hstamped hheader
      (Option.isSome_of_mem hstamp)
    obtain ⟨_, time, _, htime, hparsed⟩ := hparsed.exists_message (hstamped rfl _ type rfl) hstamp
      (Option.isSome_of_mem hsec)
    have htime := htime rfl _ time rfl
    exact ⟨hparsed.isSome_number? htime (.inl rfl) hsec,
      hparsed.isSome_number? htime (.inr rfl) hnanosec⟩

end Ros2Dispatcher.Sinks
