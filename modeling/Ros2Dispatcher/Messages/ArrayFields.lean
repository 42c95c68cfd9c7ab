import Ros2Dispatcher.Messages.ToJson

/-!
# Array fields

The JSON object of a message has a member for each member of the message, and an array field
becomes a JSON array of its elements. That holds at any depth, if `build_json_array` gets the
number of elements right and finds them. It takes a bounded sequence to have as many elements
as its bound, however many there are.

* `FieldType.Converts`: the JSON value that stands for a value of a type.
* `buildJsonMessage_exact_iff`: the messages that are converted to it.
* `bounded_sequence_not_exact`: a bounded sequence that is not full is no such message.
-/

namespace Ros2Dispatcher.Messages

/-! ### What a message should become -/

mutual

/-- The JSON value that stands for a value: for a message an object with the names of its
members as keys. -/
def FieldType.Converts (converter : Converter) : (type : FieldType) → type.Value → Built → Prop
  | .primitive type, value, j => type.toJson converter value = .ok j
  | .message _ members, message, j =>
    ∃ entries, j = .object entries ∧ Entries.Sorted entries ∧
      (∀ name, name ∈ entries.map Prod.fst ↔ name ∈ members.names) ∧
      members.Converts converter message entries

/-- Under the name of each member is what stands for its value, or the array of what stands
for each of its elements. -/
def Members.Converts (converter : Converter) : (members : Members) → members.Value →
    List (String × Built) → Prop
  | .nil, _, _ => True
  | .cons name type layout rest, message, entries =>
    (∃ j, entries.lookup name = some j ∧
      layout.kind.Assembles (type.Converts converter) (layout.kind.elements message.1) j) ∧
      rest.Converts converter message.2 entries

end

/-- `build_json_message` builds the object that stands for the message. -/
def ConvertedExactly (converter : Converter) (members : Members) (message : members.Value) :
    Prop :=
  ∃ entries, buildJsonMessage converter members message = .ok (.object entries) ∧
    Entries.Sorted entries ∧ (∀ name, name ∈ entries.map Prod.fst ↔ name ∈ members.names) ∧
    members.Converts converter message entries

/-! ### When it does -/

/-- Every element of an array is found, and nothing else. -/
def Layout.Readable (layout : Layout) (elementSize length : Nat) : Prop :=
  layout.InRange elementSize length ∧
    (layout.kind = .single ∨ layout.getConstFunction = true ∨ elementSize ≠ 0 ∨ length = 0)

/-- Wide strings are of those that a converter takes. -/
def Primitive.Convertible (wide : List UInt16 → Bool) : (type : Primitive) → type.Value → Prop
  | wstring, value => wide value = true
  | _, _ => True

variable {converter : Converter} {wide : List UInt16 → Bool}

theorem Primitive.exists_toJson_iff (hconverter : converter.Takes wide) {type : Primitive}
    {value : type.Value} :
    (∃ j, type.toJson converter value = .ok j) ↔ type.Convertible wide value := by
  cases type with
  | wstring =>
    rw [Convertible, ← hconverter.isSome, Option.isSome_iff_exists]
    simp [toJson_wstring_eq_ok_iff]
  | _ => simp [toJson, Convertible]

theorem Members.Distinct.nodup_names : {members : Members} → members.Distinct →
    members.names.Nodup
  | .nil, _ => .nil
  | .cons _ _ _ _, ⟨hname, _, hrest⟩ => List.nodup_cons.mpr ⟨hname, hrest.nodup_names⟩

section Field

variable {α : Type} {layout : Layout} {elementSize : Nat} {scalar : α → Except Fault Built}
  {converts : α → Built → Prop} {j : Built}

theorem Layout.Readable.reached {elements : List α}
    (h : layout.Readable elementSize elements.length) :
    layout.reached elementSize elements = elements := by
  unfold Layout.reached
  split
  next hskip =>
    obtain ⟨harray, haccess, hsize⟩ := hskip
    have hlength : elements.length = 0 := by simpa [harray, haccess, hsize] using h.2
    exact (List.eq_nil_of_length_eq_zero hlength).symm
  · rfl

/-- One member is built and converted, if each of its elements is. -/
theorem exists_converts (value : layout.kind.Value α)
    (hreadable : layout.Readable elementSize (layout.kind.elements value).length)
    (helements : ∀ element ∈ layout.reached elementSize (layout.kind.elements value),
      ∃ item, scalar element = .ok item ∧ converts element item) :
    ∃ j, buildJsonValue layout elementSize scalar value = .ok j ∧
      layout.kind.Assembles converts (layout.kind.elements value) j := by
  obtain ⟨j, hj⟩ := Layout.exists_assembles value helements
  refine ⟨j, buildJsonValue_eq_ok_iff.mpr ⟨hreadable.1, hj.imp fun _ _ h => h.1⟩, ?_⟩
  rw [hreadable.reached] at hj
  exact hj.imp fun _ _ h => h.2

/-- One member that is built and converted is readable, and its elements were converted. -/
theorem readable_of_converts {value : layout.kind.Value α}
    (hbuild : buildJsonValue layout elementSize scalar value = .ok j)
    (hconverts : layout.kind.Assembles converts (layout.kind.elements value) j) :
    layout.Readable elementSize (layout.kind.elements value).length ∧
      ∀ element ∈ layout.reached elementSize (layout.kind.elements value),
        ∃ item, scalar element = .ok item ∧ converts element item := by
  obtain ⟨hrange, hassembles⟩ := buildJsonValue_eq_ok_iff.mp hbuild
  have hlength := hassembles.length_eq hconverts
  have hreadable : layout.Readable elementSize (layout.kind.elements value).length := by
    refine ⟨hrange, or_iff_not_imp_left.mpr fun harray => or_iff_not_imp_left.mpr fun haccess =>
      or_iff_not_imp_left.mpr fun hsize => ?_⟩
    have hskip : layout.reached elementSize (layout.kind.elements value) = [] :=
      if_pos ⟨harray, Bool.eq_false_iff.mpr haccess, not_not.mp hsize⟩
    rw [hskip] at hlength
    exact hlength.symm
  rw [hreadable.reached] at hassembles ⊢
  exact ⟨hreadable, hassembles.exists_both hconverts⟩

end Field

/-- The entries of a message are under the names of its members. -/
theorem Members.Builds.entries {members : Members} {message : members.Value}
    {fields : List (String × Built)} (h : members.Builds converter message fields)
    (hdistinct : members.Distinct) :
    Entries.Sorted (Entries.setAll fields []) ∧
      (∀ name, name ∈ (Entries.setAll fields []).map Prod.fst ↔ name ∈ members.names) ∧
      ∀ field ∈ fields, (Entries.setAll fields []).lookup field.1 = some field.2 := by
  refine ⟨Entries.Sorted.setAll List.Pairwise.nil, fun name => ?_, fun field hfield => ?_⟩
  · rw [Entries.mem_keys_setAll, h.names]
    simp
  · exact Entries.lookup_setAll_of_mem (h.names ▸ hdistinct.nodup_names) hfield

mutual

/-- Readable values are converted, by induction over their type. -/
theorem FieldType.exists_converts (hconverter : converter.Takes wide) : (type : FieldType) →
    type.Distinct → (value : type.Value) →
    type.Holds Layout.Readable (Primitive.Convertible wide) value →
      ∃ j, buildJsonScalar converter type value = .ok j ∧ type.Converts converter value j
  | .primitive type, _, value, hleaf => by
    obtain ⟨j, hj⟩ := (Primitive.exists_toJson_iff hconverter).mpr hleaf
    exact ⟨j, hj, hj⟩
  | .message _ members, hdistinct, message, hholds => by
    obtain ⟨fields, hbuilds, hconverts⟩ :=
      members.exists_converts hconverter hdistinct message hholds
    obtain ⟨hsorted, hnames, hlookup⟩ := hbuilds.entries hdistinct
    refine ⟨.object (Entries.setAll fields []), ?_, _, rfl, hsorted, hnames,
      hconverts _ hlookup⟩
    exact Fallible.map_eq_ok_iff.mpr
      ⟨_, (buildJsonMembers_eq_ok_iff _ _ _).mpr ⟨fields, hbuilds, rfl⟩, rfl⟩

theorem Members.exists_converts (hconverter : converter.Takes wide) : (members : Members) →
    members.Distinct → (message : members.Value) →
    members.Holds Layout.Readable (Primitive.Convertible wide) message →
      ∃ fields, members.Builds converter message fields ∧
        ∀ entries : List (String × Built),
          (∀ field ∈ fields, entries.lookup field.1 = some field.2) →
            members.Converts converter message entries
  | .nil, _, _, _ => ⟨[], rfl, fun _ _ => trivial⟩
  | .cons name type layout rest, ⟨_, htype, hrest⟩, message, ⟨hreadable, helements, hholds⟩ => by
    obtain ⟨j, hbuild, hassembles⟩ := Messages.exists_converts message.1 hreadable
      fun element helement =>
        type.exists_converts hconverter htype element (helements element helement)
    obtain ⟨fields, hbuilds, hconverts⟩ := rest.exists_converts hconverter hrest message.2 hholds
    refine ⟨(name, j) :: fields, ⟨j, fields, hbuild, hbuilds, rfl⟩, fun entries hentries => ?_⟩
    obtain ⟨hname, hfields⟩ := List.forall_mem_cons.mp hentries
    exact ⟨⟨j, hname, hassembles⟩, hconverts entries hfields⟩

end

mutual

/-- What is converted is readable, by induction over its type. -/
theorem FieldType.readable_of_converts (hconverter : converter.Takes wide) :
    (type : FieldType) → type.Distinct → (value : type.Value) → (j : Built) →
      buildJsonScalar converter type value = .ok j → type.Converts converter value j →
        type.Holds Layout.Readable (Primitive.Convertible wide) value
  | .primitive type, _, value, j, hbuild, _ =>
    (Primitive.exists_toJson_iff hconverter).mp ⟨j, hbuild⟩
  | .message _ members, hdistinct, message, j, hbuild, ⟨entries, hj, _, _, hconverts⟩ => by
    obtain ⟨_, hmembers, hobject⟩ := Fallible.map_eq_ok_iff.mp hbuild
    obtain ⟨fields, hbuilds, rfl⟩ := (buildJsonMembers_eq_ok_iff _ _ _).mp hmembers
    obtain rfl := Json.object.inj (hobject.trans hj)
    exact members.readable_of_converts hconverter hdistinct message fields _ hbuilds
      (hbuilds.entries hdistinct).2.2 hconverts

theorem Members.readable_of_converts (hconverter : converter.Takes wide) :
    (members : Members) → members.Distinct → (message : members.Value) →
      (fields entries : List (String × Built)) → members.Builds converter message fields →
        (∀ field ∈ fields, entries.lookup field.1 = some field.2) →
          members.Converts converter message entries →
            members.Holds Layout.Readable (Primitive.Convertible wide) message
  | .nil, _, _, _, _, _, _, _ => trivial
  | .cons name type layout rest, ⟨_, htype, hrest⟩, message, _, entries,
      ⟨value, others, hbuild, hbuilds, rfl⟩, hlookup, ⟨⟨j, hname, hassembles⟩, hconverts⟩ => by
    obtain ⟨hvalue, hothers⟩ := List.forall_mem_cons.mp hlookup
    obtain rfl : value = j := Option.some.inj (hvalue.symm.trans hname)
    obtain ⟨hreadable, helements⟩ := Messages.readable_of_converts hbuild hassembles
    refine ⟨hreadable, fun element helement => ?_,
      rest.readable_of_converts hconverter hrest message.2 others entries hbuilds hothers
        hconverts⟩
    obtain ⟨item, hitem, hitemConverts⟩ := helements element helement
    exact type.readable_of_converts hconverter htype element item hitem hitemConverts

end

/-- A message is converted as it should be exactly if all its arrays, at any depth, can be read,
and the converter takes its wide strings. -/
theorem convertedExactly_iff (hconverter : converter.Takes wide) {members : Members}
    (hdistinct : members.Distinct) (message : members.Value) :
    ConvertedExactly converter members message ↔
      members.Holds Layout.Readable (Primitive.Convertible wide) message := by
  constructor
  · rintro ⟨entries, hbuild, -, -, hconverts⟩
    obtain ⟨_, hmembers, hobject⟩ := Fallible.map_eq_ok_iff.mp hbuild
    obtain ⟨fields, hbuilds, rfl⟩ := (buildJsonMembers_eq_ok_iff _ _ _).mp hmembers
    obtain rfl := Json.object.inj hobject
    exact members.readable_of_converts hconverter hdistinct message fields _ hbuilds
      (hbuilds.entries hdistinct).2.2 hconverts
  · intro hholds
    obtain ⟨fields, hbuilds, hconverts⟩ :=
      members.exists_converts hconverter hdistinct message hholds
    obtain ⟨hsorted, hnames, hlookup⟩ := hbuilds.entries hdistinct
    refine ⟨_, ?_, hsorted, hnames, hconverts _ hlookup⟩
    exact Fallible.map_eq_ok_iff.mpr
      ⟨_, (buildJsonMembers_eq_ok_iff _ _ _).mpr ⟨fields, hbuilds, rfl⟩, rfl⟩

/-- **Array fields.** A message is converted as it should be exactly if all its arrays, at any
depth, can be read, and the surrogates of its wide strings are paired, up to a high one that ends
the string. -/
theorem buildJsonMessage_exact_iff {members : Members} (hdistinct : members.Distinct)
    (message : members.Value) :
    ConvertedExactly wstringToBytes members message ↔
      members.Holds Layout.Readable (Primitive.Convertible Utf16.pairedSoFar) message :=
  convertedExactly_iff wstringToBytes_takes hdistinct message

/-- The members of a message with a list of points and a wide string. -/
def trackMembers : Members :=
  .cons "label" (.primitive .wstring) {} <|
    .cons "points" (.message 8 (.cons "x" (.primitive .int32) {} .nil)) ⟨.unbounded, true⟩ .nil

/-- A track of two points, labelled by a character of two units. -/
def track : trackMembers.Value :=
  ([0xd83d, 0xde00], [((1 : Int32), ()), ((2 : Int32), ())], ())

theorem track_exact : ConvertedExactly wstringToBytes trackMembers track := by
  have hdistinct : trackMembers.Distinct :=
    ⟨by decide, trivial, by decide, ⟨by decide, trivial, trivial⟩, trivial⟩
  refine (buildJsonMessage_exact_iff hdistinct track).mpr ?_
  refine ⟨⟨.inl rfl, .inl rfl⟩, ?_, ⟨.inr rfl, .inr (.inl rfl)⟩, ?_, trivial⟩
  · exact List.forall_mem_singleton.mpr (by decide : Utf16.pairedSoFar [0xd83d, 0xde00] = true)
  · exact fun point _ => ⟨⟨.inl rfl, .inl rfl⟩, fun _ _ => trivial, trivial⟩

/-- The members of a message with a sequence of up to three numbers. -/
def boundedMembers : Members :=
  .cons "data" (.primitive .uint8) ⟨.bounded 3, true⟩ .nil

/-- A message with one of the numbers. -/
def oneOfThree : boundedMembers.Value :=
  (⟨[(7 : UInt8)], by decide⟩, ())

theorem bounded_sequence_not_exact :
    ¬ConvertedExactly wstringToBytes boundedMembers oneOfThree := by
  have hfault : buildJsonMessage wstringToBytes boundedMembers oneOfThree =
      .error .outOfRange := rfl
  rintro ⟨entries, hbuild, -⟩
  rw [hfault] at hbuild
  cases hbuild

end Ros2Dispatcher.Messages
