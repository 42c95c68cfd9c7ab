import Ros2Dispatcher.Library.JsonText
import Ros2Dispatcher.Library.Utf16
import Ros2Dispatcher.Messages.Descriptors

/-!
# From messages to JSON

`build_json_message` goes through a message by its descriptor and builds a JSON object. It
stands three times in the repository, in `kafka_sink`, `mosquitto_sink` and
`kafka_cdr_to_json`, each time with the same functions for scalars, arrays and values.

* `buildJsonArray_eq_ok_iff`: what the loop over the elements of an array makes of them.
-/

namespace Ros2Dispatcher.Messages

/-- What keeps a value from being built: an exception, or a read past the elements of an
array. -/
inductive Fault
  | thrown
  | outOfRange
deriving DecidableEq, Repr

/-- The values being built, whose strings are still bytes. -/
abbrev Built := Json (List UInt8)

/-! ### The functions -/

/-- `member_element_size`; a type without a case has size 0. -/
def FieldType.memberElementSize : FieldType → Nat
  | primitive .boolean => 1
  | primitive .char => 1
  | primitive .octet => 1
  | primitive .uint8 => 1
  | primitive .int8 => 1
  | primitive .uint16 => 2
  | primitive .int16 => 2
  | primitive .uint32 => 4
  | primitive .int32 => 4
  | primitive .uint64 => 8
  | primitive .int64 => 8
  | primitive .float => 4
  | primitive .double => 8
  | primitive .string => 32
  | primitive .wstring => 32
  | primitive .longDouble => 0
  | primitive .wchar => 0
  | message sizeOf _ => sizeOf

/-- A number that is not finite becomes `null`. -/
def finiteOrNull : Option Double → Built
  | some value => .float value
  | none => .null

/-- `to_bytes` of the converter from UTF-16 to UTF-8: the bytes of a wide string, unless it
throws. -/
abbrev Converter := List UInt16 → Option (List UInt8)

/-- The converter takes these wide strings, and throws on the others. -/
structure Converter.Takes (converter : Converter) (wide : List UInt16 → Bool) : Prop where
  isSome : ∀ value, (converter value).isSome = wide value
  utf8 : ∀ value bytes, converter value = some bytes → (Json.utf8? bytes).isSome = true

/-- The converter of libstdc++. At a high surrogate that ends the string it stops, and returns
what it has; it throws on any other surrogate without its partner. -/
def wstringToBytes : Converter := fun value =>
  (Utf16.decode (Utf16.whole value)).map fun chars => Json.bytes (String.ofList chars)

theorem wstringToBytes_takes : Converter.Takes wstringToBytes Utf16.pairedSoFar where
  isSome value := by rw [wstringToBytes, Option.isSome_map, Utf16.isSome_decode, Utf16.pairedSoFar]
  utf8 value bytes h := by
    obtain ⟨chars, -, rfl⟩ := Option.map_eq_some_iff.mp h
    rw [Json.utf8?_bytes]
    rfl

/-- The cases of `build_json_scalar` but for messages. -/
def Primitive.toJson (converter : Converter) : (type : Primitive) → type.Value →
    Except Fault Built
  | boolean, value => .ok (.bool value)
  | char, value => .ok (.int value.toInt)
  | octet, value => .ok (.int value.toNat)
  | uint8, value => .ok (.int value.toNat)
  | int8, value => .ok (.int value.toInt)
  | uint16, value => .ok (.int value.toNat)
  | int16, value => .ok (.int value.toInt)
  | uint32, value => .ok (.int value.toNat)
  | int32, value => .ok (.int value.toInt)
  | uint64, value => .ok (.int value.toNat)
  | int64, value => .ok (.int value.toInt)
  | float, value => .ok (finiteOrNull value)
  | double, value => .ok (finiteOrNull value)
  | string, value => .ok (.string value)
  | wstring, value =>
    match converter value with
    | some bytes => .ok (.string bytes)
    | none => .error .thrown
  | longDouble, _ => .ok .null
  | wchar, _ => .ok .null

theorem Primitive.toJson_wstring_eq_ok_iff {converter : Converter} {value : List UInt16}
    {j : Built} : wstring.toJson converter value = .ok j ↔
      ∃ bytes, converter value = some bytes ∧ .string bytes = j := by
  rw [toJson]
  cases converter value <;> simp

variable {α : Type}

/-- `element_ptr` for an index, read; there is none where it stays null. -/
def elementAt (layout : Layout) (elementSize : Nat) (elements : List α) (index : Nat) :
    Except Fault (Option α) :=
  if layout.getConstFunction then
    match elements[index]? with
    | some element => .ok (some element)
    | none => .error .outOfRange
  else if elementSize > 0 then
    -- from the field on, where a sequence does not have its elements
    match layout.kind.isInPlace, elements[index]? with
    | true, some element => .ok (some element)
    | _, _ => .error .outOfRange
  else .ok none

/-- One round of the loop of `build_json_array`. -/
def pushElement (layout : Layout) (elementSize : Nat) (scalar : α → Except Fault Built)
    (elements : List α) (output : List Built) (index : Nat) : Except Fault (List Built) := do
  match ← elementAt layout elementSize elements index with
  | some element => return output ++ [← scalar element]
  | none => return output

/-- `build_json_array`. -/
def buildJsonArray (layout : Layout) (elementSize : Nat) (scalar : α → Except Fault Built)
    (elements : List α) : Except Fault (List Built) :=
  (List.range (layout.kind.size elements.length)).foldlM
    (pushElement layout elementSize scalar elements) []

/-- `build_json_value`. -/
def buildJsonValue (layout : Layout) (elementSize : Nat) (scalar : α → Except Fault Built)
    (value : layout.kind.Value α) : Except Fault Built :=
  match layout, value with
  | ⟨.single, _⟩, value => scalar value
  | layout, value =>
    (buildJsonArray layout elementSize scalar (layout.kind.elements value)).map .array

mutual

/-- `build_json_scalar`, with the loop of `build_json_message` for a message. -/
def buildJsonScalar (converter : Converter) : (type : FieldType) → type.Value →
    Except Fault Built
  | .primitive type, value => type.toJson converter value
  | .message _ members, message => (buildJsonMembers converter members message []).map .object

/-- The loop of `build_json_message`. -/
def buildJsonMembers (converter : Converter) : (members : Members) → members.Value →
    List (String × Built) → Except Fault (List (String × Built))
  | .nil, _, output => .ok output
  | .cons name type layout rest, message, output => do
    let value ← buildJsonValue layout type.memberElementSize (buildJsonScalar converter type)
      message.1
    buildJsonMembers converter rest message.2 (Entries.set name value output)

end

/-- `build_json_message`. -/
def buildJsonMessage (converter : Converter) (members : Members) (message : members.Value) :
    Except Fault Built :=
  (buildJsonMembers converter members message []).map .object

/-! ### What the functions build -/

/-- The elements of an array that `build_json_array` converts: all, or none where there is no
way to get at one. -/
def Layout.reached (layout : Layout) (elementSize : Nat) (elements : List α) : List α :=
  if layout.kind ≠ .single ∧ layout.getConstFunction = false ∧ elementSize = 0 then []
  else elements

/-- No element is read that the array does not have. -/
def Layout.InRange (layout : Layout) (elementSize length : Nat) : Prop :=
  layout.kind = .single ∨
    if layout.getConstFunction then layout.kind.size length = length
    else elementSize = 0 ∨ layout.kind.isInPlace = true ∨ layout.kind.size length = 0

variable {layout : Layout} {elementSize : Nat} {scalar : α → Except Fault Built}
  {elements : List α} {output items : List Built}

/-- The loop from an index on, where each element is read. -/
theorem foldlM_pushElement
    (hread : ∀ index element, elements[index]? = some element →
      elementAt layout elementSize elements index = .ok (some element))
    {start count : Nat} (hcount : start + count = elements.length) :
    (List.range' start count).foldlM (pushElement layout elementSize scalar elements) output =
        .ok items ↔
      ∃ rest, List.Forall₂ (fun element item => scalar element = .ok item)
        (elements.drop start) rest ∧ items = output ++ rest := by
  induction count generalizing start output with
  | zero =>
    rw [List.drop_of_length_le (by omega)]
    simp [pure, Except.pure, eq_comm]
  | succ count ih =>
    have hstart : start < elements.length := by omega
    have hpush : ∀ output', pushElement layout elementSize scalar elements output start =
        .ok output' ↔ ∃ item, scalar elements[start] = .ok item ∧ output ++ [item] = output' := by
      intro output'
      rw [pushElement, hread start _ (List.getElem?_eq_getElem hstart)]
      change (scalar elements[start] >>= fun item => .ok (output ++ [item])) = .ok output' ↔ _
      simp only [Fallible.bind_eq_ok_iff, Except.ok.injEq]
    rw [List.range'_succ, List.foldlM_cons, Fallible.bind_eq_ok_iff,
      List.drop_eq_getElem_cons hstart]
    simp only [hpush, ih (by omega : start + 1 + count = elements.length),
      List.forall₂_cons_left_iff]
    constructor
    · rintro ⟨_, ⟨item, hitem, rfl⟩, rest, hrest, rfl⟩
      exact ⟨item :: rest, ⟨item, rest, hitem, hrest, rfl⟩, by simp⟩
    · rintro ⟨_, ⟨item, rest, hitem, hrest, rfl⟩, rfl⟩
      exact ⟨output ++ [item], ⟨item, hitem, rfl⟩, rest, hrest, by simp⟩

/-- A read past the elements ends the loop. -/
theorem foldlM_pushElement_outOfRange {size index : Nat} (hindex : index < size)
    (hread : elementAt layout elementSize elements index = .error .outOfRange) :
    (List.range size).foldlM (pushElement layout elementSize scalar elements) output ≠
      .ok items := by
  intro h
  obtain ⟨_, _, hpush⟩ := Fallible.foldlM_eq_ok_mem h index (List.mem_range.mpr hindex)
  rw [pushElement, hread] at hpush
  cases hpush

/-- An array of which every element is read. -/
theorem buildJsonArray_of_read (hsize : layout.kind.size elements.length = elements.length)
    (hread : ∀ index element, elements[index]? = some element →
      elementAt layout elementSize elements index = .ok (some element)) :
    buildJsonArray layout elementSize scalar elements = .ok items ↔
      List.Forall₂ (fun element item => scalar element = .ok item) elements items := by
  rw [buildJsonArray, hsize, List.range_eq_range', foldlM_pushElement hread (Nat.zero_add _)]
  simp

/-- An array whose elements are read by its `get_const_function`. -/
theorem buildJsonArray_of_getConstFunction (haccess : layout.getConstFunction = true)
    (hle : elements.length ≤ layout.kind.size elements.length) :
    buildJsonArray layout elementSize scalar elements = .ok items ↔
      layout.kind.size elements.length = elements.length ∧
        List.Forall₂ (fun element item => scalar element = .ok item) elements items := by
  by_cases hsize : layout.kind.size elements.length = elements.length
  · rw [and_iff_right hsize]
    exact buildJsonArray_of_read hsize fun index element h => by simp [elementAt, haccess, h]
  · refine iff_of_false ?_ (fun h => hsize h.1)
    refine foldlM_pushElement_outOfRange (lt_of_le_of_ne hle (Ne.symm hsize)) ?_
    simp [elementAt, haccess]

/-- An array of elements without a known size, which are passed over. -/
theorem buildJsonArray_of_skip (haccess : layout.getConstFunction = false) :
    buildJsonArray layout 0 scalar elements = .ok [] := by
  refine Fallible.foldlM_eq_ok_self (fun index => ?_) _
  simp [pushElement, elementAt, haccess, bind, Except.bind, pure, Except.pure]

/-- An array whose elements are read from where the field is. -/
theorem buildJsonArray_of_pointer (haccess : layout.getConstFunction = false)
    (hsize : elementSize ≠ 0) (hle : elements.length ≤ layout.kind.size elements.length)
    (hplace : layout.kind.isInPlace = true →
      layout.kind.size elements.length = elements.length) :
    buildJsonArray layout elementSize scalar elements = .ok items ↔
      (layout.kind.isInPlace = true ∨ layout.kind.size elements.length = 0) ∧
        List.Forall₂ (fun element item => scalar element = .ok item) elements items := by
  have hpos : elementSize > 0 := Nat.pos_of_ne_zero hsize
  by_cases hplaced : layout.kind.isInPlace = true
  · rw [and_iff_right (.inl hplaced)]
    refine buildJsonArray_of_read (hplace hplaced) fun index element h => ?_
    simp [elementAt, haccess, hpos, hplaced, h]
  · rw [or_iff_right hplaced]
    by_cases hzero : layout.kind.size elements.length = 0
    · have hnil : elements = [] := List.eq_nil_of_length_eq_zero (by omega)
      subst hnil
      rw [and_iff_right hzero]
      exact buildJsonArray_of_read hzero (by simp)
    · refine iff_of_false ?_ (fun h => hzero h.1)
      refine foldlM_pushElement_outOfRange (Nat.pos_of_ne_zero hzero) ?_
      simp [elementAt, haccess, hpos, hplaced]

/-- **Arrays.** The function returns an array if it reads no element that is not there, and
then with what it makes of the elements it reaches, in order. -/
theorem buildJsonArray_eq_ok_iff (value : layout.kind.Value α) (harray : layout.kind ≠ .single) :
    buildJsonArray layout elementSize scalar (layout.kind.elements value) = .ok items ↔
      layout.InRange elementSize (layout.kind.elements value).length ∧
        List.Forall₂ (fun element item => scalar element = .ok item)
          (layout.reached elementSize (layout.kind.elements value)) items := by
  have hle := layout.kind.length_le_size value
  unfold Layout.InRange Layout.reached
  rw [or_iff_right harray]
  by_cases haccess : layout.getConstFunction = true
  · rw [if_pos haccess, if_neg (by simp [haccess])]
    exact buildJsonArray_of_getConstFunction haccess hle
  · rw [if_neg haccess]
    have haccess := Bool.eq_false_iff.mpr haccess
    by_cases hsize : elementSize = 0
    · subst hsize
      rw [if_pos ⟨harray, haccess, rfl⟩, and_iff_right (.inl rfl), List.forall₂_nil_left_iff,
        buildJsonArray_of_skip haccess]
      simp [eq_comm]
    · rw [if_neg fun h => hsize h.2.2, or_iff_right hsize]
      exact buildJsonArray_of_pointer haccess hsize hle (layout.kind.size_of_isInPlace value)

/-- A value stands for the elements of a member, each by its item: a single one by its item
alone, and those of an array by the array of their items. -/
def ArrayKind.Assembles (kind : ArrayKind) (converts : α → Built → Prop) (elements : List α)
    (j : Built) : Prop :=
  ∃ items, List.Forall₂ converts elements items ∧
    if kind = .single then items = [j] else .array items = j

theorem ArrayKind.assembles_single {converts : α → Built → Prop} {value : α} {j : Built} :
    ArrayKind.single.Assembles converts [value] j ↔ converts value j := by
  constructor
  · rintro ⟨items, hitems, rfl : items = [j]⟩
    exact (List.forall₂_cons.mp hitems).1
  · exact fun h => ⟨[j], .cons h .nil, rfl⟩

theorem ArrayKind.assembles_array {kind : ArrayKind} {converts : α → Built → Prop} {j : Built}
    (harray : kind ≠ .single) :
    kind.Assembles converts elements j ↔
      ∃ items, List.Forall₂ converts elements items ∧ .array items = j := by
  simp only [ArrayKind.Assembles, if_neg harray]

theorem Layout.reached_single {getConstFunction : Bool} :
    Layout.reached ⟨.single, getConstFunction⟩ elementSize elements = elements :=
  if_neg (by simp)

/-- **Values.** What the function builds for a member. -/
theorem buildJsonValue_eq_ok_iff {value : layout.kind.Value α} {j : Built} :
    buildJsonValue layout elementSize scalar value = .ok j ↔
      layout.InRange elementSize (layout.kind.elements value).length ∧
        layout.kind.Assembles (fun element item => scalar element = .ok item)
          (layout.reached elementSize (layout.kind.elements value)) j := by
  obtain ⟨kind, getConstFunction⟩ := layout
  by_cases harray : kind = .single
  · subst harray
    have hone : ArrayKind.single.Assembles (fun element item => scalar element = .ok item)
        [(value : α)] j ↔ scalar value = .ok j := ArrayKind.assembles_single
    rw [Layout.reached_single, and_iff_right (.inl rfl)]
    exact hone.symm
  · have hvalue : buildJsonValue ⟨kind, getConstFunction⟩ elementSize scalar value =
        (buildJsonArray ⟨kind, getConstFunction⟩ elementSize scalar
          (kind.elements value)).map .array := by
      cases kind with
      | single => exact absurd rfl harray
      | fixed size => rfl
      | unbounded => rfl
      | bounded size => rfl
    rw [hvalue, Fallible.map_eq_ok_iff, ArrayKind.assembles_array harray]
    simp only [buildJsonArray_eq_ok_iff value harray, and_assoc, exists_and_left]

/-! ### Assembled values -/

section Assembles

variable {α : Type} {R S : α → Built → Prop} {kind : ArrayKind} {xs ys : List α} {j : Built}

theorem exists_forall₂ (h : ∀ x ∈ xs, ∃ item, R x item) : ∃ items, List.Forall₂ R xs items := by
  induction xs with
  | nil => exact ⟨[], .nil⟩
  | cons x xs ih =>
    obtain ⟨⟨item, hitem⟩, hxs⟩ := List.forall_mem_cons.mp h
    obtain ⟨items, hitems⟩ := ih hxs
    exact ⟨item :: items, .cons hitem hitems⟩

theorem forall₂_and_right {P : Built → Prop} {items : List Built} :
    List.Forall₂ (fun x item => R x item ∧ P item) xs items ↔
      List.Forall₂ R xs items ∧ ∀ item ∈ items, P item := by
  induction xs generalizing items with
  | nil => cases items <;> simp
  | cons x xs ih =>
    cases items with
    | nil => simp
    | cons item items =>
      rw [List.forall₂_cons, List.forall₂_cons, ih, List.forall_mem_cons]
      exact and_and_and_comm

/-- What holds of an array if it does of its items, holds of a value if it does of its items. -/
theorem ArrayKind.assembles_and_iff {P : Built → Prop}
    (hP : ∀ items, P (.array items) ↔ ∀ item ∈ items, P item) :
    kind.Assembles R xs j ∧ P j ↔ kind.Assembles (fun x item => R x item ∧ P item) xs j := by
  have hitems : ∀ items, (if kind = .single then items = [j] else .array items = j) →
      (P j ↔ ∀ item ∈ items, P item) := by
    intro items hj
    by_cases hkind : kind = .single
    · rw [if_pos hkind] at hj
      rw [hj, List.forall_mem_singleton]
    · rw [if_neg hkind] at hj
      rw [← hj, hP]
  constructor
  · rintro ⟨⟨items, hR, hj⟩, hj'⟩
    exact ⟨items, forall₂_and_right.mpr ⟨hR, (hitems items hj).mp hj'⟩, hj⟩
  · rintro ⟨items, hboth, hj⟩
    obtain ⟨hR, hall⟩ := forall₂_and_right.mp hboth
    exact ⟨⟨items, hR, hj⟩, (hitems items hj).mpr hall⟩

namespace ArrayKind.Assembles

protected theorem imp (h : kind.Assembles R xs j) (hRS : ∀ x item, R x item → S x item) :
    kind.Assembles S xs j := by
  obtain ⟨items, hitems, hj⟩ := h
  exact ⟨items, hitems.imp hRS, hj⟩

/-- The items of a value are determined. -/
theorem exists_items (h : kind.Assembles R xs j) (h' : kind.Assembles S ys j) :
    ∃ items, List.Forall₂ R xs items ∧ List.Forall₂ S ys items := by
  obtain ⟨items, hitems, hj⟩ := h
  obtain ⟨items', hitems', hj'⟩ := h'
  by_cases hkind : kind = .single
  · rw [if_pos hkind] at hj hj'
    obtain rfl : items = items' := hj.trans hj'.symm
    exact ⟨items, hitems, hitems'⟩
  · rw [if_neg hkind] at hj hj'
    obtain rfl : items = items' := Json.array.inj (hj.trans hj'.symm)
    exact ⟨items, hitems, hitems'⟩

protected theorem length_eq (h : kind.Assembles R xs j) (h' : kind.Assembles S ys j) :
    xs.length = ys.length := by
  obtain ⟨items, hxs, hys⟩ := h.exists_items h'
  exact hxs.length_eq.trans hys.length_eq.symm

/-- Two ways to assemble a value agree on the items. -/
theorem exists_both (h : kind.Assembles R xs j) (h' : kind.Assembles S xs j) :
    ∀ x ∈ xs, ∃ item, R x item ∧ S x item := by
  obtain ⟨items, hR, hS⟩ := h.exists_items h'
  clear h h'
  induction hR with
  | nil => exact nofun
  | cons hx hxs ih =>
    obtain ⟨hx', hxs'⟩ := List.forall₂_cons.mp hS
    exact List.forall_mem_cons.mpr ⟨⟨_, hx, hx'⟩, ih hxs'⟩

end ArrayKind.Assembles

/-- There is a value for the elements of a member that are reached, if each has an item. -/
theorem Layout.exists_assembles {layout : Layout} {elementSize : Nat} (value : layout.kind.Value α)
    (h : ∀ x ∈ layout.reached elementSize (layout.kind.elements value), ∃ item, R x item) :
    ∃ j, layout.kind.Assembles R (layout.reached elementSize (layout.kind.elements value)) j := by
  obtain ⟨kind, getConstFunction⟩ := layout
  by_cases hkind : kind = .single
  · subst hkind
    rw [Layout.reached_single] at h ⊢
    obtain ⟨item, hitem⟩ := h value List.mem_cons_self
    exact ⟨item, ArrayKind.assembles_single.mpr hitem⟩
  · obtain ⟨items, hitems⟩ := exists_forall₂ h
    exact ⟨.array items, (ArrayKind.assembles_array hkind).mpr ⟨items, hitems, rfl⟩⟩

end Assembles

/-! ### Messages -/

mutual

/-- A message and all that is in it, as far as `build_json_message` reaches it: the arrays
satisfy one condition, and the values that are no messages another. -/
def FieldType.Holds (array : Layout → Nat → Nat → Prop)
    (leaf : (type : Primitive) → type.Value → Prop) : (type : FieldType) → type.Value → Prop
  | .primitive type, value => leaf type value
  | .message _ members, message => members.Holds array leaf message

def Members.Holds (array : Layout → Nat → Nat → Prop)
    (leaf : (type : Primitive) → type.Value → Prop) : (members : Members) → members.Value → Prop
  | .nil, _ => True
  | .cons _ type layout rest, message =>
    array layout type.memberElementSize (layout.kind.elements message.1).length ∧
      (∀ element ∈ layout.reached type.memberElementSize (layout.kind.elements message.1),
        type.Holds array leaf element) ∧
      rest.Holds array leaf message.2

end

/-- The fields that a message becomes, in order. -/
def Members.Builds (converter : Converter) : (members : Members) → members.Value →
    List (String × Built) → Prop
  | .nil, _, fields => fields = []
  | .cons name type layout rest, message, fields =>
    ∃ value others,
      buildJsonValue layout type.memberElementSize (buildJsonScalar converter type) message.1 =
          .ok value ∧
        rest.Builds converter message.2 others ∧ fields = (name, value) :: others

variable {converter : Converter}

theorem buildJsonMembers_eq_ok_iff {entries : List (String × Built)} :
    (members : Members) → (message : members.Value) → (output : List (String × Built)) →
      (buildJsonMembers converter members message output = .ok entries ↔
        ∃ fields, members.Builds converter message fields ∧
          entries = Entries.setAll fields output)
  | .nil, _, output => by
    rw [buildJsonMembers, Except.ok.injEq]
    simp [Members.Builds, Entries.setAll, eq_comm]
  | .cons name type layout rest, message, output => by
    rw [buildJsonMembers, Fallible.bind_eq_ok_iff]
    simp only [buildJsonMembers_eq_ok_iff rest, Members.Builds]
    constructor
    · rintro ⟨value, hvalue, others, hothers, rfl⟩
      exact ⟨(name, value) :: others, ⟨value, others, hvalue, hothers, rfl⟩, rfl⟩
    · rintro ⟨_, ⟨value, others, hvalue, hothers, rfl⟩, rfl⟩
      exact ⟨value, hvalue, others, hothers, rfl⟩

theorem Members.Builds.names : {members : Members} → {message : members.Value} →
    {fields : List (String × Built)} → members.Builds converter message fields →
      fields.map Prod.fst = members.names
  | .nil, _, _, h => by
    obtain rfl : _ = [] := h
    rfl
  | .cons name type layout rest, message, _, ⟨value, others, _, hothers, heq⟩ => by
    rw [heq, List.map_cons, hothers.names, Members.names]

end Ros2Dispatcher.Messages
