import Ros2Dispatcher.Library.Json

/-!
# Message descriptors

What `rosidl_typesupport_introspection_cpp` says of a message type at run time: the members of
a message with their names and types, and for an array how to get at its elements. A value of
a type is made of the values of its members; the lengths of arrays are part of their types.

A pointer to a field is modelled by the value of the field. Where the code reads past the
elements of an array, or takes other memory for them, its model has a fault instead of a value.
-/

namespace Ros2Dispatcher.Messages

/-! ### Types -/

/-- The `ROS_TYPE_*` but for messages. -/
inductive Primitive
  | float
  | double
  | longDouble
  | char
  | wchar
  | boolean
  | octet
  | uint8
  | int8
  | uint16
  | int16
  | uint32
  | int32
  | uint64
  | int64
  | string
  | wstring
deriving DecidableEq, Repr

/-- How a member holds its values: one, as `T[N]`, as `T[]` or as `T[<=N]`. -/
inductive ArrayKind
  | single
  | fixed (size : Nat)
  | unbounded
  | bounded (size : Nat)
deriving DecidableEq, Repr

/-- The members of `MessageMember` on arrays; `getConstFunction` is whether it is set. -/
structure Layout where
  kind : ArrayKind := .single
  getConstFunction : Bool := true
deriving DecidableEq, Repr

mutual

/-- The type of a member, with the members and the `size_of_` of a message. -/
inductive FieldType
  | primitive (type : Primitive)
  | message (sizeOf : Nat) (members : Members)

/-- `MessageMembers`, in order. -/
inductive Members
  | nil
  | cons (name : String) (type : FieldType) (layout : Layout) (rest : Members)

end

/-- `array_size_`, which is also the bound of a bounded sequence. -/
def ArrayKind.arraySize : ArrayKind → Nat
  | single => 0
  | fixed size => size
  | unbounded => 0
  | bounded size => size

/-- The elements are where the field is, and not elsewhere. -/
def ArrayKind.isInPlace : ArrayKind → Bool
  | fixed _ => true
  | _ => false

def Members.names : Members → List String
  | nil => []
  | cons name _ _ rest => name :: rest.names

mutual

/-- The members of a message have different names, in a message within a message too. -/
def FieldType.Distinct : FieldType → Prop
  | .primitive _ => True
  | .message _ members => members.Distinct

def Members.Distinct : Members → Prop
  | .nil => True
  | .cons name type _ rest => name ∉ rest.names ∧ type.Distinct ∧ rest.Distinct

end

/-! ### Values -/

/-- The values of a type. A number that is not finite has no value as a `Double`, and a `float`
has its value as one; strings are of bytes or of units of 16 bits. -/
abbrev Primitive.Value : Primitive → Type
  | float => Option Double
  | double => Option Double
  | longDouble => BitVec 80
  | char => Int8
  | wchar => UInt16
  | boolean => Bool
  | octet => UInt8
  | uint8 => UInt8
  | int8 => Int8
  | uint16 => UInt16
  | int16 => Int16
  | uint32 => UInt32
  | int32 => Int32
  | uint64 => UInt64
  | int64 => Int64
  | string => List UInt8
  | wstring => List UInt16

/-- What a member holds. -/
def ArrayKind.Value (α : Type) : ArrayKind → Type
  | single => α
  | fixed size => {elements : List α // elements.length = size}
  | unbounded => List α
  | bounded size => {elements : List α // elements.length ≤ size}

mutual

def FieldType.Value : FieldType → Type
  | .primitive type => type.Value
  | .message _ members => members.Value

def Members.Value : Members → Type
  | .nil => Unit
  | .cons _ type layout rest => layout.kind.Value type.Value × rest.Value

end

/-- The elements of an array, or the one value. -/
def ArrayKind.elements {α : Type} : (kind : ArrayKind) → kind.Value α → List α
  | single, value => [value]
  | fixed _, ⟨elements, _⟩ => elements
  | unbounded, elements => elements
  | bounded _, ⟨elements, _⟩ => elements

/-- The number of elements `build_json_array` takes an array to have: `array_size_` if that is
set, else the result of `size_function`, which is the length. -/
def ArrayKind.size (kind : ArrayKind) (length : Nat) : Nat :=
  if kind.arraySize ≠ 0 then kind.arraySize else length

variable {α : Type}

theorem ArrayKind.length_elements_fixed {size : Nat} (value : (fixed size).Value α) :
    ((fixed size).elements value).length = size :=
  value.2

theorem ArrayKind.length_elements_bounded {size : Nat} (value : (bounded size).Value α) :
    ((bounded size).elements value).length ≤ size :=
  value.2

theorem ArrayKind.size_eq (kind : ArrayKind) (length : Nat) :
    kind.arraySize = 0 ∧ kind.size length = length ∨ kind.size length = kind.arraySize := by
  by_cases hsize : kind.arraySize = 0
  · exact .inl ⟨hsize, if_neg (not_not.mpr hsize)⟩
  · exact .inr (if_pos hsize)

/-- An array has at most the elements it is taken to have. -/
theorem ArrayKind.length_le_size (kind : ArrayKind) (value : kind.Value α) :
    (kind.elements value).length ≤ kind.size (kind.elements value).length := by
  rcases kind.size_eq (kind.elements value).length with ⟨-, hsize⟩ | hsize
  · exact hsize.ge
  · rw [hsize]
    cases kind with
    | fixed size => exact (length_elements_fixed value).le
    | bounded size => exact length_elements_bounded value
    | single => exact hsize.le
    | unbounded => exact hsize.le

/-- A fixed array has as many elements as it is taken to have. -/
theorem ArrayKind.size_of_isInPlace (kind : ArrayKind) (value : kind.Value α)
    (hkind : kind.isInPlace = true) :
    kind.size (kind.elements value).length = (kind.elements value).length := by
  rcases kind.size_eq (kind.elements value).length with ⟨-, hsize⟩ | hsize
  · exact hsize
  · rw [hsize]
    cases kind with
    | fixed size => exact (length_elements_fixed value).symm
    | bounded size => cases hkind
    | single => cases hkind
    | unbounded => cases hkind

/-! ### Type supports -/

/-- What a call meets that takes a serialized message apart: the two handles, the data of the
second with the `size_of_` of the message, whether there is memory for a message, and
`rmw_deserialize`. -/
structure TypeSupport (members : Members) where
  rmwTypeSupport : Bool := true
  introspectionTypeSupport : Bool := true
  data : Bool := true
  sizeOf : Nat
  malloc : Bool := true
  rmwDeserialize : List UInt8 → Option members.Value

end Ros2Dispatcher.Messages
