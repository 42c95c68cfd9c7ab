import Mathlib.Algebra.Group.Int.Defs
import Mathlib.Data.String.Basic
import Ros2Dispatcher.Library.Entries
import Ros2Dispatcher.Library.Fallible

/-!
# JSON values

A JSON value over a type `σ` of strings: a value that was read from a text has strings of
characters, and one that a program builds may have strings of any bytes. The members of an
object are entries by name (`Entries`). `traverse` goes through the strings of a value, and
fails if one of them does; `setMember` assigns a member.

A `Codec` is a text format for JSON: it prints the values and parses texts. What its users rely
on is `Codec.Lawful`, and that only for values that are well-formed: the members of an object
come in order, once each, and integers fit in 64 bits, with or without a sign.
-/

namespace Ros2Dispatcher

/-- A finite floating-point number of 64 bits, by its bits. -/
structure Double where
  negative : Bool := false
  exponent : Fin 2047
  fraction : Fin (2 ^ 52)
deriving DecidableEq, Repr

/-- The number without what follows the point. -/
def Double.truncate (x : Double) : Int :=
  let significand := if x.exponent = 0 then x.fraction.val else 2 ^ 52 + x.fraction.val
  let magnitude : Nat := significand * 2 ^ x.exponent.val / 2 ^ 1075
  if x.negative then -magnitude else magnitude

/-- A JSON value. -/
inductive Json (σ : Type)
  | null
  | bool (value : Bool)
  | int (value : Int)
  | float (value : Double)
  | string (value : σ)
  | array (items : List (Json σ))
  | object (members : List (String × Json σ))

namespace Json

variable {σ τ : Type}

/-- **Induction over a value**, through the items of its arrays and the members of its
objects. -/
@[elab_as_elim, induction_eliminator]
protected theorem induction {motive : Json σ → Prop} (null : motive .null)
    (bool : ∀ value, motive (.bool value)) (int : ∀ value, motive (.int value))
    (float : ∀ value, motive (.float value)) (string : ∀ value, motive (.string value))
    (array : ∀ items, (∀ item ∈ items, motive item) → motive (.array items))
    (object : ∀ members, (∀ member ∈ members, motive member.2) → motive (.object members))
    (j : Json σ) : motive j := by
  refine @Json.rec σ motive (fun items => ∀ item ∈ items, motive item)
    (fun members => ∀ member ∈ members, motive member.2) (fun member => motive member.2)
    null bool int float string array object (by simp) ?_ (by simp) ?_ (fun _ _ h => h) j
  · exact fun _ _ hitem hitems => List.forall_mem_cons.mpr ⟨hitem, hitems⟩
  · exact fun _ _ hmember hmembers => List.forall_mem_cons.mpr ⟨hmember, hmembers⟩

/-! ### Strings -/

mutual

/-- The strings of a value, those below an object or an array included. -/
def strings : Json σ → List σ
  | string value => [value]
  | array items => stringsItems items
  | object members => stringsMembers members
  | _ => []

def stringsItems : List (Json σ) → List σ
  | [] => []
  | item :: items => strings item ++ stringsItems items

def stringsMembers : List (String × Json σ) → List σ
  | [] => []
  | (_, value) :: members => strings value ++ stringsMembers members

end

@[simp]
theorem strings_array {items : List (Json σ)} :
    (array items).strings = items.flatMap strings := by
  rw [strings]
  induction items with
  | nil => rfl
  | cons item items ih => rw [stringsItems, ih, List.flatMap_cons]

@[simp]
theorem strings_object {members : List (String × Json σ)} :
    (object members).strings = members.flatMap fun member => member.2.strings := by
  rw [strings]
  induction members with
  | nil => rfl
  | cons member members ih => rw [stringsMembers, ih, List.flatMap_cons]

mutual

/-- The value with every string replaced, if each has a replacement. -/
def traverse (f : σ → Option τ) : Json σ → Option (Json τ)
  | null => some null
  | bool value => some (bool value)
  | int value => some (int value)
  | float value => some (float value)
  | string value => (f value).map string
  | array items => (traverseItems f items).map array
  | object members => (traverseMembers f members).map object

def traverseItems (f : σ → Option τ) : List (Json σ) → Option (List (Json τ))
  | [] => some []
  | item :: items => do return (← traverse f item) :: (← traverseItems f items)

def traverseMembers (f : σ → Option τ) :
    List (String × Json σ) → Option (List (String × Json τ))
  | [] => some []
  | (name, value) :: members => do
    return (name, ← traverse f value) :: (← traverseMembers f members)

end

variable {f : σ → Option τ}

theorem traverse_array {items : List (Json σ)} :
    (array items).traverse f = (items.mapM (traverse f)).map array := by
  rw [traverse]
  congr 1
  induction items with
  | nil => rfl
  | cons item items ih => rw [traverseItems, ih, List.mapM_cons]

theorem traverse_object {members : List (String × Json σ)} :
    (object members).traverse f =
      (members.mapM fun (member : String × Json σ) =>
        (member.2.traverse f).map (member.1, ·)).map object := by
  rw [traverse]
  congr 1
  induction members with
  | nil => rfl
  | cons member members ih =>
    rw [traverseMembers, ih, List.mapM_cons]
    cases member.2.traverse f <;> rfl

/-- The strings of a value are all that can fail. -/
theorem traverse_isSome_iff {j : Json σ} :
    (j.traverse f).isSome = true ↔ ∀ value ∈ j.strings, (f value).isSome = true := by
  induction j with
  | null => simp [traverse, strings]
  | bool value => simp [traverse, strings]
  | int value => simp [traverse, strings]
  | float value => simp [traverse, strings]
  | string value => simp [traverse, strings]
  | array items ih =>
    rw [traverse_array, Option.isSome_map, Fallible.mapM_isSome_iff, strings_array,
      List.forall_mem_flatMap]
    exact forall₂_congr ih
  | object members ih =>
    rw [traverse_object, Option.isSome_map, Fallible.mapM_isSome_iff, strings_object,
      List.forall_mem_flatMap]
    refine forall₂_congr fun member hmember => ?_
    rw [Option.isSome_map, ih member hmember]

/-! ### Well-formed values -/

mutual

/-- The members of every object come in order, once each, and integers fit in 64 bits. -/
def wellFormed : Json σ → Bool
  | int value => decide (-2 ^ 63 ≤ value ∧ value < 2 ^ 64)
  | array items => wellFormedItems items
  | object members => decide (Entries.Sorted members) && wellFormedMembers members
  | _ => true

def wellFormedItems : List (Json σ) → Bool
  | [] => true
  | item :: items => wellFormed item && wellFormedItems items

def wellFormedMembers : List (String × Json σ) → Bool
  | [] => true
  | (_, value) :: members => wellFormed value && wellFormedMembers members

end

@[simp]
theorem wellFormed_array {items : List (Json σ)} :
    (array items).wellFormed = true ↔ ∀ item ∈ items, item.wellFormed = true := by
  rw [wellFormed]
  induction items with
  | nil => simp [wellFormedItems]
  | cons item items ih => simp [wellFormedItems, ih]

@[simp]
theorem wellFormed_object {members : List (String × Json σ)} :
    (object members).wellFormed = true ↔
      Entries.Sorted members ∧ ∀ member ∈ members, member.2.wellFormed = true := by
  rw [wellFormed, Bool.and_eq_true, decide_eq_true_iff]
  refine and_congr_right' ?_
  induction members with
  | nil => simp [wellFormedMembers]
  | cons member members ih => rw [wellFormedMembers, Bool.and_eq_true, ih, List.forall_mem_cons]

/-- Replacing the strings of a well-formed value leaves it well-formed. -/
theorem wellFormed_traverse {j : Json σ} {j' : Json τ} (hj : j.wellFormed = true)
    (h : j.traverse f = some j') : j'.wellFormed = true := by
  induction j generalizing j' with
  | null => cases h; rfl
  | bool value => cases h; rfl
  | int value => cases h; exact hj
  | float value => cases h; rfl
  | string value =>
    obtain ⟨value', -, rfl⟩ := Option.map_eq_some_iff.mp h
    rfl
  | array items ih =>
    rw [traverse_array, Option.map_eq_some_iff] at h
    obtain ⟨items', hitems, rfl⟩ := h
    rw [wellFormed_array] at hj ⊢
    intro item' hitem'
    obtain ⟨item, hitem, htraverse⟩ := Fallible.mapM_eq_some_mem hitems item' hitem'
    exact ih item hitem (hj item hitem) htraverse
  | object members ih =>
    rw [traverse_object, Option.map_eq_some_iff] at h
    obtain ⟨members', hmembers, rfl⟩ := h
    rw [wellFormed_object] at hj ⊢
    refine ⟨?_, fun member' hmember' => ?_⟩
    · have hnames : members'.map Prod.fst = members.map Prod.fst := by
        refine Fallible.map_eq_of_mapM_eq_some (fun member member' htraverse => ?_) hmembers
        obtain ⟨value, -, rfl⟩ := Option.map_eq_some_iff.mp htraverse
        rfl
      rw [Entries.Sorted, hnames]
      exact hj.1
    · obtain ⟨member, hmember, htraverse⟩ :=
        Fallible.mapM_eq_some_mem hmembers member' hmember'
      obtain ⟨value, hvalue, rfl⟩ := Option.map_eq_some_iff.mp htraverse
      exact ih member hmember (hj.2 member hmember) hvalue

/-! ### Members -/

/-- The member of an object under a name; other values have none. -/
def member? (name : String) : Json σ → Option (Json σ)
  | object members => members.lookup name
  | _ => none

/-- The members of a value that is taken for an object, as `null` is for an empty one. -/
def members? : Json σ → Option (List (String × Json σ))
  | object members => some members
  | null => some []
  | _ => none

/-- The value with a member assigned, if it has members. -/
def setMember (j : Json σ) (name : String) (value : Json σ) : Option (Json σ) :=
  j.members?.map fun members => object (Entries.set name value members)

/-- The integer a number has before its point; other values are no numbers. -/
def number? : Json σ → Option Int
  | int value => some value
  | float value => some value.truncate
  | _ => none

theorem member?_eq_some_iff {name : String} {j value : Json σ} :
    j.member? name = some value ↔
      ∃ members, j = object members ∧ members.lookup name = some value := by
  cases j <;> simp [member?]

/-- A member of a well-formed value is well-formed. -/
theorem wellFormed_member? {name : String} {j value : Json σ} (hj : j.wellFormed = true)
    (h : j.member? name = some value) : value.wellFormed = true := by
  obtain ⟨members, rfl, hlookup⟩ := member?_eq_some_iff.mp h
  exact (wellFormed_object.mp hj).2 (name, value) (Entries.mem_of_lookup hlookup)

theorem wellFormed_set {name : String} {value : Json σ} {members : List (String × Json σ)}
    (hmembers : (object members).wellFormed = true) (hvalue : value.wellFormed = true) :
    (object (Entries.set name value members)).wellFormed = true := by
  rw [wellFormed_object] at hmembers ⊢
  refine ⟨hmembers.1.set, fun member hmember => ?_⟩
  rcases Entries.mem_of_mem_set hmember with rfl | hmember
  · exact hvalue
  · exact hmembers.2 member hmember

/-- The members of the second value are those of the first, except for one. -/
def SameExcept (name : String) (j j' : Json σ) : Prop :=
  ∀ other, other ≠ name → j'.member? other = j.member? other

section SetMember

variable {name : String} {j j' value : Json σ}

theorem member?_setMember (h : j.setMember name value = some j') :
    j'.member? name = some value := by
  obtain ⟨members, -, rfl⟩ := Option.map_eq_some_iff.mp h
  exact Entries.lookup_set_self

/-- Assigning a member leaves the others. -/
theorem sameExcept_setMember (h : j.setMember name value = some j') : SameExcept name j j' := by
  intro other hne
  obtain ⟨members, hmembers, rfl⟩ := Option.map_eq_some_iff.mp h
  have hlookup : (object (Entries.set name value members)).member? other =
      members.lookup other := Entries.lookup_set_of_ne hne
  cases j with
  | null => cases hmembers; exact hlookup
  | object members => cases hmembers; exact hlookup
  | _ => cases hmembers

/-- The later of two assignments to a member counts. -/
theorem setMember_setMember {earlier : Json σ} (h : j.setMember name earlier = some j') :
    j'.setMember name value = j.setMember name value := by
  obtain ⟨members, hmembers, rfl⟩ := Option.map_eq_some_iff.mp h
  rw [setMember, setMember, hmembers]
  simp [members?, Entries.set_set]

theorem wellFormed_setMember (hj : j.wellFormed = true) (hvalue : value.wellFormed = true)
    (h : j.setMember name value = some j') : j'.wellFormed = true := by
  obtain ⟨members, hmembers, rfl⟩ := Option.map_eq_some_iff.mp h
  refine wellFormed_set ?_ hvalue
  cases j with
  | null => cases hmembers; rfl
  | object members => cases hmembers; exact hj
  | _ => cases hmembers

end SetMember

/-! ### Texts -/

/-- A text format for JSON. -/
structure Codec where
  /-- No result is a text that is no JSON. -/
  parse : List UInt8 → Option (Json String)
  print : Json String → List UInt8

/-- What one relies on: a well-formed value can be read back from its text, and what is read is
well-formed. -/
structure Codec.Lawful (codec : Codec) : Prop where
  parse_print : ∀ j : Json String, j.wellFormed = true → codec.parse (codec.print j) = some j
  wellFormed_parse : ∀ text j, codec.parse text = some j → j.wellFormed = true

/-- The characters of a string of bytes, if it is UTF-8. -/
def utf8? (bytes : List UInt8) : Option String :=
  String.fromUTF8? ⟨bytes.toArray⟩

/-- The text of a value whose strings are bytes, if each of them is UTF-8. -/
def Codec.dump (codec : Codec) (j : Json (List UInt8)) : Option (List UInt8) :=
  (j.traverse utf8?).map codec.print

end Json

end Ros2Dispatcher
