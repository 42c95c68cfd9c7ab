import Mathlib.Data.List.TakeWhile

/-!
# Positions in a `std::string`

The length of a `std::string` and the positions in it are 64-bit numbers, and `npos`, the
greatest one, is no position in any string. A search returns it when it finds nothing, and
programs go on to compute with it.

* `substr_find`: `substr(pos, find(c, pos) - pos)` is what stands before the next `c`, and
  everything that is left if there is no `c`: the difference from `npos` is never less.
* `drop_find_add_one`: what stands behind the `c` that was found.
-/

namespace Ros2Dispatcher

/-- `std::string::npos`. -/
def npos : UInt64 := 0xffffffffffffffff

/-- A `std::string`: there is no room for `npos` bytes. -/
structure StdString where
  bytes : List UInt8
  length_lt : bytes.length < npos.toNat

namespace StdString

variable {s : StdString} {c : UInt8} {pos : UInt64}

def size (s : StdString) : UInt64 :=
  .ofNat s.bytes.length

/-- `find(c, pos)`. -/
def find (s : StdString) (c : UInt8) (pos : UInt64) : UInt64 :=
  let rest := s.bytes.drop pos.toNat
  if c ∈ rest then pos + .ofNat (rest.idxOf c) else npos

/-- `substr(pos, count)`; it throws behind the end. -/
def substr (s : StdString) (pos count : UInt64) : Option StdString :=
  if pos ≤ s.size then
    some {
      bytes := (s.bytes.drop pos.toNat).take count.toNat
      length_lt := by
        have hlength := s.length_lt
        rw [List.length_take, List.length_drop]
        omega }
  else none

@[simp] theorem toNat_npos : npos.toNat = 18446744073709551615 :=
  rfl

@[simp] theorem toNat_size : s.size.toNat = s.bytes.length :=
  UInt64.toNat_ofNat_of_lt' (Nat.lt_trans s.length_lt (by decide))

/-! ### Searching -/

/-- The letters before the first occurrence, and it with those behind. -/
private theorem take_drop_idxOf (c : UInt8) (bytes : List UInt8) :
    bytes.take (bytes.idxOf c) = bytes.takeWhile (· ≠ c) ∧
      bytes.drop (bytes.idxOf c) = bytes.dropWhile (· ≠ c) := by
  induction bytes with
  | nil => exact ⟨rfl, rfl⟩
  | cons byte bytes ih =>
    by_cases hc : byte = c
    · simp [hc]
    · have hne : (byte == c) = false := beq_false_of_ne hc
      simpa [List.idxOf_cons, hne, hc] using ih

/-- The first occurrence is found. -/
theorem toNat_find (h : c ∈ s.bytes.drop pos.toNat) :
    (s.find c pos).toNat = pos.toNat + (s.bytes.drop pos.toNat).idxOf c ∧
      (s.find c pos).toNat < s.bytes.length := by
  have hlength := s.length_lt
  have hidx := List.idxOf_lt_length_of_mem h
  rw [List.length_drop] at hidx
  rw [toNat_npos] at hlength
  have hoffset : (UInt64.ofNat ((s.bytes.drop pos.toNat).idxOf c)).toNat =
      (s.bytes.drop pos.toNat).idxOf c :=
    UInt64.toNat_ofNat_of_lt' (Nat.lt_of_lt_of_le (m := 2 ^ 64) (by omega) (by decide))
  rw [find, if_pos h, UInt64.toNat_add, hoffset]
  omega

theorem find_of_notMem (h : c ∉ s.bytes.drop pos.toNat) : s.find c pos = npos :=
  if_neg h

theorem find_ne_npos (h : c ∈ s.bytes.drop pos.toNat) : s.find c pos ≠ npos := by
  intro heq
  have hlt := (toNat_find h).2
  rw [heq] at hlt
  exact Nat.lt_asymm hlt s.length_lt

theorem bytes_substr (hpos : pos ≤ s.size) (count : UInt64) :
    (s.substr pos count).map bytes = some ((s.bytes.drop pos.toNat).take count.toNat) := by
  rw [substr, if_pos hpos]
  rfl

/-- The part before the next occurrence, or up to the end. -/
theorem substr_find (hpos : pos ≤ s.size) (c : UInt8) :
    (s.substr pos (s.find c pos - pos)).map bytes =
      some ((s.bytes.drop pos.toNat).takeWhile (· ≠ c)) := by
  have hlength : s.bytes.length < 18446744073709551615 := s.length_lt
  have hpos' : pos.toNat ≤ s.bytes.length := by
    rw [← toNat_size]
    exact UInt64.le_iff_toNat_le.mp hpos
  rw [bytes_substr hpos, Option.some_inj]
  by_cases h : c ∈ s.bytes.drop pos.toNat
  · have hfind := (toNat_find h).1
    have hle : pos ≤ s.find c pos := by
      rw [UInt64.le_iff_toNat_le]
      omega
    rw [UInt64.toNat_sub_of_le _ _ hle, hfind, Nat.add_sub_cancel_left]
    exact (take_drop_idxOf c _).1
  · -- the difference from `npos` is at least what is left
    have hle : pos ≤ npos := by
      rw [UInt64.le_iff_toNat_le, toNat_npos]
      omega
    rw [find_of_notMem h, UInt64.toNat_sub_of_le _ _ hle, toNat_npos,
      List.take_of_length_le (by rw [List.length_drop]; omega)]
    refine (List.takeWhile_eq_self_iff.mpr fun byte hbyte => ?_).symm
    have hne : byte ≠ c := fun heq => h (heq ▸ hbyte)
    exact decide_eq_true hne

/-- The part behind the next occurrence. -/
theorem drop_find_add_one (h : c ∈ s.bytes.drop pos.toNat) :
    s.find c pos + 1 ≤ s.size ∧ s.bytes.drop (s.find c pos + 1).toNat =
      ((s.bytes.drop pos.toNat).dropWhile (· ≠ c)).tail := by
  have hlength := s.length_lt
  obtain ⟨hfind, hlt⟩ := toNat_find h
  have hnext : (s.find c pos + 1).toNat = (s.find c pos).toNat + 1 := by
    rw [toNat_npos] at hlength
    rw [UInt64.toNat_add]
    exact Nat.mod_eq_of_lt (Nat.lt_of_le_of_lt hlt (Nat.lt_trans hlength (by decide)))
  constructor
  · rw [UInt64.le_iff_toNat_le, hnext, toNat_size]
    exact hlt
  · rw [hnext, hfind, ← (take_drop_idxOf c _).2, List.drop_drop, List.tail_drop, Nat.add_assoc]

end StdString

end Ros2Dispatcher
