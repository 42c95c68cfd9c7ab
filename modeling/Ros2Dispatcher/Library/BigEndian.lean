import Mathlib.Algebra.Order.Ring.Int
import Mathlib.Tactic.Common
import Mathlib.Tactic.Ring

/-!
# Integers as big-endian bytes

A natural number or an integer in a fixed number of bytes, most significant first, integers in
two's complement. Writing and reading are inverse to each other: `toNat_ofNat` and
`ofNat_toNat` for numbers below `256 ^ width`, `toInt_ofInt` and `ofInt_toInt` for the integers
in range (`InRange`).
-/

namespace Ros2Dispatcher.BigEndian

variable {width n : Nat} {i : Int} {bytes : List UInt8}

/-! ### Unsigned -/

/-- The last `width` bytes of a number. -/
def ofNat : Nat → Nat → List UInt8
  | 0, _ => []
  | width + 1, n => UInt8.ofNat (n / 256 ^ width) :: ofNat width n

/-- The number some bytes stand for. -/
def toNat : List UInt8 → Nat
  | [] => 0
  | byte :: bytes => byte.toNat * 256 ^ bytes.length + toNat bytes

@[simp]
theorem length_ofNat : (ofNat width n).length = width := by
  induction width with
  | zero => rfl
  | succ width ih => rw [ofNat, List.length_cons, ih]

theorem toNat_ofNat : toNat (ofNat width n) = n % 256 ^ width := by
  induction width with
  | zero => rw [ofNat, toNat, pow_zero, Nat.mod_one]
  | succ width ih =>
    have hbyte : (UInt8.ofNat (n / 256 ^ width)).toNat = n / 256 ^ width % 256 := rfl
    rw [ofNat, toNat, length_ofNat, ih, hbyte, pow_succ, Nat.mod_mul, Nat.mul_comm, Nat.add_comm]

theorem toNat_lt : toNat bytes < 256 ^ bytes.length := by
  induction bytes with
  | nil => exact Nat.one_pos
  | cons byte bytes ih =>
    have hbyte : byte.toNat + 1 ≤ 256 := byte.toNat_lt
    calc toNat (byte :: bytes) < (byte.toNat + 1) * 256 ^ bytes.length := by
          rw [toNat, Nat.succ_mul]
          exact Nat.add_lt_add_left ih _
      _ ≤ 256 * 256 ^ bytes.length := Nat.mul_le_mul_right _ hbyte
      _ = 256 ^ (byte :: bytes).length := by rw [List.length_cons, pow_succ, Nat.mul_comm]

/-- Only the last bytes count. -/
theorem ofNat_add_mul (m : Nat) : ofNat width (m * 256 ^ width + n) = ofNat width n := by
  induction width generalizing m with
  | zero => rfl
  | succ width ih =>
    have hpos : 0 < 256 ^ width := Nat.pow_pos (by decide)
    have hsum : m * 256 ^ (width + 1) + n = m * 256 * 256 ^ width + n := by ring
    have hdiv : (m * 256 * 256 ^ width + n) / 256 ^ width = n / 256 ^ width + m * 256 := by
      rw [Nat.add_comm, Nat.add_mul_div_right _ _ hpos]
    rw [ofNat, ofNat, hsum, ih, hdiv]
    refine congrArg (· :: _) (UInt8.toNat_inj.mp ?_)
    exact Nat.add_mul_mod_self_right _ _ _

theorem ofNat_toNat : ofNat bytes.length (toNat bytes) = bytes := by
  induction bytes with
  | nil => rfl
  | cons byte bytes ih =>
    have hdiv : toNat (byte :: bytes) / 256 ^ bytes.length = byte.toNat := by
      rw [toNat, Nat.add_comm, Nat.add_mul_div_right _ _ (Nat.pow_pos (by decide)),
        Nat.div_eq_of_lt toNat_lt, Nat.zero_add]
    rw [List.length_cons, ofNat, hdiv, UInt8.ofNat_toNat]
    rw [toNat, ofNat_add_mul, ih]

/-! ### Two's complement -/

/-- The integers of `width` bytes. -/
def InRange (width : Nat) (i : Int) : Prop :=
  -(256 ^ width : Nat) ≤ 2 * i ∧ 2 * i < (256 ^ width : Nat)

instance : Decidable (InRange width i) :=
  inferInstanceAs (Decidable (_ ∧ _))

theorem inRange_zero : InRange width 0 := by
  have hpos : 0 < 256 ^ width := Nat.pow_pos (by decide)
  unfold InRange
  omega

/-- The last `width` bytes of an integer. -/
def ofInt (width : Nat) (i : Int) : List UInt8 :=
  ofNat width (i % (256 ^ width : Nat)).toNat

/-- The integer some bytes stand for. -/
def toInt (bytes : List UInt8) : Int :=
  (toNat bytes : Int).bmod (256 ^ bytes.length)

@[simp]
theorem length_ofInt : (ofInt width i).length = width :=
  length_ofNat

theorem toInt_ofInt (h : InRange width i) : toInt (ofInt width i) = i := by
  have hpos : 0 < 256 ^ width := Nat.pow_pos (by decide)
  have hmod : ((i % (256 ^ width : Nat)).toNat : Int) = i % (256 ^ width : Nat) :=
    Int.toNat_of_nonneg (Int.emod_nonneg _ (by omega))
  unfold InRange at h
  rw [toInt, ofInt, toNat_ofNat, length_ofNat, Int.natCast_emod, hmod, Int.emod_emod,
    Int.emod_bmod, Int.bmod_eq_iff hpos]
  exact ⟨by omega, by omega, by rw [sub_self]; exact dvd_zero _⟩

theorem inRange_toInt : InRange bytes.length (toInt bytes) := by
  have hpos : 0 < 256 ^ bytes.length := Nat.pow_pos (by decide)
  have hle := Int.le_bmod (x := (toNat bytes : Int)) hpos
  have hlt := Int.bmod_lt (x := (toNat bytes : Int)) hpos
  unfold InRange toInt
  omega

theorem ofInt_toInt : ofInt bytes.length (toInt bytes) = bytes := by
  have hmod : (toNat bytes : Int) % (256 ^ bytes.length : Nat) = toNat bytes :=
    Int.emod_eq_of_lt (Int.natCast_nonneg _) (Int.ofNat_lt.mpr toNat_lt)
  rw [ofInt, toInt, Int.bmod_emod, hmod, Int.toNat_natCast, ofNat_toNat]

end Ros2Dispatcher.BigEndian
