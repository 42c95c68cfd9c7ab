import Mathlib.Tactic.Common

/-!
# UTF-16

A character beyond the first plane takes two units of 16 bits, a high and a low surrogate.
`decode` reads units as characters, which it can do exactly if the surrogates are paired
(`isSome_decode`), and `encode` writes them again (`encode_of_decode`). A text may break off in the
middle of a character: `whole` leaves that one out.
-/

namespace Ros2Dispatcher.Utf16

def isHigh (unit : UInt16) : Bool :=
  0xd800 ≤ unit && unit < 0xdc00

def isLow (unit : UInt16) : Bool :=
  0xdc00 ≤ unit && unit < 0xe000

/-- A low surrogate follows every high one, and none is anywhere else. -/
def paired : List UInt16 → Bool
  | [] => true
  | [unit] => !isHigh unit && !isLow unit
  | unit :: next :: units =>
    if isHigh unit then isLow next && paired units
    else !isLow unit && paired (next :: units)

/-- The character of two surrogates. -/
def combine (high low : UInt16) : Char :=
  Char.ofNat (0x10000 + (high.toNat - 0xd800) * 0x400 + (low.toNat - 0xdc00))

/-- The characters of a text, unless there is a surrogate without its partner. -/
def decode : List UInt16 → Option (List Char)
  | [] => some []
  | [unit] => if isHigh unit || isLow unit then none else some [Char.ofNat unit.toNat]
  | unit :: next :: units =>
    if isHigh unit then
      if isLow next then (decode units).map (combine unit next :: ·) else none
    else if isLow unit then none
    else (decode (next :: units)).map (Char.ofNat unit.toNat :: ·)

theorem isSome_decode (units : List UInt16) : (decode units).isSome = paired units := by
  induction units using decode.induct with
  | case1 => rfl
  | case2 unit h =>
    rw [decode, if_pos h, paired, ← Bool.not_or, h]
    rfl
  | case3 unit h =>
    rw [decode, if_neg h, paired, ← Bool.not_or, Bool.eq_false_iff.mpr h]
    rfl
  | case4 unit next units hhigh hlow ih => simp [decode, paired, hhigh, hlow, ih]
  | case5 unit next units hhigh hlow => simp [decode, paired, hhigh, hlow]
  | case6 unit next units hhigh hlow => simp [decode, paired, hhigh, hlow]
  | case7 unit next units hhigh hlow ih => simp [decode, paired, hhigh, hlow, ih]

/-! ### Texts that break off -/

/-- The units but for a high surrogate at the end, whose partner is missing. -/
def whole : List UInt16 → List UInt16
  | [] => []
  | [unit] => if isHigh unit then [] else [unit]
  | unit :: next :: units => unit :: whole (next :: units)

/-- The surrogates are paired, up to a high one at the end. -/
def pairedSoFar (units : List UInt16) : Bool :=
  paired (whole units)

/-! ### Writing -/

/-- The units of a character. -/
def encodeChar (c : Char) : List UInt16 :=
  if c.toNat < 0x10000 then [UInt16.ofNat c.toNat]
  else
    [UInt16.ofNat (0xd800 + (c.toNat - 0x10000) / 0x400),
      UInt16.ofNat (0xdc00 + (c.toNat - 0x10000) % 0x400)]

/-- The units of a text. -/
def encode (text : List Char) : List UInt16 :=
  text.flatMap encodeChar

theorem toNat_ofNat {n : Nat} (h : n.isValidChar) : (Char.ofNat n).toNat = n := by
  rw [Char.ofNat, dif_pos h]
  rfl

/-- A unit that is no surrogate is a character of its own. -/
theorem encodeChar_ofNat {unit : UInt16} (h : isHigh unit = false) (h' : isLow unit = false) :
    encodeChar (Char.ofNat unit.toNat) = [unit] := by
  have hlt := unit.toNat_lt
  have hvalid : unit.toNat.isValidChar := by
    simp only [isHigh, isLow, Bool.and_eq_false_iff, decide_eq_false_iff_not,
      UInt16.le_iff_toNat_le, UInt16.lt_iff_toNat_lt, UInt16.reduceToNat] at h h'
    unfold Nat.isValidChar
    omega
  rw [encodeChar, toNat_ofNat hvalid, if_pos (by omega), UInt16.ofNat_toNat]

/-- Two surrogates are written for their character. -/
theorem encodeChar_combine {high low : UInt16} (h : isHigh high = true) (h' : isLow low = true) :
    encodeChar (combine high low) = [high, low] := by
  simp only [isHigh, isLow, Bool.and_eq_true, decide_eq_true_eq, UInt16.le_iff_toNat_le,
    UInt16.lt_iff_toNat_lt, UInt16.reduceToNat] at h h'
  have hvalid : (0x10000 + (high.toNat - 0xd800) * 0x400 + (low.toNat - 0xdc00)).isValidChar := by
    unfold Nat.isValidChar
    omega
  rw [encodeChar, combine, toNat_ofNat hvalid, if_neg (by omega)]
  have hhigh : 0xd800 + (0x10000 + (high.toNat - 0xd800) * 0x400 + (low.toNat - 0xdc00) -
      0x10000) / 0x400 = high.toNat := by omega
  have hlow : 0xdc00 + (0x10000 + (high.toNat - 0xd800) * 0x400 + (low.toNat - 0xdc00) -
      0x10000) % 0x400 = low.toNat := by omega
  rw [hhigh, hlow, UInt16.ofNat_toNat, UInt16.ofNat_toNat]

/-- **What is decoded is written in the same units.** -/
theorem encode_of_decode {units : List UInt16} {text : List Char} (h : decode units = some text) :
    encode text = units := by
  induction units using decode.induct generalizing text with
  | case1 =>
    obtain rfl := Option.some.inj h
    rfl
  | case2 unit hsurrogate =>
    rw [decode, if_pos hsurrogate] at h
    cases h
  | case3 unit hsurrogate =>
    rw [decode, if_neg hsurrogate] at h
    obtain rfl := Option.some.inj h
    obtain ⟨hhigh, hlow⟩ := Bool.or_eq_false_iff.mp (Bool.eq_false_iff.mpr hsurrogate)
    exact (List.append_nil _).trans (encodeChar_ofNat hhigh hlow)
  | case4 unit next units hhigh hlow ih =>
    rw [decode, if_pos hhigh, if_pos hlow] at h
    obtain ⟨rest, hrest, rfl⟩ := Option.map_eq_some_iff.mp h
    rw [encode, List.flatMap_cons, encodeChar_combine hhigh hlow]
    exact congrArg ([unit, next] ++ ·) (ih hrest)
  | case5 unit next units hhigh hlow =>
    rw [decode, if_pos hhigh, if_neg hlow] at h
    cases h
  | case6 unit next units hhigh hlow =>
    rw [decode, if_neg hhigh, if_pos hlow] at h
    cases h
  | case7 unit next units hhigh hlow ih =>
    rw [decode, if_neg hhigh, if_neg hlow] at h
    obtain ⟨rest, hrest, rfl⟩ := Option.map_eq_some_iff.mp h
    rw [encode, List.flatMap_cons,
      encodeChar_ofNat (Bool.eq_false_iff.mpr hhigh) (Bool.eq_false_iff.mpr hlow)]
    exact congrArg ([unit] ++ ·) (ih hrest)

end Ros2Dispatcher.Utf16
