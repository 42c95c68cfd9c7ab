import Mathlib.Tactic.Common

/-!
# UTF-8 with replacement

`decode` reads bytes as characters whatever they are: where no character begins, one U+FFFD
stands for the longest ill-formed start (`illFormedTail`) or else for one byte. A text has at
most as many characters as its bytes (`length_decode_le`), and is written back in as many bytes
as it has characters exactly if the bytes are ASCII (`length_encode_decode_iff`).
-/

namespace Ros2Dispatcher.Utf8

/-! ### Decoding -/

/-- The character that some bytes begin with. -/
def decodeChar? (bytes : List UInt8) : Option Char :=
  bytes.toByteArray.utf8DecodeChar? 0

/-- The bytes that may follow the second one of a character. -/
def isTail (byte : UInt8) : Bool :=
  0x80 ≤ byte && byte < 0xc0

/-- Some bytes are no second byte after some first ones. -/
def allowsSecond (first second : UInt8) : Bool :=
  if first = 0xe0 then 0xa0 ≤ second && second < 0xc0
  else if first = 0xed then 0x80 ≤ second && second < 0xa0
  else if first = 0xf0 then 0x90 ≤ second && second < 0xc0
  else if first = 0xf4 then 0x80 ≤ second && second < 0x90
  else isTail second

/-- How many of the bytes after `first`, with which no character begins, are replaced with it:
those that could have gone on to a character of three or four bytes. -/
def illFormedTail (first : UInt8) : List UInt8 → Nat
  | [] => 0
  | second :: bytes =>
    if 0xe0 ≤ first && first < 0xf5 && allowsSecond first second then
      if 0xf0 ≤ first && (bytes.head?.any isTail) then 2 else 1
    else 0

/-- The characters of some bytes after those to be skipped. -/
def decodeFrom : Nat → List UInt8 → List Char
  | _, [] => []
  | skip + 1, _ :: bytes => decodeFrom skip bytes
  | 0, byte :: bytes =>
    match decodeChar? (byte :: bytes) with
    | some c => c :: decodeFrom (c.utf8Size - 1) bytes
    | none => '\ufffd' :: decodeFrom (illFormedTail byte bytes) bytes

/-- `decode('utf-8', errors='replace')`. -/
def decode (bytes : List UInt8) : List Char :=
  decodeFrom 0 bytes

/-- `encode('utf-8')`. -/
def encode (text : List Char) : List UInt8 :=
  text.flatMap String.utf8EncodeChar

/-! ### Characters -/

theorem decodeChar?_eq_some_iff {bytes : List UInt8} {c : Char} :
    decodeChar? bytes = some c ↔ ∃ rest, bytes = String.utf8EncodeChar c ++ rest := by
  constructor
  · intro h
    obtain ⟨rest, hrest⟩ := ByteArray.exists_of_utf8DecodeChar?_eq_some h
    refine ⟨rest.data.toList, ?_⟩
    have hlist := congrArg (fun b : ByteArray => b.data.toList) hrest
    simpa using hlist
  · rintro ⟨rest, rfl⟩
    rw [decodeChar?, List.toByteArray_append]
    exact ByteArray.utf8DecodeChar?_utf8EncodeChar_append

/-- A byte below 128 is a character of its own. -/
theorem utf8EncodeChar_ofNat {byte : UInt8} (h : byte < 0x80) :
    String.utf8EncodeChar (Char.ofNat byte.toNat) = [byte] := by
  have hlt : byte.toNat < 128 := UInt8.lt_iff_toNat_lt.mp h
  have hvalid : byte.toNat.isValidChar := .inl (by omega)
  have hval : (Char.ofNat byte.toNat).val.toNat = byte.toNat := by
    rw [Char.ofNat, dif_pos hvalid]
    rfl
  have hsize : (Char.ofNat byte.toNat).utf8Size = 1 := by
    rw [Char.utf8Size_eq_one_iff, UInt32.le_iff_toNat_le, hval]
    exact Nat.le_of_lt_succ hlt
  rw [String.utf8EncodeChar_eq_singleton hsize]
  refine congrArg (· :: []) (UInt8.toNat_inj.mp ?_)
  rw [UInt32.toNat_toUInt8, hval]
  omega

/-- A character of one byte is that byte. -/
theorem of_utf8Size_eq_one {c : Char} (h : c.utf8Size = 1) :
    ∃ byte, String.utf8EncodeChar c = [byte] ∧ byte < 0x80 := by
  refine ⟨_, String.utf8EncodeChar_eq_singleton h, ?_⟩
  have hle : c.val.toNat ≤ 127 := UInt32.le_iff_toNat_le.mp (Char.utf8Size_eq_one_iff.mp h)
  rw [UInt8.lt_iff_toNat_lt, UInt32.toNat_toUInt8]
  exact Nat.lt_of_le_of_lt (Nat.mod_le _ _) (Nat.lt_succ_of_le hle)

/-- A byte below 128 occurs in no character but its own. -/
theorem eq_ofNat_of_mem_utf8EncodeChar {c : Char} {byte : UInt8}
    (h : byte ∈ String.utf8EncodeChar c) (hlt : byte < 0x80) : c = Char.ofNat byte.toNat := by
  have hmask : byte &&& 0x80 = 0 := by
    have hbits : ∀ n < 128, n &&& 128 = 0 := by decide
    rw [← UInt8.toNat_inj, UInt8.toNat_and]
    exact hbits byte.toNat (UInt8.lt_iff_toNat_lt.mp hlt)
  -- it is the first one
  obtain ⟨i, hi, hget⟩ := List.mem_iff_getElem.mp h
  have hfirst : (String.utf8EncodeChar c)[i].IsUTF8FirstByte := hget ▸ .inl hmask
  obtain rfl := UInt8.isUTF8FirstByte_getElem_utf8EncodeChar.mp hfirst
  obtain ⟨first, rest, hbytes⟩ := List.exists_cons_of_ne_nil (String.utf8EncodeChar_ne_nil (c := c))
  obtain rfl : first = byte := by simpa [hbytes] using hget
  -- and no other character begins with it
  have hchar : decodeChar? (first :: rest) = some c :=
    decodeChar?_eq_some_iff.mpr ⟨[], by rw [hbytes, List.append_nil]⟩
  have hascii : decodeChar? (first :: rest) = some (Char.ofNat first.toNat) :=
    decodeChar?_eq_some_iff.mpr ⟨rest, by rw [utf8EncodeChar_ofNat hlt]; rfl⟩
  exact Option.some.inj (hchar.symm.trans hascii)

/-! ### Texts -/

theorem length_decodeFrom_le (skip : Nat) (bytes : List UInt8) :
    (decodeFrom skip bytes).length ≤ bytes.length := by
  induction bytes generalizing skip with
  | nil => cases skip <;> exact Nat.le_refl 0
  | cons byte bytes ih =>
    cases skip with
    | succ skip => exact Nat.le_succ_of_le (ih skip)
    | zero =>
      rw [decodeFrom]
      split
      · exact Nat.succ_le_succ (ih _)
      · exact Nat.succ_le_succ (ih _)

/-- There are at most as many characters as bytes. -/
theorem length_decode_le (bytes : List UInt8) : (decode bytes).length ≤ bytes.length :=
  length_decodeFrom_le 0 bytes

theorem length_le_length_encode (text : List Char) : text.length ≤ (encode text).length := by
  induction text with
  | nil => exact Nat.le_refl 0
  | cons c text ih =>
    have hpos := c.utf8Size_pos
    rw [encode, List.flatMap_cons, List.length_append, String.length_utf8EncodeChar, ← encode,
      List.length_cons]
    omega

/-- As many bytes as characters means a byte for each character. -/
theorem length_encode_iff {text : List Char} :
    (encode text).length = text.length ↔ ∀ c ∈ text, c.utf8Size = 1 := by
  induction text with
  | nil => simp [encode]
  | cons c text ih =>
    have hpos := c.utf8Size_pos
    have hle := length_le_length_encode text
    rw [encode, List.flatMap_cons, List.length_append, String.length_utf8EncodeChar, ← encode,
      List.length_cons, List.forall_mem_cons, ← ih]
    omega

/-- ASCII is read byte by byte, and nothing else is. -/
theorem decode_utf8Size_iff {bytes : List UInt8} :
    (∀ c ∈ decode bytes, c.utf8Size = 1) ↔ ∀ byte ∈ bytes, byte < 0x80 := by
  induction bytes with
  | nil => simp [decode, decodeFrom]
  | cons byte bytes ih =>
    rw [List.forall_mem_cons, decode, decodeFrom]
    constructor
    · intro h
      split at h
      next c hc =>
        obtain ⟨hsize, hrest⟩ := List.forall_mem_cons.mp h
        obtain ⟨first, hfirst, hlt⟩ := of_utf8Size_eq_one hsize
        obtain ⟨rest, hbytes⟩ := decodeChar?_eq_some_iff.mp hc
        rw [hfirst] at hbytes
        rw [hsize] at hrest
        exact ⟨(List.cons.inj hbytes).1 ▸ hlt, ih.mp hrest⟩
      next => exact absurd (List.forall_mem_cons.mp h).1 (by decide)
    · rintro ⟨hlt, hrest⟩
      have hencode := utf8EncodeChar_ofNat hlt
      have hsize : (Char.ofNat byte.toNat).utf8Size = 1 := by
        rw [← String.length_utf8EncodeChar, hencode]
        rfl
      have hchar : decodeChar? (byte :: bytes) = some (Char.ofNat byte.toNat) :=
        decodeChar?_eq_some_iff.mpr ⟨bytes, by rw [hencode]; rfl⟩
      rw [hchar]
      refine List.forall_mem_cons.mpr ⟨hsize, ?_⟩
      rw [hsize]
      exact ih.mpr hrest

/-- A text is written back in as many bytes as it has characters exactly if it is ASCII. -/
theorem length_encode_decode_iff {bytes : List UInt8} :
    (encode (decode bytes)).length = (decode bytes).length ↔ ∀ byte ∈ bytes, byte < 0x80 :=
  length_encode_iff.trans decode_utf8Size_iff

end Ros2Dispatcher.Utf8
