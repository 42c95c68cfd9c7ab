import Ros2Dispatcher.Library.Framing
import Ros2Dispatcher.Library.Utf8

/-!
# JSON strings as bytes

What stands between the quotes of a JSON string is a *body*: a backslash takes the byte behind it
with it, and a quote stands nowhere else. A body is scanned up to its closing quote
(`IsBody.scanBody`) and decoded. A text is read as bytes outside of strings and the values of the
strings (`tokenFraming`), which a body in quotes does not change around it (`cuts_string`).
-/

namespace Ros2Dispatcher.JsonStrings

/-! ### Bytes -/

def quote : UInt8 := 0x22

def backslash : UInt8 := 0x5c

/-- The hexadecimal digit of a number below 16. -/
def hexDigit (n : UInt8) : UInt8 :=
  if n < 10 then '0'.toUInt8 + n else 'A'.toUInt8 + (n - 10)

/-- The number of a hexadecimal digit. -/
def hexValue? (digit : UInt8) : Option Nat :=
  if '0'.toUInt8 ≤ digit ∧ digit ≤ '9'.toUInt8 then some (digit - '0'.toUInt8).toNat
  else if 'A'.toUInt8 ≤ digit ∧ digit ≤ 'F'.toUInt8 then
    some (digit - 'A'.toUInt8 + 10).toNat
  else if 'a'.toUInt8 ≤ digit ∧ digit ≤ 'f'.toUInt8 then
    some (digit - 'a'.toUInt8 + 10).toNat
  else none

/-- The byte that a backslash and a letter stand for. -/
def shortEscape? (letter : UInt8) : Option UInt8 :=
  if letter = quote ∨ letter = backslash ∨ letter = '/'.toUInt8 then some letter
  else if letter = 'b'.toUInt8 then some 0x08
  else if letter = 'f'.toUInt8 then some 0x0c
  else if letter = 'n'.toUInt8 then some 0x0a
  else if letter = 'r'.toUInt8 then some 0x0d
  else if letter = 't'.toUInt8 then some 0x09
  else none

/-- The UTF-8 of a character by its four digits; a surrogate is not read. -/
def unicodeEscape? (a b c d : UInt8) : Option (List UInt8) := do
  let a ← hexValue? a
  let b ← hexValue? b
  let c ← hexValue? c
  let d ← hexValue? d
  let unit := ((a * 16 + b) * 16 + c) * 16 + d
  if 0xd800 ≤ unit ∧ unit < 0xe000 then none
  else some (String.utf8EncodeChar (Char.ofNat unit))

/-! ### Decoding -/

/-- The bytes that the first letter of a body stands for, and the letters behind it. -/
def nextLetter : List UInt8 → Option (List UInt8 × List UInt8)
  | [] => none
  | byte :: text =>
    if byte = backslash then
      match text with
      | [] => none
      | letter :: text =>
        if letter = 'u'.toUInt8 then
          match text with
          | a :: b :: c :: d :: text => (unicodeEscape? a b c d).map (·, text)
          | _ => none
        else (shortEscape? letter).map ([·], text)
    else if byte = quote ∨ byte < 0x20 then none
    else some ([byte], text)

/-- The first letter is up to a piece of the text, whatever follows it. -/
theorem exists_letter {text value rest : List UInt8} (h : nextLetter text = some (value, rest)) :
    ∃ letter, letter ≠ [] ∧ text = letter ++ rest ∧
      ∀ more, nextLetter (letter ++ more) = some (value, more) := by
  unfold nextLetter at h
  split at h
  · cases h
  next byte text =>
    split at h
    next hbackslash =>
      subst hbackslash
      split at h
      · cases h
      next letter text =>
        split at h
        next hletter =>
          subst hletter
          split at h
          next a b c d text =>
            obtain ⟨value, hvalue, heq⟩ := Option.map_eq_some_iff.mp h
            cases heq
            refine ⟨[backslash, 'u'.toUInt8, a, b, c, d], List.cons_ne_nil _ _, rfl, fun more => ?_⟩
            exact Option.map_eq_some_iff.mpr ⟨value, hvalue, rfl⟩
          · cases h
        next hletter =>
          obtain ⟨value, hvalue, heq⟩ := Option.map_eq_some_iff.mp h
          cases heq
          refine ⟨[backslash, letter], List.cons_ne_nil _ _, rfl, fun more => ?_⟩
          exact (if_neg hletter).trans (Option.map_eq_some_iff.mpr ⟨value, hvalue, rfl⟩)
    next hbackslash =>
      split at h
      · cases h
      next hplain =>
        cases h
        refine ⟨[byte], List.cons_ne_nil _ _, rfl, fun more => ?_⟩
        exact (if_neg hbackslash).trans (if_neg hplain)

/-- The letters of a body. -/
def letterFraming : Framing UInt8 (List UInt8) where
  next := nextLetter
  length_lt h := by
    obtain ⟨letter, hne, rfl, -⟩ := exists_letter h
    have hpos := List.length_pos_iff.mpr hne
    rw [List.length_append]
    omega
  next_append h more := by
    obtain ⟨letter, -, rfl, hnext⟩ := exists_letter h
    rw [List.append_assoc, hnext]

/-- What a body stands for, unless there is something in it that is no letter. -/
def decodeBody (text : List UInt8) : Option (List UInt8) :=
  if (letterFraming.frames text).2 = [] then some (letterFraming.frames text).1.flatten else none

/-- A text whose letters stand for one byte each. -/
theorem decodeBody_of_cuts {text value : List UInt8}
    (h : letterFraming.Cuts text (value.flatMap fun byte => [[byte]])) :
    decodeBody text = some value := by
  rw [decodeBody, h.frames_eq rfl, if_pos rfl]
  refine congrArg some ?_
  rw [← List.map_eq_flatMap, ← List.flatMap_def, List.flatMap_singleton']

section Letters

variable {byte letter value : UInt8}

theorem cuts_plain (hbackslash : byte ≠ backslash) (hplain : ¬(byte = quote ∨ byte < 0x20)) :
    letterFraming.Cuts [byte] [[byte]] :=
  .of_next fun _ => (if_neg hbackslash).trans (if_neg hplain)

theorem cuts_short (hletter : letter ≠ 'u'.toUInt8) (hvalue : shortEscape? letter = some value) :
    letterFraming.Cuts [backslash, letter] [[value]] :=
  .of_next fun _ => (if_neg hletter).trans (Option.map_eq_some_iff.mpr ⟨value, hvalue, rfl⟩)

theorem cuts_unicode {a b c d : UInt8} {value : List UInt8}
    (hvalue : unicodeEscape? a b c d = some value) :
    letterFraming.Cuts [backslash, 'u'.toUInt8, a, b, c, d] [value] :=
  .of_next fun _ => Option.map_eq_some_iff.mpr ⟨value, hvalue, rfl⟩

/-- An ASCII byte by its two digits. -/
theorem unicodeEscape?_hexDigit (h : byte < 0x80) :
    unicodeEscape? '0'.toUInt8 '0'.toUInt8 (hexDigit (byte / 16)) (hexDigit (byte % 16)) =
      some [byte] := by
  have hall : ∀ n < 128, unicodeEscape? '0'.toUInt8 '0'.toUInt8 (hexDigit (UInt8.ofNat n / 16))
      (hexDigit (UInt8.ofNat n % 16)) = some [UInt8.ofNat n] := by decide +kernel
  have hbyte := hall byte.toNat (UInt8.lt_iff_toNat_lt.mp h)
  rwa [UInt8.ofNat_toNat] at hbyte

end Letters

/-- What is up to the closing quote, and what is behind it. -/
def scanBody (escaped : Bool) : List UInt8 → Option (List UInt8 × List UInt8)
  | [] => none
  | byte :: text =>
    if !escaped && byte == quote then some ([], text)
    else
      (scanBody (!escaped && byte == backslash) text).map fun (body, rest) => (byte :: body, rest)

/-! ### Bodies -/

/-- A text that can stand between quotes. -/
inductive IsBody : List UInt8 → Prop
  | nil : IsBody []
  | plain {byte text} (printable : 0x20 ≤ byte) (ne_quote : byte ≠ quote)
    (ne_backslash : byte ≠ backslash) (body : IsBody text) : IsBody (byte :: text)
  | escape {letter text} (printable : 0x20 ≤ letter) (body : IsBody text) :
    IsBody (backslash :: letter :: text)

/-- Digits can stand in a body. -/
theorem hexDigit_plain {n : UInt8} (h : n < 16) :
    0x20 ≤ hexDigit n ∧ hexDigit n ≠ quote ∧ hexDigit n ≠ backslash := by
  have hall : ∀ n < 16, 0x20 ≤ hexDigit (UInt8.ofNat n) ∧ hexDigit (UInt8.ofNat n) ≠ quote ∧
      hexDigit (UInt8.ofNat n) ≠ backslash := by decide +kernel
  have hn := hall n.toNat (UInt8.lt_iff_toNat_lt.mp h)
  rwa [UInt8.ofNat_toNat] at hn

/-- Whether a byte behind the text is escaped: the backslashes before it count in pairs. -/
def escapesNext (text : List UInt8) : Bool :=
  text.foldl (fun escaped byte => !escaped && byte == backslash) false

namespace IsBody

variable {text text' : List UInt8}

protected theorem append (h : IsBody text) (h' : IsBody text') : IsBody (text ++ text') := by
  induction h with
  | nil => exact h'
  | plain hprintable hquote hbackslash _ ih => exact .plain hprintable hquote hbackslash ih
  | escape hprintable _ ih => exact .escape hprintable ih

protected theorem flatMap {ι : Type} {items : List ι} {texts : ι → List UInt8}
    (h : ∀ item ∈ items, IsBody (texts item)) : IsBody (items.flatMap texts) := by
  induction items with
  | nil => exact .nil
  | cons item items ih =>
    obtain ⟨hitem, hitems⟩ := List.forall_mem_cons.mp h
    exact hitem.append (ih hitems)

/-- No byte of a body is a control character. -/
theorem printable (h : IsBody text) : ∀ byte ∈ text, 0x20 ≤ byte := by
  induction h with
  | nil => exact nofun
  | plain hprintable _ _ _ ih => exact List.forall_mem_cons.mpr ⟨hprintable, ih⟩
  | escape hprintable _ ih =>
    exact List.forall_mem_cons.mpr ⟨by decide, List.forall_mem_cons.mpr ⟨hprintable, ih⟩⟩

/-- A body ends with no backslash of its own. -/
theorem escapesNext_eq (h : IsBody text) : escapesNext text = false := by
  induction h with
  | nil => rfl
  | plain _ _ hbackslash _ ih =>
    rw [escapesNext, List.foldl_cons, beq_eq_false_iff_ne.mpr hbackslash, Bool.and_false]
    exact ih
  | escape _ _ ih => exact ih

/-- Every quote of a body is escaped. -/
theorem quotes (h : IsBody text) (i : Nat) (hi : text[i]? = some quote) :
    escapesNext (text.take i) = true := by
  induction h generalizing i with
  | nil => cases hi
  | @plain byte text _ hquote hbackslash _ ih =>
    cases i with
    | zero => exact absurd (Option.some.inj hi) hquote
    | succ i =>
      rw [List.take_succ_cons, escapesNext, List.foldl_cons,
        beq_eq_false_iff_ne.mpr hbackslash, Bool.and_false]
      exact ih i hi
  | @escape letter text _ _ ih =>
    match i with
    | 0 => exact absurd (Option.some.inj hi) (by decide)
    | 1 => rfl
    | i + 2 => exact ih i hi

/-- A body is scanned up to the quote behind it. -/
protected theorem scanBody (h : IsBody text) (rest : List UInt8) :
    scanBody false (text ++ quote :: rest) = some (text, rest) := by
  induction h with
  | nil => rfl
  | plain _ hquote hbackslash _ ih =>
    rw [List.cons_append, JsonStrings.scanBody, beq_eq_false_iff_ne.mpr hquote,
      beq_eq_false_iff_ne.mpr hbackslash, Bool.and_false, if_neg Bool.false_ne_true, ih]
    rfl
  | @escape letter text _ _ ih =>
    have hpair : ∀ text, scanBody false (backslash :: letter :: text) =
        (scanBody false text).map fun (body, rest) => (backslash :: letter :: body, rest) := by
      intro text
      cases hscan : scanBody false text <;> simp [JsonStrings.scanBody, hscan] <;> decide
    rw [List.cons_append, List.cons_append, hpair, ih]
    rfl

/-- A text without bytes that want an escape is a body that stands for itself. -/
theorem of_plain (h : ∀ byte ∈ text, byte ≠ backslash ∧ ¬(byte = quote ∨ byte < 0x20)) :
    IsBody text ∧ decodeBody text = some text := by
  constructor
  · induction text with
    | nil => exact .nil
    | cons byte text ih =>
      obtain ⟨⟨hbackslash, hplain⟩, htext⟩ := List.forall_mem_cons.mp h
      obtain ⟨hquote, hcontrol⟩ := not_or.mp hplain
      exact .plain (UInt8.not_lt.mp hcontrol) hquote hbackslash (ih htext)
  · have hletters : letterFraming.Cuts (text.flatMap fun byte => [byte])
        (text.flatMap fun byte => [[byte]]) :=
      .flatMap fun byte hbyte => cuts_plain (h byte hbyte).1 (h byte hbyte).2
    rw [List.flatMap_singleton'] at hletters
    exact decodeBody_of_cuts hletters

end IsBody

/-! ### Texts with strings in them -/

theorem scanBody_length {escaped : Bool} {text body rest : List UInt8}
    (h : scanBody escaped text = some (body, rest)) : rest.length < text.length := by
  induction text generalizing escaped body with
  | nil => cases h
  | cons byte text ih =>
    rw [scanBody] at h
    split at h
    · cases h
      exact Nat.lt_succ_self _
    · obtain ⟨⟨body, rest⟩, htext, heq⟩ := Option.map_eq_some_iff.mp h
      cases heq
      exact Nat.lt_succ_of_lt (ih htext)

theorem scanBody_append {escaped : Bool} {text body rest : List UInt8}
    (h : scanBody escaped text = some (body, rest)) (more : List UInt8) :
    scanBody escaped (text ++ more) = some (body, rest ++ more) := by
  induction text generalizing escaped body with
  | nil => cases h
  | cons byte text ih =>
    rw [scanBody] at h
    rw [List.cons_append, scanBody]
    split at h
    next hquote =>
      cases h
      rw [if_pos hquote]
    next hquote =>
      obtain ⟨⟨body, rest⟩, htext, heq⟩ := Option.map_eq_some_iff.mp h
      cases heq
      rw [if_neg hquote, ih htext]
      rfl

/-- A byte outside of strings, or a string with its value. -/
inductive Token
  | byte (byte : UInt8)
  | string (value : List UInt8)
deriving DecidableEq, Repr

/-- The first token of a text, and what is behind it. -/
def nextToken : List UInt8 → Option (Token × List UInt8)
  | [] => none
  | byte :: text =>
    if byte = quote then do
      let (body, rest) ← scanBody false text
      let value ← decodeBody body
      some (.string value, rest)
    else some (.byte byte, text)

theorem nextToken_quote {text rest : List UInt8} {token : Token} :
    nextToken (quote :: text) = some (token, rest) ↔
      ∃ body value, scanBody false text = some (body, rest) ∧ decodeBody body = some value ∧
        token = .string value := by
  rw [nextToken, if_pos rfl]
  constructor
  · intro h
    obtain ⟨⟨body, rest⟩, hscan, h⟩ := Option.bind_eq_some_iff.mp h
    obtain ⟨value, hvalue, heq⟩ := Option.bind_eq_some_iff.mp h
    cases heq
    exact ⟨body, value, hscan, hvalue, rfl⟩
  · rintro ⟨body, value, hscan, hvalue, rfl⟩
    exact Option.bind_eq_some_iff.mpr
      ⟨_, hscan, Option.bind_eq_some_iff.mpr ⟨value, hvalue, rfl⟩⟩

/-- The tokens of a text. -/
def tokenFraming : Framing UInt8 Token where
  next := nextToken
  length_lt := by
    intro text token rest h
    cases text with
    | nil => cases h
    | cons byte text =>
      by_cases hquote : byte = quote
      · subst hquote
        obtain ⟨body, value, hscan, -⟩ := nextToken_quote.mp h
        exact Nat.lt_succ_of_lt (scanBody_length hscan)
      · rw [nextToken, if_neg hquote] at h
        cases h
        exact Nat.lt_succ_self _
  next_append := by
    intro text token rest h more
    cases text with
    | nil => cases h
    | cons byte text =>
      by_cases hquote : byte = quote
      · subst hquote
        obtain ⟨body, value, hscan, hvalue, htoken⟩ := nextToken_quote.mp h
        exact nextToken_quote.mpr ⟨body, value, scanBody_append hscan more, hvalue, htoken⟩
      · rw [nextToken, if_neg hquote] at h
        cases h
        rw [List.cons_append, nextToken, if_neg hquote]

/-- A text without quotes is read byte by byte. -/
theorem cuts_bytes {text : List UInt8} (h : quote ∉ text) :
    tokenFraming.Cuts text (text.map .byte) := by
  induction text with
  | nil => exact .nil
  | cons byte text ih =>
    obtain ⟨hbyte, htext⟩ := not_or.mp (mt List.mem_cons.mpr h)
    have hfirst : tokenFraming.Cuts [byte] [.byte byte] :=
      Framing.Cuts.of_next fun more => if_neg (Ne.symm hbyte)
    exact hfirst.append (ih htext)

/-- A body in quotes is read as its value. -/
theorem cuts_string {body value : List UInt8} (h : IsBody body)
    (hvalue : decodeBody body = some value) :
    tokenFraming.Cuts (quote :: body ++ [quote]) [.string value] := by
  refine Framing.Cuts.of_next fun more => nextToken_quote.mpr ⟨body, value, ?_, hvalue, rfl⟩
  change scanBody false (body ++ [quote] ++ more) = _
  rw [List.append_assoc, List.singleton_append, h.scanBody]

end Ros2Dispatcher.JsonStrings
