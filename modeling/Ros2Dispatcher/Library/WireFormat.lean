import Ros2Dispatcher.Library.BigEndian

/-!
# Wire formats

A `WireFormat` writes values as bytes and reads a value off the front of some bytes. Its laws
are fields: a value that fits is read back whatever follows it (`parse_encode`), and what is
read fits and was written as the bytes that are gone (`of_parse`). So a format is read in one
way only, and a combinator builds a format together with its laws:

* `int`, `nat`: integers in a fixed number of bytes;
* `pair`, `optional`, `iso`: a sequence, a field of some versions, another representation;
* `string`: bytes behind their number;
* `array`: values behind their number.
-/

namespace Ros2Dispatcher

open BigEndian

structure WireFormat (α : Type) where
  encode : α → List UInt8
  /-- The values that can be written. -/
  Fits : α → Prop
  parse : List UInt8 → Option (α × List UInt8)
  parse_encode : ∀ {a}, Fits a → ∀ rest, parse (encode a ++ rest) = some (a, rest)
  of_parse : ∀ {bytes a rest}, parse bytes = some (a, rest) → Fits a ∧ bytes = encode a ++ rest

namespace WireFormat

variable {α β : Type}

/-- Two values are written alike, whatever follows them, only if they are the same. -/
theorem encode_append_inj (f : WireFormat α) {a b : α} {rest rest' : List UInt8} (ha : f.Fits a)
    (hb : f.Fits b) (h : f.encode a ++ rest = f.encode b ++ rest') : a = b ∧ rest = rest' := by
  have hparse : some (a, rest) = some (b, rest') := by
    rw [← f.parse_encode ha rest, h, f.parse_encode hb]
  exact Prod.ext_iff.mp (Option.some.inj hparse)

/-- The bytes of a value that fits are read completely. -/
theorem parse_encode_nil (f : WireFormat α) {a : α} (ha : f.Fits a) :
    f.parse (f.encode a) = some (a, []) := by
  have h := f.parse_encode ha []
  rwa [List.append_nil] at h

/-! ### Fixed sizes -/

/-- The first `n` bytes and the others. -/
def takeBytes (n : Nat) (bytes : List UInt8) : Option (List UInt8 × List UInt8) :=
  if n ≤ bytes.length then some (bytes.take n, bytes.drop n) else none

theorem takeBytes_append {n : Nat} {bytes rest : List UInt8} (h : bytes.length = n) :
    takeBytes n (bytes ++ rest) = some (bytes, rest) := by
  have hle : n ≤ (bytes ++ rest).length := by
    rw [List.length_append, h]
    exact Nat.le_add_right _ _
  rw [takeBytes, if_pos hle, List.take_left' h, List.drop_left' h]

theorem of_takeBytes {n : Nat} {bytes taken rest : List UInt8}
    (h : takeBytes n bytes = some (taken, rest)) : taken.length = n ∧ bytes = taken ++ rest := by
  obtain ⟨hle, h⟩ := Option.ite_none_right_eq_some.mp h
  cases h
  exact ⟨List.length_take_of_le hle, (List.take_append_drop n bytes).symm⟩

/-- An integer of `width` bytes. -/
def int (width : Nat) : WireFormat Int where
  encode := ofInt width
  Fits := InRange width
  parse bytes := (takeBytes width bytes).map fun (taken, rest) => (toInt taken, rest)
  parse_encode h rest := by
    rw [takeBytes_append length_ofInt]
    exact congrArg (fun i => some (i, rest)) (toInt_ofInt h)
  of_parse h := by
    obtain ⟨⟨taken, rest⟩, htaken, h⟩ := Option.map_eq_some_iff.mp h
    cases h
    obtain ⟨rfl, rfl⟩ := of_takeBytes htaken
    exact ⟨inRange_toInt, by rw [ofInt_toInt]⟩

/-- A natural number of `width` bytes. -/
def nat (width : Nat) : WireFormat Nat where
  encode := ofNat width
  Fits n := n < 256 ^ width
  parse bytes := (takeBytes width bytes).map fun (taken, rest) => (toNat taken, rest)
  parse_encode h rest := by
    rw [takeBytes_append length_ofNat]
    exact congrArg (fun n => some (n, rest)) (toNat_ofNat.trans (Nat.mod_eq_of_lt h))
  of_parse h := by
    obtain ⟨⟨taken, rest⟩, htaken, h⟩ := Option.map_eq_some_iff.mp h
    cases h
    obtain ⟨rfl, rfl⟩ := of_takeBytes htaken
    exact ⟨toNat_lt, by rw [ofNat_toNat]⟩

/-! ### Sequences -/

/-- One value after the other. -/
def pair (f : WireFormat α) (g : WireFormat β) : WireFormat (α × β) where
  encode x := f.encode x.1 ++ g.encode x.2
  Fits x := f.Fits x.1 ∧ g.Fits x.2
  parse bytes := (f.parse bytes).bind fun (a, bytes) =>
    (g.parse bytes).map fun (b, rest) => ((a, b), rest)
  parse_encode h rest := by
    rw [List.append_assoc, f.parse_encode h.1, Option.bind_some]
    dsimp only
    rw [g.parse_encode h.2, Option.map_some]
  of_parse h := by
    obtain ⟨⟨a, middle⟩, ha, h⟩ := Option.bind_eq_some_iff.mp h
    obtain ⟨⟨b, rest⟩, hb, h⟩ := Option.map_eq_some_iff.mp h
    cases h
    obtain ⟨hfits, rfl⟩ := f.of_parse ha
    obtain ⟨hfits', rfl⟩ := g.of_parse hb
    exact ⟨⟨hfits, hfits'⟩, (List.append_assoc _ _ _).symm⟩

/-- A value that is there or not, as both sides know. -/
def optional (present : Bool) (f : WireFormat α) : WireFormat (Option α) where
  encode x := x.elim [] f.encode
  Fits x := x.isSome = present ∧ ∀ a ∈ x, f.Fits a
  parse bytes :=
    if present then (f.parse bytes).map fun (a, rest) => (some a, rest) else some (none, bytes)
  parse_encode {x} h rest := by
    obtain ⟨rfl, h⟩ := h
    cases x with
    | none => rfl
    | some a =>
      rw [Option.isSome_some, if_pos rfl, Option.elim_some, f.parse_encode (h a rfl),
        Option.map_some]
  of_parse h := by
    cases present with
    | false =>
      cases h
      exact ⟨⟨rfl, nofun⟩, rfl⟩
    | true =>
      obtain ⟨⟨a, rest⟩, ha, h⟩ := Option.map_eq_some_iff.mp h
      cases h
      obtain ⟨hfits, rfl⟩ := f.of_parse ha
      exact ⟨⟨rfl, fun b hb => Option.some.inj hb ▸ hfits⟩, rfl⟩

/-- The same bytes for another type. -/
def iso (f : WireFormat α) (toRaw : β → α) (ofRaw : α → β) (ofRaw_toRaw : ∀ b, ofRaw (toRaw b) = b)
    (toRaw_ofRaw : ∀ a, toRaw (ofRaw a) = a) : WireFormat β where
  encode b := f.encode (toRaw b)
  Fits b := f.Fits (toRaw b)
  parse bytes := (f.parse bytes).map fun (a, rest) => (ofRaw a, rest)
  parse_encode h rest := by
    rw [f.parse_encode h]
    exact congrArg (fun b => some (b, rest)) (ofRaw_toRaw _)
  of_parse h := by
    obtain ⟨⟨a, rest⟩, ha, h⟩ := Option.map_eq_some_iff.mp h
    cases h
    rw [toRaw_ofRaw]
    exact f.of_parse ha

/-! ### Counted sequences -/

/-- Bytes behind their number, which takes `width` bytes. -/
def string (width : Nat) : WireFormat (List UInt8) where
  encode bytes := ofInt width bytes.length ++ bytes
  Fits bytes := InRange width bytes.length
  parse bytes := ((int width).parse bytes).bind fun (n, bytes) =>
    if 0 ≤ n then takeBytes n.toNat bytes else none
  parse_encode {bytes} h rest := by
    have hparse : (int width).parse (ofInt width bytes.length ++ (bytes ++ rest)) = _ :=
      (int width).parse_encode h (bytes ++ rest)
    rw [List.append_assoc, hparse, Option.bind_some]
    dsimp only
    rw [if_pos (Int.natCast_nonneg _), Int.toNat_natCast]
    exact takeBytes_append rfl
  of_parse {bytes taken rest} h := by
    obtain ⟨⟨n, after⟩, hn, hsome⟩ := Option.bind_eq_some_iff.mp h
    obtain ⟨hpos, htaken⟩ := Option.ite_none_right_eq_some.mp hsome
    obtain ⟨hfits, hbytes⟩ := (int width).of_parse hn
    obtain ⟨hlength, rfl⟩ := of_takeBytes htaken
    have hn : (taken.length : Int) = n :=
      (congrArg Int.ofNat hlength).trans (Int.toNat_of_nonneg hpos)
    refine ⟨hn ▸ hfits, ?_⟩
    rw [hbytes, hn, List.append_assoc]
    rfl

/-- `n` values, one after the other. -/
def parseItems (f : WireFormat α) : Nat → List UInt8 → Option (List α × List UInt8)
  | 0, bytes => some ([], bytes)
  | n + 1, bytes => (f.parse bytes).bind fun (a, bytes) =>
    (parseItems f n bytes).map fun (as, rest) => (a :: as, rest)

theorem parseItems_flatMap {f : WireFormat α} {items : List α} (h : ∀ a ∈ items, f.Fits a)
    (rest : List UInt8) :
    parseItems f items.length (items.flatMap f.encode ++ rest) = some (items, rest) := by
  induction items with
  | nil => rfl
  | cons a items ih =>
    obtain ⟨ha, hitems⟩ := List.forall_mem_cons.mp h
    rw [List.length_cons, parseItems, List.flatMap_cons, List.append_assoc, f.parse_encode ha,
      Option.bind_some]
    dsimp only
    rw [ih hitems, Option.map_some]

theorem of_parseItems {f : WireFormat α} {n : Nat} {bytes rest : List UInt8} {items : List α}
    (h : parseItems f n bytes = some (items, rest)) :
    items.length = n ∧ (∀ a ∈ items, f.Fits a) ∧ bytes = items.flatMap f.encode ++ rest := by
  induction n generalizing bytes items with
  | zero =>
    cases h
    exact ⟨rfl, nofun, rfl⟩
  | succ n ih =>
    obtain ⟨⟨a, middle⟩, ha, h⟩ := Option.bind_eq_some_iff.mp h
    obtain ⟨⟨items, rest⟩, hitems, h⟩ := Option.map_eq_some_iff.mp h
    cases h
    obtain ⟨hfits, rfl⟩ := f.of_parse ha
    obtain ⟨rfl, hall, rfl⟩ := ih hitems
    exact ⟨rfl, List.forall_mem_cons.mpr ⟨hfits, hall⟩, by
      rw [List.flatMap_cons, List.append_assoc]⟩

/-- As many values are written alike, whatever follows them, only if they are the same. -/
theorem flatMap_append_inj {f : WireFormat α} {items items' : List α} {rest rest' : List UInt8}
    (hlength : items.length = items'.length) (hitems : ∀ a ∈ items, f.Fits a)
    (hitems' : ∀ a ∈ items', f.Fits a)
    (h : items.flatMap f.encode ++ rest = items'.flatMap f.encode ++ rest') :
    items = items' ∧ rest = rest' := by
  have hparse : some (items, rest) = some (items', rest') := by
    rw [← parseItems_flatMap hitems rest, h, hlength, parseItems_flatMap hitems']
  exact Prod.ext_iff.mp (Option.some.inj hparse)

/-- Values behind their number, which takes `width` bytes. -/
def array (width : Nat) (f : WireFormat α) : WireFormat (List α) where
  encode items := ofInt width items.length ++ items.flatMap f.encode
  Fits items := InRange width items.length ∧ ∀ a ∈ items, f.Fits a
  parse bytes := ((int width).parse bytes).bind fun (n, bytes) =>
    if 0 ≤ n then parseItems f n.toNat bytes else none
  parse_encode {items} h rest := by
    have hparse : (int width).parse (ofInt width items.length ++ (items.flatMap f.encode ++ rest)) =
        _ := (int width).parse_encode h.1 (items.flatMap f.encode ++ rest)
    rw [List.append_assoc, hparse, Option.bind_some]
    dsimp only
    rw [if_pos (Int.natCast_nonneg _), Int.toNat_natCast]
    exact parseItems_flatMap h.2 rest
  of_parse {bytes items rest} h := by
    obtain ⟨⟨n, after⟩, hn, hsome⟩ := Option.bind_eq_some_iff.mp h
    obtain ⟨hpos, hitems⟩ := Option.ite_none_right_eq_some.mp hsome
    obtain ⟨hfits, hbytes⟩ := (int width).of_parse hn
    obtain ⟨hlength, hall, rfl⟩ := of_parseItems hitems
    have hn : (items.length : Int) = n :=
      (congrArg Int.ofNat hlength).trans (Int.toNat_of_nonneg hpos)
    refine ⟨⟨hn ▸ hfits, hall⟩, ?_⟩
    rw [hbytes, hn, List.append_assoc]
    rfl

end WireFormat

end Ros2Dispatcher
