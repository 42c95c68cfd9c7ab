import Ros2Dispatcher.Library.Json

/-!
# A text format for JSON

`plain` prints a JSON value without blanks and reads such texts back. Its texts are JSON for
values without doubles and without control characters in strings: a double is written by its
bits, and of a string only the quotes and backslashes are escaped.

* `parseValue_print`: a value is read back from its text, whatever follows that is no number.
* `plain_lawful`: `plain` is a lawful text format.
-/

namespace Ros2Dispatcher.Json

/-- The UTF-8 of a string. -/
def bytes (s : String) : List UInt8 :=
  s.toUTF8.data.toList

@[simp]
theorem utf8?_bytes (s : String) : utf8? (bytes s) = some s :=
  dif_pos s.isValidUTF8

/-- The string of UTF-8 bytes has these bytes. -/
theorem bytes_of_utf8? {text : List UInt8} {s : String} (h : utf8? text = some s) :
    bytes s = text := by
  unfold utf8? String.fromUTF8? at h
  obtain ⟨hvalid, hs⟩ := Option.dite_none_right_eq_some.mp h
  rw [← Option.some.inj hs]
  rfl

/-! ### Printing -/

/-- The characters of a string between its quotes. -/
def printChars : List Char → List Char
  | [] => []
  | c :: chars =>
    if c = '"' || c = '\\' then '\\' :: c :: printChars chars else c :: printChars chars

/-- A string in quotes. -/
def printString (s : String) : List Char :=
  '"' :: printChars s.toList ++ ['"']

def printInt (value : Int) : List Char :=
  (if value < 0 then ['-'] else []) ++ Nat.toDigits 10 value.natAbs

def printDouble (x : Double) : List Char :=
  (if x.negative then ['-'] else []) ++ Nat.toDigits 10 x.exponent ++
    '.' :: Nat.toDigits 10 x.fraction

mutual

/-- The text of a value. -/
def printValue : Json String → List Char
  | null => ['n', 'u', 'l', 'l']
  | bool true => ['t', 'r', 'u', 'e']
  | bool false => ['f', 'a', 'l', 's', 'e']
  | int value => printInt value
  | float value => printDouble value
  | string value => printString value
  | array [] => ['[', ']']
  | array (item :: items) => '[' :: printValue item ++ printItems items
  | object [] => ['{', '}']
  | object ((name, value) :: members) =>
    '{' :: printString name ++ ':' :: printValue value ++ printMembers members

/-- The rest of an array, from the comma on. -/
def printItems : List (Json String) → List Char
  | [] => [']']
  | item :: items => ',' :: printValue item ++ printItems items

/-- The rest of an object, from the comma on. -/
def printMembers : List (String × Json String) → List Char
  | [] => ['}']
  | (name, value) :: members =>
    ',' :: printString name ++ ':' :: printValue value ++ printMembers members

end

/-! ### Parsing -/

/-- The characters up to the closing quote, and what follows it. -/
def parseChars : List Char → Option (List Char × List Char)
  | [] => none
  | '\\' :: c :: text => (parseChars text).map fun (chars, rest) => (c :: chars, rest)
  | c :: text =>
    if c = '"' then some ([], text)
    else (parseChars text).map fun (chars, rest) => (c :: chars, rest)

def parseString : List Char → Option (String × List Char)
  | '"' :: text => (parseChars text).map fun (chars, rest) => (String.ofList chars, rest)
  | _ => none

/-- The digits at the start of a text, of which there is at least one. -/
def parseNat (text : List Char) : Option (Nat × List Char) :=
  let digits := text.takeWhile Char.isDigit
  if digits = [] then none
  else some (Nat.ofDigitChars 10 digits 0, text.dropWhile Char.isDigit)

/-- A number after its sign. -/
def parseNumber (negative : Bool) (text : List Char) : Option (Json String × List Char) := do
  let (value, rest) ← parseNat text
  match rest with
  | '.' :: rest =>
    let (fraction, rest) ← parseNat rest
    if h : value < 2047 ∧ fraction < 2 ^ 52 then
      return (float ⟨negative, ⟨value, h.1⟩, ⟨fraction, h.2⟩⟩, rest)
    else none
  | rest => return (int (if negative then -value else value), rest)

mutual

/-- The value at the start of a text, with as many steps as the text has characters. -/
def parseValue : Nat → List Char → Option (Json String × List Char)
  | fuel + 1, c :: text =>
    if c.isDigit then parseNumber false (c :: text)
    else
      match c, text with
      | '-', text => parseNumber true text
      | 'n', 'u' :: 'l' :: 'l' :: rest => some (null, rest)
      | 't', 'r' :: 'u' :: 'e' :: rest => some (bool true, rest)
      | 'f', 'a' :: 'l' :: 's' :: 'e' :: rest => some (bool false, rest)
      | '"', text => (parseString ('"' :: text)).map fun (s, rest) => (string s, rest)
      | '[', ']' :: rest => some (array [], rest)
      | '[', text => do
        let (item, rest) ← parseValue fuel text
        let (items, rest) ← parseItems fuel rest
        return (array (item :: items), rest)
      | '{', '}' :: rest => some (object [], rest)
      | '{', text => do
        let (member, rest) ← parseMember fuel text
        let (members, rest) ← parseMembers fuel rest
        return (object (member :: members), rest)
      | _, _ => none
  | _, _ => none

/-- The rest of an array. -/
def parseItems : Nat → List Char → Option (List (Json String) × List Char)
  | _ + 1, ']' :: rest => some ([], rest)
  | fuel + 1, ',' :: text => do
    let (item, rest) ← parseValue fuel text
    let (items, rest) ← parseItems fuel rest
    return (item :: items, rest)
  | _, _ => none

/-- The rest of an object. -/
def parseMembers : Nat → List Char → Option (List (String × Json String) × List Char)
  | _ + 1, '}' :: rest => some ([], rest)
  | fuel + 1, ',' :: text => do
    let (member, rest) ← parseMember fuel text
    let (members, rest) ← parseMembers fuel rest
    return (member :: members, rest)
  | _, _ => none

def parseMember : Nat → List Char → Option ((String × Json String) × List Char)
  | fuel + 1, text => do
    let (name, rest) ← parseString text
    match rest with
    | ':' :: text =>
      let (value, rest) ← parseValue fuel text
      return ((name, value), rest)
    | _ => none
  | 0, _ => none

end

/-- The text format. -/
def plain : Codec where
  print j := bytes (String.ofList (printValue j))
  parse text := do
    let s ← utf8? text
    let (j, rest) ← parseValue (s.toList.length + 1) s.toList
    if rest.isEmpty && j.wellFormed then return j else none

/-! ### Reading back -/

@[simp]
theorem parseChars_print (chars rest : List Char) :
    parseChars (printChars chars ++ '"' :: rest) = some (chars, rest) := by
  induction chars with
  | nil => simp [printChars, parseChars]
  | cons c chars ih =>
    unfold printChars
    split
    · simp [parseChars, ih]
    next hplain =>
      obtain ⟨hquote, hslash⟩ : c ≠ '"' ∧ c ≠ '\\' := by simpa using hplain
      simp [parseChars, hquote, hslash, ih]

@[simp]
theorem parseString_print (s : String) (rest : List Char) :
    parseString (printString s ++ rest) = some (s, rest) := by
  simp [printString, parseString]

/-- A text that does not go on with a number. -/
def Delimited (rest : List Char) : Prop :=
  ∀ c ∈ rest.head?, c.isDigit = false ∧ c ≠ '.'

theorem isDigit_of_mem_toDigits {n : Nat} {c : Char} (hc : c ∈ Nat.toDigits 10 n) :
    c.isDigit = true :=
  Nat.isDigit_of_mem_toDigits (by decide) (by decide) hc

theorem parseNat_print {n : Nat} {rest : List Char}
    (hrest : ∀ c ∈ rest.head?, c.isDigit = false) :
    parseNat (Nat.toDigits 10 n ++ rest) = some (n, rest) := by
  have hdigits : ∀ c ∈ Nat.toDigits 10 n, c.isDigit = true := fun c => isDigit_of_mem_toDigits
  have htake : rest.takeWhile Char.isDigit = [] := by
    cases rest with
    | nil => rfl
    | cons c rest => simp [hrest c rfl]
  have hdrop : rest.dropWhile Char.isDigit = rest := by
    cases rest with
    | nil => rfl
    | cons c rest => simp [hrest c rfl]
  simp [parseNat, List.takeWhile_append_of_pos hdigits, List.dropWhile_append_of_pos hdigits,
    htake, hdrop, Nat.toDigits_ne_nil]

theorem parseNumber_int {negative : Bool} {n : Nat} {rest : List Char} (hrest : Delimited rest) :
    parseNumber negative (Nat.toDigits 10 n ++ rest) =
      some (int (if negative then -n else n), rest) := by
  rw [parseNumber, parseNat_print fun c hc => (hrest c hc).1]
  cases rest with
  | nil => rfl
  | cons c rest =>
    have hpoint : c ≠ '.' := (hrest c rfl).2
    simp [hpoint]

theorem parseNumber_double {negative : Bool} {exponent : Fin 2047} {fraction : Fin (2 ^ 52)}
    {rest : List Char} (hrest : Delimited rest) :
    parseNumber negative
        (Nat.toDigits 10 exponent ++ '.' :: (Nat.toDigits 10 fraction ++ rest)) =
      some (float ⟨negative, exponent, fraction⟩, rest) := by
  have hpoint : ∀ c ∈ ('.' :: (Nat.toDigits 10 fraction ++ rest)).head?, c.isDigit = false := by
    simp
  rw [parseNumber, parseNat_print hpoint]
  simp [parseNat_print fun c hc => (hrest c hc).1]

/-- A number without its sign starts with a digit. -/
theorem parseValue_toDigits (fuel n : Nat) (rest : List Char) :
    parseValue (fuel + 1) (Nat.toDigits 10 n ++ rest) =
      parseNumber false (Nat.toDigits 10 n ++ rest) := by
  cases hdigits : Nat.toDigits 10 n with
  | nil => exact absurd hdigits Nat.toDigits_ne_nil
  | cons c digits =>
    have hc : c.isDigit = true := isDigit_of_mem_toDigits (hdigits ▸ List.mem_cons_self)
    simp [parseValue, hc]

theorem parseValue_minus (fuel : Nat) (text : List Char) :
    parseValue (fuel + 1) ('-' :: text) = parseNumber true text := by
  simp [parseValue]

theorem parseValue_printInt {fuel : Nat} {value : Int} {rest : List Char}
    (hrest : Delimited rest) :
    parseValue (fuel + 1) (printInt value ++ rest) = some (int value, rest) := by
  unfold printInt
  split
  next hnegative =>
    have hvalue : -(value.natAbs : Int) = value := by omega
    rw [List.append_assoc, List.singleton_append, parseValue_minus, parseNumber_int hrest,
      if_pos rfl, hvalue]
  next hnonnegative =>
    have hvalue : (value.natAbs : Int) = value := by omega
    rw [List.nil_append, parseValue_toDigits, parseNumber_int hrest,
      if_neg Bool.false_ne_true, hvalue]

theorem parseValue_printDouble {fuel : Nat} {x : Double} {rest : List Char}
    (hrest : Delimited rest) :
    parseValue (fuel + 1) (printDouble x ++ rest) = some (float x, rest) := by
  obtain ⟨negative, exponent, fraction⟩ := x
  cases negative with
  | true => simp [printDouble, parseValue_minus, parseNumber_double hrest]
  | false =>
    have hnumber := parseValue_toDigits fuel exponent ('.' :: (Nat.toDigits 10 fraction ++ rest))
    simpa [printDouble, parseNumber_double hrest] using hnumber

/-- A value can be read back from its text, with as many steps as that has characters. -/
def ReadsBack (j : Json String) : Prop :=
  ∀ fuel rest, (printValue j).length < fuel → Delimited rest →
    parseValue fuel (printValue j ++ rest) = some (j, rest)

theorem delimited_printItems (items : List (Json String)) (rest : List Char) :
    Delimited (printItems items ++ rest) := by
  cases items <;> simp [Delimited, printItems]

theorem delimited_printMembers (members : List (String × Json String)) (rest : List Char) :
    Delimited (printMembers members ++ rest) := by
  cases members with
  | nil => simp [Delimited, printMembers]
  | cons member members => simp [Delimited, printMembers]

/-- No value starts with a closing bracket. -/
theorem printValue_head (j : Json String) :
    ∃ c text, printValue j = c :: text ∧ c ≠ ']' := by
  have hdigits : ∀ n tail, ∃ c text, Nat.toDigits 10 n ++ tail = c :: text ∧ c ≠ ']' := by
    intro n tail
    cases hn : Nat.toDigits 10 n with
    | nil => exact absurd hn Nat.toDigits_ne_nil
    | cons c digits =>
      refine ⟨c, digits ++ tail, rfl, fun hc => ?_⟩
      have hdigit : c.isDigit = true := isDigit_of_mem_toDigits (hn ▸ List.mem_cons_self)
      subst hc
      exact absurd hdigit (by decide)
  cases j with
  | null => exact ⟨_, _, rfl, by decide⟩
  | bool value => cases value <;> exact ⟨_, _, rfl, by decide⟩
  | int value =>
    rw [printValue, printInt]
    split
    · exact ⟨_, _, rfl, by decide⟩
    · simpa using hdigits value.natAbs []
  | float value =>
    rw [printValue, printDouble]
    split
    · exact ⟨_, _, rfl, by decide⟩
    · simpa using hdigits value.exponent ('.' :: Nat.toDigits 10 value.fraction)
  | string value => exact ⟨_, _, rfl, by decide⟩
  | array items => cases items <;> exact ⟨_, _, rfl, by decide⟩
  | object members =>
    cases members with
    | nil => exact ⟨_, _, rfl, by decide⟩
    | cons member members => exact ⟨_, _, rfl, by decide⟩

theorem parseItems_print {items : List (Json String)} (hitems : ∀ item ∈ items, ReadsBack item)
    {fuel : Nat} (rest : List Char) (hfuel : (printItems items).length < fuel) :
    parseItems fuel (printItems items ++ rest) = some (items, rest) := by
  induction items generalizing fuel with
  | nil =>
    obtain ⟨fuel, rfl⟩ := Nat.exists_eq_add_of_lt hfuel
    simp [printItems, parseItems]
  | cons item items ih =>
    obtain ⟨hitem, hitems⟩ := List.forall_mem_cons.mp hitems
    simp only [printItems, List.cons_append, List.length_cons, List.length_append] at hfuel
    obtain ⟨fuel, rfl⟩ := Nat.exists_eq_add_of_le' (by omega : 1 ≤ fuel)
    have hvalue := hitem fuel _ (by omega) (delimited_printItems items rest)
    simp [printItems, parseItems, hvalue, ih hitems (by omega : (printItems items).length < fuel)]

theorem parseMember_print (name : String) {value : Json String} (hvalue : ReadsBack value)
    {fuel : Nat} {rest : List Char} (hrest : Delimited rest)
    (hfuel : (printValue value).length + 1 < fuel) :
    parseMember fuel (printString name ++ ':' :: (printValue value ++ rest)) =
      some ((name, value), rest) := by
  obtain ⟨fuel, rfl⟩ := Nat.exists_eq_add_of_le' (by omega : 1 ≤ fuel)
  simp [parseMember, hvalue fuel rest (by omega) hrest]

theorem parseMembers_print {members : List (String × Json String)}
    (hmembers : ∀ member ∈ members, ReadsBack member.2) {fuel : Nat} (rest : List Char)
    (hfuel : (printMembers members).length < fuel) :
    parseMembers fuel (printMembers members ++ rest) = some (members, rest) := by
  induction members generalizing fuel with
  | nil =>
    obtain ⟨fuel, rfl⟩ := Nat.exists_eq_add_of_lt hfuel
    simp [printMembers, parseMembers]
  | cons member members ih =>
    obtain ⟨name, value⟩ := member
    obtain ⟨hvalue, hmembers⟩ := List.forall_mem_cons.mp hmembers
    simp only [printMembers, List.cons_append, List.length_cons, List.length_append] at hfuel
    obtain ⟨fuel, rfl⟩ := Nat.exists_eq_add_of_le' (by omega : 1 ≤ fuel)
    have hmember := parseMember_print name hvalue
      (delimited_printMembers members rest) (by omega : (printValue value).length + 1 < fuel)
    simp [printMembers, parseMembers, hmember,
      ih hmembers (by omega : (printMembers members).length < fuel)]

/-- **A value is read back from its text**, by induction over the value. -/
theorem parseValue_print (j : Json String) : ReadsBack j := by
  induction j with
  | null =>
    intro fuel rest hfuel _
    obtain ⟨fuel, rfl⟩ := Nat.exists_eq_add_of_lt hfuel
    simp [printValue, parseValue]
  | bool value =>
    intro fuel rest hfuel _
    obtain ⟨fuel, rfl⟩ := Nat.exists_eq_add_of_lt hfuel
    cases value <;> simp [printValue, parseValue]
  | int value =>
    intro fuel rest hfuel hrest
    obtain ⟨fuel, rfl⟩ := Nat.exists_eq_add_of_lt hfuel
    rw [printValue, parseValue_printInt hrest]
  | float value =>
    intro fuel rest hfuel hrest
    obtain ⟨fuel, rfl⟩ := Nat.exists_eq_add_of_lt hfuel
    rw [printValue, parseValue_printDouble hrest]
  | string value =>
    intro fuel rest hfuel _
    obtain ⟨fuel, rfl⟩ := Nat.exists_eq_add_of_lt hfuel
    have hstring : parseString ('"' :: (printChars value.toList ++ '"' :: rest)) =
        some (value, rest) := by
      simp [parseString]
    simp [printValue, printString, parseValue, hstring]
  | array items ih =>
    intro fuel rest hfuel _
    cases items with
    | nil =>
      obtain ⟨fuel, rfl⟩ := Nat.exists_eq_add_of_lt hfuel
      simp [printValue, parseValue]
    | cons item items =>
      obtain ⟨hitem, hitems⟩ := List.forall_mem_cons.mp ih
      simp only [printValue, List.cons_append, List.length_cons, List.length_append] at hfuel
      obtain ⟨fuel, rfl⟩ := Nat.exists_eq_add_of_le' (by omega : 1 ≤ fuel)
      have hvalue := hitem fuel _ (by omega) (delimited_printItems items rest)
      have hrest := parseItems_print hitems rest
        (by omega : (printItems items).length < fuel)
      -- the first item does not look like the end of the array
      obtain ⟨c, text, hhead, hc⟩ := printValue_head item
      rw [hhead] at hvalue
      simp only [List.cons_append] at hvalue
      simp [printValue, parseValue, hhead, hc, hvalue, hrest]
  | object members ih =>
    intro fuel rest hfuel _
    cases members with
    | nil =>
      obtain ⟨fuel, rfl⟩ := Nat.exists_eq_add_of_lt hfuel
      simp [printValue, parseValue]
    | cons member members =>
      obtain ⟨name, value⟩ := member
      obtain ⟨hvalue, hmembers⟩ := List.forall_mem_cons.mp ih
      simp only [printValue, List.cons_append, List.length_cons, List.length_append] at hfuel
      obtain ⟨fuel, rfl⟩ := Nat.exists_eq_add_of_le' (by omega : 1 ≤ fuel)
      have hmember := parseMember_print name hvalue
        (delimited_printMembers members rest) (by omega : (printValue value).length + 1 < fuel)
      have hrest := parseMembers_print hmembers rest
        (by omega : (printMembers members).length < fuel)
      simp only [printString, List.cons_append, List.append_assoc, List.nil_append] at hmember
      simp [printValue, printString, parseValue, hmember, hrest]

theorem plain_lawful : plain.Lawful where
  parse_print j hj := by
    have hread := parseValue_print j ((printValue j).length + 1) [] (by omega) (by simp [Delimited])
    rw [List.append_nil] at hread
    simp [plain, hread, hj]
  wellFormed_parse text j h := by
    simp only [plain, bind, Option.bind_eq_some_iff] at h
    obtain ⟨s, -, ⟨j', rest⟩, -, h⟩ := h
    split at h
    next hchecks =>
      obtain rfl := Option.some.inj h
      exact (Bool.and_eq_true_iff.mp hchecks).2
    · cases h

end Ros2Dispatcher.Json
