import Ros2Dispatcher.Library.JsonText

/-!
# Rewriting a JSON payload

Before a sink hands a JSON payload on, it edits it: both sinks put in the envelope `_ts` with
the times of the message, and `mosquitto_sink` before that its message key as
`header.frame_id`. Each time the payload is parsed, edited and printed again.

* `applyTsEnvelopeToJson_iff`: the envelope does what its comment says unless the payload is a
  JSON value it did not expect, for which it throws.
* `rewriters_touch_own_field`: on the payload of a message with a time stamp, either function
  changes its own field alone, and they can be applied in either order.
-/

namespace Ros2Dispatcher.Sinks

open Json

/-! ### The two functions -/

/-- The parts of `header.stamp`, where the checks of their containers find both. -/
def stampParts (j : Json String) : Option (Json String × Json String) := do
  let header ← j.member? "header"
  let stamp ← header.member? "stamp"
  return (← stamp.member? "sec", ← stamp.member? "nanosec")

/-- `get<int64_t>`; no result is the `type_error` it throws. A number that does not fit wraps,
also where the conversion of a double is undefined. -/
def getInt64 (j : Json String) : Option Int64 :=
  j.number?.map Int64.ofInt

/-- The time of the stamp, unless that is zero; no result at all is an exception. -/
def readT0 (j : Json String) : Option (Option Int64) :=
  match stampParts j with
  | none => some none
  | some (secPart, nanosecPart) => do
    let sec ← getInt64 secPart
    let nsec ← getInt64 nanosecPart
    -- a zero stamp counts as none
    return if sec ≠ 0 ∨ nsec ≠ 0 then some (sec * 1000000000 + nsec) else none

/-- The envelope. -/
def tsEnvelope (t0 : Option Int64) (t1 : Int64) : Json String :=
  let ts := match t0 with
    | some t0 => Entries.set "t0_ns" (int t0.toInt) []
    | none => []
  object (Entries.set "t1_ns" (int t1.toInt) ts)

/-- `apply_ts_envelope_to_json`, the same in both sinks: what it returns, and the payload. No
result is an exception. -/
def applyTsEnvelopeToJson (codec : Codec) (jsonPayload : List UInt8) (t1 : Int64) :
    Option (Bool × List UInt8) :=
  match codec.parse jsonPayload with
  | none => some (false, jsonPayload)
  | some j => do
    let ts := tsEnvelope (← readT0 j) t1
    -- `operator[]` throws on anything but an object or `null`
    let stamped ← j.setMember "_ts" ts
    return (true, codec.print stamped)

/-- `apply_message_key_to_json`: what it returns, and the payload. -/
def applyMessageKeyToJson (codec : Codec) (jsonPayload : List UInt8) (messageKey : String) :
    Bool × List UInt8 :=
  if messageKey = "" then (false, jsonPayload)
  else
    match codec.parse jsonPayload with
    | some (object members) =>
      match members.lookup "header" with
      | some (object header) =>
        let keyed := Entries.set "frame_id" (string messageKey) header
        (true, codec.print (object (Entries.set "header" (object keyed) members)))
      | _ => (false, jsonPayload)
    | _ => (false, jsonPayload)

/-! ### When the envelope does what it says -/

/-- What the envelope is for: a payload that it cannot parse stays, and any other gets `t1`. -/
def EnvelopeApplied (codec : Codec) (jsonPayload : List UInt8) (t1 : Int64) : Prop :=
  applyTsEnvelopeToJson codec jsonPayload t1 = some (false, jsonPayload) ∨
    ∃ stamped j ts, applyTsEnvelopeToJson codec jsonPayload t1 = some (true, stamped) ∧
      codec.parse stamped = some j ∧ j.member? "_ts" = some ts ∧
      ts.member? "t1_ns" = some (int t1.toInt)

/-- A value the function can put its envelope in: an object, or `null`, where the parts of the
stamp, if there are both, are numbers. -/
def Stampable (j : Json String) : Prop :=
  j.members?.isSome = true ∧
    ∀ parts, stampParts j = some parts →
      parts.1.number?.isSome = true ∧ parts.2.number?.isSome = true

variable {codec : Codec} {jsonPayload : List UInt8} {j : Json String} {t1 : Int64}

/-- The stamp is read without an exception if its parts are numbers. -/
theorem readT0_isSome_iff :
    (readT0 j).isSome = true ↔ ∀ parts, stampParts j = some parts →
      parts.1.number?.isSome = true ∧ parts.2.number?.isSome = true := by
  unfold readT0
  cases stampParts j with
  | none => simp
  | some parts =>
    cases hsec : parts.1.number? <;> cases hnsec : parts.2.number? <;>
      simp [getInt64, hsec, hnsec]

theorem wellFormed_int64 (n : Int64) : (int n.toInt : Json String).wellFormed = true := by
  have hlower := n.le_toInt
  have hupper := n.toInt_lt
  simp only [wellFormed, decide_eq_true_eq]
  omega

theorem wellFormed_tsEnvelope (t0 : Option Int64) :
    (tsEnvelope t0 t1).wellFormed = true := by
  have hempty : (object [] : Json String).wellFormed = true := by decide
  cases t0 with
  | none => exact wellFormed_set hempty (wellFormed_int64 t1)
  | some t0 =>
    exact wellFormed_set (wellFormed_set hempty (wellFormed_int64 t0)) (wellFormed_int64 t1)

theorem member?_tsEnvelope_t1 (t0 : Option Int64) :
    (tsEnvelope t0 t1).member? "t1_ns" = some (int t1.toInt) :=
  Entries.lookup_set_self

/-- What the function does with a payload that it can parse. -/
theorem applyTsEnvelopeToJson_of_parse (hparse : codec.parse jsonPayload = some j) :
    applyTsEnvelopeToJson codec jsonPayload t1 = do
      let stamped ← j.setMember "_ts" (tsEnvelope (← readT0 j) t1)
      return (true, codec.print stamped) := by
  simp [applyTsEnvelopeToJson, hparse]

/-- The payload of a value the envelope can be put in. -/
theorem exists_stamped (hj : Stampable j) (t1 : Int64) :
    ∃ t0 stamped, readT0 j = some t0 ∧ j.setMember "_ts" (tsEnvelope t0 t1) = some stamped := by
  obtain ⟨hmembers, hparts⟩ := hj
  obtain ⟨t0, ht0⟩ := Option.isSome_iff_exists.mp (readT0_isSome_iff.mpr hparts)
  obtain ⟨members, hmembers⟩ := Option.isSome_iff_exists.mp hmembers
  exact ⟨t0, _, ht0, congrArg (Option.map _) hmembers⟩

/-- **The envelope.** The function does what it is for exactly if it cannot parse the payload,
or finds a value there that it can put the envelope in. -/
theorem applyTsEnvelopeToJson_iff (hcodec : codec.Lawful) (jsonPayload : List UInt8)
    (t1 : Int64) :
    EnvelopeApplied codec jsonPayload t1 ↔
      ∀ j, codec.parse jsonPayload = some j → Stampable j := by
  constructor
  -- it returned, so neither reading the stamp nor setting the member threw
  · intro happlied j hparse
    obtain ⟨result, hresult⟩ :
        ∃ result, applyTsEnvelopeToJson codec jsonPayload t1 = some result := by
      rcases happlied with hkept | ⟨_, _, _, hstamped, -⟩
      · exact ⟨_, hkept⟩
      · exact ⟨_, hstamped⟩
    rw [applyTsEnvelopeToJson_of_parse hparse] at hresult
    simp only [bind, Option.bind_eq_some_iff] at hresult
    obtain ⟨t0, ht0, stamped, hset, -⟩ := hresult
    constructor
    · rw [← Option.isSome_map, ← setMember, hset]
      rfl
    · exact readT0_isSome_iff.mp (ht0 ▸ rfl)
  · intro hstampable
    cases hparse : codec.parse jsonPayload with
    | none => exact .inl (by simp [applyTsEnvelopeToJson, hparse])
    | some j =>
      obtain ⟨t0, stamped, ht0, hset⟩ := exists_stamped (hstampable j hparse) t1
      have hwell : stamped.wellFormed = true :=
        wellFormed_setMember (hcodec.wellFormed_parse _ _ hparse) (wellFormed_tsEnvelope t0) hset
      refine .inr ⟨codec.print stamped, stamped, tsEnvelope t0 t1, ?_,
        hcodec.parse_print stamped hwell, member?_setMember hset, member?_tsEnvelope_t1 t0⟩
      simp [applyTsEnvelopeToJson_of_parse hparse, ht0, hset]

/-- The value of a message with a header. -/
def headedMessage : Json String :=
  object [("data", int 1), ("header", object [("frame_id", string "robot_1"),
    ("stamp", object [("nanosec", int 5), ("sec", int 2)])])]

theorem parse_headedMessage : plain.parse (plain.print headedMessage) = some headedMessage :=
  plain_lawful.parse_print headedMessage (by decide +kernel)

theorem headedMessage_applied : EnvelopeApplied plain (plain.print headedMessage) 9000 := by
  refine (applyTsEnvelopeToJson_iff plain_lawful _ 9000).mpr fun j hj => ?_
  obtain rfl := Option.some.inj (parse_headedMessage.symm.trans hj)
  refine ⟨rfl, fun parts hparts => ?_⟩
  obtain rfl : (int 2, int 5) = parts := Option.some.inj hparts
  exact ⟨rfl, rfl⟩

/-- A value whose stamp has a text for its seconds. -/
def textStamp : Json String :=
  object [("header", object [("stamp", object [("nanosec", int 0), ("sec", string "1")])])]

theorem textStamp_not_applied : ¬EnvelopeApplied plain (plain.print textStamp) 0 := by
  have hparse : plain.parse (plain.print textStamp) = some textStamp :=
    plain_lawful.parse_print textStamp (by decide +kernel)
  have hthrows : applyTsEnvelopeToJson plain (plain.print textStamp) 0 = none :=
    applyTsEnvelopeToJson_of_parse hparse
  simp [EnvelopeApplied, hthrows]

/-! ### What the functions change -/

/-- The stamp of a message. -/
def HasStamp (j : Json String) (sec nanosec : Int) : Prop :=
  ∃ parts, stampParts j = some parts ∧ parts.1.number? = some sec ∧
    parts.2.number? = some nanosec

/-- The stamp, if there is one, has an `int32` and a `uint32`. -/
def StampInRange (j : Json String) : Prop :=
  ∀ parts, stampParts j = some parts → ∃ sec nanosec, parts.1.number? = some sec ∧
    parts.2.number? = some nanosec ∧ (-2 ^ 31 ≤ sec ∧ sec < 2 ^ 31) ∧
      0 ≤ nanosec ∧ nanosec < 2 ^ 32

/-- The time of a stamp in nanoseconds, which a zero stamp does not have. -/
def T0Exact (j : Json String) (t0 : Option Int) : Prop :=
  (∀ sec nanosec, HasStamp j sec nanosec → sec ≠ 0 ∨ nanosec ≠ 0 →
      t0 = some (sec * 10 ^ 9 + nanosec)) ∧
    (t0 = none ↔ ∀ sec nanosec, HasStamp j sec nanosec → sec = 0 ∧ nanosec = 0)

/-- No time in range overflows. -/
theorem toInt_t0 {sec nsec : Int64} (hsec : -2 ^ 31 ≤ sec.toInt ∧ sec.toInt < 2 ^ 31)
    (hnsec : 0 ≤ nsec.toInt ∧ nsec.toInt < 2 ^ 32) :
    (sec * 1000000000 + nsec).toInt = sec.toInt * 10 ^ 9 + nsec.toInt := by
  have hfactor : (1000000000 : Int64).toInt = 10 ^ 9 := by decide
  have hproduct : (sec * 1000000000).toInt = sec.toInt * 10 ^ 9 := by
    rw [Int64.toInt_mul, hfactor]
    exact Int.bmod_eq_of_le (by omega) (by omega)
  rw [Int64.toInt_add, hproduct]
  exact Int.bmod_eq_of_le (by omega) (by omega)

/-- The function reads the time of the stamp as it is. -/
theorem readT0_exact (hj : StampInRange j) :
    ∃ t0, readT0 j = some t0 ∧ T0Exact j (t0.map Int64.toInt) := by
  cases hparts : stampParts j with
  | none =>
    have hno : ∀ sec nanosec, ¬HasStamp j sec nanosec := by simp [HasStamp, hparts]
    exact ⟨none, by simp [readT0, hparts], by simp [T0Exact, hno]⟩
  | some parts =>
    obtain ⟨sec, nanosec, hsec, hnanosec, hsecRange, hnanosecRange⟩ := hj parts hparts
    have hstamp : ∀ sec' nanosec',
        HasStamp j sec' nanosec' ↔ sec = sec' ∧ nanosec = nanosec' := by
      simp [HasStamp, hparts, hsec, hnanosec]
    have hofSec : (Int64.ofInt sec).toInt = sec := Int64.toInt_ofInt_of_le (by omega) (by omega)
    have hofNanosec : (Int64.ofInt nanosec).toInt = nanosec :=
      Int64.toInt_ofInt_of_le (by omega) (by omega)
    have hread : readT0 j = some (if Int64.ofInt sec ≠ 0 ∨ Int64.ofInt nanosec ≠ 0 then
        some (Int64.ofInt sec * 1000000000 + Int64.ofInt nanosec) else none) := by
      simp [readT0, hparts, getInt64, hsec, hnanosec]
    have hzero : ∀ n, (Int64.ofInt n).toInt = n → (Int64.ofInt n ≠ 0 ↔ n ≠ 0) := by
      intro n hn
      rw [Ne, ← Int64.toInt_inj, hn, Int64.toInt_zero]
    have htime := toInt_t0 (hofSec.symm ▸ hsecRange) (hofNanosec.symm ▸ hnanosecRange)
    rw [hofSec, hofNanosec] at htime
    refine ⟨_, hread, ?_⟩
    by_cases hnonzero : Int64.ofInt sec ≠ 0 ∨ Int64.ofInt nanosec ≠ 0
    · rw [if_pos hnonzero, Option.map_some, htime]
      rw [hzero sec hofSec, hzero nanosec hofNanosec] at hnonzero
      simp [T0Exact, hstamp]
      omega
    · rw [if_neg hnonzero]
      rw [hzero sec hofSec, hzero nanosec hofNanosec] at hnonzero
      simp [T0Exact, hstamp]
      omega

/-- What the two functions do to a payload that parses to `j`. -/
structure TouchOwnField (codec : Codec) (jsonPayload : List UInt8) (j : Json String)
    (messageKey : String) (t1 t1' : Int64) : Prop where
  /-- The envelope is put in, with the exact times, and nothing else changes. -/
  envelope : ∃ stamped after ts t0,
    applyTsEnvelopeToJson codec jsonPayload t1 = some (true, stamped) ∧
      codec.parse stamped = some after ∧ SameExcept "_ts" j after ∧
      after.member? "_ts" = some ts ∧ ts.member? "t1_ns" = some (int t1.toInt) ∧
      ts.member? "t0_ns" = t0.map int ∧ T0Exact j t0
  /-- Of two envelopes the last one counts. -/
  envelope_twice : ∀ stamped,
    applyTsEnvelopeToJson codec jsonPayload t1 = some (true, stamped) →
      applyTsEnvelopeToJson codec stamped t1' = applyTsEnvelopeToJson codec jsonPayload t1'
  key_iff : (applyMessageKeyToJson codec jsonPayload messageKey).1 = true ↔
    messageKey ≠ "" ∧ ∃ header, j.member? "header" = some (object header)
  key_unchanged : (applyMessageKeyToJson codec jsonPayload messageKey).1 = false →
    (applyMessageKeyToJson codec jsonPayload messageKey).2 = jsonPayload
  /-- The key is put in as `header.frame_id`, and nothing else changes. -/
  key_changed : (applyMessageKeyToJson codec jsonPayload messageKey).1 = true →
    ∃ after header header',
      codec.parse (applyMessageKeyToJson codec jsonPayload messageKey).2 = some after ∧
        SameExcept "header" j after ∧ j.member? "header" = some header ∧
        after.member? "header" = some header' ∧ SameExcept "frame_id" header header' ∧
        header'.member? "frame_id" = some (string messageKey)
  commute : ∀ stamped, applyTsEnvelopeToJson codec jsonPayload t1 = some (true, stamped) →
    applyTsEnvelopeToJson codec (applyMessageKeyToJson codec jsonPayload messageKey).2 t1 =
      some (true, (applyMessageKeyToJson codec stamped messageKey).2)

variable {members header : List (String × Json String)} {messageKey : String}
  {stamped : List UInt8}

theorem readT0_congr {j' : Json String} (h : j'.member? "header" = j.member? "header") :
    readT0 j' = readT0 j := by
  simp [readT0, stampParts, h]

/-- What the function did when it returns `true`. -/
theorem stamped_of_applied (hcodec : codec.Lawful) (hparse : codec.parse jsonPayload = some j)
    (h : applyTsEnvelopeToJson codec jsonPayload t1 = some (true, stamped)) :
    ∃ t0 after, readT0 j = some t0 ∧ j.setMember "_ts" (tsEnvelope t0 t1) = some after ∧
      codec.print after = stamped ∧ codec.parse stamped = some after := by
  rw [applyTsEnvelopeToJson_of_parse hparse] at h
  simp only [bind, Option.bind_eq_some_iff] at h
  obtain ⟨t0, ht0, after, hset, h⟩ := h
  have hprint : codec.print after = stamped := by simpa using h
  have hwell : after.wellFormed = true :=
    wellFormed_setMember (hcodec.wellFormed_parse _ _ hparse) (wellFormed_tsEnvelope t0) hset
  exact ⟨t0, after, ht0, hset, hprint, hprint ▸ hcodec.parse_print after hwell⟩

theorem member?_tsEnvelope_t0 (t0 : Option Int64) :
    (tsEnvelope t0 t1).member? "t0_ns" = (t0.map Int64.toInt).map int := by
  have hother : (tsEnvelope t0 t1).member? "t0_ns" = List.lookup "t0_ns" _ :=
    Entries.lookup_set_of_ne (by decide)
  rw [hother]
  cases t0 <;> simp

/-- The header of an object gets the key. -/
theorem applyMessageKeyToJson_of_header (hparse : codec.parse jsonPayload = some (object members))
    (hkey : messageKey ≠ "") (hheader : members.lookup "header" = some (object header)) :
    applyMessageKeyToJson codec jsonPayload messageKey =
      (true, codec.print (object (Entries.set "header"
        (object (Entries.set "frame_id" (string messageKey) header)) members))) := by
  simp [applyMessageKeyToJson, hkey, hparse, hheader]

theorem applyMessageKeyToJson_of_not (hparse : codec.parse jsonPayload = some (object members))
    (h : ¬(messageKey ≠ "" ∧ ∃ header, members.lookup "header" = some (object header))) :
    applyMessageKeyToJson codec jsonPayload messageKey = (false, jsonPayload) := by
  unfold applyMessageKeyToJson
  split
  · rfl
  next hkey =>
    simp only [hparse]
    split
    next header hheader => exact absurd ⟨hkey, header, hheader⟩ h
    · rfl

/-- The value of a payload whose header got the key. -/
theorem parse_keyed (hcodec : codec.Lawful)
    (hparse : codec.parse jsonPayload = some (object members)) (hkey : messageKey ≠ "")
    (hheader : members.lookup "header" = some (object header)) :
    codec.parse (applyMessageKeyToJson codec jsonPayload messageKey).2 =
      some (object (Entries.set "header"
        (object (Entries.set "frame_id" (string messageKey) header)) members)) := by
  rw [applyMessageKeyToJson_of_header hparse hkey hheader]
  have hpayload := hcodec.wellFormed_parse _ _ hparse
  have hheaderWell : (object header).wellFormed = true := wellFormed_member? hpayload hheader
  exact hcodec.parse_print _ (wellFormed_set hpayload (wellFormed_set hheaderWell rfl))

/-- The key leaves the stamp of the header. -/
theorem stampParts_keyed (hheader : members.lookup "header" = some (object header)) :
    stampParts (object (Entries.set "header"
        (object (Entries.set "frame_id" (string messageKey) header)) members)) =
      stampParts (object members) := by
  have hstamp : (Entries.set "frame_id" (string messageKey) header).lookup "stamp" =
      header.lookup "stamp" := Entries.lookup_set_of_ne (by decide)
  simp [stampParts, member?, hheader, hstamp]

/-- The envelope of a payload whose stamp is that of a message. -/
theorem exists_exact_envelope (hcodec : codec.Lawful)
    (hparse : codec.parse jsonPayload = some (object members))
    (hstamp : StampInRange (object members)) (t1 : Int64) :
    ∃ stamped after ts t0,
      applyTsEnvelopeToJson codec jsonPayload t1 = some (true, stamped) ∧
        codec.parse stamped = some after ∧ SameExcept "_ts" (object members) after ∧
        after.member? "_ts" = some ts ∧ ts.member? "t1_ns" = some (int t1.toInt) ∧
        ts.member? "t0_ns" = t0.map int ∧ T0Exact (object members) t0 := by
  obtain ⟨t0, ht0, hexact⟩ := readT0_exact hstamp
  have happlied : applyTsEnvelopeToJson codec jsonPayload t1 =
      some (true, codec.print (object (Entries.set "_ts" (tsEnvelope t0 t1) members))) := by
    simp [applyTsEnvelopeToJson_of_parse hparse, ht0, setMember, members?]
  obtain ⟨_, after, hread, hset, -, hafter⟩ := stamped_of_applied hcodec hparse happlied
  obtain rfl : t0 = _ := Option.some.inj (ht0.symm.trans hread)
  exact ⟨_, after, _, t0.map Int64.toInt, happlied, hafter, sameExcept_setMember hset,
    member?_setMember hset, member?_tsEnvelope_t1 t0, member?_tsEnvelope_t0 t0, hexact⟩

/-- A second envelope replaces the first. -/
theorem applyTsEnvelopeToJson_stamped (hcodec : codec.Lawful)
    (hparse : codec.parse jsonPayload = some j)
    (happlied : applyTsEnvelopeToJson codec jsonPayload t1 = some (true, stamped)) (t1' : Int64) :
    applyTsEnvelopeToJson codec stamped t1' = applyTsEnvelopeToJson codec jsonPayload t1' := by
  obtain ⟨t0, after, ht0, hset, -, hafter⟩ := stamped_of_applied hcodec hparse happlied
  have hread : readT0 after = some t0 :=
    (readT0_congr (sameExcept_setMember hset "header" (by decide))).trans ht0
  simp [applyTsEnvelopeToJson_of_parse hparse, applyTsEnvelopeToJson_of_parse hafter, ht0, hread,
    setMember_setMember hset]

/-- The key can be put in before the envelope or after it. -/
theorem applyTsEnvelopeToJson_keyed (hcodec : codec.Lawful)
    (hparse : codec.parse jsonPayload = some (object members))
    (happlied : applyTsEnvelopeToJson codec jsonPayload t1 = some (true, stamped)) :
    applyTsEnvelopeToJson codec (applyMessageKeyToJson codec jsonPayload messageKey).2 t1 =
      some (true, (applyMessageKeyToJson codec stamped messageKey).2) := by
  obtain ⟨t0, after, ht0, hset, hprint, hafter⟩ := stamped_of_applied hcodec hparse happlied
  obtain rfl : object (Entries.set "_ts" (tsEnvelope t0 t1) members) = after :=
    Option.some.inj hset
  have hsame : (Entries.set "_ts" (tsEnvelope t0 t1) members).lookup "header" =
      members.lookup "header" := Entries.lookup_set_of_ne (by decide)
  by_cases h : messageKey ≠ "" ∧ ∃ header, members.lookup "header" = some (object header)
  · obtain ⟨hkey, header, hheader⟩ := h
    have hread : readT0 (object (Entries.set "header"
        (object (Entries.set "frame_id" (string messageKey) header)) members)) = some t0 := by
      simpa [readT0, stampParts_keyed hheader] using ht0
    rw [applyMessageKeyToJson_of_header hafter hkey (hsame.trans hheader),
      applyTsEnvelopeToJson_of_parse (parse_keyed hcodec hparse hkey hheader), hread]
    simp [setMember, members?, Entries.set_comm (by decide : "_ts" ≠ "header")]
  · rw [applyMessageKeyToJson_of_not hparse h, applyMessageKeyToJson_of_not hafter (hsame ▸ h),
      happlied]

/-- **Own fields.** Whatever object a payload is whose stamp, if it has one, is that of a
message: the two functions change their own field alone, and commute. -/
theorem rewriters_touch_own_field (hcodec : codec.Lawful)
    (hparse : codec.parse jsonPayload = some (object members))
    (hstamp : StampInRange (object members)) (messageKey : String) (t1 t1' : Int64) :
    TouchOwnField codec jsonPayload (object members) messageKey t1 t1' where
  envelope := exists_exact_envelope hcodec hparse hstamp t1
  envelope_twice := by
    intro stamped happlied
    exact applyTsEnvelopeToJson_stamped hcodec hparse happlied t1'
  key_iff := by
    by_cases h : messageKey ≠ "" ∧ ∃ header, members.lookup "header" = some (object header)
    · obtain ⟨hkey, header, hheader⟩ := h
      rw [applyMessageKeyToJson_of_header hparse hkey hheader]
      exact iff_of_true rfl ⟨hkey, header, hheader⟩
    · rw [applyMessageKeyToJson_of_not hparse h]
      exact iff_of_false Bool.false_ne_true h
  key_unchanged := by
    intro hfalse
    by_cases h : messageKey ≠ "" ∧ ∃ header, members.lookup "header" = some (object header)
    · obtain ⟨hkey, header, hheader⟩ := h
      rw [applyMessageKeyToJson_of_header hparse hkey hheader] at hfalse
      cases hfalse
    · rw [applyMessageKeyToJson_of_not hparse h]
  key_changed := by
    intro htrue
    by_cases h : messageKey ≠ "" ∧ ∃ header, members.lookup "header" = some (object header)
    · obtain ⟨hkey, header, hheader⟩ := h
      exact ⟨_, object header, _, parse_keyed hcodec hparse hkey hheader,
        fun other hne => Entries.lookup_set_of_ne hne, hheader, Entries.lookup_set_self,
        fun other hne => Entries.lookup_set_of_ne hne, Entries.lookup_set_self⟩
    · rw [applyMessageKeyToJson_of_not hparse h] at htrue
      cases htrue
  commute := by
    intro stamped happlied
    exact applyTsEnvelopeToJson_keyed hcodec hparse happlied

theorem headedMessage_own_field :
    TouchOwnField plain (plain.print headedMessage) headedMessage "robot_2" 9000 1234 := by
  refine rewriters_touch_own_field plain_lawful parse_headedMessage (fun parts hparts => ?_) _ _ _
  obtain rfl : (int 2, int 5) = parts := Option.some.inj hparts
  exact ⟨2, 5, rfl, rfl, by decide, by decide⟩

end Ros2Dispatcher.Sinks
