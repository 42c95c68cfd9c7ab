import Ros2Dispatcher.Library.JsonStrings

/-!
# The metrics text of `kafka_source`

`publish_metrics` writes the topic and the type of each entry as they come from the records, so
that any byte can be in them. `json_escape` makes a body of a JSON string of them, and whoever reads
the text gets them back and nothing else: what stands around them does not depend on them.

* `decodeBody_jsonEscape`: what is escaped is decoded again.
* `jsonEscape_spec`: an escaped text is the body of a string, and stays in its field.
-/

namespace Ros2Dispatcher.KafkaSource

open JsonStrings

/-! ### `json_escape` -/

/-- What `json_escape` writes for one byte. -/
def escapeByte (ch : UInt8) : List UInt8 :=
  if ch = backslash then [backslash, backslash]
  else if ch = quote then [backslash, quote]
  else if ch = '\n'.toUInt8 then [backslash, 'n'.toUInt8]
  else if ch = '\r'.toUInt8 then [backslash, 'r'.toUInt8]
  else if ch = '\t'.toUInt8 then [backslash, 't'.toUInt8]
  else if ch = '\x08'.toUInt8 then [backslash, 'b'.toUInt8]
  else if ch = '\x0c'.toUInt8 then [backslash, 'f'.toUInt8]
  else if ch < 0x20 then
    [backslash, 'u'.toUInt8, '0'.toUInt8, '0'.toUInt8, hexDigit (ch / 16), hexDigit (ch % 16)]
  else [ch]

/-- `json_escape`. -/
def jsonEscape (input : List UInt8) : List UInt8 :=
  input.flatMap escapeByte

private theorem isBody_hexDigit {n : UInt8} {text : List UInt8} (h : n < 16)
    (htext : IsBody text) : IsBody (hexDigit n :: text) :=
  .plain (hexDigit_plain h).1 (hexDigit_plain h).2.1 (hexDigit_plain h).2.2 htext

/-- The escape of a byte by one letter. -/
private theorem short_spec {ch letter : UInt8} (hletter : letter ≠ 'u'.toUInt8)
    (hvalue : shortEscape? letter = some ch) (hprintable : 0x20 ≤ letter) :
    IsBody [backslash, letter] ∧ letterFraming.Cuts [backslash, letter] [[ch]] :=
  ⟨.escape hprintable .nil, cuts_short hletter hvalue⟩

/-- An escaped byte is one letter of a body, and is decoded again. -/
theorem escapeByte_spec (ch : UInt8) :
    IsBody (escapeByte ch) ∧ letterFraming.Cuts (escapeByte ch) [[ch]] := by
  unfold escapeByte
  split_ifs with hbackslash hquote hn hr ht hb hf hcontrol
  · subst hbackslash
    exact short_spec (by decide) (by decide) (by decide)
  · subst hquote
    exact short_spec (by decide) (by decide) (by decide)
  · subst hn
    exact short_spec (by decide) (by decide) (by decide)
  · subst hr
    exact short_spec (by decide) (by decide) (by decide)
  · subst ht
    exact short_spec (by decide) (by decide) (by decide)
  · subst hb
    exact short_spec (by decide) (by decide) (by decide)
  · subst hf
    exact short_spec (by decide) (by decide) (by decide)
  · have hascii : ch < 0x80 := UInt8.lt_trans hcontrol (by decide)
    refine ⟨.escape (by decide) ?_, cuts_unicode (unicodeEscape?_hexDigit hascii)⟩
    have hhigh : ch / 16 < 16 := by
      rw [UInt8.lt_iff_toNat_lt, UInt8.toNat_div]
      exact Nat.div_lt_of_lt_mul ch.toNat_lt
    have hlow : ch % 16 < 16 := UInt8.mod_lt ch (by decide)
    exact .plain (by decide) (by decide) (by decide) (.plain (by decide) (by decide) (by decide)
      (isBody_hexDigit hhigh (isBody_hexDigit hlow .nil)))
  · have hprintable : 0x20 ≤ ch := UInt8.not_lt.mp hcontrol
    exact ⟨.plain hprintable hquote hbackslash .nil,
      cuts_plain hbackslash (not_or.mpr ⟨hquote, hcontrol⟩)⟩

theorem isBody_jsonEscape (input : List UInt8) : IsBody (jsonEscape input) :=
  IsBody.flatMap fun ch _ => (escapeByte_spec ch).1

/-- What is escaped is decoded again. -/
theorem decodeBody_jsonEscape (input : List UInt8) :
    decodeBody (jsonEscape input) = some input :=
  decodeBody_of_cuts (Framing.Cuts.flatMap fun ch _ => (escapeByte_spec ch).2)

theorem jsonEscape_injective : Function.Injective jsonEscape := by
  intro input input' h
  have hdecode := decodeBody_jsonEscape input
  rw [h, decodeBody_jsonEscape] at hdecode
  exact (Option.some.inj hdecode).symm

/-! ### `publish_metrics` -/

def ascii (text : String) : List UInt8 :=
  text.toList.map Char.toUInt8

/-- What a stream writes for a number; there is no quote in it. -/
structure NumberText where
  text : List UInt8
  quote_notMem : quote ∉ text

/-- The numbers of an entry. -/
inductive NumberField
  | received
  | decoded
  | failed
  | bytes
  | rateMsgsPerS
  | rateBytesPerS
  | deltaDecoded
  | deltaFailed
  | latencyNsP50
  | latencyNsP95
  | latencyNsP99
  | latencyNsMax
deriving DecidableEq, Repr

namespace NumberField

/-- The fields in the order in which they are written. -/
def all : List NumberField :=
  [received, decoded, failed, bytes, rateMsgsPerS, rateBytesPerS, deltaDecoded, deltaFailed,
    latencyNsP50, latencyNsP95, latencyNsP99, latencyNsMax]

def name : NumberField → String
  | received => "received"
  | decoded => "decoded"
  | failed => "failed"
  | bytes => "bytes"
  | rateMsgsPerS => "rate_msgs_per_s"
  | rateBytesPerS => "rate_bytes_per_s"
  | deltaDecoded => "delta_decoded"
  | deltaFailed => "delta_failed"
  | latencyNsP50 => "latency_ns_p50"
  | latencyNsP95 => "latency_ns_p95"
  | latencyNsP99 => "latency_ns_p99"
  | latencyNsMax => "latency_ns_max"

end NumberField

/-- What is published about a topic and type. -/
structure MetricsEntry where
  rosTopic : List UInt8
  rosType : List UInt8
  number : NumberField → NumberText

/-- A field of an object. -/
def fieldText (name : String) (value : List UInt8) : List UInt8 :=
  quote :: ascii name ++ [quote] ++ ascii ":" ++ value

def quoted (body : List UInt8) : List UInt8 :=
  quote :: body ++ [quote]

def MetricsEntry.text (entry : MetricsEntry) : List UInt8 :=
  ascii "\x7b" ++ fieldText "ros_topic" (quoted (jsonEscape entry.rosTopic)) ++ ascii "," ++
    fieldText "ros_type" (quoted (jsonEscape entry.rosType)) ++
    (NumberField.all.flatMap fun field =>
      ascii "," ++ fieldText field.name (entry.number field).text) ++ ascii "\x7d"

/-- The text that `publish_metrics` publishes. -/
def metricsText (timestampNs : NumberText) (entries : List MetricsEntry) : List UInt8 :=
  ascii "\x7b" ++ fieldText "timestamp_ns" timestampNs.text ++ ascii "," ++
    fieldText "topics" (ascii "[" ++ (ascii ",").intercalate (entries.map MetricsEntry.text) ++
      ascii "]\x7d")

/-! ### What is read -/

/-- The tokens of a text without quotes. -/
def plainTokens (text : List UInt8) : List Token :=
  text.map .byte

def fieldTokens (name : String) (value : List Token) : List Token :=
  .string (ascii name) :: plainTokens (ascii ":") ++ value

/-- An entry as it is meant: the topic and the type are strings, whatever they are. -/
def MetricsEntry.tokens (entry : MetricsEntry) : List Token :=
  plainTokens (ascii "\x7b") ++ fieldTokens "ros_topic" [.string entry.rosTopic] ++
    plainTokens (ascii ",") ++ fieldTokens "ros_type" [.string entry.rosType] ++
    (NumberField.all.flatMap fun field => plainTokens (ascii ",") ++
      fieldTokens field.name (plainTokens (entry.number field).text)) ++
    plainTokens (ascii "\x7d")

def metricsTokens (timestampNs : NumberText) (entries : List MetricsEntry) : List Token :=
  plainTokens (ascii "\x7b") ++ fieldTokens "timestamp_ns" (plainTokens timestampNs.text) ++
    plainTokens (ascii ",") ++ fieldTokens "topics" (plainTokens (ascii "[") ++
      (plainTokens (ascii ",")).intercalate (entries.map MetricsEntry.tokens) ++
      plainTokens (ascii "]\x7d"))

/-- A name that is written without escapes. -/
def PlainName (name : String) : Prop :=
  ∀ byte ∈ ascii name, byte ≠ backslash ∧ ¬(byte = quote ∨ byte < 0x20)

instance (name : String) : Decidable (PlainName name) :=
  inferInstanceAs (Decidable (∀ byte ∈ ascii name, _))

theorem cuts_fieldText {name : String} {value : List UInt8} {tokens : List Token}
    (hname : PlainName name) (hvalue : tokenFraming.Cuts value tokens) :
    tokenFraming.Cuts (fieldText name value) (fieldTokens name tokens) := by
  obtain ⟨hbody, hdecode⟩ := IsBody.of_plain hname
  exact ((cuts_string hbody hdecode).append (cuts_bytes (by decide))).append hvalue

theorem cuts_quoted (input : List UInt8) :
    tokenFraming.Cuts (quoted (jsonEscape input)) [.string input] :=
  cuts_string (isBody_jsonEscape input) (decodeBody_jsonEscape input)

theorem NumberField.plainName (field : NumberField) : PlainName field.name := by
  cases field <;> decide +kernel

theorem MetricsEntry.cuts_text (entry : MetricsEntry) :
    tokenFraming.Cuts entry.text entry.tokens := by
  have hnumbers : tokenFraming.Cuts (NumberField.all.flatMap fun field =>
      ascii "," ++ fieldText field.name (entry.number field).text)
      (NumberField.all.flatMap fun field => plainTokens (ascii ",") ++
        fieldTokens field.name (plainTokens (entry.number field).text)) :=
    .flatMap fun field _ => (cuts_bytes (by decide)).append
      (cuts_fieldText field.plainName (cuts_bytes (entry.number field).quote_notMem))
  have htopic : PlainName "ros_topic" := by decide +kernel
  have htype : PlainName "ros_type" := by decide +kernel
  have hopen : tokenFraming.Cuts (ascii "\x7b") (plainTokens (ascii "\x7b")) :=
    cuts_bytes (by decide)
  have hcomma : tokenFraming.Cuts (ascii ",") (plainTokens (ascii ",")) :=
    cuts_bytes (by decide)
  have hclose : tokenFraming.Cuts (ascii "\x7d") (plainTokens (ascii "\x7d")) :=
    cuts_bytes (by decide)
  have hnames := (hopen.append (cuts_fieldText htopic (cuts_quoted entry.rosTopic))).append hcomma
  have htypes := hnames.append (cuts_fieldText htype (cuts_quoted entry.rosType))
  exact (htypes.append hnumbers).append hclose

/-- The text is read as it is meant. -/
theorem frames_metricsText (timestampNs : NumberText) (entries : List MetricsEntry) :
    tokenFraming.frames (metricsText timestampNs entries) =
      (metricsTokens timestampNs entries, []) := by
  have htimestamp : PlainName "timestamp_ns" := by decide +kernel
  have htopics : PlainName "topics" := by decide +kernel
  have hopen : tokenFraming.Cuts (ascii "\x7b") (plainTokens (ascii "\x7b")) :=
    cuts_bytes (by decide)
  have hcomma : tokenFraming.Cuts (ascii ",") (plainTokens (ascii ",")) :=
    cuts_bytes (by decide)
  have hbracket : tokenFraming.Cuts (ascii "[") (plainTokens (ascii "[")) :=
    cuts_bytes (by decide)
  have hclose : tokenFraming.Cuts (ascii "]\x7d") (plainTokens (ascii "]\x7d")) :=
    cuts_bytes (by decide)
  have hentries := Framing.Cuts.intercalate hcomma fun entry (_ : entry ∈ entries) =>
    entry.cuts_text
  have htime := hopen.append (cuts_fieldText htimestamp (cuts_bytes timestampNs.quote_notMem))
  have hlist := cuts_fieldText htopics ((hbracket.append hentries).append hclose)
  exact ((htime.append hcomma).append hlist).frames_eq rfl

/-- **Escaping.** An escaped text has no control characters, no quote that is not escaped and no
backslash left over, and is decoded to what it was; so different texts are escaped differently,
and what is published is read with each topic and type in its field, whatever bytes they have. -/
theorem jsonEscape_spec :
    (∀ input, (∀ byte ∈ jsonEscape input, 0x20 ≤ byte) ∧
      (∀ i, (jsonEscape input)[i]? = some quote →
        escapesNext ((jsonEscape input).take i) = true) ∧
      escapesNext (jsonEscape input) = false ∧
      decodeBody (jsonEscape input) = some input) ∧
    Function.Injective jsonEscape ∧
    ∀ timestampNs entries, tokenFraming.frames (metricsText timestampNs entries) =
      (metricsTokens timestampNs entries, []) := by
  refine ⟨fun input => ?_, jsonEscape_injective, frames_metricsText⟩
  have hbody := isBody_jsonEscape input
  exact ⟨hbody.printable, hbody.quotes, hbody.escapesNext_eq, decodeBody_jsonEscape input⟩

/-- A quote, a newline and another control character in a type. -/
example : jsonEscape (ascii "a\"\n\x1f") = ascii "a\\\"\\n\\u001F" := by
  decide +kernel

end Ros2Dispatcher.KafkaSource
