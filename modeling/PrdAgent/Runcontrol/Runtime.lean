import PrdAgent.Library.Sha256
import PrdAgent.Runcontrol.Model

/-!
# What the store takes from its surroundings

`Runtime` collects the standard-library functions that stay parameters of the model: SHA-256 and
HMAC, JSON encoding and decoding, and Unicode lower-casing. Only documented facts about them are
assumed, as fields. Decoders are arbitrary, so every result holds for whatever a payload decodes to.

`Call` is what one method call draws from its surroundings: the clock reading, the identifiers
`id.New` returns, and the order in which `range` visits a map.
-/

namespace PrdAgent.Runcontrol

open GoText

/-- The standard-library functions the store calls. -/
structure Runtime where
  /-- `hex.EncodeToString` of `sha256.Sum256`. -/
  sha256Hex : ByteArray → String
  sha256Hex_length : ∀ bytes, (sha256Hex bytes).toList.length = 64
  sha256Hex_digits : ∀ bytes, ∀ ch ∈ (sha256Hex bytes).toList, isLowerHexDigit ch = true
  /-- Base64 of an HMAC-SHA-256 of a message under a secret. -/
  hmacToken : String → String → String
  /-- `Time.Format` with the RFC 3339 layout. -/
  formatTime : Time → String
  /-- `json.Marshal`, as text. -/
  jsonMarshal : Json → String
  /-- `canonicalJSON`: marshal, decode into `any`, marshal again. -/
  canonicalJSON : Json → String
  /-- `json.Valid`. -/
  jsonValid : ByteArray → Bool
  /-- `strings.ToLower`. -/
  toLower : String → String
  unmarshalOutline : ByteArray → Option OutlineCandidate
  unmarshalUnitCandidate : ByteArray → Option UnitCandidate
  unmarshalUnitCandidateRefs : ByteArray → Option UnitCandidateRefs
  unmarshalUnitPatch : ByteArray → Option UnitPatch
  unmarshalUnitPatchRefs : ByteArray → Option UnitPatchRefs
  unmarshalFullReview : ByteArray → Option FullReviewCandidate
  /-- The `outcome` field of a full-review report. -/
  unmarshalOutcome : ByteArray → Option String
  /-- The member names of a JSON object, for decoding into `map[string]json.RawMessage`. -/
  unmarshalRawKeys : ByteArray → Option (List String)
  unmarshalWorkingDraft : ByteArray → Option WorkingDraftDocument
  unmarshalShadowEvaluation : ByteArray → Option ShadowEvaluationArtifact
  unmarshalAuthoritativeTrace : String → Option AuthoritativeTrace

namespace Runtime

variable (rt : Runtime)

def hashBytesHex (value : ByteArray) : String := rt.sha256Hex value

def hashText (value : String) : String := rt.hashBytesHex value.toUTF8

def stableHash (value : String) : String := rt.sha256Hex value.toUTF8

def marshalBytes (value : Json) : ByteArray := (rt.jsonMarshal value).toUTF8

/-- Texts and what they decode to: what is left of a runtime once the hash functions, the JSON encoder,
the rendering of times and the letters (of ASCII) are fixed. -/
structure KnownTexts where
  jsonTexts : List ByteArray := []
  outlines : List (ByteArray × OutlineCandidate) := []
  units : List (ByteArray × UnitCandidate) := []
  unitRefs : List (ByteArray × UnitCandidateRefs) := []
  patches : List (ByteArray × UnitPatch) := []
  patchRefs : List (ByteArray × UnitPatchRefs) := []
  reviews : List (ByteArray × FullReviewCandidate) := []
  outcomes : List (ByteArray × String) := []
  rawKeys : List (ByteArray × List String) := []
  drafts : List (ByteArray × WorkingDraftDocument) := []
  evaluations : List (ByteArray × ShadowEvaluationArtifact) := []
  traces : List (String × AuthoritativeTrace) := []

/-- What a table of known texts decodes a text to. -/
def KnownTexts.lookup {α : Type} (table : List (ByteArray × α)) (text : ByteArray) : Option α :=
  (table.find? fun known => known.1.data.toList == text.data.toList).map Prod.snd

/-- The runtime that hashes with SHA-256, writes JSON as the encoder does, and decodes the known
texts. -/
def ofKnown (known : KnownTexts) : Runtime where
  sha256Hex := Sha256.hex
  sha256Hex_length := Sha256.hex_length
  sha256Hex_digits := Sha256.hex_digits
  hmacToken := Sha256.hmacBase64
  formatTime := rfc3339Nano
  jsonMarshal := Json.render
  canonicalJSON := fun value => value.canonical.render
  jsonValid := fun text => known.jsonTexts.any fun other => other.data.toList == text.data.toList
  toLower := mapChars Char.toLower
  unmarshalOutline := KnownTexts.lookup known.outlines
  unmarshalUnitCandidate := KnownTexts.lookup known.units
  unmarshalUnitCandidateRefs := KnownTexts.lookup known.unitRefs
  unmarshalUnitPatch := KnownTexts.lookup known.patches
  unmarshalUnitPatchRefs := KnownTexts.lookup known.patchRefs
  unmarshalFullReview := KnownTexts.lookup known.reviews
  unmarshalOutcome := KnownTexts.lookup known.outcomes
  unmarshalRawKeys := KnownTexts.lookup known.rawKeys
  unmarshalWorkingDraft := KnownTexts.lookup known.drafts
  unmarshalShadowEvaluation := KnownTexts.lookup known.evaluations
  unmarshalAuthoritativeTrace := (known.traces.lookup ·)

end Runtime

def bareSHA256 (value : String) : String := trimPrefix value "sha256:"

/-- `validSHA256`. A text of hexadecimal digits has as many bytes as characters. -/
def validSHA256 (value : String) : Bool :=
  let raw := bareSHA256 value
  (chars raw).length == 64 && (chars raw).all isHexDigit

/-- What one call draws from its surroundings. -/
structure Call where
  /-- The clock reading `time.Now().UTC()`. -/
  now : Time
  /-- The hexadecimal digits `id.New` puts after each prefix. -/
  digits : String → String
  digits_hex : ∀ lead, ∀ ch ∈ (digits lead).toList, isLowerHexDigit ch = true
  order : List String → List String
  order_perm : ∀ keys, (order keys).Perm keys

/-- A call at a given time that draws the same digits for every identifier and visits maps in their
stored order. -/
def Call.at (now : Time) (digits : String) : Call where
  now := now
  digits := fun _ => if digits.toList.all isLowerHexDigit = true then digits else ""
  digits_hex := by
    intro lead ch mem
    split at mem
    · next hex => exact List.all_eq_true.mp hex ch mem
    · cases mem
  order := id
  order_perm := fun keys => List.Perm.refl keys

def Call.newID (call : Call) (lead : String) : String := lead ++ "-" ++ call.digits lead

/-! ## Facts about digests and identifiers -/

theorem bareSHA256_of_no_colon {value : String} (free : ':' ∉ value.toList) :
    bareSHA256 value = value := by
  unfold bareSHA256 trimPrefix
  rw [if_neg]
  intro lead
  have pre : "sha256:".toList <+: value.toList := by
    simpa [hasPrefix] using lead
  exact free (pre.subset (by decide))

theorem Runtime.bareSHA256_sha256Hex (rt : Runtime) (bytes : ByteArray) :
    bareSHA256 (rt.sha256Hex bytes) = rt.sha256Hex bytes := by
  apply bareSHA256_of_no_colon
  intro colon
  exact absurd (rt.sha256Hex_digits bytes ':' colon) (by decide)

theorem Runtime.validSHA256_sha256Hex (rt : Runtime) (bytes : ByteArray) :
    validSHA256 (rt.sha256Hex bytes) = true := by
  unfold validSHA256
  rw [rt.bareSHA256_sha256Hex]
  simp only [chars_eq, Bool.and_eq_true, beq_iff_eq, List.all_eq_true]
  refine ⟨rt.sha256Hex_length bytes, ?_⟩
  intro ch mem
  exact hexDigit_of_lower (rt.sha256Hex_digits bytes ch mem)

theorem Call.newID_nulFree (call : Call) {lead : String} (free : NulFree lead) :
    NulFree (call.newID lead) := by
  unfold Call.newID
  refine (free.append (by decide)).append ?_
  exact fun mem => absurd (call.digits_hex lead _ mem) (by decide)

end PrdAgent.Runcontrol
