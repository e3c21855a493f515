import AgencyRuntime.Python.Base64
import AgencyRuntime.Python.Utf8

/-!
# The alt-text header

The browser client sends the alt text of a publication medium as base-64 in the header
`X-Media-Alt-Text-Base64` (`encodeBase64UrlUtf8`, runtimeApi.ts); the endpoint bounds the length of
the header and decodes it, and `attach_publication_media` bounds the text (api.py).
-/

namespace AgencyRuntime.Api

open Py (lit)

/-- `new TextEncoder().encode(value)`: a lone surrogate is encoded as U+FFFD. -/
def textEncoderEncode (value : Str) : Bytes :=
  value.flatMap fun c => Py.utf8Char (if Py.isSurrogate c then 0xFFFD else c)

/-- `encodeBase64UrlUtf8` -/
def encodeBase64UrlUtf8 (value : Str) : Str :=
  Py.rstripPad ((Py.b64encode (textEncoderEncode value)).map Py.urlsafeChar)

/-- The two 422 responses of the header: `Header(min_length=4, max_length=4000)` and
`publication_media_alt_text_invalid`. -/
inductive AltTextError
  | headerLength
  | altTextInvalid
deriving DecidableEq

/-- The endpoint's reading of the header. -/
def decodeAltText (altTextBase64 : Str) : Except AltTextError Str :=
  if altTextBase64.length < 4 ∨ 4000 < altTextBase64.length then .error .headerLength
  else
    let padding := List.replicate ((4 - altTextBase64.length % 4) % 4) (0x3D : CodePoint)
    match Py.urlsafeB64decode (altTextBase64 ++ padding) with
    | .error _ => .error .altTextInvalid
    | .ok content =>
      match Py.decodeUtf8 content with
      | none => .error .altTextInvalid
      | some altText => .ok altText

/-- The bound on the alt text in `RuntimeService.attach_publication_media`. -/
def normalizedAlt (altText : Str) : Except Exn Str := do
  let normalized := Py.strip altText
  check (normalized ≠ []) (.publicationMediaValidation "publication media alt text is invalid")
  check (Py.encodable normalized) .unicodeEncodeError
  check ((Py.utf8 normalized).length ≤ 2000)
    (.publicationMediaValidation "publication media alt text is invalid")
  return normalized

/-- The header of the text passes the length bounds and is read back. -/
structure RoundTrips (altText : Str) : Prop where
  least : 4 ≤ (encodeBase64UrlUtf8 altText).length
  most : (encodeBase64UrlUtf8 altText).length ≤ 4000
  decodes : decodeAltText (encodeBase64UrlUtf8 altText) = .ok altText

theorem textEncoderEncode_of_encodable {s : Str} (h : Py.encodable s = true) :
    textEncoderEncode s = Py.utf8 s := by
  induction s with
  | nil => rfl
  | cons c s ih =>
    rw [Py.encodable, List.all_cons, Bool.and_eq_true, Bool.not_eq_true'] at h
    rw [textEncoderEncode, List.flatMap_cons, h.1, Py.utf8, List.flatMap_cons]
    exact congrArg (Py.utf8Char c ++ ·) (ih h.2)

/-- A header within the bounds is read back. -/
theorem decodeAltText_encode {s : Str} (h : Py.encodable s = true)
    (hleast : 4 ≤ (encodeBase64UrlUtf8 s).length)
    (hmost : (encodeBase64UrlUtf8 s).length ≤ 4000) :
    decodeAltText (encodeBase64UrlUtf8 s) = .ok s := by
  have hpadded := Py.urlsafeB64decode_repad (Py.utf8 s)
  rw [Py.repad, Py.urlsafeB64encode] at hpadded
  rw [decodeAltText, if_neg (by omega)]
  simp only [encodeBase64UrlUtf8, textEncoderEncode_of_encodable h, hpadded,
    Py.decodeUtf8_utf8 h]

theorem length_encodeBase64UrlUtf8 {s : Str} (h : Py.encodable s = true) :
    (encodeBase64UrlUtf8 s).length = (4 * (Py.utf8 s).length + 2) / 3 := by
  rw [← textEncoderEncode_of_encodable h]
  exact Py.length_rstripPad_urlsafeB64encode _

theorem normalizedAlt_ok {altText : Str} (h : normalizedAlt altText = .ok altText) :
    Py.encodable altText = true ∧ (Py.utf8 altText).length ≤ 2000 := by
  obtain ⟨-, h⟩ := checkBind_ok.1 h
  obtain ⟨hencodable, h⟩ := checkBind_ok.1 h
  obtain ⟨hlength, h⟩ := checkBind_ok.1 h
  have hstrip := Except.ok.inj h
  rw [hstrip] at hencodable hlength
  exact ⟨hencodable, hlength⟩

/-- An accepted alt text makes the trip through the header when it has at least three bytes. -/
theorem alt_text_round_trip {altText : Str} (h : normalizedAlt altText = .ok altText) :
    RoundTrips altText ↔ 3 ≤ (Py.utf8 altText).length := by
  obtain ⟨hencodable, hbound⟩ := normalizedAlt_ok h
  have hlength := length_encodeBase64UrlUtf8 hencodable
  constructor
  · intro hround
    have := hround.least
    omega
  · intro hthree
    have hleast : 4 ≤ (encodeBase64UrlUtf8 altText).length := by omega
    have hmost : (encodeBase64UrlUtf8 altText).length ≤ 4000 := by omega
    exact ⟨hleast, hmost, decodeAltText_encode hencodable hleast hmost⟩

theorem alt_text_round_trip_flag :
    RoundTrips (lit "Flag") ↔ 3 ≤ (Py.utf8 (lit "Flag")).length :=
  alt_text_round_trip (by rfl)

/-- The header of a text of two bytes has three characters, and is refused. -/
theorem short_alt_text_refused :
    ¬ ∀ altText, normalizedAlt altText = .ok altText → RoundTrips altText := by
  intro h
  have hleast := (h (lit "ok") (by rfl)).least
  exact absurd hleast (by decide)

end AgencyRuntime.Api
