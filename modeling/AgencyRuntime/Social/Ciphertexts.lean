import AgencyRuntime.Ledger.Audit
import AgencyRuntime.Publication.Authority
import AgencyRuntime.Python.Base64

/-!
# Ciphertexts of the OAuth service

`SocialTokenCipher` (social_oauth.py) over AES-GCM, and the associated data that `SocialOAuthService`
(social_oauth_service.py) binds its ciphertexts to. The components of the associated data are joined
by colons, which a tenant id may contain. A channel and a state id contain none, so the text is read
from its end (`Purpose.aad_inj`).
-/

namespace AgencyRuntime

namespace Social

open Py

/-! ## The cipher -/

/-- `AESGCM`: a key, a nonce, a text and the associated data. `decrypt` gives `none` where the class
raises. -/
structure Aead where
  encrypt : (key nonce plaintext associatedData : Bytes) → Bytes
  decrypt : (key nonce ciphertext associatedData : Bytes) → Option Bytes

/-- The tag authenticates the associated data: no ciphertext opens with other data than it was sealed
with. -/
def Aead.Authentic (A : Aead) : Prop :=
  ∀ key nonce plaintext sealed key' nonce' opened plaintext',
    A.decrypt key' nonce' (A.encrypt key nonce plaintext sealed) opened = some plaintext' →
      opened = sealed

/-- `EncryptedSocialValue` -/
structure EncryptedSocialValue where
  keyId : Str
  ciphertext : Str
deriving DecidableEq

/-- `_KEY_ID.fullmatch` -/
def isCipherKeyId : Str → Bool := isToken isAlnum (fun c => isAlnum c || oneOf "._:-" c) 0 63

/-- `SocialTokenCipher` -/
structure SocialTokenCipher where
  keys : List (Str × Bytes)
  activeKeyId : Str
  activeKey : Bytes
  active : keys.lookup activeKeyId = some activeKey
  valid : ∀ entry ∈ keys, isCipherKeyId entry.1 = true ∧ entry.2.length = 32

/-- `os.urandom(_NONCE_BYTES)` -/
structure CipherNonce where
  bytes : Bytes
  length : bytes.length = 12

/-- The values of a payload. -/
def isPayloadValue : Json → Bool
  | .null | .bool _ | .int _ => true
  | .str s => s.length ≤ 8192
  | .arr items => items.length ≤ 32 && items.all fun item =>
    match item with
    | .str s => decide (s.length ≤ 256)
    | _ => false
  | .float _ | .obj _ => false

/-- `_validated_payload` -/
def validatedPayload (payload : Obj) : Except Exn Obj := do
  check (payload ≠ [] ∧ payload.length ≤ 16)
    (.valueError "social token payload must be a bounded non-empty object")
  payload.mapM fun field => do
    check (isToken (inRange 'a' 'z') (fun c => isLowerAlnum c || oneOf "_" c) 0 63 field.1)
      (.valueError "social token payload field is invalid")
    check (isPayloadValue field.2) (.valueError "social token payload value is invalid")
    return field

/-- `_associated_data` -/
def associatedDataBytes (value : Str) : Except Exn Bytes := do
  check (value ≠ [] ∧ value.length ≤ 512)
    (.valueError "social token associated data is invalid")
  encode value

/-- `_encode_base64url` -/
def encodeBase64url (raw : Bytes) : Str := rstripPad (urlsafeB64encode raw)

/-- `_decode_base64url` -/
def decodeBase64url (value : Str) : Except Exn Bytes := do
  check (value ≠ [] ∧ value.length ≤ 65536) (.valueError "base64url value is invalid")
  urlsafeB64decode (repad value)

section
variable (P : Platform) (A : Aead) (C : SocialTokenCipher)

/-- `encrypt` -/
def SocialTokenCipher.encrypt (payload : Obj) (associatedData : Str) (nonce : CipherNonce) :
    Except Exn EncryptedSocialValue := do
  let normalized ← validatedPayload payload
  let aad ← associatedDataBytes associatedData
  let plaintext ← encode (← canonicalJson (.obj normalized))
  check (plaintext.length ≤ 16 * 1024) (.valueError "social token payload is too large")
  return {
    keyId := C.activeKeyId
    ciphertext := encodeBase64url (nonce.bytes ++ A.encrypt C.activeKey nonce.bytes plaintext aad) }

/-- The `try` of `decrypt`; its handlers raise one exception for all that it raises. -/
def openCiphertext (key : Bytes) (ciphertext associatedData : Str) : Except Exn Obj := do
  let raw ← decodeBase64url ciphertext
  check (12 + 16 < raw.length) (.valueError "ciphertext is too short")
  let aad ← associatedDataBytes associatedData
  let plaintext ← (A.decrypt key (raw.take 12) (raw.drop 12) aad).elim
    (.error .socialTokenDecryption) .ok
  match P.loads plaintext with
  | .value (.obj fields) => validatedPayload fields
  | _ => throw (.valueError "payload is not an object")

/-- `decrypt` -/
def SocialTokenCipher.decrypt (value : EncryptedSocialValue) (associatedData : Str) :
    Except Exn Obj :=
  match C.keys.lookup value.keyId with
  | none => .error .socialTokenDecryption
  | some key =>
    (openCiphertext P A key value.ciphertext associatedData).mapError fun _ => .socialTokenDecryption

end

/-! ## The associated data -/

/-- `_state_aad` -/
def stateAad (tenantId channelId stateId : Str) : Str :=
  tenantId ++ lit ":" ++ channelId ++ lit ":state:" ++ stateId

/-- `_connection_aad` -/
def connectionAad (tenantId channelId : Str) : Str :=
  tenantId ++ lit ":" ++ channelId ++ lit ":connection"

/-- The state id of `_start_x` and of `_start_instagram`. -/
def oauthStateId (P : Platform) (tenantId channelId value : Str) : Except Exn Str :=
  P.stableId "social-oauth-state" [.str tenantId, .str channelId, .str value] 48

/-- What a ciphertext is stored for. -/
inductive Purpose
  | state (tenantId channelId stateId : Str)
  | connection (tenantId channelId : Str)
deriving DecidableEq

/-- The associated data of a ciphertext. -/
def Purpose.aad : Purpose → Str
  | .state tenantId channelId stateId => stateAad tenantId channelId stateId
  | .connection tenantId channelId => connectionAad tenantId channelId

/-- The store admits the tenant and the channel, and the service has generated the state id. -/
inductive Purpose.Admitted (P : Platform) : Purpose → Prop
  | state {tenantId channelId value stateId : Str} :
    isIdentifier tenantId = true → isChannel channelId = true →
    oauthStateId P tenantId channelId value = .ok stateId →
    Admitted P (.state tenantId channelId stateId)
  | connection {tenantId channelId : Str} :
    isIdentifier tenantId = true → isChannel channelId = true →
    Admitted P (.connection tenantId channelId)

/-! ## Reading the associated data -/

/-- A list is split at the last place of an element. -/
theorem split_last {α : Type} {x y z w : List α} {a : α} (hz : a ∉ z) (hw : a ∉ w)
    (h : x ++ a :: z = y ++ a :: w) : x = y ∧ z = w := by
  rcases List.append_eq_append_iff.1 h with ⟨between, hfront, hrest⟩ | ⟨between, hfront, hrest⟩
  · cases between with
    | nil => exact ⟨(hfront.trans (List.append_nil x)).symm, (List.cons.inj hrest).2⟩
    | cons b between =>
      obtain ⟨-, rfl⟩ := List.cons.inj hrest
      exact absurd (List.mem_append_right _ List.mem_cons_self) hz
  · cases between with
    | nil => exact ⟨hfront.trans (List.append_nil y), (List.cons.inj hrest).2.symm⟩
    | cons b between =>
      obtain ⟨-, rfl⟩ := List.cons.inj hrest
      exact absurd (List.mem_append_right _ List.mem_cons_self) hw

/-- `":"` -/
def colon : CodePoint := ch ':'

theorem stateAad_eq (tenantId channelId stateId : Str) :
    stateAad tenantId channelId stateId =
      (tenantId ++ colon :: channelId ++ lit ":state") ++ colon :: stateId := by
  have hstate : lit ":state:" = lit ":state" ++ [colon] := by decide
  have hcolon : lit ":" = [colon] := by decide
  rw [stateAad, hstate, hcolon]
  simp

theorem connectionAad_eq (tenantId channelId : Str) :
    connectionAad tenantId channelId =
      (tenantId ++ colon :: channelId) ++ colon :: lit "connection" := by
  have hconnection : lit ":connection" = colon :: lit "connection" := by decide
  have hcolon : lit ":" = [colon] := by decide
  rw [connectionAad, hconnection, hcolon]
  simp

theorem colon_notMem_channel {channelId : Str} (h : isChannel channelId = true) :
    colon ∉ channelId := by
  rw [isChannel, Bool.or_eq_true, beq_iff_eq, beq_iff_eq] at h
  rcases h with rfl | rfl <;> decide

section
variable {P : Platform} {tenantId channelId value stateId : Str}

/-- A generated state id is a label and hexadecimal digits. -/
theorem oauthStateId_ok (hsha : ∀ b, Ledger.isHex64 (P.sha256 b) = true)
    (h : oauthStateId P tenantId channelId value = .ok stateId) :
    ∃ digits, stateId = lit "social-oauth-state-" ++ digits ∧
      ∀ c ∈ digits, Ledger.isHexDigit c = true := by
  obtain ⟨text, -, h⟩ := exceptBind_ok h
  obtain ⟨digest, hdigest, h⟩ := exceptBind_ok h
  obtain ⟨bytes, -, hdigest⟩ := exceptBind_ok hdigest
  cases hdigest
  cases h
  refine ⟨(P.sha256 bytes).take 48, rfl, fun c hc => ?_⟩
  have hhex := hsha bytes
  rw [Ledger.isHex64, Bool.and_eq_true, List.all_eq_true] at hhex
  exact hhex.2 c (List.mem_of_mem_take hc)

theorem colon_notMem_stateId (hsha : ∀ b, Ledger.isHex64 (P.sha256 b) = true)
    (h : oauthStateId P tenantId channelId value = .ok stateId) : colon ∉ stateId := by
  obtain ⟨digits, rfl, hdigits⟩ := oauthStateId_ok hsha h
  have hlabel : colon ∉ lit "social-oauth-state-" := by decide
  have hcolon : Ledger.isHexDigit colon = false := by decide
  intro hmem
  rcases List.mem_append.1 hmem with hmem | hmem
  · exact hlabel hmem
  · rw [hdigits _ hmem] at hcolon
    cases hcolon

theorem stateId_ne_connection (hsha : ∀ b, Ledger.isHex64 (P.sha256 b) = true)
    (h : oauthStateId P tenantId channelId value = .ok stateId) : stateId ≠ lit "connection" := by
  obtain ⟨digits, rfl, -⟩ := oauthStateId_ok hsha h
  intro heq
  cases heq

end

/-- The associated data tells what the ciphertext is for. -/
theorem Purpose.aad_inj {P : Platform} (hsha : ∀ b, Ledger.isHex64 (P.sha256 b) = true)
    {p q : Purpose} (hp : p.Admitted P) (hq : q.Admitted P) (h : p.aad = q.aad) : p = q := by
  have hword : colon ∉ lit "connection" := by decide
  cases hp with
  | state _ hchannel hid =>
    have hstate := colon_notMem_stateId hsha hid
    cases hq with
    | state _ hchannel' hid' =>
      have hstate' := colon_notMem_stateId hsha hid'
      rw [Purpose.aad, Purpose.aad, stateAad_eq, stateAad_eq] at h
      obtain ⟨hfront, rfl⟩ := split_last hstate hstate' h
      obtain ⟨rfl, rfl⟩ := split_last (colon_notMem_channel hchannel)
        (colon_notMem_channel hchannel') (List.append_cancel_right hfront)
      rfl
    | connection _ _ =>
      rw [Purpose.aad, Purpose.aad, stateAad_eq, connectionAad_eq] at h
      exact absurd (split_last hstate hword h).2 (stateId_ne_connection hsha hid)
  | connection _ hchannel =>
    cases hq with
    | state _ _ hid =>
      have hstate := colon_notMem_stateId hsha hid
      rw [Purpose.aad, Purpose.aad, stateAad_eq, connectionAad_eq] at h
      exact absurd (split_last hword hstate h).2.symm (stateId_ne_connection hsha hid)
    | connection _ hchannel' =>
      rw [Purpose.aad, Purpose.aad, connectionAad_eq, connectionAad_eq] at h
      obtain ⟨hfront, -⟩ := split_last hword hword h
      obtain ⟨rfl, rfl⟩ := split_last (colon_notMem_channel hchannel)
        (colon_notMem_channel hchannel') hfront
      rfl

/-! ## Opening a ciphertext -/

/-- What was encoded is decoded, or not read at all. -/
theorem decodeBase64url_encode {raw raw' : Bytes}
    (h : decodeBase64url (encodeBase64url raw) = .ok raw') : raw' = raw := by
  obtain ⟨-, h⟩ := checkBind_ok.1 h
  obtain ⟨-, h⟩ := checkBind_ok.1 h
  rw [encodeBase64url, repad_rstripPad, a2bBase64_b64encode] at h
  exact (Except.ok.inj h).symm

theorem associatedDataBytes_ok {value : Str} {b : Bytes} (h : associatedDataBytes value = .ok b) :
    b = utf8 value := by
  obtain ⟨-, h⟩ := checkBind_ok.1 h
  exact (encode_ok.1 h).2.symm

theorem SocialTokenCipher.encrypt_ok {A : Aead} {C : SocialTokenCipher} {payload : Obj}
    {associatedData : Str} {nonce : CipherNonce} {value : EncryptedSocialValue}
    (h : C.encrypt A payload associatedData nonce = .ok value) :
    ∃ plaintext, value.ciphertext = encodeBase64url
      (nonce.bytes ++ A.encrypt C.activeKey nonce.bytes plaintext (utf8 associatedData)) := by
  obtain ⟨normalized, -, h⟩ := exceptBind_ok h
  obtain ⟨aad, haad, h⟩ := exceptBind_ok h
  obtain ⟨text, -, h⟩ := exceptBind_ok h
  obtain ⟨plaintext, -, h⟩ := exceptBind_ok h
  obtain ⟨-, h⟩ := checkBind_ok.1 h
  cases h
  exact ⟨plaintext, by rw [associatedDataBytes_ok haad]⟩

theorem openCiphertext_ok {P : Platform} {A : Aead} {key : Bytes} {raw : Bytes}
    {associatedData : Str} {payload : Obj}
    (h : openCiphertext P A key (encodeBase64url raw) associatedData = .ok payload) :
    ∃ plaintext, A.decrypt key (raw.take 12) (raw.drop 12) (utf8 associatedData) =
      some plaintext := by
  obtain ⟨raw', hraw, h⟩ := exceptBind_ok h
  rw [decodeBase64url_encode hraw] at h
  obtain ⟨-, h⟩ := checkBind_ok.1 h
  obtain ⟨aad, haad, h⟩ := exceptBind_ok h
  obtain ⟨plaintext, hplaintext, -⟩ := exceptBind_ok h
  rw [← associatedDataBytes_ok haad]
  refine ⟨plaintext, ?_⟩
  cases hopen : A.decrypt key (raw.take 12) (raw.drop 12) aad with
  | none => rw [hopen] at hplaintext; cases hplaintext
  | some opened => rw [hopen] at hplaintext; cases hplaintext; rfl

/-- A ciphertext opens with the associated data it was sealed with, whichever keys are configured. -/
theorem SocialTokenCipher.decrypt_encrypt {P : Platform} {A : Aead} (hA : A.Authentic)
    {C C' : SocialTokenCipher} {payload opened : Obj} {sealed presented : Str} {nonce : CipherNonce}
    {value : EncryptedSocialValue} (hencrypt : C.encrypt A payload sealed nonce = .ok value)
    (hdecrypt : C'.decrypt P A value presented = .ok opened) : presented = sealed := by
  obtain ⟨plaintext, hvalue⟩ := C.encrypt_ok hencrypt
  unfold SocialTokenCipher.decrypt at hdecrypt
  split at hdecrypt
  · cases hdecrypt
  · next key _ =>
    have hopen : openCiphertext P A key value.ciphertext presented = .ok opened := by
      cases hresult : openCiphertext P A key value.ciphertext presented with
      | error e => rw [hresult] at hdecrypt; cases hdecrypt
      | ok payload => rw [hresult] at hdecrypt; cases hdecrypt; rfl
    rw [hvalue] at hopen
    obtain ⟨plaintext', hplaintext⟩ := openCiphertext_ok hopen
    rw [List.take_left' nonce.length, List.drop_left' nonce.length] at hplaintext
    exact utf8_inj (hA _ _ _ _ _ _ _ _ hplaintext)

/-- The associated data of two ciphertexts is the same only if their purposes are: the same kind,
tenant, channel and state. So no ciphertext opens in place of one of another purpose, with the keys
it was sealed with or with others; and the publication authority presents what the service sealed a
connection with. -/
theorem ciphertexts_separated (P : Platform) (A : Aead)
    (hsha : ∀ b, Ledger.isHex64 (P.sha256 b) = true) (hA : A.Authentic) :
    (∀ p q : Purpose, p.Admitted P → q.Admitted P → p.aad = q.aad → p = q) ∧
    (∀ p q : Purpose, p.Admitted P → q.Admitted P →
      ∀ (C C' : SocialTokenCipher) payload nonce value opened,
        C.encrypt A payload p.aad nonce = .ok value → C'.decrypt P A value q.aad = .ok opened →
          p = q) ∧
    ∀ tenantId channelId,
      AgencyRuntime.connectionAad tenantId channelId = (Purpose.connection tenantId channelId).aad := by
  refine ⟨fun p q hp hq => Purpose.aad_inj hsha hp hq, ?_, fun _ _ => rfl⟩
  intro p q hp hq C C' payload nonce value opened hencrypt hdecrypt
  exact Purpose.aad_inj hsha hp hq (C.decrypt_encrypt hA hencrypt hdecrypt).symm

namespace CipherSample

/-- SHA-256 of the text that the state id below is made from. -/
def platform : Platform where
  sha256 _ := lit "26c7b3b64b015e5cf30ec5d230ce768fdc23e4a72f00ebc539e2226a0c3b5d48"
  loads _ := .decodeError
  fromisoformat _ := none
  urlsplit _ := none
  hmacSha1 _ _ := []

def purpose : Purpose :=
  .state (lit "t") (lit "x") (lit "social-oauth-state-26c7b3b64b015e5cf30ec5d230ce768fdc23e4a72f00ebc5")

theorem admitted : purpose.Admitted platform := by
  have hid : oauthStateId platform (lit "t") (lit "x") (lit "request") = .ok
      (lit "social-oauth-state-26c7b3b64b015e5cf30ec5d230ce768fdc23e4a72f00ebc5") := by
    decide
  exact .state (by decide) (by decide) hid

def payload : Obj := [(lit "request_token_secret", .str (lit "secret"))]

/-- The bytes from zero up. -/
def firstBytes (n : Nat) : Bytes := (List.range n).map UInt8.ofNat

theorem keys_valid : ∀ entry ∈ [(lit "k", firstBytes 32)],
    isCipherKeyId entry.1 = true ∧ entry.2.length = 32 := by
  decide

def cipher : SocialTokenCipher where
  keys := [(lit "k", firstBytes 32)]
  activeKeyId := lit "k"
  activeKey := firstBytes 32
  active := rfl
  valid := keys_valid

def nonce : CipherNonce := ⟨firstBytes 12, by decide⟩

def plaintext : Bytes := utf8 (lit "\x7b\"request_token_secret\":\"secret\"\x7d")

/-- AES-GCM of the plaintext for the purpose, the tag at its end. -/
def sealed : Bytes :=
  [60, 32, 164, 126, 180, 144, 167, 104, 249, 30, 227, 228, 218, 140, 22, 50, 240, 179, 228, 70, 149,
    15, 125, 70, 26, 20, 128, 230, 111, 12, 116, 144, 124, 192, 160, 123, 180, 139, 72, 50, 146, 38,
    162, 237, 150, 167, 170, 55, 200]

/-- AES-GCM on the one text that is sealed below. -/
def aead : Aead where
  encrypt key nonce' text aad :=
    if key = firstBytes 32 ∧ nonce' = firstBytes 12 ∧ text = plaintext ∧ aad = utf8 purpose.aad then sealed
    else []
  decrypt key nonce' ciphertext aad :=
    if key = firstBytes 32 ∧ nonce' = firstBytes 12 ∧ ciphertext = sealed ∧ aad = utf8 purpose.aad then
      some plaintext
    else none

theorem authentic : aead.Authentic := by
  intro key nonce' text aad key' nonce'' aad' text' h
  obtain ⟨-, -, hciphertext, haad'⟩ :
      key' = firstBytes 32 ∧ nonce'' = firstBytes 12 ∧ aead.encrypt key nonce' text aad = sealed ∧
        aad' = utf8 purpose.aad := by
    by_contra hne
    cases (if_neg hne).symm.trans h
  obtain ⟨-, -, -, haad⟩ : key = firstBytes 32 ∧ nonce' = firstBytes 12 ∧ text = plaintext ∧
      aad = utf8 purpose.aad := by
    by_contra hne
    cases (if_neg hne).symm.trans hciphertext
  rw [haad, haad']

end CipherSample

/-- The ciphertext of a state does not open as that of a connection of the same tenant. -/
theorem ciphertexts_separated_sample :
    CipherSample.cipher.encrypt CipherSample.aead CipherSample.payload CipherSample.purpose.aad
        CipherSample.nonce =
      .ok ⟨lit "k", lit "AAECAwQFBgcICQoLPCCkfrSQp2j5HuPk2owWMvCz5EaVD31GGhSA5m8MdJB8wKB7tItIMpImou2Wp6o3yA"⟩ ∧
      ∀ opened, CipherSample.cipher.decrypt CipherSample.platform CipherSample.aead
        ⟨lit "k", lit "AAECAwQFBgcICQoLPCCkfrSQp2j5HuPk2owWMvCz5EaVD31GGhSA5m8MdJB8wKB7tItIMpImou2Wp6o3yA"⟩
        (Purpose.connection (lit "t") (lit "x")).aad ≠ .ok opened := by
  have hencrypt : CipherSample.cipher.encrypt CipherSample.aead CipherSample.payload
      CipherSample.purpose.aad CipherSample.nonce = .ok ⟨lit "k",
        lit "AAECAwQFBgcICQoLPCCkfrSQp2j5HuPk2owWMvCz5EaVD31GGhSA5m8MdJB8wKB7tItIMpImou2Wp6o3yA"⟩ := by
    decide
  refine ⟨hencrypt, fun opened hopened => ?_⟩
  have hsame := (ciphertexts_separated CipherSample.platform CipherSample.aead
    (fun _ => show Ledger.isHex64 (CipherSample.platform.sha256 []) = true by decide)
    CipherSample.authentic).2.1 CipherSample.purpose
    (.connection (lit "t") (lit "x")) CipherSample.admitted
    (.connection (by decide) (by decide)) _ _ _ _ _ _ hencrypt hopened
  cases hsame

end Social

end AgencyRuntime
