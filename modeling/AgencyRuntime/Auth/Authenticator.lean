import AgencyRuntime.Ledger.Audit
import AgencyRuntime.Python.Records
import Mathlib.Data.List.ReduceOption

/-!
# The tenant authenticator

`TenantAuthenticator` (auth.py). Its constructor reads the tenant keys and then the individual
credentials, and adds an entry for each active one (`Builder.addEntry`); it raises where two entries
would have one key, one key id within a tenant, or one subject with two authorities. The lookups by
key and by session go through all entries and keep the last match.
-/

namespace AgencyRuntime

namespace Py

/-- `str.lower` of one character, as far as its result can meet an ASCII letter: the ASCII capitals
and the other code points whose lower case has one. -/
def lowerChar (c : CodePoint) : Str :=
  if inRange 'A' 'Z' c then [Fin.ofNat _ (c.val + 32)]
  else match c.val with
    | 0x130 => lit "i" ++ [0x307]
    | 0x212A => lit "k"
    | _ => [c]

/-- `str.lower`, compared with ASCII constants only. -/
def lower (s : Str) : Str := s.flatMap lowerChar

end Py

namespace Auth

open Py

/-! ## Normal forms -/

/-- `_VALID_ROLES` -/
inductive Role
  | viewer
  | operator
  | approver
  | admin
deriving DecidableEq, Repr

/-- The text of a role. -/
def Role.value : Role → Str
  | .viewer => lit "viewer"
  | .operator => lit "operator"
  | .approver => lit "approver"
  | .admin => lit "admin"

/-- `_tenant_id` -/
def tenantIdOf (value : Str) : Except Exn Str := do
  let normalized := lower (strip value)
  check (isToken isLowerAlnum (fun c => isLowerAlnum c || oneOf "_-" c) 0 62 normalized)
    (.authConfiguration "tenant ids must match [a-z0-9][a-z0-9_-]\x7b0,62\x7d")
  return normalized

/-- `_subject_id` -/
def subjectIdOf (value : Str) : Except Exn Str := do
  let normalized := strip value
  check (isToken isAlnum (fun c => isAlnum c || oneOf "@._:-" c) 0 127 normalized)
    (.authConfiguration "subject ids must contain 1-128 safe identity characters")
  return normalized

/-- `_key_id` -/
def keyIdOf (value : Str) : Except Exn Str := do
  let normalized := strip value
  check (isToken isAlnum (fun c => isAlnum c || oneOf "._:-" c) 0 127 normalized)
    (.authConfiguration "key ids must contain 1-128 safe identifier characters")
  return normalized

/-- `_role` -/
def roleOf (value : Str) : Except Exn Role :=
  ([.viewer, .operator, .approver, .admin].find? fun r => r.value == lower (strip value)).elim
    (.error (.authConfiguration "role must be one of: admin, approver, operator, viewer")) .ok

/-- `sorted` of texts -/
def sortTexts (texts : List Str) : List Str := texts.insertionSort (· ≤ ·)

/-- The items of `_entitlements`, an array of texts. -/
def entitlementTexts : Json → Except Exn (List Str)
  | .arr items => items.mapM fun item =>
    match item with
    | .str s => .ok s
    | _ => .error (.authConfiguration "identity entitlements must contain strings")
  | _ => .error (.authConfiguration "identity entitlements must be an array")

/-- `_entitlements` -/
def entitlementsOf : Json → Except Exn (List Str)
  | .null => .ok []
  | value => do
    let normalized := (← entitlementTexts value).map fun item => lower (strip item)
    check (∀ item ∈ normalized, item ≠ [])
      (.authConfiguration "identity entitlements must not be empty")
    check normalized.Nodup
      (.authConfiguration "identity entitlements must not contain duplicates")
    let unknown := sortTexts (normalized.filter (· ≠ lit "theme:premium"))
    check (unknown = []) (.authConfiguration
      ("unsupported identity entitlement: " ++ display (join (lit ", ") unknown)))
    return sortTexts normalized

/-! ## Entries -/

/-- `TenantPrincipal` -/
structure TenantPrincipal where
  tenantId : Str
  subjectId : Str
  role : Role
  keyId : Str
  credentialFingerprint : Str
  entitlements : List Str
  authMethod : Str := lit "bearer"
  sessionId : Str := []
deriving DecidableEq

/-- `_CredentialEntry` -/
structure CredentialEntry where
  digest : Str
  tenantId : Str
  subjectId : Str
  role : Role
  keyId : Str
  entitlements : List Str
  legacy : Bool
deriving DecidableEq

/-- `principal` -/
def CredentialEntry.principal (e : CredentialEntry) (authMethod : Str := lit "bearer")
    (sessionId : Str := []) : TenantPrincipal where
  tenantId := e.tenantId
  subjectId := e.subjectId
  role := e.role
  keyId := e.keyId
  credentialFingerprint := e.digest
  entitlements := e.entitlements
  authMethod := authMethod
  sessionId := sessionId

/-- The arguments of `add_entry`. -/
structure Credential where
  tenantId : Str
  subjectId : Str
  role : Str
  keyId : Str
  apiKey : Str
  entitlements : List Str
  legacy : Bool
deriving DecidableEq

/-- The variables `add_entry` updates. -/
structure Builder where
  entries : List CredentialEntry := []
  seenDigests : List Str := []
  seenKeyIds : List (Str × Str) := []
  subjectAuthority : List ((Str × Str) × (Role × List Str)) := []

section
variable (P : Platform)

/-- What `add_entry` makes of its arguments. -/
def Credential.entry (c : Credential) : Except Exn CredentialEntry := do
  let tenantId ← tenantIdOf c.tenantId
  let subjectId ← subjectIdOf c.subjectId
  let role ← roleOf c.role
  let keyId ← keyIdOf c.keyId
  let entitlements ← entitlementsOf (.arr (c.entitlements.map .str))
  check (24 ≤ c.apiKey.length) (.authConfiguration "API keys must contain at least 24 characters")
  let digest ← P.digest c.apiKey
  return {
    digest := digest, tenantId := tenantId, subjectId := subjectId, role := role, keyId := keyId
    entitlements := entitlements, legacy := c.legacy }

/-- The checks of `add_entry` against the entries before, and its updates. -/
def Builder.insert (b : Builder) (e : CredentialEntry) : Except Exn Builder := do
  check (e.digest ∉ b.seenDigests)
    (.authConfiguration "the same API key cannot be assigned to multiple identities")
  check ((e.tenantId, e.keyId) ∉ b.seenKeyIds)
    (.authConfiguration ("key_id must be unique within a tenant: " ++ display e.keyId))
  check (∀ authority ∈ b.subjectAuthority.lookup (e.tenantId, e.subjectId),
      authority = (e.role, e.entitlements))
    (.authConfiguration "active keys for one subject must share role and entitlements")
  return {
    entries := b.entries ++ [e]
    seenDigests := e.digest :: b.seenDigests
    seenKeyIds := (e.tenantId, e.keyId) :: b.seenKeyIds
    subjectAuthority :=
      ((e.tenantId, e.subjectId), (e.role, e.entitlements)) :: b.subjectAuthority }

/-- `add_entry` -/
def Builder.addEntry (b : Builder) (c : Credential) : Except Exn Builder := do
  b.insert (← c.entry P)

/-- A loop over the items of a configuration, some of which are skipped. -/
def Builder.addEach {α : Type} (read : α → Except Exn (Option Credential)) (items : List α)
    (b : Builder) : Except Exn Builder :=
  items.foldlM (fun b item => do
    match ← read item with
    | none => return b
    | some c => b.addEntry P c) b

end

/-! ## The constructor -/

/-- The arguments of the constructor. -/
structure CredentialConfig where
  tenantApiKeys : List (Str × Str)
  identityCredentials : List Json

/-- The entry of a tenant key, which no item skips. -/
def legacyCredential (item : Str × Str) : Except Exn (Option Credential) := do
  let tenantId ← tenantIdOf item.1
  return some {
    tenantId := tenantId, subjectId := lit "tenant:" ++ tenantId, role := lit "admin"
    keyId := lit "legacy:" ++ tenantId, apiKey := item.2, entitlements := [], legacy := true }

/-- One turn of the loop over `identity_credentials`. -/
def identityCredential (item : Json × Nat) : Except Exn (Option Credential) :=
  match item.1 with
  | .obj raw =>
    match getOr raw "active" (.bool true) with
    | .bool false => .ok none
    | .bool true =>
      match Py.get raw "tenant_id", Py.get raw "subject_id", Py.get raw "role",
        Py.get raw "key_id", Py.get raw "api_key" with
      | .str tenantId, .str subjectId, .str role, .str keyId, .str apiKey => do
        let entitlements ← entitlementsOf (getOr raw "entitlements" (.arr []))
        return some {
          tenantId := tenantId, subjectId := subjectId, role := role, keyId := keyId
          apiKey := apiKey, entitlements := entitlements, legacy := false }
      | _, _, _, _, _ => .error (.authConfiguration
        ("identity credential at index " ++ toString item.2 ++
          " must contain string tenant_id, subject_id, role, key_id and api_key"))
    | _ => .error (.authConfiguration
      ("identity credential active must be boolean at index " ++ toString item.2))
  | _ => .error (.authConfiguration
    ("identity credential at index " ++ toString item.2 ++ " must be an object"))

/-- The order of the entries: by tenant, subject and key id. -/
def entryLe (a b : CredentialEntry) : Prop :=
  a.tenantId < b.tenantId ∨ a.tenantId = b.tenantId ∧
    (a.subjectId < b.subjectId ∨ a.subjectId = b.subjectId ∧ a.keyId ≤ b.keyId)

instance entryLe_decidable : DecidableRel entryLe := fun a b =>
  inferInstanceAs (Decidable (a.tenantId < b.tenantId ∨ a.tenantId = b.tenantId ∧
    (a.subjectId < b.subjectId ∨ a.subjectId = b.subjectId ∧ a.keyId ≤ b.keyId)))

/-- `TenantAuthenticator` -/
structure TenantAuthenticator where
  entries : List CredentialEntry
  individualIdentityConfigured : Bool
deriving DecidableEq

section
variable (P : Platform)

/-- `TenantAuthenticator.__init__` -/
def TenantAuthenticator.init (config : CredentialConfig) : Except Exn TenantAuthenticator := do
  let b ← Builder.addEach P legacyCredential (sortFields config.tenantApiKeys) {}
  let b ← Builder.addEach P identityCredential config.identityCredentials.zipIdx b
  return ⟨b.entries.insertionSort entryLe, b.entries.any fun e => !e.legacy⟩

/-- The last entry a test passes; the test of every entry is evaluated. -/
def lastMatch (test : CredentialEntry → Except Exn Bool) (entries : List CredentialEntry) :
    Except Exn (Option CredentialEntry) :=
  entries.foldlM (fun found e => do return if ← test e then some e else found) none

/-- `authenticate` -/
def TenantAuthenticator.authenticate (auth : TenantAuthenticator) (apiKey : Str) :
    Except Exn TenantPrincipal := do
  let candidate ← P.digest apiKey
  match ← lastMatch (fun e => compareDigest candidate e.digest) auth.entries with
  | none => throw (.authentication "invalid bearer credential")
  | some e => return e.principal

/-- `legacy_fingerprint_match` -/
def legacyFingerprintMatch (credentialFingerprint : Str) (e : CredentialEntry) : Except Exn Bool :=
  if credentialFingerprint.length = 16 then
    compareDigest (e.digest.take 16) credentialFingerprint
  else .ok false

/-- `fingerprint_match` -/
def fingerprintMatch (credentialFingerprint : Str) (e : CredentialEntry) : Except Exn Bool := do
  let full ← compareDigest e.digest credentialFingerprint
  let legacy ← legacyFingerprintMatch credentialFingerprint e
  return full || legacy

/-- `resolve_active_session` -/
def TenantAuthenticator.resolveActiveSession (auth : TenantAuthenticator)
    (tenantId subjectId keyId credentialFingerprint sessionId : Str) :
    Except Exn TenantPrincipal := do
  let found ← lastMatch (fun e => do
    let matched ← fingerprintMatch credentialFingerprint e
    return decide (e.tenantId = tenantId ∧ e.subjectId = subjectId ∧ e.keyId = keyId) && matched)
    auth.entries
  match found with
  | none => throw (.authentication "session credential is no longer active")
  | some e => return e.principal (lit "session") sessionId

end

end Auth

end AgencyRuntime
