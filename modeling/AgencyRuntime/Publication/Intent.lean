import AgencyRuntime.Python.Json
import AgencyRuntime.Tables.Unique

/-!
# Publication intents

The row of `social_publication_intents` (social_publication_store.py), its two UNIQUE constraints
and primary key, and the validators of the store.
-/

namespace AgencyRuntime

open Tables

/-- `_STATUSES` -/
inductive PublicationStatus
  | pending
  | succeeded
  | unknown
  | failed
  | revoked
deriving DecidableEq, Repr

/-- The stored text of a status. -/
def PublicationStatus.text : PublicationStatus → String
  | .pending => "pending"
  | .succeeded => "succeeded"
  | .unknown => "unknown"
  | .failed => "failed"
  | .revoked => "revoked"

/-- `SocialPublicationIntent` -/
structure SocialPublicationIntent where
  intentId : Str
  tenantId : Str
  channelId : Str
  accountId : Str
  runId : Str
  artifactId : Str
  artifactHash : Str
  contentHash : Str
  mediaUrlHash : Option Str
  mediaHash : Option Str
  confirmationHash : Option Str
  greenlightId : Str
  greenlightFencingToken : Int
  budgetCents : Int
  idempotencyDigest : Str
  bindingDigest : Str
  status : PublicationStatus
  executionFencingToken : Int
  providerContainerId : Option Str
  providerPostId : Option Str
  receipt : Obj
  failureReason : Str
  createdAt : Str
  updatedAt : Str
  completedAt : Option Str
  revokedAt : Option Str

namespace SocialPublicationIntent

/-- The intent as it was reserved: what no statement of the store updates. -/
def core (r : SocialPublicationIntent) : SocialPublicationIntent :=
  { r with
    status := .pending
    providerContainerId := none
    providerPostId := none
    receipt := []
    failureReason := []
    updatedAt := r.createdAt
    completedAt := none
    revokedAt := none }

/-- `tenant_id = ? AND idempotency_digest = ?` -/
def sameKey (r s : SocialPublicationIntent) : Bool :=
  r.tenantId == s.tenantId && r.idempotencyDigest == s.idempotencyDigest

/-- `tenant_id = ? AND binding_digest = ?` -/
def sameBinding (r s : SocialPublicationIntent) : Bool :=
  r.tenantId == s.tenantId && r.bindingDigest == s.bindingDigest

/-- `tenant_id = ? AND intent_id = ?` -/
def isFor (tenantId intentId : Str) (r : SocialPublicationIntent) : Bool :=
  r.tenantId == tenantId && r.intentId == intentId

end SocialPublicationIntent

/-- `PRIMARY KEY (intent_id)`, `UNIQUE (tenant_id, idempotency_digest)` and
`UNIQUE (tenant_id, binding_digest)`. -/
def intentSchema : Schema SocialPublicationIntent where
  Key := SocialPublicationIntent
  key := SocialPublicationIntent.core
  clash r s := r.intentId == s.intentId || r.sameKey s || r.sameBinding s
  refl _ := by simp
  symm r s := by
    simp only [SocialPublicationIntent.sameKey, SocialPublicationIntent.sameBinding,
      BEq.comm]

/-- `social_publication_intents` -/
abbrev IntentTable := Table intentSchema

/-- `SocialPublicationReservation` -/
structure SocialPublicationReservation where
  intent : SocialPublicationIntent
  executable : Bool
  replayed : Bool

/-- `_IDENTIFIER.fullmatch` -/
def isIdentifier : Str → Bool
  | [] => false
  | c :: cs => Py.isAlnum c && cs.length ≤ 255 && cs.all fun d => Py.isAlnum d || Py.oneOf "._:@-" d

theorem isascii_of_isIdentifier {s : Str} (h : isIdentifier s = true) : Py.isascii s = true := by
  cases s with
  | nil => cases h
  | cons c cs =>
    simp only [isIdentifier, Bool.and_eq_true, List.all_eq_true, Bool.or_eq_true] at h
    have hc := Py.isAlnum_range h.1.1
    rw [Py.isascii, List.all_eq_true]
    intro d hd
    rcases List.mem_cons.1 hd with rfl | hd
    · exact decide_eq_true (by omega)
    · rcases h.2 d hd with h | h
      · have := Py.isAlnum_range h
        exact decide_eq_true (by omega)
      · have hall : ∀ e ∈ "._:@-".toList, e.toNat < 128 := by simp
        obtain ⟨e, he, h⟩ := Py.oneOf_iff.1 h
        exact decide_eq_true (h ▸ hall e he)

/-- `_CHANNEL.fullmatch` -/
def isChannel (s : Str) : Bool := s == Py.lit "x" || s == Py.lit "instagram"

/-- `_SHA256.fullmatch`, and `_is_sha256` of social_publication.py. -/
def isSha256 (s : Str) : Bool := s.length == 64 && s.all (Py.oneOf "0123456789abcdef")

/-- `validate_identity` -/
def validateIdentity (tenantId identifier : Str) : Except Exn Unit :=
  check (isIdentifier tenantId && isIdentifier identifier)
    (.valueError "publication identity is invalid")

/-- `validate_provider_id` -/
def validateProviderId (value : Str) : Except Exn Unit :=
  check (isIdentifier value) (.valueError "provider publication ID is invalid")

/-- `validate_reason` -/
def validateReason (reason : Str) : Except Exn Unit :=
  check (reason ≠ [] ∧ reason.length ≤ 128 ∧ reason.all fun c => 32 ≤ c.val && c.val != 127)
    (.valueError "publication reason is invalid")

/-- `validate_receipt` -/
def validateReceipt (receipt : Obj) : Except Exn Unit := do
  let encoded ← Py.encode (← canonicalJson (.obj receipt))
  check (encoded.length ≤ 8192) (.valueError "publication receipt is too large")

/-- `validate_intent(intent, require_pending=True)` -/
def validateIntent (intent : SocialPublicationIntent) : Except Exn Unit := do
  check (∀ value ∈ [intent.intentId, intent.tenantId, intent.accountId, intent.runId,
      intent.artifactId, intent.greenlightId], isIdentifier value)
    (.valueError "publication intent identity is invalid")
  check (isChannel intent.channelId) (.valueError "publication channel is invalid")
  check (∀ digest ∈ [intent.artifactHash, intent.contentHash, intent.idempotencyDigest,
      intent.bindingDigest], isSha256 digest)
    (.valueError "publication digest is invalid")
  check (∀ optional ∈ [intent.mediaUrlHash, intent.mediaHash, intent.confirmationHash],
      ∀ digest ∈ optional, isSha256 digest)
    (.valueError "publication optional digest is invalid")
  check (0 ≤ intent.greenlightFencingToken ∧ 0 ≤ intent.budgetCents)
    (.valueError "publication authority values are invalid")
  check (intent.status = .pending ∧ 1 ≤ intent.executionFencingToken)
    (.valueError "new publication intent must be pending with a positive fence")
  validateReceipt intent.receipt

/-- What a validated intent is known to be. -/
theorem validateIntent_ok {intent : SocialPublicationIntent} (h : validateIntent intent = .ok ()) :
    (isIdentifier intent.intentId = true ∧ isIdentifier intent.tenantId = true ∧
      isIdentifier intent.accountId = true) ∧ intent.status = .pending ∧
      1 ≤ intent.executionFencingToken := by
  obtain ⟨_, hids, h⟩ := exceptBind_ok h
  obtain ⟨_, _, h⟩ := exceptBind_ok h
  obtain ⟨_, _, h⟩ := exceptBind_ok h
  obtain ⟨_, _, h⟩ := exceptBind_ok h
  obtain ⟨_, _, h⟩ := exceptBind_ok h
  obtain ⟨_, hpending, _⟩ := exceptBind_ok h
  have hids := check_ok.1 hids
  simp only [List.forall_mem_cons] at hids
  exact ⟨⟨hids.1, hids.2.1, hids.2.2.1⟩, check_ok.1 hpending⟩

/-- `reconciliation_matches` -/
def reconciliationMatches (intent : SocialPublicationIntent) (providerPostId : Str)
    (receipt : Obj) : Bool :=
  intent.status = .succeeded && intent.providerPostId == some providerPostId &&
    match Py.get receipt "reconciliation_binding_digest",
        Py.get intent.receipt "reconciliation_binding_digest" with
    | .str expectedBinding, .str observedBinding =>
      isSha256 expectedBinding && observedBinding == expectedBinding
    | _, _ => false

end AgencyRuntime
