import AgencyRuntime.Publication.Intent

/-!
# Model effect intents

The row of `model_effect_intents` (model_effect_store.py), its UNIQUE constraints and primary key,
and the validators of the store. The statuses are those of the publication store.
-/

namespace AgencyRuntime

open Tables

/-- `_STATUSES` of model_effect_store.py -/
abbrev ModelEffectStatus := PublicationStatus

/-- `ModelEffectIntent` -/
structure ModelEffectIntent where
  effectId : Str
  tenantId : Str
  runId : Str
  station : Str
  sourceArtifactId : Str
  sourceArtifactHash : Str
  instructionHash : Str
  providerId : Str
  model : Str
  endpointHost : Str
  requestSha256 : Str
  maxOutputTokens : Int
  maxCostMicros : Int
  idempotencyDigest : Str
  bindingDigest : Str
  status : ModelEffectStatus
  executionFencingToken : Int
  outputText : Str
  outputSha256 : Str
  receipt : Obj
  failureReason : Str
  createdAt : Str
  updatedAt : Str
  completedAt : Option Str
  revokedAt : Option Str

namespace ModelEffectIntent

/-- What no statement of the store updates. -/
def core (r : ModelEffectIntent) : ModelEffectIntent :=
  { r with
    status := .pending
    executionFencingToken := 1
    outputText := []
    outputSha256 := []
    receipt := []
    failureReason := []
    updatedAt := r.createdAt
    completedAt := none
    revokedAt := none }

/-- `tenant_id = ? AND idempotency_digest = ?` -/
def sameKey (r s : ModelEffectIntent) : Bool :=
  r.tenantId == s.tenantId && r.idempotencyDigest == s.idempotencyDigest

/-- `tenant_id = ? AND binding_digest = ?` -/
def sameBinding (r s : ModelEffectIntent) : Bool :=
  r.tenantId == s.tenantId && r.bindingDigest == s.bindingDigest

/-- Two intents claim one effect. -/
def sameEffect (r s : ModelEffectIntent) : Bool := r.sameKey s || r.sameBinding s

/-- `tenant_id = ? AND effect_id = ?` -/
def isFor (tenantId effectId : Str) (r : ModelEffectIntent) : Bool :=
  r.tenantId == tenantId && r.effectId == effectId

/-- `tenant_id = ? AND run_id = ?` -/
def ofRun (tenantId runId : Str) (r : ModelEffectIntent) : Bool :=
  r.tenantId == tenantId && r.runId == runId

end ModelEffectIntent

/-- `PRIMARY KEY (effect_id)`, `UNIQUE (tenant_id, idempotency_digest)` and
`UNIQUE (tenant_id, binding_digest)`. -/
def effectSchema : Schema ModelEffectIntent where
  Key := ModelEffectIntent
  key := ModelEffectIntent.core
  clash r s := r.effectId == s.effectId || r.sameEffect s
  refl _ := by simp
  symm r s := by
    simp only [ModelEffectIntent.sameEffect, ModelEffectIntent.sameKey,
      ModelEffectIntent.sameBinding, BEq.comm]

/-- `model_effect_intents` -/
abbrev EffectTable := Table effectSchema

/-- `ModelEffectReservation` -/
structure ModelEffectReservation where
  intent : ModelEffectIntent
  executable : Bool
  replayed : Bool

namespace ModelEffect

/-- `_IDENTIFIER.fullmatch` -/
def isIdentifier : Str → Bool :=
  Py.isToken Py.isAlnum (fun c => Py.isAlnum c || Py.oneOf "._:@/-" c) 0 255

/-- `_PROVIDER.fullmatch` -/
def isProvider : Str → Bool :=
  Py.isToken (Py.inRange 'a' 'z') (fun c => Py.isLowerAlnum c || Py.oneOf "_-" c) 1 31

/-- `_MODEL.fullmatch` -/
def isModel : Str → Bool :=
  Py.isToken Py.isAlnum (fun c => Py.isAlnum c || Py.oneOf "._:/-" c) 0 127

/-- `_HOST.fullmatch` -/
def isHost : Str → Bool :=
  Py.isToken Py.isLowerAlnum (fun c => Py.isLowerAlnum c || Py.oneOf ".-" c) 0 252

/-- `_MAX_OUTPUT_BYTES` -/
def maxOutputBytes : Nat := 1024 * 1024

/-- `_MAX_RECEIPT_BYTES` -/
def maxReceiptBytes : Nat := 16 * 1024

/-- `validate_identity` -/
def validateIdentity (tenantId effectId : Str) : Except Exn Unit :=
  check (isIdentifier tenantId && isIdentifier effectId)
    (.valueError "model effect identity is invalid")

/-- `validate_output` -/
def validateOutput (outputText : Str) : Except Exn Unit := do
  check (outputText ≠ []) (.valueError "model effect output is invalid")
  let encoded ← Py.encode outputText
  check (encoded.length ≤ maxOutputBytes) (.valueError "model effect output is invalid")

/-- `validate_receipt` -/
def validateReceipt (receipt : Obj) : Except Exn Unit := do
  let encoded ← Py.encode (← canonicalJson (.obj receipt))
  check (encoded.length ≤ maxReceiptBytes) (.valueError "model effect receipt is too large")

/-- `validate_reason` -/
def validateReason (reason : Str) : Except Exn Unit := do
  check (reason ≠ []) (.valueError "model effect reason is invalid")
  let encoded ← Py.encode reason
  check (encoded.length ≤ 256 ∧
      Py.isToken Py.isLowerAlnum (fun c => Py.isLowerAlnum c || Py.oneOf "_.:-" c) 0 255 reason)
    (.valueError "model effect reason is invalid")

/-- `validate_intent(intent, require_pending=True)` -/
def validateIntent (intent : ModelEffectIntent) : Except Exn Unit := do
  check (∀ value ∈ [intent.effectId, intent.tenantId, intent.runId, intent.station,
      intent.sourceArtifactId], isIdentifier value)
    (.valueError "model effect identity is invalid")
  check (∀ digest ∈ [intent.sourceArtifactHash, intent.instructionHash, intent.requestSha256,
      intent.idempotencyDigest, intent.bindingDigest], isSha256 digest)
    (.valueError "model effect digest is invalid")
  check (isProvider intent.providerId) (.valueError "model effect provider is invalid")
  check (isModel intent.model) (.valueError "model effect model is invalid")
  check (isHost intent.endpointHost) (.valueError "model effect endpoint host is invalid")
  check (1 ≤ intent.maxOutputTokens ∧ intent.maxOutputTokens ≤ 8192)
    (.valueError "model effect token cap is invalid")
  check (0 ≤ intent.maxCostMicros ∧ intent.maxCostMicros ≤ 10000000000)
    (.valueError "model effect cost cap is invalid")
  check (intent.status = .pending) (.valueError "model effect status is invalid")
  check (1 ≤ intent.executionFencingToken) (.valueError "model effect fence is invalid")
  if intent.outputText = [] then .ok () else validateOutput intent.outputText
  check (intent.outputSha256 = [] ∨ isSha256 intent.outputSha256)
    (.valueError "model effect output digest is invalid")
  validateReceipt intent.receipt
  if intent.failureReason = [] then .ok () else validateReason intent.failureReason

/-- What a validated intent is known to be. -/
theorem validateIntent_ok {intent : ModelEffectIntent} (h : validateIntent intent = .ok ()) :
    isIdentifier intent.effectId = true ∧ isIdentifier intent.tenantId = true ∧
      intent.status = .pending ∧ 1 ≤ intent.executionFencingToken := by
  obtain ⟨_, hids, h⟩ := exceptBind_ok h
  obtain ⟨_, _, h⟩ := exceptBind_ok h
  obtain ⟨_, _, h⟩ := exceptBind_ok h
  obtain ⟨_, _, h⟩ := exceptBind_ok h
  obtain ⟨_, _, h⟩ := exceptBind_ok h
  obtain ⟨_, _, h⟩ := exceptBind_ok h
  obtain ⟨_, _, h⟩ := exceptBind_ok h
  obtain ⟨_, hpending, h⟩ := exceptBind_ok h
  obtain ⟨_, hfence, _⟩ := exceptBind_ok h
  have hids := check_ok.1 hids
  simp only [List.forall_mem_cons] at hids
  exact ⟨hids.1, hids.2.1, check_ok.1 hpending, check_ok.1 hfence⟩

/-- A text the store accepts as an output is not empty and can be encoded. -/
theorem validateOutput_ok {outputText : Str} (h : validateOutput outputText = .ok ()) :
    outputText ≠ [] ∧ Py.encodable outputText = true := by
  obtain ⟨_, hne, h⟩ := exceptBind_ok h
  obtain ⟨_, henc, _⟩ := exceptBind_ok h
  exact ⟨check_ok.1 hne, (Py.encode_ok.1 henc).1⟩

/-- `reconciliation_matches` -/
def reconciliationMatches (intent : ModelEffectIntent) (outputSha256 : Str) (receipt : Obj) :
    Bool :=
  intent.status = .succeeded && intent.outputSha256 == outputSha256 &&
    match Py.get receipt "reconciliation_binding_digest",
        Py.get intent.receipt "reconciliation_binding_digest" with
    | .str expected, .str observed => isSha256 expected && observed == expected
    | _, _ => false

end ModelEffect

end AgencyRuntime
