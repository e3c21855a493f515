import AgencyRuntime.ModelEffects.Store

/-!
# The model effect authority

`ModelEffectAuthority` (model_effect.py) and the exchange of `ModelGateway.complete` as programs, in
the source's order.
-/

namespace AgencyRuntime

open Effects

/-- `ModelEffectCommand` -/
structure ModelEffectCommand where
  tenantId : Str
  runId : Str
  station : Str
  sourceArtifactId : Str
  sourceArtifactHash : Str
  instruction : Str
  maxCostMicros : Int
  idempotencyKey : Str
  request : ModelRequest

/-- `ModelEffectResult` -/
structure ModelEffectResult where
  effectId : Str
  tenantId : Str
  runId : Str
  station : Str
  sourceArtifactId : Str
  sourceArtifactHash : Str
  providerId : Str
  model : Str
  status : ModelEffectStatus
  executionFencingToken : Int
  outputText : Str
  outputSha256 : Str
  receipt : Obj
  replayed : Bool

/-- `ModelEffectResult.from_intent` -/
def ModelEffectResult.fromIntent (intent : ModelEffectIntent) (replayed : Bool) :
    ModelEffectResult where
  effectId := intent.effectId
  tenantId := intent.tenantId
  runId := intent.runId
  station := intent.station
  sourceArtifactId := intent.sourceArtifactId
  sourceArtifactHash := intent.sourceArtifactHash
  providerId := intent.providerId
  model := intent.model
  status := intent.status
  executionFencingToken := intent.executionFencingToken
  outputText := intent.outputText
  outputSha256 := intent.outputSha256
  receipt := intent.receipt
  replayed := replayed

/-- `ModelEffectAuthority` -/
structure ModelEffectAuthority (P : Platform) where
  gateway : ModelGateway P
  enabled : Bool

namespace ModelEffect

/-- `_validate_command`: the command with its instruction stripped. -/
def validateCommand (command : ModelEffectCommand) : Except Exn ModelEffectCommand := do
  check (∀ value ∈ [command.tenantId, command.runId, command.station, command.sourceArtifactId],
      value ≠ [] ∧ value.length ≤ 256)
    (.valueError "model effect identity is invalid")
  check (isSha256 command.sourceArtifactHash) (.valueError "source artifact hash is invalid")
  let instruction := Py.strip command.instruction
  check (instruction ≠ []) (.valueError "model effect instruction is invalid")
  let encoded ← Py.encode instruction
  check (encoded.length ≤ 4096) (.valueError "model effect instruction is invalid")
  check (0 ≤ command.maxCostMicros ∧ command.maxCostMicros ≤ 10000000000)
    (.valueError "model effect cost cap is invalid")
  check (8 ≤ command.idempotencyKey.length ∧ command.idempotencyKey.length ≤ 200)
    (.valueError "model effect idempotency key is invalid")
  return { command with instruction }

/-- The binding that `_build_intent` digests. -/
def bindingOf (command : ModelEffectCommand) (descriptor : ModelRequestDescriptor)
    (instructionHash : Str) : Obj :=
  [
    (Py.lit "tenant_id", .str command.tenantId),
    (Py.lit "run_id", .str command.runId),
    (Py.lit "station", .str command.station),
    (Py.lit "source_artifact_id", .str command.sourceArtifactId),
    (Py.lit "source_artifact_hash", .str command.sourceArtifactHash),
    (Py.lit "instruction_hash", .str instructionHash),
    (Py.lit "provider_id", .str descriptor.providerId),
    (Py.lit "model", .str descriptor.model),
    (Py.lit "endpoint_host", .str descriptor.endpointHost),
    (Py.lit "request_sha256", .str descriptor.requestSha256),
    (Py.lit "max_output_tokens", .int descriptor.maxOutputTokens),
    (Py.lit "max_cost_micros", .int command.maxCostMicros)]

/-- The intent of a command, a new row. -/
def pendingIntent (command : ModelEffectCommand) (descriptor : ModelRequestDescriptor)
    (effectId instructionHash idempotencyDigest bindingDigest now : Str) : ModelEffectIntent where
  effectId := effectId
  tenantId := command.tenantId
  runId := command.runId
  station := command.station
  sourceArtifactId := command.sourceArtifactId
  sourceArtifactHash := command.sourceArtifactHash
  instructionHash := instructionHash
  providerId := descriptor.providerId
  model := descriptor.model
  endpointHost := descriptor.endpointHost
  requestSha256 := descriptor.requestSha256
  maxOutputTokens := descriptor.maxOutputTokens
  maxCostMicros := command.maxCostMicros
  idempotencyDigest := idempotencyDigest
  bindingDigest := bindingDigest
  status := .pending
  executionFencingToken := 1
  outputText := []
  outputSha256 := []
  receipt := []
  failureReason := []
  createdAt := now
  updatedAt := now
  completedAt := none
  revokedAt := none

/-- `_build_intent` -/
def buildIntent (P : Platform) (command : ModelEffectCommand)
    (descriptor : ModelRequestDescriptor) : Program ModelEffectIntent := do
  let instructionHash ← .ofExcept (P.digest command.instruction)
  let binding ← .ofExcept (canonicalJson (.obj (bindingOf command descriptor instructionHash)))
  let bindingDigest ← .ofExcept (P.digest binding)
  let idempotencyDigest ← .ofExcept (P.digest command.idempotencyKey)
  let now ← clock
  let effectId ← .ofExcept (P.stableId "model-effect-intent"
    [.str command.tenantId, .str idempotencyDigest] 48)
  return pendingIntent command descriptor effectId instructionHash idempotencyDigest bindingDigest
    now

variable (I : Interpreter)

/-- `_post_json`. `httpx` encodes the headers as it builds the request, before it sends it. -/
def postJson (policy : GatewayPolicy) (request : ModelHttpRequest) :
    Program (Obj × List (Str × Str)) := do
  .raiseIf (asciiRequest request = false) .unicodeEncodeError
  ask (.send request)
  let reply ← ask (.receive request)
  .ofExcept (readReply I.toPlatform policy reply)

/-- What `ModelGateway.complete` makes of a usable reply. -/
def resultOf (provider : ProviderExecutionConfig I.toPlatform)
    (descriptor : ModelRequestDescriptor) (payload : Obj) (headers : List (Str × Str)) :
    Except Exn ModelResult := do
  let (text, inputTokens, outputTokens, totalTokens) ← parseResponse provider.protocol payload
  let providerRequestId ← providerRequestId I headers payload
  let outputHash ← I.digest text
  return ⟨text, ⟨provider.providerId, provider.model, providerRequestId, inputTokens, outputTokens,
    totalTokens, descriptor.requestSha256, outputHash⟩⟩

/-- `ModelGateway.complete` -/
def gatewayComplete (G : ModelGateway I.toPlatform) (request : ModelRequest) :
    Program ModelResult :=
  match G.provider with
  | none => throw (.modelGatewayDisabled "model gateway execution is disabled")
  | some provider => do
    let normalized ← .ofExcept (validatedRequest G.policy request)
    let descriptor ← .ofExcept (descriptorOf G.policy provider normalized)
    let http ← .ofExcept (providerRequest G.policy provider normalized)
    let (payload, headers) ← postJson I G.policy http
    .ofExcept (resultOf I provider descriptor payload headers)

/-- `_mark_unknown`: only a state error is ignored. -/
def markUnknownQuietly (intent : ModelEffectIntent) (reason : Str) : Program Unit :=
  (markUnknown intent.tenantId intent.effectId intent.executionFencingToken reason >>=
    fun _ => pure ()).tryCatch fun
    | .modelEffectState _ => pure ()
    | e => throw e

/-- The receipt `execute` stores. -/
def effectReceipt (result : ModelResult) (intent : ModelEffectIntent) : Obj :=
  Py.update result.receipt.publicDict
    [
      (Py.lit "effect_binding_digest", .str intent.bindingDigest),
      (Py.lit "execution_fencing_token", .int intent.executionFencingToken),
      (Py.lit "max_cost_micros", .int intent.maxCostMicros)]

/-- The test `execute` makes on what the gateway returns. -/
def receiptMatches (P : Platform) (descriptor : ModelRequestDescriptor) (result : ModelResult) :
    Except Exn Bool := do
  if result.receipt.providerId ≠ descriptor.providerId ∨ result.receipt.model ≠ descriptor.model ∨
      result.receipt.requestSha256 ≠ descriptor.requestSha256 then return false
  else return result.receipt.outputSha256 = (← P.digest result.text)

/-- The `except` clause around the exchange. -/
def exchangeFailed (reserved : ModelEffectIntent) : Exn → Program ModelResult
  | .modelGatewayProvider _ => do
    markUnknownQuietly reserved (Py.lit "provider_outcome_unknown")
    throw (.modelEffectUnknown "model provider outcome is unknown")
  | e => throw e

/-- The `except` clause around the completion. -/
def completionFailed (intent : ModelEffectIntent) (_ : Exn) : Program ModelEffectIntent := do
  markUnknownQuietly intent (Py.lit "result_persistence_uncertain")
  throw (.modelEffectUnknown "model effect result persistence is uncertain")

/-- What `execute` does with an executable reservation. -/
def executeReserved (G : ModelGateway I.toPlatform) (request : ModelRequest)
    (descriptor : ModelRequestDescriptor) (intent reserved : ModelEffectIntent) :
    Program ModelEffectResult := do
  let result ← (gatewayComplete I G request).tryCatch (exchangeFailed reserved)
  let same ← .ofExcept (receiptMatches I.toPlatform descriptor result)
  if same then
    let completed ← (complete I.toPlatform intent.tenantId intent.effectId
      intent.executionFencingToken result.text (effectReceipt result intent)).tryCatch
        (completionFailed intent)
    return .fromIntent completed false
  else do
    markUnknownQuietly reserved (Py.lit "provider_receipt_invalid")
    throw (.modelEffectUnknown "model provider receipt is invalid")

/-- The `except` clause around `describe`. -/
def unavailable : Exn → Exn
  | .modelGatewayDisabled _ | .modelGatewayConfiguration _ =>
    .modelEffectUnavailable "model provider execution is unavailable"
  | e => e

/-- `execute` -/
def execute (A : ModelEffectAuthority I.toPlatform) (command : ModelEffectCommand) :
    Program ModelEffectResult := do
  .raiseIf (A.enabled = false) (.modelEffectUnavailable "model effect authority is disabled")
  let validated ← .ofExcept (validateCommand command)
  let descriptor ← .ofExcept ((describe A.gateway validated.request).mapError unavailable)
  let intent ← buildIntent I.toPlatform validated descriptor
  let reservation ← reserve intent
  if reservation.executable then
    executeReserved I A.gateway validated.request descriptor intent reservation.intent
  else if reservation.replayed then return .fromIntent reservation.intent true
  else throw (.modelEffectBlocked reservation.intent.status.text)

end ModelEffect

end AgencyRuntime
