import AgencyRuntime.Release.Prepare

/-!
# The endpoints

`publish_social_artifact`, `revoke_run_greenlight` with `revoke_greenlight`, and
`disconnect_social_channel` (api.py). Each is a program over the stores; any number of them may be
under way (`Run`).
-/

namespace AgencyRuntime

open Effects Tables Py Orchestrator

namespace Release

/-- What an endpoint answers. -/
inductive Reply
  | published (result : SocialPublicationResult)
  | revoked (replayed : Bool)
  | disconnected (disconnected : Bool)
  | apiError (statusCode : Nat) (code : String)

/-- The answers of the part that publishes. -/
def Reply.ofPublish : Reauthorize.PublishReply → Reply
  | .published result => .published result
  | .apiError statusCode code => .apiError statusCode code

/-! ## Publishing -/

/-- What the checks on a political run come to. -/
inductive Gate
  | refused (reply : Reply)
  | passed (confirmationHash : Option Str)

/-- The checks of `publish_social_artifact` on the run it reads. -/
def politicalGate (P : Platform) (politicalPublicationEnabled : Bool) (r : PublishRequest)
    (run : ExecutionRun) : Except Exn Gate :=
  if run.brief.political = true then
    if run.brief.publicationMode = lit "paid" then
      .ok (.refused (.apiError 409 "paid_publication_requires_ads_authority"))
    else if politicalPublicationEnabled = false then
      .ok (.refused (.apiError 409 "political_publication_disabled"))
    else do
      let expected := lit "PUBLICAR POLITICA " ++ r.runId ++ lit " " ++ r.channelId
      let confirmed ← compareDigest r.request.politicalConfirmation expected
      if confirmed then return .passed (some (← P.digest expected))
      else return .refused (.apiError 409 "political_confirmation_invalid")
  else .ok (.passed none)

/-- The `except` clauses of `publish_social_artifact` for what a preparation raises. -/
def answerPreparation : Exn → Program Reply
  | .keyError _ => return .apiError 404 "not_found"
  | e =>
    if e.isGreenlight ∨ e.isValueError then return .apiError 409 "social_publication_unavailable"
    else throw e

/-- The `try` of `publish_social_artifact`. A preparation raises none of the exceptions of an
execution, so the clauses for these are those of the part that executes. -/
def publishConfirmed (P : Platform) (A : SocialPublicationAuthority) (r : PublishRequest)
    (confirmationHash : Option Str) : Program Reply := do
  let prepared ← (prepareSocialPublication P r confirmationHash).attempt
  match prepared with
  | .error e => answerPreparation e
  | .ok command => do
    let reply ← (Reauthorize.publishSocialArtifact P A command).lift embedding
    return .ofPublish reply

/-- `publish_social_artifact` -/
def publishSocialArtifact (P : Platform) (A : SocialPublicationAuthority)
    (politicalPublicationEnabled : Bool) (r : PublishRequest) : Program Reply := do
  let found ← call (.getRun r.tenantId r.runId)
  match found with
  | none => return .apiError 404 "not_found"
  | some run => do
    let gate ← .ofExcept (politicalGate P politicalPublicationEnabled r run)
    match gate with
    | .refused reply => return reply
    | .passed confirmationHash =>
      if A.enabled = false then return .apiError 409 "social_publication_unavailable"
      else publishConfirmed P A r confirmationHash

/-! ## Revoking -/

/-- A request to revoke the Greenlight of a run. -/
structure RevokeRequest where
  tenantId : Str
  runId : Str
  subjectId : Str
  reason : Str
  idempotencyKey : Str

/-- `orchestrator.revoke` on a run that was read. -/
def revokedRun (clock : Nat → Str) (run : ExecutionRun) (reviewer reason : Str) :
    Except Exn ExecutionRun :=
  match Orchestrator.revoke reviewer reason ⟨run, clock, []⟩ with
  | (.ok (), s) => .ok s.run
  | (.error e, _) => .error e

/-- The `except` clauses of `revoke_greenlight`: is the command a replay? -/
def answerSave (r : RevokeRequest) : Except Exn Unit → Program Bool
  | .ok () => return false
  | .error (.auditEventConflict m) => do
    let recorded ← ask (.commandReplay r.tenantId r.idempotencyKey)
    let replayed ← .ofExcept recorded
    if replayed then return true else throw (.auditEventConflict m)
  | .error (.runStateConflict _) => throw (.greenlight "Greenlight is not active")
  | .error e => throw e

/-- `revoke_greenlight`: is the command a replay? -/
def revokeGreenlight (r : RevokeRequest) : Program Bool := do
  let recorded ← ask (.commandReplay r.tenantId r.idempotencyKey)
  let replayed ← .ofExcept recorded
  if replayed then return true
  else do
    let run ← loadRun r.tenantId r.runId
    let clock ← ask .stationClock
    let revoked ← .ofExcept (revokedRun clock run r.subjectId r.reason)
    let fault ← ask .auditFault
    let saved ← call (.saveRun r.tenantId revoked .completed fault)
    answerSave r saved

/-- `revoke_unused`, on the stores. -/
def revokeUnused (filter : Publication.RevokeFilter) (reason : String) : Program Nat :=
  ((Publication.revokeUnused filter (lit reason)).lift Reauthorize.embedding).lift embedding

/-- The `try` of `revoke_run_greenlight`. -/
def revokeAndClear (r : RevokeRequest) : Program Reply := do
  let replayed ← revokeGreenlight r
  if replayed then return .revoked true
  else do
    let revokedIntents ← revokeUnused ⟨r.tenantId, none, none, some r.runId⟩ "greenlight_revoked"
    if revokedIntents ≠ 0 then
      let recorded ← ask (.recordRevokedIntents r.tenantId r.runId revokedIntents)
      .ofExcept recorded
    return .revoked false

/-- The `except` clauses of `revoke_run_greenlight`. -/
def answerRevocation : Exn → Program Reply
  | .idempotencyConflict _ => return .apiError 409 "idempotency_conflict"
  | .keyError _ => return .apiError 404 "not_found"
  | e => if e.isGreenlight then return .apiError 409 "greenlight" else throw e

/-- `revoke_run_greenlight` -/
def revokeRunGreenlight (r : RevokeRequest) : Program Reply := do
  let outcome ← (revokeAndClear r).attempt
  match outcome with
  | .ok reply => return reply
  | .error e => answerRevocation e

/-! ## Disconnecting -/

/-- The end of `disconnect_social_channel`. -/
def deleteConnection (tenantId channelId : Str) (revokedIntents : Nat) : Program Reply := do
  .ofExcept (Reauthorize.validateTenantChannel tenantId channelId)
  let disconnected ← call (.account (.deleteConnection tenantId channelId))
  if disconnected then
    let recorded ← ask (.account (.recordSocialEvent tenantId channelId revokedIntents))
    .ofExcept recorded
  return .disconnected disconnected

/-- `disconnect_social_channel` -/
def disconnectSocialChannel (tenantId channelId : Str) : Program Reply :=
  if isChannel channelId = false then return .apiError 404 "not_found"
  else do
    .ofExcept (Reauthorize.validateTenantChannel tenantId channelId)
    let connection ← call (.account (.getConnection tenantId channelId))
    let revokedIntents ← match connection with
      | none => pure 0
      | some connection =>
        revokeUnused ⟨tenantId, some channelId, some connection.accountId, none⟩
          "account_disconnected"
    deleteConnection tenantId channelId revokedIntents

/-! ## Runs -/

/-- A request to one of the endpoints. -/
inductive Request
  | publish (r : PublishRequest)
  | revoke (r : RevokeRequest)
  | disconnect (tenantId channelId : Str)

/-- How the runtime is set up. -/
structure Deployment where
  platform : Platform
  authority : SocialPublicationAuthority
  politicalPublicationEnabled : Bool

/-- The program of a request. -/
def Request.program (D : Deployment) : Request → Program Reply
  | .publish r => publishSocialArtifact D.platform D.authority D.politicalPublicationEnabled r
  | .revoke r => revokeRunGreenlight r
  | .disconnect tenantId channelId => disconnectSocialChannel tenantId channelId

/-- The state of a run. -/
abbrev State := Config sig Exn Reply Stores

/-- A run of requests, one for each thread, and of the other requests. -/
def Run (D : Deployment) (requests : Nat → Request) (start : Stores) (L : History) (c : State) :
    Prop :=
  Steps (service.machine questions) (.start start fun i => (requests i).program D) L c

end Release

end AgencyRuntime
