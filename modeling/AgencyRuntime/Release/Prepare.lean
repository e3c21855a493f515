import AgencyRuntime.Release.Stores

/-!
# Preparing a publication

`prepare_social_publication` and `assert_greenlight_effect_authorized` (api.py). The run is read
twice, so the run that the second check passes need not be the one whose artifacts are published;
what ties the two together is the envelope of ids and hashes, which the second check compares with
the first.
-/

namespace AgencyRuntime

open Effects Tables Py Orchestrator

/-- `SocialPublicationRequest` -/
structure SocialPublicationRequest where
  artifactId : Str
  mediaArtifactId : Option Str
  greenlightId : Str
  greenlightFencingToken : Int
  politicalConfirmation : Str

namespace Release

/-! ## The checks on the Greenlight -/

/-- What a request claims of a Greenlight. -/
structure Effect where
  greenlightId : Str
  fencingToken : Int
  artifactIds : List Str
  artifactHashes : List Str
  channel : Str
  budgetCents : Int

/-- The checks of `assert_greenlight_effect_authorized` on the run it reads. -/
def checkEffect (effect : Effect) (run : ExecutionRun) : Except Exn Unit := do
  let greenlight ← activeGreenlight run
  check (greenlight.greenlightId = effect.greenlightId)
    (.greenlight "Greenlight identity does not match")
  check (greenlight.fencingToken = effect.fencingToken)
    (.greenlight "Greenlight fencing token is stale")
  check (greenlight.approvedArtifactIds = effect.artifactIds ∧
      greenlight.approvedArtifactHashes = effect.artifactHashes)
    (.greenlight "Greenlight artifact envelope does not match")
  check (effect.channel ∈ greenlight.authorizedChannels.map TargetPlatform.value)
    (.greenlight "Greenlight channel is not authorized")
  check (0 ≤ effect.budgetCents ∧ effect.budgetCents ≤ greenlight.authorizedBudgetCents)
    (.greenlight "Greenlight budget is not authorized")

/-- `assert_greenlight_effect_authorized` -/
def assertGreenlightEffectAuthorized (tenantId runId : Str) (effect : Effect) : Program Unit := do
  let run ← loadRun tenantId runId
  .ofExcept (checkEffect effect run)

/-! ## The approved artifacts -/

/-- `artifact_by_id.get(artifact_id)`: of several with the id, the last. -/
def artifactById (run : ExecutionRun) (artifactId : Str) : Option Artifact :=
  run.artifacts.reverse.find? (·.artifactId == artifactId)

/-- `next((item for item in run.artifacts if item.kind == kind), None)` -/
def firstOfKind (run : ExecutionRun) (kind : String) : Option Artifact :=
  run.artifacts.find? (·.kind == lit kind)

/-- `approved_artifact_hashes[approved_artifact_ids.index(artifact_id)]`; `none` is `ValueError`. -/
def frozenHash (greenlight : Greenlight) (artifactId : Str) : Option Str :=
  greenlight.approvedArtifactHashes[greenlight.approvedArtifactIds.idxOf artifactId]?

/-- The comparison of an artifact with the hash that the Greenlight froze. -/
def checkFrozen (P : Platform) (greenlight : Greenlight) (artifact : Artifact)
    (notApproved mismatch : String) : Except Exn Unit := do
  let frozen ← (frozenHash greenlight artifact.artifactId).elim
    (.error (.greenlight notApproved)) .ok
  let actual ← approvedHash P artifact
  check (actual = frozen) (.greenlight mismatch)

/-- `payload.get(name) == value` -/
def holdsText (payload : Obj) (name : String) (value : Str) : Bool :=
  match Py.get payload name with
  | .str s => s == value
  | _ => false

/-- The texts of a variant that are not blank. -/
def variantParts (variant : Obj) : List Str :=
  ["hook", "body", "cta"].filterMap fun field =>
    match Py.get variant field with
    | .str s => if strip s = [] then none else some (strip s)
    | _ => none

/-- The text of an artifact for a channel. -/
def channelContent (artifact : Artifact) (channelId : Str) : Except Exn Str := do
  let variants ← match Py.get artifact.payload "variants" with
    | .obj variants => .ok variants
    | _ => .error (.greenlight "copy artifact variants are invalid")
  let variant ← match variants.lookup channelId with
    | some (.obj variant) => .ok variant
    | _ => .error (.greenlight "copy artifact has no authorized channel variant")
  check (variantParts variant ≠ []) (.greenlight "copy artifact channel variant is empty")
  return (lit "\n\n").intercalate (variantParts variant)

/-- What is taken from the copy artifact. -/
structure Copy where
  artifact : Artifact
  artifactHash : Str
  content : Str

/-- The copy artifact of a request. -/
def approvedCopy (P : Platform) (run : ExecutionRun) (greenlight : Greenlight)
    (artifactId channelId : Str) : Except Exn Copy := do
  let artifact ← ((artifactById run artifactId).filter (·.kind == lit "copy_deck")).elim
    (.error (.greenlight "approved copy artifact is unavailable")) .ok
  checkFrozen P greenlight artifact "copy artifact is not approved"
    "copy artifact hash does not match Greenlight"
  let artifactHash ← P.digest (← canonicalJson artifact.toJson)
  let content ← channelContent artifact channelId
  return ⟨artifact, artifactHash, content⟩

/-- What a media artifact says of its media. -/
structure MediaReference where
  mediaUrl : Str
  sha256 : Str
  mediaId : Str

/-- The media artifact of a request. -/
def approvedMedia (P : Platform) (run : ExecutionRun) (greenlight : Greenlight)
    (mediaArtifactId : Option Str) : Except Exn MediaReference := do
  let mediaArtifactId ← mediaArtifactId.elim
    (.error (.greenlight "Instagram requires an approved media artifact")) .ok
  let media ← ((artifactById run mediaArtifactId).filter (·.kind == lit "publication_media")).elim
    (.error (.greenlight "approved publication media is unavailable")) .ok
  checkFrozen P greenlight media "media artifact is not approved"
    "media artifact hash does not match Greenlight"
  check (holdsText media.payload "channel" (lit "instagram"))
    (.greenlight "media artifact channel does not match")
  match Py.get media.payload "media_url", Py.get media.payload "sha256",
      Py.get media.payload "media_id" with
  | .str mediaUrl, .str sha256, .str mediaId => return ⟨mediaUrl, sha256, mediaId⟩
  | _, _, _ => .error (.greenlight "publication media contract is invalid")

/-- The stored media is live and is the media of the reference. -/
def liveMedia (runId : Str) (now : Datetime) (reference : MediaReference)
    (record : PublicationMediaRecord) : Bool :=
  record.runId == runId && record.channelId == lit "instagram" && record.revokedAt.isNone &&
    decide (now < record.expiresAt) && record.sha256 == reference.sha256

/-- The media of a request for Instagram. -/
def loadMedia (P : Platform) (tenantId runId : Str) (reference : MediaReference) : Program Unit := do
  .ofExcept (Media.validateIdentity tenantId reference.mediaId)
  let found ← call (.getMedia tenantId reference.mediaId)
  let now ← ask .utcNow
  .ofExcept (check (found.any (liveMedia runId now reference) = true)
    (.greenlight "publication media is expired, revoked or mismatched"))
  let content ← call (.getContent tenantId reference.mediaId)
  let content ← .ofExcept content
  .ofExcept (check (P.sha256 content = reference.sha256)
    (.greenlight "publication media bytes do not match Greenlight"))

/-! ## Political runs -/

/-- The first check on a political run. -/
def checkEligible (run : ExecutionRun) : Except Exn Unit :=
  check (run.brief.political = true → (firstOfKind run "risk_report").any
      (fun report => isTrue report.payload "publication_eligible") = true)
    (.greenlight "political critique is not publication eligible")

/-- What a compliance record says of its run. -/
def recordsCompliance (run : ExecutionRun) (greenlight : Greenlight) (record : Artifact) : Bool :=
  holdsText record.payload "jurisdiction" (strip run.brief.jurisdiction) &&
    holdsText record.payload "publication_mode" run.brief.publicationMode &&
    holdsText record.payload "legal_reviewer" (strip run.brief.legalReviewedBy) &&
    holdsText record.payload "greenlight_approver" greenlight.reviewer &&
    holdsText record.payload "retention_state" (lit "durable_until_governed_deletion")

/-- The compliance record of a political run. -/
def checkCompliance (P : Platform) (run : ExecutionRun) (greenlight : Greenlight) :
    Except Exn Unit :=
  if run.brief.political = true then do
    let record ← (firstOfKind run "political_compliance_record").elim
      (.error (.greenlight "political compliance record is unavailable")) .ok
    checkFrozen P greenlight record "political compliance record is not approved"
      "political compliance record is invalid"
    check (recordsCompliance run greenlight record = true)
      (.greenlight "political compliance record is invalid")
  else return ()

/-! ## The command -/

/-- A request to publish an artifact of a run. -/
structure PublishRequest where
  tenantId : Str
  runId : Str
  channelId : Str
  request : SocialPublicationRequest
  idempotencyKey : Str

/-- What a request claims of the Greenlight of the run it read. -/
def PublishRequest.effect (r : PublishRequest) (greenlight : Greenlight) : Effect where
  greenlightId := r.request.greenlightId
  fencingToken := r.request.greenlightFencingToken
  artifactIds := greenlight.approvedArtifactIds
  artifactHashes := greenlight.approvedArtifactHashes
  channel := r.channelId
  budgetCents := 0

/-- The media part of `prepare_social_publication`. -/
def prepareMedia (P : Platform) (r : PublishRequest) (run : ExecutionRun)
    (greenlight : Greenlight) : Program (Option MediaReference) :=
  if r.channelId = lit "instagram" then do
    let reference ← .ofExcept (approvedMedia P run greenlight r.request.mediaArtifactId)
    loadMedia P r.tenantId r.runId reference
    return some reference
  else return none

/-- `prepare_social_publication` -/
def prepareSocialPublication (P : Platform) (r : PublishRequest) (confirmationHash : Option Str) :
    Program SocialPublicationCommand := do
  .ofExcept (check (r.channelId = lit "x" ∨ r.channelId = lit "instagram")
    (.keyError "social channel not found"))
  let run ← loadRun r.tenantId r.runId
  let greenlight ← .ofExcept (activeGreenlight run)
  .ofExcept (checkEligible run)
  assertGreenlightEffectAuthorized r.tenantId r.runId (r.effect greenlight)
  let copy ← .ofExcept (approvedCopy P run greenlight r.request.artifactId r.channelId)
  let media ← prepareMedia P r run greenlight
  .ofExcept (checkCompliance P run greenlight)
  .ofExcept (Reauthorize.validateTenantChannel r.tenantId r.channelId)
  let connection ← call (.account (.getConnection r.tenantId r.channelId))
  match connection with
  | none => throw (.greenlight "authorized social account is not connected")
  | some connection =>
    return {
      tenantId := r.tenantId
      channelId := r.channelId
      accountId := connection.accountId
      runId := r.runId
      artifactId := copy.artifact.artifactId
      artifactHash := copy.artifactHash
      content := copy.content
      mediaUrl := media.map (·.mediaUrl)
      mediaHash := media.map (·.sha256)
      greenlightId := r.request.greenlightId
      greenlightFencingToken := r.request.greenlightFencingToken
      budgetCents := 0
      idempotencyKey := r.idempotencyKey
      confirmationHash := confirmationHash }

end Release

end AgencyRuntime
