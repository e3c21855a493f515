import AgencyRuntime.Publication.Store

/-!
# Publication commands

`SocialPublicationCommand`, its validation, and the intent built from it (social_publication.py).
-/

namespace AgencyRuntime

/-- `SocialPublicationCommand` -/
structure SocialPublicationCommand where
  tenantId : Str
  channelId : Str
  accountId : Str
  runId : Str
  artifactId : Str
  artifactHash : Str
  content : Str
  mediaUrl : Option Str
  mediaHash : Option Str
  greenlightId : Str
  greenlightFencingToken : Int
  budgetCents : Int
  idempotencyKey : Str
  confirmationHash : Option Str

/-- `SocialPublicationResult` -/
structure SocialPublicationResult where
  intentId : Str
  channelId : Str
  accountId : Str
  runId : Str
  artifactId : Str
  artifactHash : Str
  greenlightId : Str
  greenlightFencingToken : Int
  status : PublicationStatus
  executionFencingToken : Int
  providerContainerId : Option Str
  providerPostId : Option Str
  receipt : Obj
  replayed : Bool

/-- `SocialPublicationResult.from_intent` -/
def SocialPublicationResult.fromIntent (intent : SocialPublicationIntent) (replayed : Bool) :
    SocialPublicationResult where
  intentId := intent.intentId
  channelId := intent.channelId
  accountId := intent.accountId
  runId := intent.runId
  artifactId := intent.artifactId
  artifactHash := intent.artifactHash
  greenlightId := intent.greenlightId
  greenlightFencingToken := intent.greenlightFencingToken
  status := intent.status
  executionFencingToken := intent.executionFencingToken
  providerContainerId := intent.providerContainerId
  providerPostId := intent.providerPostId
  receipt := intent.receipt
  replayed := replayed

/-- `bool(text)` of an optional text. -/
def truthy (s : Option Str) : Bool := s.any fun t => !t.isEmpty

/-- `_MAX_CONTENT_BYTES` -/
def maxContentBytes : Nat := 25000

/-- `_MAX_MEDIA_URL_BYTES` -/
def maxMediaUrlBytes : Nat := 4096

/-- The checks of `_validate_command` on the media URL. -/
def validateMediaUrl (P : Platform) (mediaUrl : Str) : Except Exn Unit := do
  let encoded ← Py.encode mediaUrl
  check (encoded.length ≤ maxMediaUrlBytes) (.valueError "publication media URL is invalid")
  let parsed ← orValueError (P.urlsplit mediaUrl) "urlsplit"
  check (parsed.scheme = Py.lit "https" ∧ truthy parsed.hostname ∧ parsed.username = none ∧
      parsed.password = none ∧ parsed.fragment = [])
    (.valueError "publication media URL is invalid")

/-- `_validate_command`: the command with its content stripped. -/
def validateCommand (P : Platform) (command : SocialPublicationCommand) :
    Except Exn SocialPublicationCommand := do
  let content := Py.strip command.content
  let encoded ← Py.encode content
  check (content ≠ [] ∧ encoded.length ≤ maxContentBytes)
    (.valueError "publication content is invalid")
  check (isChannel command.channelId) (.valueError "publication channel is invalid")
  check (∀ value ∈ [command.tenantId, command.accountId, command.runId, command.artifactId,
      command.greenlightId], value ≠ [] ∧ value.length ≤ 256)
    (.valueError "publication identity is invalid")
  check (isSha256 command.artifactHash) (.valueError "artifact hash is invalid")
  check (0 ≤ command.greenlightFencingToken ∧ 0 ≤ command.budgetCents)
    (.valueError "publication authority is invalid")
  check (command.confirmationHash.all isSha256)
    (.valueError "publication confirmation hash is invalid")
  check (8 ≤ command.idempotencyKey.length ∧ command.idempotencyKey.length ≤ 200)
    (.valueError "publication idempotency key is invalid")
  command.mediaUrl.elim (.ok ()) (validateMediaUrl P)
  check (command.mediaHash.all isSha256) (.valueError "publication media hash is invalid")
  check (command.channelId = Py.lit "instagram" →
      command.mediaUrl.isSome ∧ command.mediaHash.isSome)
    (.valueError "Instagram publication requires media URL and hash")
  return { command with content }

/-- The binding that `_build_intent` digests. -/
def bindingOf (command : SocialPublicationCommand) (contentHash : Str)
    (mediaUrlHash : Option Str) : Obj :=
  [
    (Py.lit "tenant_id", .str command.tenantId),
    (Py.lit "channel_id", .str command.channelId),
    (Py.lit "account_id", .str command.accountId),
    (Py.lit "run_id", .str command.runId),
    (Py.lit "artifact_id", .str command.artifactId),
    (Py.lit "artifact_hash", .str command.artifactHash),
    (Py.lit "content_hash", .str contentHash),
    (Py.lit "media_url_hash", .ofOption mediaUrlHash),
    (Py.lit "media_hash", .ofOption command.mediaHash),
    (Py.lit "greenlight_id", .str command.greenlightId),
    (Py.lit "greenlight_fencing_token", .int command.greenlightFencingToken),
    (Py.lit "budget_cents", .int command.budgetCents),
    (Py.lit "confirmation_hash", .ofOption command.confirmationHash)]

/-- The intent of a command, a new row. -/
def pendingIntent (command : SocialPublicationCommand) (intentId contentHash : Str)
    (mediaUrlHash : Option Str) (idempotencyDigest bindingDigest now : Str) :
    SocialPublicationIntent where
  intentId := intentId
  tenantId := command.tenantId
  channelId := command.channelId
  accountId := command.accountId
  runId := command.runId
  artifactId := command.artifactId
  artifactHash := command.artifactHash
  contentHash := contentHash
  mediaUrlHash := mediaUrlHash
  mediaHash := command.mediaHash
  confirmationHash := command.confirmationHash
  greenlightId := command.greenlightId
  greenlightFencingToken := command.greenlightFencingToken
  budgetCents := command.budgetCents
  idempotencyDigest := idempotencyDigest
  bindingDigest := bindingDigest
  status := .pending
  executionFencingToken := 1
  providerContainerId := none
  providerPostId := none
  receipt := []
  failureReason := []
  createdAt := now
  updatedAt := now
  completedAt := none
  revokedAt := none

namespace Publication

/-- `_build_intent` -/
def buildIntent (P : Platform) (command : SocialPublicationCommand) :
    Program SocialPublicationIntent := do
  let contentHash ← .ofExcept (P.digest command.content)
  let mediaUrlHash ← .ofExcept
    (command.mediaUrl.elim (.ok none) fun url => some <$> P.digest url)
  let binding ← .ofExcept (canonicalJson (.obj (bindingOf command contentHash mediaUrlHash)))
  let bindingDigest ← .ofExcept (P.digest binding)
  let idempotencyDigest ← .ofExcept (P.digest command.idempotencyKey)
  let now ← clock
  let intentId ← .ofExcept (P.stableId "social-publication-intent"
    [.str command.tenantId, .str idempotencyDigest] 48)
  return pendingIntent command intentId contentHash mediaUrlHash idempotencyDigest bindingDigest now

end Publication

end AgencyRuntime
