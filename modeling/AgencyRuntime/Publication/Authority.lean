import AgencyRuntime.Publication.Provider

/-!
# The publication authority

`SocialPublicationAuthority` (social_publication.py) as programs: `execute` and the two provider
chains below it, in the source's order.
-/

namespace AgencyRuntime

open Effects

/-- The configuration of `SocialPublicationAuthority`; its constructor bounds the poll attempts. -/
structure SocialPublicationAuthority where
  enabled : Bool
  xConsumerKey : Str
  xConsumerSecret : Str
  instagramGraphBase : Str
  instagramContainerPollAttempts : Nat
  pollAttempts_pos : 1 ≤ instagramContainerPollAttempts
  pollAttempts_le : instagramContainerPollAttempts ≤ 120

/-- `_connection_token_expired` -/
def connectionTokenExpired (P : Platform) (tokenExpiresAt : Option Str) (now : Str) : Bool :=
  match tokenExpiresAt with
  | none => false
  | some tokenExpiresAt =>
    match P.fromisoformat tokenExpiresAt, P.fromisoformat now with
    | some expires, some current =>
      !expires.aware || !current.aware || expires.instant ≤ current.instant
    | _, _ => true

/-- `_connection_aad` -/
def connectionAad (tenantId channelId : Str) : Str :=
  tenantId ++ Py.lit ":" ++ channelId ++ Py.lit ":connection"

namespace Publication

variable (P : Platform) (A : SocialPublicationAuthority)

/-- `_request`. `httpx` encodes the header as it builds the request, before it sends it. -/
def request (phase : Phase) (method : String) (url authorization : Str) (payload : Payload) :
    Program Response := do
  .raiseIf (Py.isascii authorization = false) .unicodeEncodeError
  let r : Request := ⟨phase, method, url, authorization, payload⟩
  ask (.send r)
  let reply ← ask (.receive r)
  .ofExcept (readReply P phase reply)

/-- `_x_authorization` for the URL with this base and query. -/
def xAuthorization (method : String) (baseUrl : Str) (query : List (Str × Str))
    (accessToken accessSecret : Str) : Program Str := do
  let nonce ← ask .nonce
  let timestamp ← ask .timestamp
  .ofExcept (oauthHeader P method baseUrl query A.xConsumerKey A.xConsumerSecret accessToken
    accessSecret nonce.text (Py.ofInt timestamp))

/-- `_X_CREATE_POST_URL` -/
def xCreatePostUrl : Str := Py.lit "https://api.x.com/2/tweets"

/-- `_X_LOOKUP_POST_URL` -/
def xLookupPostUrl (postId : Str) : Str := xCreatePostUrl ++ Py.lit "/" ++ postId

/-- The query of the lookup and its text in the URL. -/
def xLookupQuery : List (Str × Str) := [(Py.lit "tweet.fields", Py.lit "author_id,created_at")]

def xLookupQueryText : Str := Py.lit "?tweet.fields=author_id%2Ccreated_at"

/-- The receipt of a verified X post. -/
def xReceipt (intent : SocialPublicationIntent) (providerPostId : Str)
    (response verificationResponse : Response) (publishedAt username authorId contentDigest : Str) :
    Obj :=
  Py.update (receiptOf "x" providerPostId response intent none)
    [
      (Py.lit "verification_status", .str (Py.lit "verified")),
      (Py.lit "verification_request_id",
        .str ((verificationResponse.header "x-request-id").take 256)),
      (Py.lit "permalink", .str (Py.lit "https://x.com/" ++ username ++ Py.lit "/status/" ++
        providerPostId)),
      (Py.lit "published_at", .str publishedAt),
      (Py.lit "username", .str username),
      (Py.lit "author_id", .str authorId),
      (Py.lit "content_sha256", .str contentDigest)]

/-- The last `try` of both chains: whatever `complete` raises leaves the outcome unknown. -/
def completeOrUnknown (intent : SocialPublicationIntent) (providerPostId : Str) (receipt : Obj) :
    Program SocialPublicationIntent :=
  (complete intent.tenantId intent.intentId intent.executionFencingToken providerPostId
    receipt).tryCatch fun _ => throw outcomeUnknown

/-- `_publish_x` -/
def publishX (command : SocialPublicationCommand) (intent : SocialPublicationIntent) (tokens : Obj)
    (expectedUsername : Str) : Program SocialPublicationIntent := do
  let accessToken ← .ofExcept (requiredSecret tokens "access_token")
  let accessSecret ← .ofExcept (requiredSecret tokens "access_token_secret")
  let createAuthorization ← xAuthorization P A "POST" xCreatePostUrl [] accessToken accessSecret
  let response ← request P .xPostCreate "POST" xCreatePostUrl createAuthorization
    (.json command.content)
  let payload ← .ofExcept (jsonObject P response)
  let data ← .ofExcept (mapping (Py.get payload "data"))
  let providerPostId ← .ofExcept (requiredXPostId data "id")
  let lookupUrl := xLookupPostUrl providerPostId
  let verifyAuthorization ← xAuthorization P A "GET" lookupUrl xLookupQuery accessToken accessSecret
  let verificationResponse ← request P .xPostVerify "GET" (lookupUrl ++ xLookupQueryText)
    verifyAuthorization .none
  let verificationPayload ← .ofExcept (jsonObject P verificationResponse)
  let (authorId, publishedAt) ← .ofExcept
    (verifyXPost P command expectedUsername providerPostId verificationPayload)
  let contentDigest ← .ofExcept (P.digest command.content)
  completeOrUnknown intent providerPostId
    (xReceipt intent providerPostId response verificationResponse publishedAt expectedUsername
      authorId contentDigest)

/-- The rounds of `_wait_for_instagram_container` that are left. -/
def pollContainer (authorization url : Str) : Nat → Program Unit
  | 0 => throw (.socialPublicationUnknown "Instagram container processing did not finish")
  | attempts + 1 => do
    let response ← request P .instagramContainerStatus "GET" url authorization
      (.params [("fields", Py.lit "status_code,status")])
    let payload ← .ofExcept (jsonObject P response)
    let rawStatus ← .ofExcept
      (requiredStr (Py.get payload "status_code") "Instagram container status is invalid")
    .raiseIf (Py.strip rawStatus = [])
      (.socialPublicationUnknown "Instagram container status is invalid")
    let statusCode := Py.upper (Py.strip rawStatus)
    if statusCode = Py.lit "FINISHED" then return
    else do
      .raiseIf (statusCode = Py.lit "ERROR" ∨ statusCode = Py.lit "EXPIRED")
        (.socialPublicationProviderRejected (.make "Instagram rejected the media container"
          .instagramContainerStatus response.statusCode [] [] (Py.lit "container_error")))
      .raiseIf (statusCode ≠ Py.lit "IN_PROGRESS")
        (.socialPublicationUnknown "Instagram container status is unknown")
      if 0 < attempts then ask .sleep else pure ()
      pollContainer authorization url attempts

/-- `_wait_for_instagram_container` -/
def waitForInstagramContainer (accessToken containerId : Str) : Program Unit := do
  let authorization := Py.lit "Bearer " ++ accessToken
  let path ← .ofExcept (Py.quote "" containerId)
  pollContainer P authorization (A.instagramGraphBase ++ Py.lit "/" ++ path)
    A.instagramContainerPollAttempts

/-- The second half of `_publish_instagram`: the container is recorded and finished. -/
def publishFinishedContainer (command : SocialPublicationCommand)
    (pending : SocialPublicationIntent) (accountBase authorization containerId expectedUsername : Str) :
    Program SocialPublicationIntent := do
  let publishResponse ← request P .instagramMediaPublish "POST"
    (accountBase ++ Py.lit "/media_publish") authorization
    (.params [("creation_id", containerId)])
  let publishPayload ← .ofExcept (jsonObject P publishResponse)
  let providerPostId ← .ofExcept (requiredIdentifier publishPayload "id")
  let postPath ← .ofExcept (Py.quote "" providerPostId)
  let verificationResponse ← request P .instagramMediaVerify "GET"
    (A.instagramGraphBase ++ Py.lit "/" ++ postPath) authorization
    (.params [("fields", Py.lit "id,caption,media_type,permalink,timestamp,username")])
  let verificationPayload ← .ofExcept (jsonObject P verificationResponse)
  let verification ← .ofExcept (verifyInstagramMedia P command providerPostId expectedUsername
    verificationResponse verificationPayload)
  completeOrUnknown pending providerPostId
    (Py.update (receiptOf "instagram" providerPostId publishResponse pending (some containerId))
      verification)

/-- `_publish_instagram` -/
def publishInstagram (command : SocialPublicationCommand) (intent : SocialPublicationIntent)
    (tokens : Obj) (expectedUsername : Str) : Program SocialPublicationIntent := do
  let accessToken ← .ofExcept (requiredSecret tokens "access_token")
  match command.mediaUrl, command.mediaHash with
  | some mediaUrl, some _ => do
    let authorization := Py.lit "Bearer " ++ accessToken
    let account ← .ofExcept (Py.quote "" command.accountId)
    let accountBase := A.instagramGraphBase ++ Py.lit "/" ++ account
    let containerResponse ← request P .instagramContainerCreate "POST"
      (accountBase ++ Py.lit "/media") authorization (.files mediaUrl command.content)
    let containerPayload ← .ofExcept (jsonObject P containerResponse)
    let containerId ← .ofExcept (requiredIdentifier containerPayload "id")
    let pending ← (recordContainer intent.tenantId intent.intentId intent.executionFencingToken
      containerId).tryCatch fun _ => throw outcomeUnknown
    waitForInstagramContainer P A accessToken containerId
    publishFinishedContainer P A command pending accountBase authorization containerId
      expectedUsername
  | _, _ => throw (.socialPublicationUnavailable "Instagram publication requires governed media")

/-- `except SocialPublicationStateError: pass` -/
def swallowStateError (p : Program SocialPublicationIntent) : Program Unit :=
  (p >>= fun _ => pure ()).tryCatch fun
    | .socialPublicationState _ => pure ()
    | e => throw e

/-- `_mark_unknown` -/
def markUnknownQuietly (intent : SocialPublicationIntent) (reason : Str) : Program Unit :=
  swallowStateError
    (markUnknown intent.tenantId intent.intentId intent.executionFencingToken reason)

/-- `_mark_failed` -/
def markFailedQuietly (intent : SocialPublicationIntent) (reason : Str) : Program Unit :=
  swallowStateError
    (markFailed intent.tenantId intent.intentId intent.executionFencingToken reason)

/-- The `except` clauses of `execute`: a rejection is recorded as failed, an unknown outcome and a
transport failure as unknown, and anything else is not caught. -/
def settleOutcome (intent : SocialPublicationIntent) : Exn → Program SocialPublicationIntent
  | .socialPublicationProviderRejected error => do
    markFailedQuietly intent (providerRejectionFailureReason error)
    throw (.socialPublicationProviderRejected error)
  | .socialPublicationUnknown message => do
    markUnknownQuietly intent (Py.lit "provider_outcome_unknown")
    throw (.socialPublicationUnknown message)
  | .httpError => do
    markUnknownQuietly intent (Py.lit "provider_outcome_unknown")
    throw outcomeUnknown
  | e => throw e

/-- The provider chain of the channel. -/
def publish (command : SocialPublicationCommand) (intent : SocialPublicationIntent) (tokens : Obj)
    (expectedUsername : Str) : Program SocialPublicationIntent :=
  if command.channelId = Py.lit "x" then publishX P A command intent tokens expectedUsername
  else publishInstagram P A command intent tokens expectedUsername

/-- What `execute` does with an executable reservation. -/
def executeReserved (command : SocialPublicationCommand) (connection : SocialConnection)
    (intent : SocialPublicationIntent) : Program SocialPublicationResult := do
  let tokens ← ask (.decrypt connection.encryptedTokens
    (connectionAad command.tenantId command.channelId))
  match tokens with
  | none => do
    markFailedQuietly intent (Py.lit "credential_invalid")
    throw (.socialPublicationUnavailable "connected social credential is invalid")
  | some tokens => do
    let completed ← (publish P A command intent tokens connection.accountUsername).tryCatch
      (settleOutcome intent)
    return .fromIntent completed false

/-- What `execute` checks before it builds the intent. -/
def authorizedConnection (validated : SocialPublicationCommand) : Program SocialConnection := do
  let connection ← ask (.getConnection validated.tenantId validated.channelId)
  match connection with
  | none => throw (.socialPublicationUnavailable "authorized social account is not connected")
  | some connection => do
    .raiseIf (connection.accountId ≠ validated.accountId)
      (.socialPublicationUnavailable "authorized social account is not connected")
    let now ← clock
    .raiseIf (connectionTokenExpired P connection.tokenExpiresAt now)
      (.socialPublicationUnavailable "connected social credential is expired")
    .raiseIf (validated.channelId = Py.lit "x" ∧ (A.xConsumerKey = [] ∨ A.xConsumerSecret = []))
      (.socialPublicationUnavailable "X application credentials are unavailable")
    return connection

/-- `execute` -/
def execute (command : SocialPublicationCommand) : Program SocialPublicationResult := do
  .raiseIf (A.enabled = false)
    (.socialPublicationUnavailable "social publication authority is disabled")
  let validated ← .ofExcept (validateCommand P command)
  let connection ← authorizedConnection P A validated
  let intent ← buildIntent P validated
  let reservation ← reserve intent
  if reservation.executable then executeReserved P A validated connection reservation.intent
  else if reservation.replayed then return .fromIntent reservation.intent true
  else throw (.socialPublicationBlocked reservation.intent.status.text)

end Publication

end AgencyRuntime
