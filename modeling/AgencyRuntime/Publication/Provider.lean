import AgencyRuntime.Publication.Command

/-!
# Provider replies

How the authority reads what a provider sends back, and how it signs what it sends
(social_publication.py). Everything here is a pure function of a reply; the requests themselves are
in `Authority`.
-/

namespace AgencyRuntime

/-- `httpx.Response` -/
structure Response where
  statusCode : Nat
  headers : List (Str × Str)
  content : Bytes

/-- `response.headers.get(name) or ""` -/
def Response.header (r : Response) (name : String) : Str := (r.headers.lookup (Py.lit name)).getD []

/-- `_MAX_RESPONSE_BYTES` -/
def maxResponseBytes : Nat := 1024 * 1024

/-- The message most failures carry. -/
def outcomeUnknown : Exn := .socialPublicationUnknown "social publication outcome is unknown"

/-- `_safe_numeric_code` -/
def safeNumericCode (value : Json) : Str :=
  let keep (rendered : Str) : Str :=
    if Py.isdigit rendered && rendered.length ≤ 32 then rendered else []
  match value with
  | .int n => keep (Py.ofInt n)
  | .str s => keep (Py.strip s)
  | _ => []

/-- `_safe_diagnostic_token` -/
def safeDiagnosticToken (value : Json) (fallback : String) (maxLength : Nat) : Str :=
  match value with
  | .str s =>
    let rendered := Py.strip s
    if rendered ≠ [] ∧ rendered.length ≤ maxLength ∧
        rendered.all fun c => Py.isAlnum c || Py.oneOf "._-" c then rendered
    else Py.lit fallback
  | _ => Py.lit fallback

theorem safeNumericCode_printable (value : Json) : Py.isPrintable (safeNumericCode value) = true := by
  have keep : ∀ s : Str, (Py.isdigit s && decide (s.length ≤ 32)) = true →
      Py.isPrintable s = true := by
    intro s h
    rw [Bool.and_eq_true, Py.isdigit, Bool.and_eq_true, List.all_eq_true] at h
    rw [Py.isPrintable, List.all_eq_true]
    intro c hc
    have hd := h.1.2 c hc
    have hge := Py.isDigitChar_ge hd
    simp [Py.isDigitChar_not_surrogate hd, hge]
  unfold safeNumericCode
  split
  · simp only
    split
    · next h => exact keep _ h
    · rfl
  · simp only
    split
    · next h => exact keep _ h
    · rfl
  · rfl

theorem safeDiagnosticToken_printable (value : Json) (fallback : String) (maxLength : Nat)
    (hf : Py.isPrintable (Py.lit fallback) = true) :
    Py.isPrintable (safeDiagnosticToken value fallback maxLength) = true := by
  unfold safeDiagnosticToken
  split
  · simp only
    split
    · next h =>
      rw [Py.isPrintable, List.all_eq_true]
      intro c hc
      have hall : ∀ d ∈ "._-".toList, 32 ≤ d.toNat ∧ d.toNat < 127 := by simp
      have hz : 32 ≤ c.val ∧ c.val < 127 := by
        rcases Bool.or_eq_true_iff.1 (List.all_eq_true.1 h.2.2 c hc) with h | h
        · have := Py.isAlnum_range h
          omega
        · obtain ⟨d, hd, h⟩ := Py.oneOf_iff.1 h
          exact h ▸ hall d hd
      simp only [Py.isSurrogate, Bool.and_eq_true, decide_eq_true_eq, Bool.not_eq_true',
        Bool.and_eq_false_iff, decide_eq_false_iff_not]
      omega
    · exact hf
  · exact hf

/-- `SocialPublicationProviderRejectedError(…)` -/
def ProviderRejection.make (message : String) (phase : Phase) (statusCode : Nat)
    (providerCode providerSubcode errorType : Str) : ProviderRejection where
  message := message
  phase := safeDiagnosticToken (.str (Py.lit phase.text)) "provider" 64
  statusCode := if 100 ≤ statusCode ∧ statusCode ≤ 599 then statusCode else 0
  providerCode := safeNumericCode (.str providerCode)
  providerSubcode := safeNumericCode (.str providerSubcode)
  errorType := safeDiagnosticToken (.str errorType) "" 128
  printable := by
    simp [safeNumericCode_printable, safeDiagnosticToken_printable _ "provider" _ (by decide),
      safeDiagnosticToken_printable _ "" _ (by decide)]

/-- The text, or a default when it is empty. -/
def orElse (s : Str) (default : String) : Str := if s = [] then Py.lit default else s

/-- `_provider_rejection_failure_reason` -/
def providerRejectionFailureReason (error : ProviderRejection) : Str :=
  (Py.join (Py.lit ":")
    [
      Py.lit "provider_rejected", orElse error.phase "provider", Py.ofNat error.statusCode,
      orElse error.providerCode "none", orElse error.providerSubcode "none",
      orElse error.errorType "none"]).take 128

/-- `_provider_rejection_metadata`: code, subcode and type. Only a `ValueError` of the decoder is
caught. -/
def providerRejectionMetadata (P : Platform) (response : Response) :
    Except Exn (Str × Str × Str) :=
  match P.loads response.content with
  | .recursionError => .error .recursionError
  | .value (.obj payload) =>
    match Py.get payload "error" with
    | .obj error =>
      .ok (safeNumericCode (Py.get error "code"), safeNumericCode (Py.get error "error_subcode"),
        safeDiagnosticToken (Py.get error "type") "" 128)
    | _ => .ok ([], [], [])
  | _ => .ok ([], [], [])

/-- The headers `_request` keeps: `httpx` has undone what these three describe. -/
def safeHeaders (headers : List (Str × Str)) : List (Str × Str) :=
  headers.filter fun h =>
    h.1 ∉ [Py.lit "content-encoding", Py.lit "content-length", Py.lit "transfer-encoding"]

/-- `httpx.Response(headers=…)` encodes names and values as ASCII. -/
def asciiHeaders (headers : List (Str × Str)) : Bool :=
  headers.all fun h => Py.isascii h.1 && Py.isascii h.2

/-- What `_request` makes of the upstream reply: a 4xx is a rejection, any other status outside 2xx
an unknown outcome. -/
def readReply (P : Platform) (phase : Phase) : HttpReply → Except Exn Response
  | .transportError => .error outcomeUnknown
  | .reply statusCode headers body => do
    check (body.length ≤ maxResponseBytes) outcomeUnknown
    check (asciiHeaders (safeHeaders headers)) .unicodeEncodeError
    let response : Response := ⟨statusCode, safeHeaders headers, body⟩
    if 400 ≤ statusCode ∧ statusCode < 500 then
      let (code, subcode, type) ← providerRejectionMetadata P response
      throw (.socialPublicationProviderRejected (.make "social provider rejected publication" phase
        statusCode code subcode type))
    check (200 ≤ statusCode ∧ statusCode < 300) outcomeUnknown
    return response

/-- `_json_object` -/
def jsonObject (P : Platform) (response : Response) : Except Exn Obj :=
  match P.loads response.content with
  | .value (.obj payload) => .ok payload
  | .recursionError => .error .recursionError
  | _ => .error outcomeUnknown

/-- `isinstance(data, Mapping)` -/
def mapping : Json → Except Exn Obj
  | .obj data => .ok data
  | _ => .error outcomeUnknown

/-- `_required_secret` -/
def requiredSecret (payload : Obj) (name : String) : Except Exn Str :=
  match Py.get payload name with
  | .str value =>
    if value ≠ [] ∧ value.length ≤ 8192 then .ok value
    else .error (.socialPublicationUnavailable "connected social credential is invalid")
  | _ => .error (.socialPublicationUnavailable "connected social credential is invalid")

/-- `str(value)` of an `int` (a `bool` is one), and a `str` as it is. -/
def intText : Json → Option Str
  | .int n => some (Py.ofInt n)
  | .bool true => some (Py.lit "True")
  | .bool false => some (Py.lit "False")
  | .str s => some s
  | _ => none

/-- `_required_x_post_id` -/
def requiredXPostId (payload : Obj) (name : String) : Except Exn Str :=
  match intText (Py.get payload name) with
  | some value =>
    if Py.isdigit value && value.length ≤ 19 then .ok value else .error outcomeUnknown
  | none => .error outcomeUnknown

/-- `_required_identifier` -/
def requiredIdentifier (payload : Obj) (name : String) : Except Exn Str :=
  match intText (Py.get payload name) with
  | some value =>
    if value ≠ [] ∧ value.length ≤ 256 ∧ value.all fun c => 32 ≤ c.val then .ok value
    else .error outcomeUnknown
  | none => .error outcomeUnknown

/-- `isinstance(value, str)` -/
def requiredStr (value : Json) (message : String) : Except Exn Str :=
  match value with
  | .str s => .ok s
  | _ => .error (.socialPublicationUnknown message)

/-- The timestamp tests of both verifications. -/
def requiredTimestamp (P : Platform) (value : Json) (message : String) : Except Exn Str := do
  let publishedAt ← requiredStr value message
  check (publishedAt.length ≤ 128) (.socialPublicationUnknown message)
  check ((P.fromisoformat (Py.replaceChar 'Z' "+00:00" publishedAt)).any (·.aware))
    (.socialPublicationUnknown message)
  return publishedAt

/-- The tests `_publish_x` makes on the post it reads back: the author and the time of it. -/
def verifyXPost (P : Platform) (command : SocialPublicationCommand) (expectedUsername : Str)
    (providerPostId : Str) (payload : Obj) : Except Exn (Str × Str) := do
  let data ← mapping (Py.get payload "data")
  let verifiedPostId ← requiredXPostId data "id"
  let authorId ← requiredIdentifier data "author_id"
  let sameId ← Py.compareDigest providerPostId verifiedPostId
  check sameId (.socialPublicationUnknown "X post identity does not match")
  let verifiedText ← requiredStr (Py.get data "text") "X post content does not match"
  let verifiedBytes ← Py.encode verifiedText
  let contentBytes ← Py.encode command.content
  check (verifiedBytes = contentBytes) (.socialPublicationUnknown "X post content does not match")
  let sameAuthor ← Py.compareDigest authorId command.accountId
  check sameAuthor (.socialPublicationUnknown "X post account does not match")
  let publishedAt ← requiredTimestamp P (Py.get data "created_at") "X post timestamp is invalid"
  check (expectedUsername ≠ [] ∧ expectedUsername.length ≤ 64 ∧
      expectedUsername.all fun c => Py.isAlnum c || Py.oneOf "_" c)
    (.socialPublicationUnknown "X post username is invalid")
  return (authorId, publishedAt)

/-- The tests on the host of a permalink. -/
def instagramHost (parsed : SplitUrl) : Bool :=
  let hostname := parsed.hostname.getD []
  hostname == Py.lit "instagram.com" || Py.endswith hostname ".instagram.com"

/-- `response.headers.get("x-request-id") or response.headers.get("x-fb-trace-id") or ""` -/
def requestId (response : Response) : Str :=
  let id := response.header "x-request-id"
  if id = [] then response.header "x-fb-trace-id" else id

/-- `_verify_instagram_media` after `_json_object`. -/
def verifyInstagramMedia (P : Platform) (command : SocialPublicationCommand)
    (providerPostId expectedUsername : Str) (response : Response) (payload : Obj) :
    Except Exn Obj := do
  let observedId ← requiredIdentifier payload "id"
  check (observedId = providerPostId)
    (.socialPublicationUnknown "Instagram media identity does not match")
  let caption ← requiredStr (Py.get payload "caption") "Instagram media caption does not match"
  let captionDigest ← P.digest caption
  let contentDigest ← P.digest command.content
  check (captionDigest = contentDigest)
    (.socialPublicationUnknown "Instagram media caption does not match")
  let mediaType ← requiredStr (Py.get payload "media_type") "Instagram media type does not match"
  check (mediaType = Py.lit "IMAGE")
    (.socialPublicationUnknown "Instagram media type does not match")
  let username ← requiredStr (Py.get payload "username") "Instagram media account does not match"
  let sameUser ← Py.compareDigest username expectedUsername
  check sameUser (.socialPublicationUnknown "Instagram media account does not match")
  let permalink ← requiredStr (Py.get payload "permalink") "Instagram media permalink is invalid"
  check (permalink.length ≤ 2048)
    (.socialPublicationUnknown "Instagram media permalink is invalid")
  let parsed ← orValueError (P.urlsplit permalink) "urlsplit"
  check (parsed.scheme = Py.lit "https" ∧ instagramHost parsed ∧ parsed.username = none ∧
      parsed.password = none ∧ parsed.fragment = [])
    (.socialPublicationUnknown "Instagram media permalink is invalid")
  let publishedAt ← requiredTimestamp P (Py.get payload "timestamp")
    "Instagram media timestamp is invalid"
  let mediaHash ← command.mediaHash.elim
    (.error (.socialPublicationUnknown "Instagram media hash is unavailable")) .ok
  return [
    (Py.lit "verification_status", .str (Py.lit "verified")),
    (Py.lit "verification_request_id", .str ((requestId response).take 256)),
    (Py.lit "permalink", .str permalink),
    (Py.lit "published_at", .str publishedAt),
    (Py.lit "media_type", .str mediaType),
    (Py.lit "username", .str username),
    (Py.lit "caption_sha256", .str contentDigest),
    (Py.lit "media_sha256", .str mediaHash)]

/-- `_receipt` -/
def receiptOf (provider : String) (providerPostId : Str) (response : Response)
    (intent : SocialPublicationIntent) (providerContainerId : Option Str) : Obj :=
  [
    (Py.lit "provider", .str (Py.lit provider)),
    (Py.lit "provider_post_id", .str providerPostId),
    (Py.lit "provider_container_id", .ofOption providerContainerId),
    (Py.lit "provider_request_id", .str ((requestId response).take 256)),
    (Py.lit "artifact_hash", .str intent.artifactHash),
    (Py.lit "binding_digest", .str intent.bindingDigest),
    (Py.lit "response_status", .int response.statusCode)]

/-! ## OAuth 1.0 signatures -/

/-- `_percent` -/
def percent (value : Str) : Except Exn Str := Py.quote "~-._" value

/-- Pairs in the order of `sorted`. -/
def sortPairs (pairs : List (Str × Str)) : List (Str × Str) :=
  pairs.insertionSort fun a b => a.1 < b.1 ∨ a.1 = b.1 ∧ a.2 ≤ b.2

/-- Percent-quote both parts of every pair. -/
def percentPairs : List (Str × Str) → Except Exn (List (Str × Str))
  | [] => .ok []
  | (name, value) :: rest => do
    return (← percent name, ← percent value) :: (← percentPairs rest)

/-- `_oauth1_signature` for the URL with this base and query. -/
def oauth1Signature (P : Platform) (method : String) (baseUrl : Str) (query parameters :
    List (Str × Str)) (consumerSecret tokenSecret : Str) : Except Exn Str := do
  let pairs ← percentPairs (parameters ++ query)
  let normalized := Py.join (Py.lit "&")
    ((sortPairs pairs).map fun p => p.1 ++ Py.lit "=" ++ p.2)
  let base := Py.join (Py.lit "&")
    [← percent (Py.lit method), ← percent baseUrl, ← percent normalized]
  let key := (← percent consumerSecret) ++ Py.lit "&" ++ (← percent tokenSecret)
  return Py.b64encode (P.hmacSha1 (← Py.encode key) (← Py.encode base))

/-- The `oauth` dictionary of `_x_authorization` before it is signed. -/
def oauthParameters (consumerKey nonce timestamp accessToken : Str) : List (Str × Str) :=
  [
    (Py.lit "oauth_consumer_key", consumerKey),
    (Py.lit "oauth_nonce", nonce),
    (Py.lit "oauth_signature_method", Py.lit "HMAC-SHA1"),
    (Py.lit "oauth_timestamp", timestamp),
    (Py.lit "oauth_token", accessToken),
    (Py.lit "oauth_version", Py.lit "1.0")]

/-- The header of `_x_authorization`, given the nonce and the timestamp. -/
def oauthHeader (P : Platform) (method : String) (baseUrl : Str) (query : List (Str × Str))
    (consumerKey consumerSecret accessToken accessSecret nonce timestamp : Str) :
    Except Exn Str := do
  let oauth := oauthParameters consumerKey nonce timestamp accessToken
  let signature ← oauth1Signature P method baseUrl query oauth consumerSecret accessSecret
  let pairs ← percentPairs (sortPairs (oauth ++ [(Py.lit "oauth_signature", signature)]))
  return Py.lit "OAuth " ++ Py.join (Py.lit ", ")
    (pairs.map fun p => p.1 ++ Py.lit "=\"" ++ p.2 ++ Py.lit "\"")

end AgencyRuntime
