import AgencyRuntime.ModelEffects.Intent
import AgencyRuntime.Publication.Command
import AgencyRuntime.Python.Repr

/-!
# The model gateway

How `ModelGateway` (model_gateway.py) builds the request of a provider and reads what comes back.
Everything here is a pure function; the exchange itself is in `Authority`. The registry
(providers.py) fixes the protocols and admits only providers whose base URL is absolute HTTPS, which
`ProviderExecutionConfig` carries.
-/

namespace AgencyRuntime

/-- `ModelRequest` -/
structure ModelRequest where
  requestId : Str
  user : Str
  system : Str

/-- `ModelRequestDescriptor` -/
structure ModelRequestDescriptor where
  providerId : Str
  model : Str
  endpointHost : Str
  requestSha256 : Str
  maxOutputTokens : Int

/-- `ModelReceipt` -/
structure ModelReceipt where
  providerId : Str
  model : Str
  providerRequestId : Str
  inputTokens : Int
  outputTokens : Int
  totalTokens : Int
  requestSha256 : Str
  outputSha256 : Str

/-- `ModelReceipt.public_dict` -/
def ModelReceipt.publicDict (r : ModelReceipt) : Obj :=
  [
    (Py.lit "provider_id", .str r.providerId),
    (Py.lit "model", .str r.model),
    (Py.lit "provider_request_id", .str r.providerRequestId),
    (Py.lit "input_tokens", .int r.inputTokens),
    (Py.lit "output_tokens", .int r.outputTokens),
    (Py.lit "total_tokens", .int r.totalTokens),
    (Py.lit "request_sha256", .str r.requestSha256),
    (Py.lit "output_sha256", .str r.outputSha256)]

/-- `ModelResult` -/
structure ModelResult where
  text : Str
  receipt : ModelReceipt

/-- The `protocol` of a provider definition. -/
inductive ProviderProtocol
  | openaiResponses
  | anthropicMessages
  | openaiCompatible
deriving DecidableEq, Repr

/-- `ProviderExecutionConfig`, with what `_endpoint_host` has checked of its base URL. -/
structure ProviderExecutionConfig (P : Platform) where
  providerId : Str
  protocol : ProviderProtocol
  model : Str
  baseUrl : Str
  endpointHost : Str
  credential : Str
  absolute : ∃ parsed, P.urlsplit baseUrl = some parsed ∧ parsed.scheme = Py.lit "https" ∧
    truthy parsed.hostname = true

/-- `_GatewayPolicy`, as far as a request reads it, with the bounds of `_policy_from_environment`. -/
structure GatewayPolicy where
  maxInputChars : Nat
  maxOutputTokens : Nat
  maxResponseBytes : Nat
  outputTokens_pos : 1 ≤ maxOutputTokens
  outputTokens_le : maxOutputTokens ≤ 8192

/-- `ModelGateway`: a gateway has a provider and a client exactly when its policy is enabled. -/
structure ModelGateway (P : Platform) where
  policy : GatewayPolicy
  provider : Option (ProviderExecutionConfig P)

/-- A request to a provider. -/
structure ModelHttpRequest where
  url : Str
  headers : List (Str × Str)
  body : Obj

/-- What comes of a request: `httpx` refuses its URL, times out or fails otherwise, or there is a
status, the decoded headers (lower-case names, one entry for each) and the body. -/
inductive ModelReply
  | invalidUrl
  | timeout
  | requestError
  | reply (statusCode : Nat) (headers : List (Str × Str)) (body : Bytes)

namespace ModelEffect

/-- `_REQUEST_ID_PATTERN.fullmatch` -/
def isRequestId : Str → Bool :=
  Py.isToken Py.isAlnum (fun c => Py.isAlnum c || Py.oneOf "._:-" c) 7 127

/-- `_validated_request` -/
def validatedRequest (policy : GatewayPolicy) (request : ModelRequest) :
    Except Exn ModelRequest := do
  let requestId := Py.strip request.requestId
  let system := Py.strip request.system
  let user := Py.strip request.user
  check (isRequestId requestId) (.modelGatewayConfiguration "model request id is invalid")
  check (user ≠ []) (.modelGatewayConfiguration "model user input must not be empty")
  check (system.length + user.length ≤ policy.maxInputChars)
    (.modelGatewayConfiguration "model input exceeded the configured character limit")
  return ⟨requestId, user, system⟩

section
variable {P : Platform}

/-- `_descriptor` -/
def descriptorOf (policy : GatewayPolicy) (provider : ProviderExecutionConfig P)
    (request : ModelRequest) : Except Exn ModelRequestDescriptor := do
  let text ← canonicalJson (.obj [
    (Py.lit "provider_id", .str provider.providerId),
    (Py.lit "model", .str provider.model),
    (Py.lit "request_id", .str request.requestId),
    (Py.lit "system", .str request.system),
    (Py.lit "user", .str request.user),
    (Py.lit "max_output_tokens", .int policy.maxOutputTokens)])
  return ⟨provider.providerId, provider.model, provider.endpointHost, ← P.digest text,
    policy.maxOutputTokens⟩

/-- `describe` -/
def describe (G : ModelGateway P) (request : ModelRequest) : Except Exn ModelRequestDescriptor :=
  match G.provider with
  | none => .error (.modelGatewayDisabled "model gateway execution is disabled")
  | some provider => do descriptorOf G.policy provider (← validatedRequest G.policy request)

/-- `_join_url` -/
def joinUrl (P : Platform) (baseUrl : Str) (suffix : String) : Except Exn Str := do
  let parsed ← orValueError (P.urlsplit baseUrl) "urlsplit"
  check (parsed.scheme = Py.lit "https" ∧ truthy parsed.hostname)
    (.modelGatewayConfiguration "model provider base URL is invalid")
  return (baseUrl.reverse.dropWhile (Py.oneOf "/")).reverse ++ Py.lit "/" ++ Py.lit suffix

/-- A chat message. -/
def chatMessage (role : String) (content : Str) : Json :=
  .obj [(Py.lit "role", .str (Py.lit role)), (Py.lit "content", .str content)]

/-- A member that is there when its text is not empty. -/
def optionalMember (name : String) (value : Str) : Obj :=
  if value = [] then [] else [(Py.lit name, .str value)]

/-- `_provider_request` -/
def providerRequest (policy : GatewayPolicy) (provider : ProviderExecutionConfig P)
    (request : ModelRequest) : Except Exn ModelHttpRequest := do
  let commonHeaders := [(Py.lit "Content-Type", Py.lit "application/json")]
  let bearer := (Py.lit "Authorization", Py.lit "Bearer " ++ provider.credential)
  match provider.protocol with
  | .openaiResponses =>
    return ⟨← joinUrl P provider.baseUrl "responses", commonHeaders ++ [bearer],
      [
        (Py.lit "model", .str provider.model),
        (Py.lit "input", .str request.user),
        (Py.lit "max_output_tokens", .int policy.maxOutputTokens)] ++
        optionalMember "instructions" request.system⟩
  | .anthropicMessages =>
    return ⟨← joinUrl P provider.baseUrl "v1/messages",
      commonHeaders ++
        [(Py.lit "x-api-key", provider.credential),
          (Py.lit "anthropic-version", Py.lit "2023-06-01")],
      [
        (Py.lit "model", .str provider.model),
        (Py.lit "messages", .arr [chatMessage "user" request.user]),
        (Py.lit "max_tokens", .int policy.maxOutputTokens)] ++
        optionalMember "system" request.system⟩
  | .openaiCompatible =>
    let system := if request.system = [] then [] else [chatMessage "system" request.system]
    return ⟨← joinUrl P provider.baseUrl "chat/completions", commonHeaders ++ [bearer],
      [
        (Py.lit "model", .str provider.model),
        (Py.lit "messages", .arr (system ++ [chatMessage "user" request.user])),
        (Py.lit "max_tokens", .int policy.maxOutputTokens),
        (Py.lit "stream", .bool false)]⟩

end

/-- `httpx` encodes header values as ASCII when it builds a request. -/
def asciiRequest (r : ModelHttpRequest) : Bool := r.headers.all fun h => Py.isascii h.2

/-- The message of a reply that cannot be used. -/
def invalidResponse : Exn := .modelGatewayProvider "model provider returned an invalid response"

/-- `_post_json` once the exchange is over: only the decoder's own errors are mapped. -/
def readReply (P : Platform) (policy : GatewayPolicy) :
    ModelReply → Except Exn (Obj × List (Str × Str))
  | .invalidUrl => .error .invalidUrl
  | .timeout => .error (.modelGatewayProvider "model provider request timed out")
  | .requestError => .error (.modelGatewayProvider "model provider request failed")
  | .reply statusCode headers body => do
    check (200 ≤ statusCode ∧ statusCode < 300)
      (.modelGatewayProvider ("model provider request failed (status=" ++ toString statusCode ++ ")"))
    check (body.length ≤ policy.maxResponseBytes)
      (.modelGatewayProvider "model provider response exceeded the configured size limit")
    match P.loads body with
    | .value (.obj payload) => return (payload, headers)
    | .valueError => throw (.valueError "Exceeds the limit for integer string conversion")
    | .recursionError => throw .recursionError
    | .decodeError | .value _ => throw invalidResponse

/-- `_token_count`: a `bool` is no count. -/
def tokenCount : Json → Option Int
  | .int n => if 0 ≤ n ∧ n ≤ 100000000 then some n else none
  | _ => none

/-- `_usage` -/
def usageOf (raw : Json) (inputName outputName : String) (totalName : Option String) :
    Option (Int × Int × Int) :=
  match raw with
  | .obj raw => do
    let inputTokens ← tokenCount (Py.get raw inputName)
    let outputTokens ← tokenCount (Py.get raw outputName)
    match totalName with
    | none => return (inputTokens, outputTokens, inputTokens + outputTokens)
    | some totalName =>
      let totalTokens ← tokenCount (Py.get raw totalName)
      if totalTokens < inputTokens + outputTokens then none
      else return (inputTokens, outputTokens, totalTokens)
  | _ => none

/-- The texts of the entries of one `type`. -/
def typedTexts (type : String) (items : List Json) : List Str :=
  items.filterMap fun
    | .obj item =>
      match Py.get item "type", Py.get item "text" with
      | .str t, .str text => if t = Py.lit type then some text else none
      | _, _ => none
    | _ => none

/-- The `content` lists of the outputs that have one. -/
def outputContents (output : List Json) : List Json :=
  output.flatMap fun
    | .obj item =>
      match Py.get item "content" with
      | .arr content => content
      | _ => []
    | _ => []

/-- A stripped text, unless nothing is left of it. -/
def strippedText (s : Str) : Option Str := if Py.strip s = [] then none else some (Py.strip s)

/-- `_openai_response_text` -/
def openaiResponseText (payload : Obj) : Option Str :=
  let fromOutput : Option Str :=
    match Py.get payload "output" with
    | .arr output => strippedText (typedTexts "output_text" (outputContents output)).flatten
    | _ => none
  match Py.get payload "output_text" with
  | .str direct => (strippedText direct).or fromOutput
  | _ => fromOutput

/-- `choices[0].message.content` -/
def firstChoiceContent (payload : Obj) : Option Str :=
  match Py.get payload "choices" with
  | .arr (.obj first :: _) =>
    match Py.get first "message" with
    | .obj message =>
      match Py.get message "content" with
      | .str content => some content
      | _ => none
    | _ => none
  | _ => none

/-- The body of the `try` in `_parse_response`. -/
def parsedResponse (protocol : ProviderProtocol) (payload : Obj) :
    Option (Str × Int × Int × Int) := do
  match protocol with
  | .openaiResponses =>
    let text ← openaiResponseText payload
    return (text, ← usageOf (Py.get payload "usage") "input_tokens" "output_tokens" "total_tokens")
  | .anthropicMessages =>
    match Py.get payload "content" with
    | .arr content =>
      let usage ← usageOf (Py.get payload "usage") "input_tokens" "output_tokens" none
      return (← strippedText (typedTexts "text" content).flatten, usage)
    | _ => none
  | .openaiCompatible =>
    let content ← firstChoiceContent payload
    let usage ← usageOf (Py.get payload "usage") "prompt_tokens" "completion_tokens" "total_tokens"
    return (← strippedText content, usage)

/-- `_parse_response` -/
def parseResponse (protocol : ProviderProtocol) (payload : Obj) :
    Except Exn (Str × Int × Int × Int) :=
  (parsedResponse protocol payload).elim (.error invalidResponse) .ok

/-- `headers.get("x-request-id") or headers.get("request-id") or payload.get("id") or ""` -/
def rawRequestId (I : Interpreter) (headers : List (Str × Str)) (payload : Obj) : Str :=
  let header (name : String) : Str := (headers.lookup (Py.lit name)).getD []
  if header "x-request-id" ≠ [] then header "x-request-id"
  else if header "request-id" ≠ [] then header "request-id"
  else if (Py.get payload "id").truthy then Py.str I (Py.get payload "id")
  else []

/-- `_provider_request_id` -/
def providerRequestId (I : Interpreter) (headers : List (Str × Str)) (payload : Obj) :
    Except Exn Str := do
  let value := Py.strip (rawRequestId I headers payload)
  if isRequestId value then return value
  else return Py.lit "provider-" ++ (← I.digest value).take 24

end ModelEffect

end AgencyRuntime
