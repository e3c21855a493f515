import AgencyRuntime.Python.IntText

/-!
# The request body limit

`RequestBodyLimitMiddleware` (api.py) checks the framing headers of a request, then takes the
messages of its body off the server until the body ends, counts their bytes, and hands the
application a `receive` that gives the same messages again. A request is the scope, and the list of
the messages that the server delivers; where the list ends, `receive()` waits.
-/

namespace AgencyRuntime.Api

open Py (lit)

/-! ## Scope and messages -/

/-- The entries of an ASGI scope that the middleware reads. A header's name or value that is not
`bytes` is `none`. -/
structure Scope where
  type : Option Str
  method : Str
  path : Str
  headers : List (Option Bytes × Option Bytes)

/-- The entry `body` of a message. -/
inductive Body
  | absent
  | bytes (content : Bytes)
  | other

/-- What `receive()` returns: a dictionary, with the entries that the middleware reads and all that
it does not read, or another value. -/
inductive Message (α : Type)
  | dict (type : Option Str) (body : Body) (moreBody : Bool) (rest : α)
  | other (value : α)

/-- A response with `_error_body` and the header `X-Request-ID`. -/
structure Response where
  status : Nat
  code : Str
  detail : Str
  requestId : Str
deriving DecidableEq

def invalidRequest (requestId : Str) : Response :=
  ⟨400, lit "invalid_request", lit "invalid request", requestId⟩

def requestTooLarge (requestId : Str) : Response :=
  ⟨413, lit "request_too_large", lit "request too large", requestId⟩

variable {α : Type}

/-- `replay_receive`: what is buffered, and what the server still delivers. -/
structure Replay (α : Type) where
  buffered : List (Message α)
  pending : List (Message α)

def Replay.receive (r : Replay α) : Option (Message α × Replay α) :=
  match r.buffered, r.pending with
  | m :: buffered, pending => some (m, ⟨buffered, pending⟩)
  | [], m :: pending => some (m, ⟨[], pending⟩)
  | [], [] => none

/-- The messages that the application gets by calling `replay_receive` so many times. -/
def Replay.draws : Nat → Replay α → List (Message α)
  | 0, _ => []
  | n + 1, r =>
    match r.receive with
    | some (m, r') => m :: Replay.draws n r'
    | none => []

/-- What the middleware does: it calls the application with a `receive`, sends a response, or has
not heard the end of the body yet. -/
inductive Outcome (α : Type)
  | called (receive : Replay α)
  | answered (response : Response)
  | waiting

/-! ## Headers -/

def ascii (s : String) : Bytes := s.toList.map fun c => UInt8.ofNat c.toNat

/-- `bytes.lower` -/
def lowerBytes (b : Bytes) : Bytes := b.map fun c => if 0x41 ≤ c && c ≤ 0x5A then c + 32 else c

def headerPair : Option Bytes × Option Bytes → Option (Bytes × Bytes)
  | (some name, some value) => some (lowerBytes name, value)
  | _ => none

def Scope.headerPairs (scope : Scope) : List (Bytes × Bytes) := scope.headers.filterMap headerPair

/-- The values of all headers of one name. -/
def Scope.values (scope : Scope) (name : String) : List Bytes :=
  (scope.headerPairs.filter fun p => p.1 == ascii name).map (·.2)

def Scope.contentLengths (scope : Scope) : List Bytes := scope.values "content-length"

def Scope.transferEncodings (scope : Scope) : List Bytes :=
  (scope.values "transfer-encoding").map lowerBytes

def isRequestIdTail (c : CodePoint) : Bool := Py.isAlnum c || Py.oneOf "._-" c

/-- `request_id_from_header` (observability.py) -/
def requestIdFromHeader (value uuid4 : Str) : Str :=
  if Py.isToken Py.isAlnum isRequestIdTail 7 127 value then value else lit "req-" ++ uuid4

/-- `dict(header_pairs)` keeps the last value of a name. -/
def Scope.requestId (scope : Scope) (uuid4 : Str) : Str :=
  requestIdFromHeader (((scope.values "x-request-id").getLastD []).map fun b => Fin.ofNat _ b.toNat)
    uuid4

/-- `MAX_PUBLICATION_MEDIA_BYTES` (publication_media.py) -/
def maxPublicationMediaBytes : Nat := 8 * 1024 * 1024

/-- `re.fullmatch(r"/api/v1/runs/[^/]+/publication-media/instagram", path)` -/
def isMediaPath (path : Str) : Bool :=
  let head := lit "/api/v1/runs/"
  let tail := lit "/publication-media/instagram"
  let rest := path.drop head.length
  let run := rest.take (rest.length - tail.length)
  head.isPrefixOf path && tail.isSuffixOf rest && !run.isEmpty && run.all (fun c => c.val ≠ 0x2F)

/-- `request_limit` -/
def Scope.limit (scope : Scope) (maxBytes : Nat) : Nat :=
  if Py.upper scope.method == lit "POST" && isMediaPath scope.path then maxPublicationMediaBytes
  else maxBytes

def declaredLength (value : Bytes) : Int := (Py.intOfAscii value).getD (-1)

/-- The checks on `Content-Length` and `Transfer-Encoding`. -/
def checkFraming (limit : Nat) (requestId : Str) (contentLengths transferEncodings : List Bytes) :
    Except Response Unit :=
  let transferEncoding := transferEncodings.headD []
  if 1 < contentLengths.length ∨ 1 < transferEncodings.length then
    .error (invalidRequest requestId)
  else if transferEncoding ≠ [] ∧ transferEncoding ≠ ascii "chunked" then
    .error (invalidRequest requestId)
  else match contentLengths.head? with
    | none => .ok ()
    | some value =>
      if declaredLength value < 0 ∨ transferEncoding ≠ [] then .error (invalidRequest requestId)
      else if (limit : Int) < declaredLength value then .error (requestTooLarge requestId)
      else .ok ()

def bufferedMethods : List Str := [lit "POST", lit "PUT", lit "PATCH", lit "DELETE"]

/-- `should_buffer` -/
def Scope.shouldBuffer (scope : Scope) : Bool :=
  bufferedMethods.contains (Py.upper scope.method) || scope.contentLengths.head?.isSome ||
    scope.transferEncodings.headD [] != []

/-! ## The middleware -/

/-- How the buffering loop ends. -/
inductive Buffering (α : Type)
  | complete (buffered pending : List (Message α))
  | exceeded
  | waiting

/-- The bytes of a body that is counted; another value is not. -/
def Body.counted : Body → Option Nat
  | .absent => some 0
  | .bytes content => some content.length
  | .other => none

/-- The loop over `receive()`. -/
def bufferMessages (limit : Nat) :
    Nat → List (Message α) → List (Message α) → Buffering α
  | _, _, [] => .waiting
  | _, buffered, .other value :: pending => .complete (buffered ++ [.other value]) pending
  | received, buffered, .dict type body moreBody rest :: pending =>
    let buffered := buffered ++ [.dict type body moreBody rest]
    if type = some (lit "http.disconnect") then .complete buffered pending
    else if type ≠ some (lit "http.request") then bufferMessages limit received buffered pending
    else match body.counted with
      | some size =>
        if limit < received + size then .exceeded
        else if moreBody then bufferMessages limit (received + size) buffered pending
        else .complete buffered pending
      | none =>
        if moreBody then bufferMessages limit received buffered pending
        else .complete buffered pending

/-- `RequestBodyLimitMiddleware.__call__` -/
def RequestBodyLimitMiddleware.call (maxBytes : Nat) (uuid4 : Str) (scope : Scope)
    (messages : List (Message α)) : Outcome α :=
  let limit := scope.limit maxBytes
  let requestId := scope.requestId uuid4
  if scope.type ≠ some (lit "http") then .called ⟨[], messages⟩
  else match checkFraming limit requestId scope.contentLengths scope.transferEncodings with
    | .error response => .answered response
    | .ok () =>
      if scope.shouldBuffer then
        match bufferMessages limit 0 [] messages with
        | .complete buffered pending => .called ⟨buffered, pending⟩
        | .exceeded => .answered (requestTooLarge requestId)
        | .waiting => .waiting
      else .called ⟨[], messages⟩

/-! ## The body of a request -/

/-- The message ends the body. -/
def Message.ends : Message α → Bool
  | .dict type _ moreBody _ =>
    type == some (lit "http.disconnect") || (type == some (lit "http.request") && !moreBody)
  | .other _ => true

/-- The bytes of the body that the message carries. -/
def Message.size : Message α → Nat
  | .dict type (.bytes content) _ _ =>
    if type = some (lit "http.request") then content.length else 0
  | _ => 0

/-- The messages up to the end of the body, the one that ends it included. -/
def bodyOf : List (Message α) → List (Message α)
  | [] => []
  | m :: messages => if m.ends then [m] else m :: bodyOf messages

def bodyBytes (messages : List (Message α)) : Nat := ((bodyOf messages).map Message.size).sum

/-- The body ends and its bytes are within the limit. -/
def EndsWithin (limit : Nat) (messages : List (Message α)) : Prop :=
  messages.any Message.ends = true ∧ bodyBytes messages ≤ limit

theorem bodyBytes_cons (m : Message α) (messages : List (Message α)) :
    bodyBytes (m :: messages) = m.size + if m.ends then 0 else bodyBytes messages := by
  rw [bodyBytes, bodyOf]
  split
  · rfl
  · rw [List.map_cons, List.sum_cons, bodyBytes]

theorem bodyOf_append_drop (messages : List (Message α)) :
    bodyOf messages ++ messages.drop (bodyOf messages).length = messages := by
  induction messages with
  | nil => rfl
  | cons m messages ih =>
    rw [bodyOf]
    split
    · rfl
    · rw [List.length_cons, List.drop_succ_cons, List.cons_append, ih]

theorem request_ne_disconnect : lit "http.request" ≠ lit "http.disconnect" := by decide

/-- One turn of the loop. -/
theorem bufferMessages_cons {limit received : Nat} (h : received ≤ limit)
    (buffered pending : List (Message α)) (m : Message α) :
    bufferMessages limit received buffered (m :: pending) =
      if limit < received + m.size then .exceeded
      else if m.ends then .complete (buffered ++ [m]) pending
      else bufferMessages limit (received + m.size) (buffered ++ [m]) pending := by
  have hle : ¬ limit < received := Nat.not_lt.2 h
  cases m with
  | other value => simp [bufferMessages, Message.size, Message.ends, hle]
  | dict type body moreBody rest =>
    by_cases hd : type = some (lit "http.disconnect")
    · cases body <;> simp [bufferMessages, Message.size, Message.ends, hd, hle,
        request_ne_disconnect.symm]
    · by_cases hr : type = some (lit "http.request")
      · cases body <;> cases moreBody <;>
          simp [bufferMessages, Message.size, Message.ends, hr, Body.counted, hle,
            request_ne_disconnect]
      · cases body <;> simp [bufferMessages, Message.size, Message.ends, hd, hr, hle]

/-- The loop counts the bytes up to the end of the body, and keeps the messages it has taken. -/
theorem bufferMessages_eq {limit received : Nat} (h : received ≤ limit)
    (buffered messages : List (Message α)) :
    bufferMessages limit received buffered messages =
      if limit < received + bodyBytes messages then .exceeded
      else if messages.any Message.ends then
        .complete (buffered ++ bodyOf messages) (messages.drop (bodyOf messages).length)
      else .waiting := by
  induction messages generalizing received buffered with
  | nil => simp [bufferMessages, bodyBytes, bodyOf, h]
  | cons m messages ih =>
    rw [bufferMessages_cons h, bodyBytes_cons, bodyOf, List.any_cons]
    by_cases hover : limit < received + m.size
    · rw [if_pos hover, if_pos (by omega)]
    · rw [if_neg hover]
      cases hends : m.ends with
      | true => simp [hover]
      | false =>
        rw [if_neg Bool.false_ne_true, ih (Nat.not_lt.1 hover)]
        simp [Nat.add_assoc]

/-! ## The replay -/

theorem Replay.receive_eq (r : Replay α) (m : Message α) (messages : List (Message α))
    (h : r.buffered ++ r.pending = m :: messages) :
    ∃ r', r.receive = some (m, r') ∧ r'.buffered ++ r'.pending = messages := by
  obtain ⟨buffered, pending⟩ := r
  cases buffered with
  | nil =>
    subst h
    exact ⟨_, rfl, rfl⟩
  | cons b buffered =>
    obtain ⟨rfl, rfl⟩ := List.cons.inj h
    exact ⟨_, rfl, rfl⟩

/-- The application is given what was buffered, then what the server delivers. -/
theorem Replay.draws_eq (n : Nat) (r : Replay α) :
    r.draws n = (r.buffered ++ r.pending).take n := by
  induction n generalizing r with
  | zero => rfl
  | succ n ih =>
    cases hm : r.buffered ++ r.pending with
    | nil =>
      obtain ⟨buffered, pending⟩ := r
      obtain ⟨rfl, rfl⟩ := List.append_eq_nil_iff.1 hm
      rfl
    | cons m messages =>
      obtain ⟨r', hr, hrest⟩ := r.receive_eq m messages hm
      rw [Replay.draws, hr, List.take_succ_cons, ← hrest, ← ih r']

/-! ## Which requests reach the application -/

/-- The header values pass the checks. -/
inductive Framed (limit : Nat) : List Bytes → List Bytes → Prop
  | unframed (value : Bytes) : value = [] ∨ value = ascii "chunked" → Framed limit [] [value]
  | bare : Framed limit [] []
  | declared (value : Bytes) (n : Nat) (encodings : List Bytes) :
    Py.intOfAscii value = some (n : Int) → n ≤ limit → encodings = [] ∨ encodings = [[]] →
      Framed limit [value] encodings

theorem ascii_chunked_ne_nil : ascii "chunked" ≠ [] := by decide

/-- A declared length passes where `int` reads it as a number within the limit. -/
theorem declaredLength_within {limit : Nat} {value : Bytes} :
    (¬ declaredLength value < 0 ∧ ¬ (limit : Int) < declaredLength value) ↔
      ∃ n : Nat, Py.intOfAscii value = some (n : Int) ∧ n ≤ limit := by
  rw [declaredLength]
  cases Py.intOfAscii value with
  | none => simp
  | some z =>
    rw [Option.getD_some]
    constructor
    · rintro ⟨hneg, hle⟩
      exact ⟨z.toNat, congrArg some (by omega), by omega⟩
    · rintro ⟨n, hz, hle⟩
      obtain rfl := Option.some.inj hz
      omega

theorem checkFraming_eq_ok {limit : Nat} {requestId : Str} {lengths encodings : List Bytes} :
    checkFraming limit requestId lengths encodings = .ok () ↔ Framed limit lengths encodings := by
  constructor
  · intro h
    rw [checkFraming] at h
    split at h
    · cases h
    next hcount =>
    split at h
    · cases h
    next hchunked =>
    rcases lengths with _ | ⟨value, _ | ⟨second, lengths⟩⟩
    · rcases encodings with _ | ⟨encoding, _ | ⟨other, encodings⟩⟩
      · exact .bare
      · exact .unframed encoding (by simpa [or_iff_not_imp_left] using hchunked)
      · simp at hcount
    · simp only [List.head?_cons] at h
      split at h
      · cases h
      next hdeclared =>
      split at h
      · cases h
      next hlimit =>
      rw [not_or] at hdeclared
      obtain ⟨n, hn, hle⟩ := declaredLength_within.1 ⟨hdeclared.1, hlimit⟩
      refine .declared value n encodings hn hle ?_
      rcases encodings with _ | ⟨encoding, _ | ⟨other, encodings⟩⟩
      · exact .inl rfl
      · exact .inr (by simpa using hdeclared.2)
      · simp at hcount
    · simp at hcount
  · intro h
    cases h with
    | unframed value hvalue => rcases hvalue with rfl | rfl <;> simp [checkFraming]
    | bare => simp [checkFraming]
    | declared value n encodings hn hle hencodings =>
      obtain ⟨hneg, hlimit⟩ := declaredLength_within.2 ⟨n, hn, hle⟩
      rcases hencodings with rfl | rfl <;> simp [checkFraming, hneg, hlimit]

/-- A refusal is one of the two error responses. -/
theorem checkFraming_error {limit : Nat} {requestId : Str} {lengths encodings : List Bytes}
    {response : Response}
    (h : checkFraming limit requestId lengths encodings = .error response) :
    response = invalidRequest requestId ∨ response = requestTooLarge requestId := by
  rw [checkFraming] at h
  split at h
  · exact .inl (Except.error.inj h).symm
  split at h
  · exact .inl (Except.error.inj h).symm
  split at h
  · cases h
  split at h
  · exact .inl (Except.error.inj h).symm
  split at h
  · exact .inr (Except.error.inj h).symm
  · cases h

/-- The requests whose body the middleware takes off the server: those with a method that has a
body, and those that declare a length or a transfer encoding. -/
structure Scope.Buffered (scope : Scope) : Prop where
  http : scope.type = some (lit "http")
  declares : Py.upper scope.method ∈ bufferedMethods ∨ scope.contentLengths ≠ [] ∨
    ∃ encoding ∈ scope.transferEncodings, encoding ≠ []

theorem Scope.Buffered.shouldBuffer {scope : Scope} (h : scope.Buffered) {limit : Nat}
    (hframed : Framed limit scope.contentLengths scope.transferEncodings) :
    scope.shouldBuffer = true := by
  have hd := h.declares
  rw [Scope.shouldBuffer]
  generalize scope.contentLengths = lengths at *
  generalize scope.transferEncodings = encodings at *
  cases hframed with
  | unframed value _ => simpa using hd
  | bare => simpa using hd
  | declared value n _ _ _ _ => simp

variable {maxBytes : Nat} {uuid4 : Str} {scope : Scope} {messages : List (Message α)}

open RequestBodyLimitMiddleware (call)

/-- Header values that do not pass are refused with one of the two error responses. -/
theorem call_refused (h : scope.Buffered) (maxBytes : Nat) (uuid4 : Str)
    (messages : List (Message α))
    (hframed : ¬ Framed (scope.limit maxBytes) scope.contentLengths scope.transferEncodings) :
    ∃ response, (response = invalidRequest (scope.requestId uuid4) ∨
      response = requestTooLarge (scope.requestId uuid4)) ∧
      call maxBytes uuid4 scope messages = .answered response := by
  cases hc : checkFraming (scope.limit maxBytes) (scope.requestId uuid4) scope.contentLengths
    scope.transferEncodings with
  | ok u => exact absurd (checkFraming_eq_ok.1 hc) hframed
  | error response => exact ⟨response, checkFraming_error hc, by simp [call, h.http, hc]⟩

/-- With header values that pass, the body decides. -/
theorem call_framed (h : scope.Buffered) (uuid4 : Str) (messages : List (Message α))
    (hframed : Framed (scope.limit maxBytes) scope.contentLengths scope.transferEncodings) :
    call maxBytes uuid4 scope messages =
      if scope.limit maxBytes < bodyBytes messages then
        .answered (requestTooLarge (scope.requestId uuid4))
      else if messages.any Message.ends then
        .called ⟨bodyOf messages, messages.drop (bodyOf messages).length⟩
      else .waiting := by
  simp only [call, h.http, ne_eq, not_true_eq_false, if_false, checkFraming_eq_ok.2 hframed,
    h.shouldBuffer hframed, if_true, bufferMessages_eq (Nat.zero_le _), Nat.zero_add,
    List.nil_append]
  by_cases hlimit : scope.limit maxBytes < bodyBytes messages
  · simp only [if_pos hlimit]
  · by_cases hends : messages.any Message.ends = true
    · simp only [if_neg hlimit, if_pos hends]
    · simp only [if_neg hlimit, if_neg hends]

/-- The application is called on the requests with header values that pass and a body that ends
within the limit, and gets what the server delivers. -/
theorem call_eq_called (h : scope.Buffered) {r : Replay α} :
    call maxBytes uuid4 scope messages = .called r ↔
      Framed (scope.limit maxBytes) scope.contentLengths scope.transferEncodings ∧
        EndsWithin (scope.limit maxBytes) messages ∧
        r = ⟨bodyOf messages, messages.drop (bodyOf messages).length⟩ := by
  by_cases hframed : Framed (scope.limit maxBytes) scope.contentLengths scope.transferEncodings
  · rw [call_framed h uuid4 messages hframed, EndsWithin]
    by_cases hlimit : scope.limit maxBytes < bodyBytes messages
    · simp [hlimit]
    · by_cases hends : messages.any Message.ends = true
      · simp [hframed, hlimit, hends, Nat.not_lt.1 hlimit, eq_comm]
      · simp [hlimit, hends]
  · obtain ⟨response, -, hcall⟩ := call_refused h maxBytes uuid4 messages hframed
    simp [hcall, hframed]

/-! ## The limit is exact and transparent -/

/-- The body is not over, and its bytes so far are within the limit. -/
def Unended (limit : Nat) (messages : List (Message α)) : Prop :=
  messages.any Message.ends = false ∧ bodyBytes messages ≤ limit

/-- What the middleware should do with a buffered request. -/
structure Exact (maxBytes : Nat) (uuid4 : Str) (scope : Scope) (messages : List (Message α)) :
    Prop where
  /-- The application is called only on a body within the limit for the path. -/
  within : ∀ r, call maxBytes uuid4 scope messages = .called r →
    EndsWithin (scope.limit maxBytes) messages
  /-- It then gets the same messages in the same order, however often it asks. -/
  same : ∀ r, call maxBytes uuid4 scope messages = .called r → ∀ n, r.draws n = messages.take n
  /-- Otherwise the middleware answers an error itself, as soon as the request decides it. -/
  answers : (∀ r, call maxBytes uuid4 scope messages ≠ .called r) →
    (∃ response, (response = invalidRequest (scope.requestId uuid4) ∨
      response = requestTooLarge (scope.requestId uuid4)) ∧
      call maxBytes uuid4 scope messages = .answered response) ∨
    (Unended (scope.limit maxBytes) messages ∧ call maxBytes uuid4 scope messages = .waiting)
  /-- A request with a `Content-Length` is let through only if there is one, of ASCII decimal
  digits, and no `Transfer-Encoding`. -/
  framed : ∀ r, call maxBytes uuid4 scope messages = .called r → scope.contentLengths ≠ [] →
    ∃ value, scope.contentLengths = [value] ∧ value ≠ [] ∧ value.all Py.isDigitByte = true ∧
      scope.transferEncodings = []

/-- Header values that the checks let through, and strict ones would not: one `Content-Length` that
`int` reads as a number within the limit, where it is not written in digits only or stands beside a
`Transfer-Encoding` with an empty value. -/
structure Lenient (limit : Nat) (lengths encodings : List Bytes) : Prop where
  declared : ∃ value n, lengths = [value] ∧ Py.intOfAscii value = some (Int.ofNat n) ∧ n ≤ limit ∧
    (value.all Py.isDigitByte = false ∧ encodings = [] ∨ encodings = [[]])

theorem Lenient.framed {limit : Nat} {lengths encodings : List Bytes}
    (h : Lenient limit lengths encodings) : Framed limit lengths encodings := by
  obtain ⟨value, n, rfl, hn, hle, hencodings⟩ := h.declared
  exact .declared value n encodings hn hle (hencodings.imp_left And.right)

theorem intOfAscii_nil : Py.intOfAscii [] = none := by decide

/-- Without leniency, one `Content-Length` passes, of digits, and no `Transfer-Encoding`. -/
theorem Framed.strict {limit : Nat} {lengths encodings : List Bytes}
    (h : Framed limit lengths encodings) (hlenient : ¬ Lenient limit lengths encodings)
    (hlengths : lengths ≠ []) :
    ∃ value, lengths = [value] ∧ value ≠ [] ∧ value.all Py.isDigitByte = true ∧
      encodings = [] := by
  cases h with
  | unframed => exact absurd rfl hlengths
  | bare => exact absurd rfl hlengths
  | declared value n _ hn hle hencodings =>
    have hne : value ≠ [] := by
      rintro rfl
      rw [intOfAscii_nil] at hn
      cases hn
    rcases hencodings with rfl | rfl
    · refine ⟨value, rfl, hne, ?_, rfl⟩
      cases hdigits : value.all Py.isDigitByte with
      | true => rfl
      | false => exact absurd ⟨value, n, rfl, hn, hle, .inl ⟨hdigits, rfl⟩⟩ hlenient
    · exact absurd ⟨value, n, rfl, hn, hle, .inr rfl⟩ hlenient

/-- The middleware does what it should on the buffered requests whose header values are not read
leniently, and on those whose body does not end within the limit. -/
theorem body_limit_exact (h : scope.Buffered) (maxBytes : Nat) (uuid4 : Str)
    (messages : List (Message α)) :
    Exact maxBytes uuid4 scope messages ↔
      ¬ (Lenient (scope.limit maxBytes) scope.contentLengths scope.transferEncodings ∧
        EndsWithin (scope.limit maxBytes) messages) := by
  constructor
  · rintro hexact ⟨hlenient, hends⟩
    obtain ⟨value, n, hlengths, -, -, hencodings⟩ := hlenient.declared
    have hcall : call maxBytes uuid4 scope messages = .called _ :=
      (call_eq_called h).2 ⟨hlenient.framed, hends, rfl⟩
    obtain ⟨value', hvalue, -, hdigits, hnone⟩ :=
      hexact.framed _ hcall (hlengths ▸ List.cons_ne_nil _ _)
    obtain rfl := List.head_eq_of_cons_eq (hlengths.symm.trans hvalue)
    rcases hencodings with ⟨hother, -⟩ | hempty
    · exact Bool.false_ne_true (hother.symm.trans hdigits)
    · exact List.cons_ne_nil _ _ (hempty.symm.trans hnone)
  · intro hnot
    refine ⟨fun r hr => ?_, fun r hr n => ?_, fun hnone => ?_, fun r hr hlengths => ?_⟩
    · exact ((call_eq_called h).1 hr).2.1
    · obtain ⟨-, -, rfl⟩ := (call_eq_called h).1 hr
      rw [Replay.draws_eq, bodyOf_append_drop]
    · by_cases hframed : Framed (scope.limit maxBytes) scope.contentLengths scope.transferEncodings
      · rw [call_framed h uuid4 messages hframed] at hnone ⊢
        by_cases hlimit : scope.limit maxBytes < bodyBytes messages
        · exact .inl ⟨_, .inr rfl, if_pos hlimit⟩
        · rw [if_neg hlimit] at hnone ⊢
          by_cases hends : messages.any Message.ends = true
          · exact absurd (if_pos hends) (hnone _)
          · exact .inr ⟨⟨Bool.eq_false_iff.2 hends, Nat.not_lt.1 hlimit⟩, if_neg hends⟩
      · exact .inl (call_refused h maxBytes uuid4 messages hframed)
    · obtain ⟨hframed, hends, -⟩ := (call_eq_called h).1 hr
      exact hframed.strict (fun hlenient => hnot ⟨hlenient, hends⟩) hlengths

/-- A request for the runs with the given framing headers. -/
def postRuns (headers : List (String × String)) : Scope where
  type := some (lit "http")
  method := lit "POST"
  path := lit "/api/v1/runs"
  headers := headers.map fun p => (some (ascii p.1), some (ascii p.2))

theorem postRuns_buffered (headers : List (String × String)) : (postRuns headers).Buffered :=
  ⟨rfl, .inl (show Py.upper (lit "POST") ∈ bufferedMethods by decide)⟩

/-- A body of two bytes in two messages. -/
def twoChunks : List (Message Unit) :=
  [.dict (some (lit "http.request")) (.bytes (ascii "\x7b")) true (),
    .dict (some (lit "http.request")) (.bytes (ascii "\x7d")) false ()]

theorem body_limit_exact_chunked :
    Exact 1024 (lit "0") (postRuns [("Content-Length", "2")]) twoChunks :=
  (body_limit_exact (postRuns_buffered _) 1024 (lit "0") twoChunks).2 fun h => by
    obtain ⟨value, n, hlengths, -, -, hencodings⟩ := h.1.declared
    have hvalue : (postRuns [("Content-Length", "2")]).contentLengths = [ascii "2"] := by decide
    obtain rfl := List.head_eq_of_cons_eq (hvalue.symm.trans hlengths)
    rcases hencodings with ⟨hother, -⟩ | hempty
    · exact absurd hother (by decide)
    · exact absurd hempty (by decide)

/-- `Content-Length: +2` is let through. -/
theorem signed_length_passes :
    ¬ ∀ (maxBytes : Nat) (uuid4 : Str) (scope : Scope) (messages : List (Message Unit)),
      scope.Buffered → Exact maxBytes uuid4 scope messages := by
  intro hall
  have hexact := hall 1024 (lit "0") (postRuns [("Content-Length", "+2")]) twoChunks
    (postRuns_buffered _)
  have hlengths : (postRuns [("Content-Length", "+2")]).contentLengths = [ascii "+2"] := by decide
  obtain ⟨value, hvalue, -, hdigits, -⟩ :=
    hexact.framed ⟨twoChunks, []⟩ rfl (hlengths ▸ List.cons_ne_nil _ _)
  obtain rfl := List.head_eq_of_cons_eq (hlengths.symm.trans hvalue)
  exact absurd hdigits (by decide)

end AgencyRuntime.Api
