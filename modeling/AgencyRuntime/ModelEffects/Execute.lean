import AgencyRuntime.ModelEffects.Authority

/-!
# What `execute` does for a model effect

The specification of `execute` over its own trace. A trace is read through the reservations it asked
for, the requests it sent, the replies it got and the transitions it attempted. Nothing is assumed
of the store's answers here.
-/

namespace AgencyRuntime

open Effects

/-- The command `execute` works with: `_validate_command` strips the instruction. -/
def ModelEffectCommand.normalized (command : ModelEffectCommand) : ModelEffectCommand :=
  { command with instruction := Py.strip command.instruction }

namespace ModelEffect

def reservationOf : Event sig → Option (ModelEffectIntent × Except Exn Reserved)
  | ⟨.inr (.reserve intent), answer⟩ => some (intent, answer)
  | _ => none

def sentOf : Event sig → Option ModelHttpRequest
  | ⟨.inl (.send r), _⟩ => some r
  | _ => none

def replyOf : Event sig → Option ModelReply
  | ⟨.inl (.receive _), reply⟩ => some reply
  | _ => none

def moveOf : Event sig → Option Change
  | ⟨.inr (.transition _ _ _ change _), _⟩ => some change
  | _ => none

/-- The reservations a program asked for, with the store's answers. -/
def reservations (t : Trace sig) : List (ModelEffectIntent × Except Exn Reserved) :=
  t.filterMap reservationOf

/-- The requests of a trace. -/
def sent (t : Trace sig) : List ModelHttpRequest := t.filterMap sentOf

/-- The replies of a trace. -/
def replies (t : Trace sig) : List ModelReply := t.filterMap replyOf

/-- The transitions of a trace. -/
def moves (t : Trace sig) : List Change := t.filterMap moveOf

@[simp] theorem reservations_append (t u : Trace sig) :
    reservations (t ++ u) = reservations t ++ reservations u :=
  List.filterMap_append
@[simp] theorem sent_append (t u : Trace sig) : sent (t ++ u) = sent t ++ sent u :=
  List.filterMap_append
@[simp] theorem replies_append (t u : Trace sig) : replies (t ++ u) = replies t ++ replies u :=
  List.filterMap_append
@[simp] theorem moves_append (t u : Trace sig) : moves (t ++ u) = moves t ++ moves u :=
  List.filterMap_append

/-- A trace without reservations, requests, replies and transitions. -/
structure Quiet (t : Trace sig) : Prop where
  reservations : reservations t = []
  sent : sent t = []
  replies : replies t = []
  moves : moves t = []

theorem Quiet.nil : Quiet [] := ⟨rfl, rfl, rfl, rfl⟩

/-! ## The exchange -/

/-- The gateway can use the reply, or reports it as a provider error. -/
def Legible (I : Interpreter) (policy : GatewayPolicy) (protocol : ProviderProtocol) :
    ModelReply → Prop
  | .invalidUrl => False
  | .timeout | .requestError => True
  | .reply statusCode headers body =>
    200 ≤ statusCode ∧ statusCode < 300 → body.length ≤ policy.maxResponseBytes →
      match I.loads body with
      | .valueError | .recursionError => False
      | .value (.obj payload) => ∀ x, parsedResponse protocol payload = some x →
        Py.encodable (Py.strip (rawRequestId I headers payload)) = true ∧
          Py.encodable x.1 = true
      | .decodeError | .value _ => True

/-- Nothing in the exchange raises an exception that `execute` does not expect. -/
def ExchangeSettles (I : Interpreter) (G : ModelGateway I.toPlatform) (t : Trace sig) : Prop :=
  ∀ provider, G.provider = some provider → Py.isascii provider.credential = true ∧
    ∀ reply ∈ replies t, Legible I G.policy provider.protocol reply

/-- The exception is the one `execute` maps to an unknown outcome. -/
def Expected (e : Exn) : Prop := ∃ message, e = .modelGatewayProvider message

variable {I : Interpreter}

/-- A provider of the registry has a URL, and its credential decides whether the headers encode. -/
theorem providerRequest_ok {P : Platform} (policy : GatewayPolicy)
    (provider : ProviderExecutionConfig P) (request : ModelRequest) :
    ∃ http, providerRequest policy provider request = .ok http ∧
      asciiRequest http = Py.isascii provider.credential := by
  obtain ⟨parsed, hparsed, hscheme, hhost⟩ := provider.absolute
  have hjoin (suffix : String) : ∃ url, joinUrl P provider.baseUrl suffix = .ok url := by
    simp only [joinUrl, hparsed, orValueError, Option.elim, bind, Except.bind, check, hscheme, hhost,
      and_self, if_true]
    exact ⟨_, rfl⟩
  have hbearer : Py.isascii (Py.lit "Bearer " ++ provider.credential) =
      Py.isascii provider.credential := by
    rw [Py.isascii_append, show Py.isascii (Py.lit "Bearer ") = true from by decide, Bool.true_and]
  have hjson : Py.isascii (Py.lit "application/json") = true := by decide
  have hdate : Py.isascii (Py.lit "2023-06-01") = true := by decide
  unfold providerRequest
  cases provider.protocol with
  | openaiResponses =>
    obtain ⟨url, hurl⟩ := hjoin "responses"
    exact ⟨_, by simp only [hurl, bind, Except.bind]; rfl, by simp [asciiRequest, hbearer, hjson]⟩
  | anthropicMessages =>
    obtain ⟨url, hurl⟩ := hjoin "v1/messages"
    exact ⟨_, by simp only [hurl, bind, Except.bind]; rfl, by simp [asciiRequest, hjson, hdate]⟩
  | openaiCompatible =>
    obtain ⟨url, hurl⟩ := hjoin "chat/completions"
    exact ⟨_, by simp only [hurl, bind, Except.bind]; rfl, by simp [asciiRequest, hbearer, hjson]⟩

/-- A request id that a provider names is ASCII. -/
theorem isascii_of_isRequestId {s : Str} (h : isRequestId s = true) : Py.isascii s = true := by
  refine Py.isascii_of_isToken (fun c hc => ?_) (fun c hc => ?_) h
  · have := Py.isAlnum_range hc
    omega
  · rcases Bool.or_eq_true_iff.1 hc with hc | hc
    · have := Py.isAlnum_range hc
      omega
    · have hall : ∀ d ∈ "._:-".toList, d.toNat < 128 := by simp
      obtain ⟨d, hd, heq⟩ := Py.oneOf_iff.1 hc
      exact heq ▸ hall d hd

section
variable {headers : List (Str × Str)} {payload : Obj}

theorem providerRequestId_ok
    (h : Py.encodable (Py.strip (rawRequestId I headers payload)) = true) :
    ∃ id, providerRequestId I headers payload = .ok id := by
  simp only [providerRequestId, Platform.digest, Py.encode, h, if_true]
  split <;> exact ⟨_, rfl⟩

theorem providerRequestId_error
    (h : Py.encodable (Py.strip (rawRequestId I headers payload)) = false) :
    providerRequestId I headers payload = .error .unicodeEncodeError := by
  simp only [providerRequestId, Platform.digest, Py.encode, h]
  split
  · next htoken =>
    rw [Py.encodable_of_isascii (isascii_of_isRequestId htoken)] at h
    cases h
  · rfl

theorem digest_ok {P : Platform} {s : Str} (h : Py.encodable s = true) :
    P.digest s = .ok (P.sha256 (Py.utf8 s)) := by
  simp only [Platform.digest, Py.encode, h, if_true]
  rfl

theorem digest_error {P : Platform} {s : Str} (h : Py.encodable s = false) :
    P.digest s = .error .unicodeEncodeError := by
  simp only [Platform.digest, Py.encode, h]
  rfl

variable {provider : ProviderExecutionConfig I.toPlatform} {descriptor : ModelRequestDescriptor}
variable {x : Str × Int × Int × Int}

theorem parseResponse_ok {protocol : ProviderProtocol}
    (h : parsedResponse protocol payload = some x) : parseResponse protocol payload = .ok x := by
  rw [parseResponse, h]
  rfl

/-- The result of a reply that parses and encodes passes the test `execute` makes on it. -/
theorem resultOf_ok (hp : parsedResponse provider.protocol payload = some x)
    (hid : Py.encodable (Py.strip (rawRequestId I headers payload)) = true)
    (htext : Py.encodable x.1 = true) (hname : descriptor.providerId = provider.providerId)
    (hmodel : descriptor.model = provider.model) :
    ∃ result, resultOf I provider descriptor payload headers = .ok result ∧
      receiptMatches I.toPlatform descriptor result = .ok true := by
  obtain ⟨id, hid⟩ := providerRequestId_ok hid
  have hdigest := @digest_ok I.toPlatform x.1 htext
  simp only [resultOf, parseResponse_ok hp, hid, hdigest, bind, Except.bind]
  refine ⟨_, rfl, ?_⟩
  simp [receiptMatches, hname, hmodel, hdigest, bind, Except.bind, pure, Except.pure]

/-- A reply that parses but does not encode raises. -/
theorem resultOf_error (hp : parsedResponse provider.protocol payload = some x)
    (h : ¬ (Py.encodable (Py.strip (rawRequestId I headers payload)) = true ∧
      Py.encodable x.1 = true)) :
    resultOf I provider descriptor payload headers = .error .unicodeEncodeError := by
  simp only [resultOf, parseResponse_ok hp]
  cases hid : Py.encodable (Py.strip (rawRequestId I headers payload)) with
  | false => simp [providerRequestId_error hid, bind, Except.bind]
  | true =>
    obtain ⟨id, hok⟩ := providerRequestId_ok hid
    have htext : Py.encodable x.1 = false := by
      rw [Bool.eq_false_iff]
      exact fun htext => h ⟨hid, htext⟩
    simp [hok, digest_error htext, bind, Except.bind]

end

/-- What `complete` makes of a reply. -/
def exchangeResult (I : Interpreter) (policy : GatewayPolicy)
    (provider : ProviderExecutionConfig I.toPlatform) (descriptor : ModelRequestDescriptor)
    (reply : ModelReply) : Except Exn ModelResult := do
  let (payload, headers) ← readReply I.toPlatform policy reply
  resultOf I provider descriptor payload headers

section
variable {policy : GatewayPolicy} {provider : ProviderExecutionConfig I.toPlatform}
variable {descriptor : ModelRequestDescriptor} {reply : ModelReply}

/-- A legible reply gives a result that passes the test of `execute`, or an expected exception. -/
theorem Legible.exchangeResult (h : Legible I policy provider.protocol reply)
    (hname : descriptor.providerId = provider.providerId)
    (hmodel : descriptor.model = provider.model) :
    (∃ result, ModelEffect.exchangeResult I policy provider descriptor reply = .ok result ∧
        receiptMatches I.toPlatform descriptor result = .ok true) ∨
      ∃ e, ModelEffect.exchangeResult I policy provider descriptor reply = .error e ∧
        Expected e := by
  cases reply with
  | invalidUrl => exact absurd h not_false
  | timeout | requestError => exact .inr ⟨_, rfl, _, rfl⟩
  | reply statusCode headers body =>
    simp only [ModelEffect.exchangeResult, readReply, check]
    by_cases hs : 200 ≤ statusCode ∧ statusCode < 300
    · by_cases hl : body.length ≤ policy.maxResponseBytes
      · have h := h hs hl
        simp only [hs, hl, and_self, if_true, bind, Except.bind]
        generalize I.loads body = loaded at h
        rcases loaded with value | _ | _ | _
        · cases value with
          | obj payload =>
            have h : ∀ x, parsedResponse provider.protocol payload = some x →
              Py.encodable (Py.strip (rawRequestId I headers payload)) = true ∧
                Py.encodable x.1 = true := h
            cases hp : parsedResponse provider.protocol payload with
            | none =>
              refine .inr ⟨invalidResponse, ?_, _, rfl⟩
              simp [resultOf, parseResponse, hp, bind, Except.bind, pure, Except.pure]
            | some x => exact .inl (resultOf_ok hp (h x hp).1 (h x hp).2 hname hmodel)
          | _ => exact .inr ⟨invalidResponse, rfl, _, rfl⟩
        · exact .inr ⟨invalidResponse, rfl, _, rfl⟩
        · exact absurd h not_false
        · exact absurd h not_false
      · exact .inr ⟨_, by simp only [hs, hl, and_self, if_true, if_false]; rfl, _, rfl⟩
    · exact .inr ⟨_, by simp only [hs, if_false]; rfl, _, rfl⟩

/-- Any other reply raises an exception that `execute` does not expect. -/
theorem exchangeResult_illegible (h : ¬ Legible I policy provider.protocol reply) :
    ∃ e, exchangeResult I policy provider descriptor reply = .error e ∧ ¬ Expected e := by
  have hother {e : Exn} (he : e = .invalidUrl ∨ (∃ m, e = .valueError m) ∨ e = .recursionError ∨
      e = .unicodeEncodeError) : ¬ Expected e := by
    rintro ⟨message, rfl⟩
    rcases he with he | ⟨_, he⟩ | he | he <;> cases he
  cases reply with
  | invalidUrl => exact ⟨_, rfl, hother (.inl rfl)⟩
  | timeout | requestError => exact absurd trivial h
  | reply statusCode headers body =>
    unfold Legible at h
    push Not at h
    obtain ⟨hs, hl, h⟩ := h
    simp only [exchangeResult, readReply, check, hs, hl, and_self, if_true, bind, Except.bind]
    generalize I.loads body = loaded at h
    rcases loaded with value | _ | _ | _
    · cases value with
      | obj payload =>
        have h : ¬ ∀ x, parsedResponse provider.protocol payload = some x →
          Py.encodable (Py.strip (rawRequestId I headers payload)) = true ∧
            Py.encodable x.1 = true := h
        push Not at h
        obtain ⟨x, hp, h⟩ := h
        exact ⟨_, resultOf_error hp fun hc => absurd hc.2 (h hc.1), hother (.inr (.inr (.inr rfl)))⟩
      | _ => exact absurd trivial h
    · exact absurd trivial h
    · exact ⟨_, rfl, hother (.inr (.inl ⟨_, rfl⟩))⟩
    · exact ⟨_, rfl, hother (.inr (.inr (.inl rfl)))⟩

end

/-- What the exchange may do. -/
def ExchangePermits (t : Trace sig) : sig.Op → Prop
  | .inl (.send _) => sent t = []
  | .inl (.receive _) => True
  | _ => False

/-- What the exchange comes to. -/
structure ExchangeEnds (I : Interpreter) (G : ModelGateway I.toPlatform)
    (descriptor : ModelRequestDescriptor) (t : Trace sig) (r : Except Exn ModelResult) : Prop where
  reservations : reservations t = []
  moves : moves t = []
  result : ExchangeSettles I G t → (∃ result, r = .ok result ∧
    receiptMatches I.toPlatform descriptor result = .ok true) ∨ ∃ e, r = .error e ∧ Expected e
  raised : ¬ ExchangeSettles I G t → ∃ e, r = .error e ∧ ¬ Expected e

/-- `complete`, in every environment, for the request the descriptor describes. -/
theorem Spec_gatewayComplete {G : ModelGateway I.toPlatform} {request : ModelRequest}
    {descriptor : ModelRequestDescriptor} (h : describe G request = .ok descriptor) :
    (gatewayComplete I G request).Spec ExchangePermits (ExchangeEnds I G descriptor) [] := by
  unfold describe at h
  unfold gatewayComplete
  cases hprovider : G.provider with
  | none => simp [hprovider] at h
  | some provider =>
    simp only [hprovider] at h
    obtain ⟨normalized, hnormalized, h⟩ := exceptBind_ok h
    obtain ⟨http, hhttp, hascii⟩ := providerRequest_ok G.policy provider normalized
    have hnames : descriptor.providerId = provider.providerId ∧
        descriptor.model = provider.model := by
      obtain ⟨_, _, h⟩ := exceptBind_ok h
      obtain ⟨_, _, h⟩ := exceptBind_ok h
      cases h
      exact ⟨rfl, rfl⟩
    have hsettles (t : Trace sig) : ExchangeSettles I G t ↔
        Py.isascii provider.credential = true ∧
          ∀ reply ∈ replies t, Legible I G.policy provider.protocol reply := by
      unfold ExchangeSettles
      simp [hprovider]
    simp only [hnormalized, h, hhttp, postJson, Prog.bind_eq, Prog.ofExcept_ok, Prog.ret_bind]
    rw [Prog.Spec_bind, Prog.Spec_bind, Prog.Spec_raiseIf]
    refine ⟨fun hno => ⟨rfl, rfl, fun hs => ?_, fun _ => ⟨_, rfl, nofun⟩⟩, fun hyes => ?_⟩
    · rw [hascii, ((hsettles _).1 hs).1] at hno
      cases hno
    rw [hascii, Bool.not_eq_false] at hyes
    rw [Prog.bindPost_ok]
    refine (Prog.Spec_ask_bind _ _).2 ⟨rfl, fun _ => ?_⟩
    refine (Prog.Spec_ask_bind _ _).2 ⟨trivial, fun reply => ?_⟩
    -- What follows is pure: the reading of the reply.
    have hlegible : ExchangeSettles I G [asked (.send http) (), asked (.receive http) reply] ↔
        Legible I G.policy provider.protocol reply := by
      rw [hsettles]
      simp [replies, replyOf, hyes]
    have hends : ExchangeEnds I G descriptor [asked (.send http) (), asked (.receive http) reply]
        (exchangeResult I G.policy provider descriptor reply) :=
      ⟨rfl, rfl, fun hs => (hlegible.1 hs).exchangeResult hnames.1 hnames.2,
        fun hs => exchangeResult_illegible fun hl => hs (hlegible.2 hl)⟩
    rw [Prog.Spec_ofExcept]
    unfold exchangeResult at hends
    cases hread : readReply I.toPlatform G.policy reply with
    | error e =>
      rw [hread] at hends
      exact hends
    | ok x =>
      rw [hread] at hends
      simp only [Prog.bindPost_ok, Prog.Spec_ofExcept]
      exact hends

/-! ## The transitions -/

/-- A change that one of the methods makes: a success comes with an output and its digest. -/
def Change.Regular (P : Platform) (c : Change) : Prop :=
  (c.status = .succeeded ∧ c.completed = true ∧
      ∃ text digest, c.output = some (text, digest) ∧ text ≠ [] ∧ P.digest text = .ok digest) ∨
    (c.status = .unknown ∨ c.status = .failed) ∧ c.completed = false ∧ c.output = none

/-- What settling an intent may do: regular transitions of it, and reading it back after one that
took place. -/
def SettlePermits (P : Platform) (tenantId effectId : Str) (fence : Int) (t : Trace sig) :
    sig.Op → Prop
  | .inl .clock => True
  | .inr (.transition tenantId' effectId' fence' change _) =>
    (tenantId' = tenantId ∧ effectId' = effectId ∧ fence' = fence) ∧ change.Regular P
  | .inr (.get tenantId' effectId') =>
    (tenantId' = tenantId ∧ effectId' = effectId) ∧
      ∃ change now, called (.transition tenantId effectId fence change now) (.ok true) ∈ t
  | _ => False

/-- The trace has nothing but transitions and reads. -/
structure Settling (t : Trace sig) : Prop where
  reservations : reservations t = []
  sent : sent t = []
  replies : replies t = []

theorem SettlePermits.append {P : Platform} {tenantId effectId : Str} {fence : Int}
    {t : Trace sig} {o : sig.Op} (u : Trace sig)
    (h : SettlePermits P tenantId effectId fence t o) :
    SettlePermits P tenantId effectId fence (u ++ t) o := by
  rcases o with (_ | _ | _) | (_ | _ | _ | _ | _ | _)
  case inr.get =>
    obtain ⟨hid, change, now, hmem⟩ := h
    exact ⟨hid, change, now, List.mem_append_right u hmem⟩
  all_goals exact h

theorem Settling.append {t u : Trace sig} (ht : Settling t) (hu : Settling u) :
    Settling (t ++ u) :=
  ⟨by simp [ht.reservations, hu.reservations], by simp [ht.sent, hu.sent],
    by simp [ht.replies, hu.replies]⟩

section
variable {P : Platform} {tenantId effectId : Str} {fence : Int}

/-- `_transition`, in every environment: it attempts its change unless the checks refuse it. -/
theorem Spec_transition {change : Change} (hc : change.Regular P) :
    (transition tenantId effectId fence change).Spec (SettlePermits P tenantId effectId fence)
      (fun t r => Settling t ∧ (moves t = [] →
        ∃ e, change.validate tenantId effectId fence = .error e ∧ r = .error e)) [] := by
  simp only [transition, clock, Prog.bind_eq]
  refine (Prog.Spec_ofExcept_bind _ _ _).2
    ⟨fun e he => ⟨⟨rfl, rfl, rfl⟩, fun _ => ⟨e, he, rfl⟩⟩, fun _ hv => ?_⟩
  have hid : validateIdentity tenantId effectId = .ok () := by
    obtain ⟨_, hid, -⟩ := exceptBind_ok hv
    exact hid
  refine (Prog.Spec_ask_bind _ _).2 ⟨trivial, fun now => ?_⟩
  refine (Prog.Spec_call_bind _ _).2 ⟨⟨⟨rfl, rfl, rfl⟩, hc⟩, fun answer => ?_⟩
  have hmoved {u : Trace sig} : moves ([] ++ [asked .clock now] ++
      [called (.transition tenantId effectId fence change now) answer] ++ u) ≠ [] := nofun
  refine (Prog.Spec_ofExcept_bind _ _ _).2
    ⟨fun e _ => ⟨⟨rfl, rfl, rfl⟩, fun h => by cases h⟩, fun updated hu => ?_⟩
  rw [Prog.Spec_bind, Prog.Spec_raiseIf]
  refine ⟨fun _ => ⟨⟨rfl, rfl, rfl⟩, fun h => by cases h⟩, fun htrue => ?_⟩
  rw [Bool.not_eq_false] at htrue
  subst hu htrue
  simp only [Prog.bindPost_ok, get, Prog.bind_eq, hid, Prog.ofExcept_ok, Prog.ret_bind]
  refine (Prog.Spec_call_bind _ _).2 ⟨⟨⟨rfl, rfl⟩, change, now, by simp⟩, fun row => ?_⟩
  cases row with
  | none => exact ⟨⟨rfl, rfl, rfl⟩, fun h => by cases h⟩
  | some row => exact ⟨⟨rfl, rfl, rfl⟩, fun h => by cases h⟩

/-- `complete`, in every environment. -/
theorem Spec_complete {outputText : Str} {receipt : Obj} :
    (complete P tenantId effectId fence outputText receipt).Spec
      (SettlePermits P tenantId effectId fence)
      (fun t r => Settling t ∧ ∀ row, r = .ok row → moves t ≠ []) [] := by
  simp only [complete, Prog.bind_eq]
  have hnil : Settling [] := ⟨rfl, rfl, rfl⟩
  refine (Prog.Spec_ofExcept_bind _ _ _).2 ⟨fun _ _ => ⟨hnil, nofun⟩, fun _ hout => ?_⟩
  refine (Prog.Spec_ofExcept_bind _ _ _).2 ⟨fun _ _ => ⟨hnil, nofun⟩, fun _ _ => ?_⟩
  refine (Prog.Spec_ofExcept_bind _ _ _).2 ⟨fun _ _ => ⟨hnil, nofun⟩, fun digest hd => ?_⟩
  have hregular : Change.Regular P
      { status := .succeeded, output := some (outputText, digest), receipt := some receipt
        completed := true } :=
    .inl ⟨rfl, rfl, outputText, digest, rfl, (validateOutput_ok hout).1, hd⟩
  refine (Spec_transition hregular).mono (fun _ _ h => h) fun t r h => ⟨h.1, ?_⟩
  rintro row rfl hm
  obtain ⟨_, _, h⟩ := h.2 hm
  cases h

/-- A mark passes the checks of `_transition`. -/
theorem validate_mark {intent : ModelEffectIntent} {status : ModelEffectStatus} {reason : Str}
    (h : validateIntent intent = .ok ()) (hr : validateReason reason = .ok ()) :
    Change.validate { status, failureReason := reason } intent.tenantId intent.effectId
      intent.executionFencingToken = .ok () := by
  obtain ⟨hid, ht, -, hf⟩ := validateIntent_ok h
  have h1 : validateIdentity intent.tenantId intent.effectId = .ok () := by
    rw [validateIdentity, check_ok, ht, hid]
    rfl
  have h2 : check (1 ≤ intent.executionFencingToken)
      (.valueError "model effect fence must be positive") = .ok () := check_ok.2 hf
  rw [Change.validate, h1]
  simp only [bind, Except.bind, h2, Option.elim]
  split
  · rfl
  · exact hr

/-- `_mark_unknown`, in every environment: the transition is attempted, whatever comes of it. -/
theorem Spec_markUnknownQuietly (P : Platform) {intent : ModelEffectIntent} {reason : Str}
    (h : validateIntent intent = .ok ()) (hr : validateReason reason = .ok ()) :
    (markUnknownQuietly intent reason).Spec
      (SettlePermits P intent.tenantId intent.effectId intent.executionFencingToken)
      (fun t _ => Settling t ∧ moves t ≠ []) [] := by
  have hregular : Change.Regular P { status := .unknown, failureReason := reason } :=
    .inr ⟨.inl rfl, rfl, rfl⟩
  rw [markUnknownQuietly, Prog.Spec_tryCatch, Prog.bind_eq, Prog.Spec_bind]
  refine (Spec_transition hregular).mono (fun _ _ h => h) fun t r ⟨hs, hm⟩ => ?_
  have hall : Settling t ∧ moves t ≠ [] := by
    refine ⟨hs, fun hnil => ?_⟩
    obtain ⟨e, he, -⟩ := hm hnil
    rw [validate_mark h hr] at he
    cases he
  cases r with
  | ok row => exact hall
  | error e =>
    simp only [Prog.bindPost_error, Prog.catchPost_error]
    split <;> exact hall

end

/-- The reasons `execute` gives pass the check of the store. -/
theorem validateReason_ok :
    validateReason (Py.lit "provider_outcome_unknown") = .ok () ∧
      validateReason (Py.lit "provider_receipt_invalid") = .ok () ∧
      validateReason (Py.lit "result_persistence_uncertain") = .ok () := by
  decide

/-! ## After the reservation -/

/-- What `execute` may do for a reserved intent, over the trace since its reservation. -/
def ReservedPermits (P : Platform) (intent : ModelEffectIntent) (t : Trace sig) (o : sig.Op) :
    Prop :=
  ExchangePermits t o ∨
    SettlePermits P intent.tenantId intent.effectId intent.executionFencingToken t o

/-- What `execute` does for a reserved intent, in every environment: it attempts a transition exactly
when the exchange raises nothing unexpected. -/
theorem Spec_executeReserved {G : ModelGateway I.toPlatform} {request : ModelRequest}
    {descriptor : ModelRequestDescriptor} {intent : ModelEffectIntent}
    (hd : describe G request = .ok descriptor) (hi : validateIntent intent = .ok ()) :
    (executeReserved I G request descriptor intent intent).Spec
      (ReservedPermits I.toPlatform intent)
      (fun t _ => reservations t = [] ∧ (moves t ≠ [] ↔ ExchangeSettles I G t)) [] := by
  obtain ⟨hunknown, -, huncertain⟩ := validateReason_ok
  simp only [executeReserved, Prog.bind_eq]
  rw [Prog.Spec_bind, Prog.Spec_tryCatch]
  refine (Spec_gatewayComplete hd).mono (fun _ _ h => .inl h) fun t r h => ?_
  -- The replies of the whole trace are those of the exchange.
  have hend {u : Trace sig} (hu : Settling u) (hm : moves u ≠ []) (hs : ExchangeSettles I G t) :
      reservations (t ++ u) = [] ∧ (moves (t ++ u) ≠ [] ↔ ExchangeSettles I G (t ++ u)) := by
    refine ⟨by rw [reservations_append, h.reservations, hu.reservations]; rfl, fun _ => ?_,
      fun _ => ?_⟩
    · intro provider hp
      rw [replies_append, hu.replies, List.append_nil]
      exact hs provider hp
    · rw [moves_append, h.moves, List.nil_append]
      exact hm
  by_cases hs : ExchangeSettles I G t
  · rcases h.result hs with ⟨result, rfl, hmatch⟩ | ⟨_, rfl, message, rfl⟩
    · simp only [Prog.catchPost_ok, Prog.bindPost_ok, hmatch, Prog.ofExcept_ok, Prog.ret_bind,
        if_true]
      rw [Prog.Spec_bind, Prog.Spec_tryCatch]
      refine (Spec_complete.shift t).mono ?_ ?_
      · rintro _ o ⟨u, rfl, hu⟩
        exact .inr (hu.append t)
      rintro _ r ⟨u, rfl, hu, hmoved⟩
      cases r with
      | ok row => exact hend hu (hmoved row rfl) hs
      | error e =>
        rw [Prog.catchPost_error, completionFailed, Prog.bind_eq, Prog.Spec_bind]
        refine ((Spec_markUnknownQuietly I.toPlatform hi huncertain).shift (t ++ u)).mono ?_ ?_
        · rintro _ o ⟨v, rfl, hv⟩
          exact .inr (hv.append (t ++ u))
        rintro _ r ⟨v, rfl, hv, hmoved⟩
        have := hend (hu.append hv) (by simp [hmoved]) hs
        rw [← List.append_assoc] at this
        cases r with
        | ok _ => exact this
        | error _ => exact this
    · rw [Prog.catchPost_error, exchangeFailed, Prog.bind_eq, Prog.Spec_bind]
      refine ((Spec_markUnknownQuietly I.toPlatform hi hunknown).shift t).mono ?_ ?_
      · rintro _ o ⟨u, rfl, hu⟩
        exact .inr (hu.append t)
      rintro _ r ⟨u, rfl, hu, hmoved⟩
      cases r with
      | ok _ => exact hend hu hmoved hs
      | error _ => exact hend hu hmoved hs
  · obtain ⟨e, rfl, he⟩ := h.raised hs
    have hraise : exchangeFailed intent e = .raise e := by
      cases e <;> first | rfl | exact absurd ⟨_, rfl⟩ he
    rw [Prog.catchPost_error, hraise]
    exact ⟨h.reservations, fun hm => absurd h.moves hm, fun h => absurd h hs⟩

/-! ## The whole of it -/

/-- The intent is one that `_build_intent` builds for the command and the described request. -/
def BuiltFor (P : Platform) (command : ModelEffectCommand) (intent : ModelEffectIntent) : Prop :=
  ∃ descriptor effectId instructionHash binding idempotencyDigest bindingDigest now,
    canonicalJson (.obj (bindingOf command descriptor instructionHash)) = .ok binding ∧
      P.digest binding = .ok bindingDigest ∧ P.digest command.idempotencyKey = .ok idempotencyDigest ∧
      P.stableId "model-effect-intent" [.str command.tenantId, .str idempotencyDigest] 48 =
        .ok effectId ∧
      intent = pendingIntent command descriptor effectId instructionHash idempotencyDigest
        bindingDigest now

/-- A new row holds what no statement updates. -/
theorem BuiltFor.core {P : Platform} {command : ModelEffectCommand} {intent : ModelEffectIntent}
    (h : BuiltFor P command intent) : intent.core = intent := by
  obtain ⟨_, _, _, _, _, _, _, -, -, -, -, rfl⟩ := h
  rfl

/-- The intent was reserved, and `s` is what was done since. -/
def Since (t : Trace sig) (intent : ModelEffectIntent) (s : Trace sig) : Prop :=
  ∃ before, Quiet before ∧ t = before ++ called (.reserve intent) (.ok .inserted) :: s

/-- What `execute` may do after a trace. -/
def ExecutePermits (P : Platform) (command : ModelEffectCommand) (t : Trace sig) (o : sig.Op) :
    Prop :=
  (Quiet t ∧ (o = Sum.inl .clock ∨ ∃ intent, o = Sum.inr (.reserve intent) ∧
      BuiltFor P command intent ∧ validateIntent intent = .ok ())) ∨
    ∃ intent s, Since t intent s ∧ ReservedPermits P intent s o

/-- What `execute` comes to. -/
inductive ExecuteTrace (I : Interpreter) (A : ModelEffectAuthority I.toPlatform) (t : Trace sig) :
    Except Exn ModelEffectResult → Prop
  | early {e : Exn} : Quiet t → ExecuteTrace I A t (.error e)
  | refused {before : Trace sig} {intent : ModelEffectIntent} {e : Exn} :
      Quiet before → t = before ++ [called (.reserve intent) (.error e)] →
      ExecuteTrace I A t (.error e)
  | existing {before : Trace sig} {intent record : ModelEffectIntent} :
      Quiet before → t = before ++ [called (.reserve intent) (.ok (.existing record))] →
      ExecuteTrace I A t (if record.status = .succeeded then .ok (.fromIntent record true)
        else .error (.modelEffectBlocked record.status.text))
  | granted {intent : ModelEffectIntent} {s : Trace sig} {r : Except Exn ModelEffectResult} :
      Since t intent s → (moves s ≠ [] ↔ ExchangeSettles I A.gateway s) → ExecuteTrace I A t r

/-- Building the intent asks for the time only. -/
theorem Spec_buildIntent {P : Platform} {command : ModelEffectCommand}
    {descriptor : ModelRequestDescriptor} :
    (buildIntent P command descriptor).Spec (fun t o => Quiet t ∧ o = Sum.inl .clock)
      (fun t r => Quiet t ∧ ∀ intent, r = .ok intent → BuiltFor P command intent) [] := by
  have hnil : Quiet [] := .nil
  have herr (e : Exn) : ∀ intent, (.error e : Except Exn ModelEffectIntent) = .ok intent →
      BuiltFor P command intent := fun _ h => by cases h
  simp only [buildIntent, clock, Prog.bind_eq]
  refine (Prog.Spec_ofExcept_bind _ _ _).2 ⟨fun e _ => ⟨hnil, herr e⟩, fun instructionHash _ => ?_⟩
  rw [Prog.Spec_ofExcept_bind]
  refine ⟨fun e _ => ⟨hnil, herr e⟩, fun binding hb => ?_⟩
  refine (Prog.Spec_ofExcept_bind _ _ _).2 ⟨fun e _ => ⟨hnil, herr e⟩, fun digest hd => ?_⟩
  refine (Prog.Spec_ofExcept_bind _ _ _).2 ⟨fun e _ => ⟨hnil, herr e⟩, fun key hk => ?_⟩
  refine (Prog.Spec_ask_bind _ _).2 ⟨⟨hnil, rfl⟩, fun now => ?_⟩
  refine (Prog.Spec_ofExcept_bind _ _ _).2
    ⟨fun e _ => ⟨⟨rfl, rfl, rfl, rfl⟩, herr e⟩, fun effectId hid => ?_⟩
  refine ⟨⟨rfl, rfl, rfl, rfl⟩, fun intent h => ?_⟩
  cases h
  exact ⟨descriptor, effectId, instructionHash, binding, key, digest, now, hb, hd, hk, hid, rfl⟩

/-- A validated command is the normalized one. -/
theorem validateCommand_ok {command v : ModelEffectCommand} (h : validateCommand command = .ok v) :
    v = command.normalized := by
  obtain ⟨_, _, h⟩ := exceptBind_ok h
  obtain ⟨_, _, h⟩ := exceptBind_ok h
  obtain ⟨_, _, h⟩ := exceptBind_ok h
  obtain ⟨_, _, h⟩ := exceptBind_ok h
  obtain ⟨_, _, h⟩ := exceptBind_ok h
  obtain ⟨_, _, h⟩ := exceptBind_ok h
  obtain ⟨_, _, h⟩ := exceptBind_ok h
  cases h
  rfl

/-- `execute`, in every environment. -/
theorem Spec_execute {A : ModelEffectAuthority I.toPlatform} {command : ModelEffectCommand} :
    (execute I A command).Spec (ExecutePermits I.toPlatform command.normalized)
      (ExecuteTrace I A) [] := by
  simp only [execute, Prog.bind_eq]
  rw [Prog.Spec_bind, Prog.Spec_raiseIf]
  refine ⟨fun _ => .early .nil, fun _ => ?_⟩
  rw [Prog.bindPost_ok]
  refine (Prog.Spec_ofExcept_bind _ _ _).2 ⟨fun _ _ => .early .nil, fun validated hv => ?_⟩
  obtain rfl := validateCommand_ok hv
  refine (Prog.Spec_ofExcept_bind _ _ _).2 ⟨fun _ _ => .early .nil, fun descriptor hd => ?_⟩
  have hd : describe A.gateway command.normalized.request = .ok descriptor := by
    cases hdesc : describe A.gateway command.normalized.request with
    | error e => simp [hdesc, Except.mapError] at hd
    | ok descriptor' => simpa [hdesc, Except.mapError] using hd
  refine Prog.Spec.bind_of (Spec_buildIntent.mono (fun _ _ h => .inl ⟨h.1, .inl h.2⟩)
    fun _ _ h => h) ?_ fun t e h => .early h.1
  rintro t intent ⟨ht, hbuilt⟩
  have hbuilt := hbuilt intent rfl
  simp only [reserve, Prog.bind_eq]
  rw [Prog.Spec_bind]
  refine (Prog.Spec_ofExcept_bind _ _ _).2 ⟨fun e _ => .early ht, fun _ hi => ?_⟩
  refine (Prog.Spec_call_bind _ _).2
    ⟨.inl ⟨ht, .inr ⟨intent, rfl, hbuilt, hi⟩⟩, fun answer => ?_⟩
  refine (Prog.Spec_ofExcept_bind _ _ _).2 ⟨fun e he => ?_, fun reserved hr => ?_⟩
  · subst he
    exact .refused ht rfl
  subst hr
  cases reserved with
  | existing record =>
    have hend : ExecuteTrace I A (t ++ [called (.reserve intent) (.ok (.existing record))])
        (if record.status = .succeeded then .ok (.fromIntent record true)
          else .error (.modelEffectBlocked record.status.text)) :=
      .existing ht rfl
    by_cases hst : record.status = .succeeded
    · simpa [hst] using hend
    · simp only [hst, if_false] at hend
      simp only [hst, decide_false]
      exact hend
  | inserted =>
    refine ((Spec_executeReserved hd hi).shift _).mono ?_ ?_
    · rintro _ o ⟨u, rfl, h⟩
      exact .inr ⟨intent, u, ⟨t, ht, by simp⟩, h⟩
    · rintro _ r ⟨u, rfl, -, h⟩
      exact .granted ⟨t, ht, List.append_assoc ..⟩ h

end ModelEffect

end AgencyRuntime
