import AgencyRuntime.Publication.Replies

/-!
# What a provider chain does

The two chains of `execute` (`publishX`, `publishInstagram`) are specified over their own trace: a
trace is read through the requests it sent (`sent`), the replies it got (`replies`) and the
transitions it attempted (`moves`), and `ChainResult` says what the result of a chain comes to in
these terms. Nothing is assumed of the store's answers here.
-/

namespace AgencyRuntime

open Effects

namespace Publication

/-- A transition a program attempted, with the store's answer. -/
structure Move where
  tenantId : Str
  intentId : Str
  fence : Int
  change : Change
  answer : Except Exn Bool

def sentOf : Event sig → Option Request
  | ⟨.inl (.send r), _⟩ => some r
  | _ => none

def replyOf : Event sig → Option (Phase × HttpReply)
  | ⟨.inl (.receive r), reply⟩ => some (r.phase, reply)
  | _ => none

def moveOf : Event sig → Option Move
  | ⟨.inr (.transition tenantId intentId fence change _), answer⟩ =>
    some ⟨tenantId, intentId, fence, change, answer⟩
  | _ => none

def decryptedOf : Event sig → Option (Option Obj)
  | ⟨.inl (.decrypt _ _), tokens⟩ => some tokens
  | _ => none

/-- The requests of a trace. -/
def sent (t : Trace sig) : List Request := t.filterMap sentOf

/-- The replies of a trace, with the phase they answer. -/
def replies (t : Trace sig) : List (Phase × HttpReply) := t.filterMap replyOf

/-- The transitions of a trace. -/
def moves (t : Trace sig) : List Move := t.filterMap moveOf

/-- What the cipher answered. -/
def decrypted (t : Trace sig) : List (Option Obj) := t.filterMap decryptedOf

@[simp] theorem sent_append (t u : Trace sig) : sent (t ++ u) = sent t ++ sent u :=
  List.filterMap_append
@[simp] theorem replies_append (t u : Trace sig) : replies (t ++ u) = replies t ++ replies u :=
  List.filterMap_append
@[simp] theorem moves_append (t u : Trace sig) : moves (t ++ u) = moves t ++ moves u :=
  List.filterMap_append
@[simp] theorem decrypted_append (t u : Trace sig) :
    decrypted (t ++ u) = decrypted t ++ decrypted u :=
  List.filterMap_append

theorem mem_moves {t : Trace sig} {m : Move} :
    m ∈ moves t ↔ ∃ tenantId intentId fence change now answer,
      called (.transition tenantId intentId fence change now) answer ∈ t ∧
        m = ⟨tenantId, intentId, fence, change, answer⟩ := by
  simp only [moves, List.mem_filterMap]
  constructor
  · rintro ⟨⟨_ | o, a⟩, hmem, h⟩
    · cases h
    · cases o with
      | transition tenantId intentId fence change now =>
        cases h
        exact ⟨_, _, _, _, now, a, hmem, rfl⟩
      | _ => cases h
  · rintro ⟨tenantId, intentId, fence, change, now, answer, hmem, rfl⟩
    exact ⟨_, hmem, rfl⟩

/-- A trace without requests, replies, transitions and decryptions. -/
structure Quiet (t : Trace sig) : Prop where
  sent : sent t = []
  replies : replies t = []
  moves : moves t = []
  decrypted : decrypted t = []

theorem Quiet.nil : Quiet [] := ⟨rfl, rfl, rfl, rfl⟩

theorem Quiet.append {t u : Trace sig} (ht : Quiet t) (hu : Quiet u) : Quiet (t ++ u) :=
  ⟨by simp [ht.sent, hu.sent], by simp [ht.replies, hu.replies], by simp [ht.moves, hu.moves],
    by simp [ht.decrypted, hu.decrypted]⟩

/-- The events of one request. -/
def exchange (r : Request) (reply : HttpReply) : Trace sig :=
  [asked (.send r) (), asked (.receive r) reply]

@[simp] theorem sent_exchange (r : Request) (reply : HttpReply) : sent (exchange r reply) = [r] :=
  rfl
@[simp] theorem replies_exchange (r : Request) (reply : HttpReply) :
    replies (exchange r reply) = [(r.phase, reply)] := rfl
@[simp] theorem moves_exchange (r : Request) (reply : HttpReply) : moves (exchange r reply) = [] :=
  rfl
@[simp] theorem decrypted_exchange (r : Request) (reply : HttpReply) :
    decrypted (exchange r reply) = [] := rfl

/-- The reply ends a chain as a rejection: a legible 4xx, or a container the provider refused. -/
def RejectsAt (P : Platform) (phase : Phase) (reply : HttpReply) : Prop :=
  Rejects P reply ∨ phase = .instagramContainerStatus ∧
    (containerStatus P reply = some (Py.lit "ERROR") ∨
      containerStatus P reply = some (Py.lit "EXPIRED"))

/-- The container was reported as finished. -/
def Finished (P : Platform) (t : Trace sig) : Prop :=
  ∃ reply, (.instagramContainerStatus, reply) ∈ replies t ∧
    containerStatus P reply = some (Py.lit "FINISHED")

/-- The post may be there: the request that creates it was answered with a 2xx. -/
def Posted (t : Trace sig) : Prop := ∃ x ∈ replies t, x.1.createsPost = true ∧ x.2.accepted

instance (t : Trace sig) : Decidable (Posted t) :=
  inferInstanceAs (Decidable (∃ x ∈ replies t, x.1.createsPost = true ∧ x.2.accepted))

/-- Once the post may be there, only its verification is rejected. -/
def RejectsLate (P : Platform) (t : Trace sig) : Prop :=
  Posted t → ∀ x ∈ replies t, RejectsAt P x.1 x.2 → x.1.verifies = true

/-- The store accepted the container. -/
def Recorded (t : Trace sig) : Prop :=
  ∃ m ∈ moves t, m.change.status = .pending ∧ m.answer = .ok true

/-- The identifiers are the intent's, or those of a row read back for it. -/
def Names (intent : SocialPublicationIntent) (t : Trace sig) (tenantId intentId : Str)
    (fence : Int) : Prop :=
  (tenantId = intent.tenantId ∧ intentId = intent.intentId ∧
    fence = intent.executionFencingToken) ∨
  ∃ row : SocialPublicationIntent, called (.get intent.tenantId intent.intentId) (some row) ∈ t ∧
    tenantId = row.tenantId ∧ intentId = row.intentId ∧ fence = row.executionFencingToken

/-- What a chain for the intent may do after a trace. It starts once and creates a post once; media is
published only when its container was recorded and finished; the only transitions are those of
`record_container` and `complete`. -/
def ChainPermits (P : Platform) (intent : SocialPublicationIntent) (t : Trace sig) : sig.Op → Prop
  | .inl (.send r) =>
    (r.phase.startsChain = true → sent t = []) ∧
      (r.phase.createsPost = true → ∀ q ∈ sent t, q.phase.createsPost = false) ∧
      (r.phase = .instagramMediaPublish → Recorded t ∧ Finished P t) ∧
      (r.phase = .xPostCreate → intent.channelId = Py.lit "x")
  | .inl (.getConnection ..) | .inl (.decrypt ..) => False
  | .inl _ => True
  | .inr (.transition tenantId intentId fence change _) =>
    Names intent t tenantId intentId fence ∧
      (change.status = .pending ∨ change.status = .succeeded) ∧ change.failureReason = []
  | .inr (.get tenantId intentId) => ∃ fence, Names intent t tenantId intentId fence
  | .inr _ => False

/-- What the result of a chain comes to; `C` says that nothing in it raises an exception that
`execute` does not catch. -/
structure ChainResult (P : Platform) (C : Trace sig → Prop) (t : Trace sig)
    (r : Except Exn SocialPublicationIntent) : Prop where
  completed : ∀ a, r = .ok a → ∃ m ∈ moves t, m.change.status = .succeeded
  moved : ∀ m ∈ moves t, m.change.status = .pending ∨
    m.change.status = .succeeded ∧ C t ∧ ∀ x ∈ replies t, ¬ RejectsAt P x.1 x.2
  rejected : (∃ rejection, r = .error (.socialPublicationProviderRejected rejection)) ↔
    ∃ x ∈ replies t, RejectsAt P x.1 x.2
  late : RejectsLate P t
  caught : (∀ e, r = .error e → e.caught = true) ↔ C t
  published : (∃ q ∈ sent t, q.phase = .instagramMediaPublish) ↔ Finished P t
  decrypted : decrypted t = []

section
variable {P : Platform} {A : SocialPublicationAuthority} {α : Type}
variable {R : Trace sig → sig.Op → Prop} {Q : Trace sig → Except Exn α → Prop}

/-- A request and the reading of its reply. -/
theorem Spec_request {phase : Phase} {method : String} {url authorization : Str}
    {payload : Payload} {k : Response → Obj → Program α} {t : Trace sig}
    (hsend : R t (.inl (.send ⟨phase, method, url, authorization, payload⟩)))
    (hreceive : ∀ u, R u (.inl (.receive ⟨phase, method, url, authorization, payload⟩)))
    (hascii : Py.isascii authorization = false → Q t (.error .unicodeEncodeError))
    (herr : Py.isascii authorization = true → ∀ reply e, readObject P phase reply = .error e →
      Q (t ++ exchange ⟨phase, method, url, authorization, payload⟩ reply) (.error e))
    (hok : Py.isascii authorization = true →
      ∀ reply response o, readObject P phase reply = .ok (response, o) →
      (k response o).Spec R Q (t ++ exchange ⟨phase, method, url, authorization, payload⟩ reply)) :
    ((request P phase method url authorization payload).bind fun response =>
      (Prog.ofExcept (jsonObject P response)).bind fun o => k response o).Spec R Q t := by
  cases ha : Py.isascii authorization with
  | false =>
    simp only [request, ha, Prog.raiseIf, Prog.bind_eq, if_true, Prog.raise_bind, Prog.Spec_raise]
    exact hascii ha
  | true =>
    simp only [request, ha, Prog.raiseIf, Prog.bind_eq]
    refine ⟨hsend, fun _ => ⟨hreceive _, fun reply => ?_⟩⟩
    have herr := herr ha reply
    have hok := hok ha reply
    rw [List.append_assoc]
    cases hr : readReply P phase reply with
    | error e =>
      simp only [Prog.ret_bind, hr, Prog.ofExcept_error, Prog.raise_bind]
      exact herr e (by rw [readObject, hr]; rfl)
    | ok response =>
      simp only [Prog.ret_bind, hr, Prog.ofExcept_ok]
      cases hj : jsonObject P response with
      | error e =>
        simp only [Prog.ofExcept_error, Prog.raise_bind]
        exact herr e (by simp only [readObject, hr, hj, bind, Except.bind])
      | ok o =>
        simp only [Prog.ofExcept_ok, Prog.ret_bind]
        exact hok response o (by simp only [readObject, hr, hj, bind, Except.bind, pure,
          Except.pure])

/-- What `_transition` does: it ends before it reaches the store, the store refuses, the row is
gone when it is read back, or it is read back. -/
inductive TransitionTrace (tenantId intentId : Str) (fence : Int) (change : Change) :
    Trace sig → Except Exn SocialPublicationIntent → Prop
  | invalid {e : Exn} : change.validate tenantId intentId fence = .error e →
      TransitionTrace tenantId intentId fence change [] (.error e)
  | refused {now : Str} {answer : Except Exn Bool} {e : Exn} :
      change.validate tenantId intentId fence = .ok () → answer ≠ .ok true →
      TransitionTrace tenantId intentId fence change
        [asked .clock now, called (.transition tenantId intentId fence change now) answer] (.error e)
  | lost {now : Str} {e : Exn} : change.validate tenantId intentId fence = .ok () →
      TransitionTrace tenantId intentId fence change
        [asked .clock now, called (.transition tenantId intentId fence change now) (.ok true),
          called (.get tenantId intentId) none] (.error e)
  | done {now : Str} {row : SocialPublicationIntent} :
      change.validate tenantId intentId fence = .ok () →
      TransitionTrace tenantId intentId fence change
        [asked .clock now, called (.transition tenantId intentId fence change now) (.ok true),
          called (.get tenantId intentId) (some row)] (.ok row)

/-- The operations of `_transition`. -/
def TransitionPermits (tenantId intentId : Str) (fence : Int) (change : Change) :
    Trace sig → sig.Op → Prop
  | _, .inl .clock => True
  | _, .inr (.transition tenantId' intentId' fence' change' _) =>
    tenantId' = tenantId ∧ intentId' = intentId ∧ fence' = fence ∧ change' = change
  | _, .inr (.get tenantId' intentId') => tenantId' = tenantId ∧ intentId' = intentId
  | _, _ => False

theorem Change.validate_identity {c : Change} {tenantId intentId : Str} {fence : Int}
    (h : c.validate tenantId intentId fence = .ok ()) :
    validateIdentity tenantId intentId = .ok () := by
  obtain ⟨_, hid, _⟩ := exceptBind_ok h
  exact hid

theorem Change.validate_container {c : Change} {tenantId intentId containerId : Str} {fence : Int}
    (h : c.validate tenantId intentId fence = .ok ())
    (hc : c.providerContainerId = some containerId) : isIdentifier containerId = true := by
  obtain ⟨_, _, h⟩ := exceptBind_ok h
  obtain ⟨_, _, h⟩ := exceptBind_ok h
  obtain ⟨_, hid, _⟩ := exceptBind_ok h
  rw [hc] at hid
  exact check_ok.1 hid

theorem Spec_transition (tenantId intentId : Str) (fence : Int) (change : Change) :
    (transition tenantId intentId fence change).Spec
      (TransitionPermits tenantId intentId fence change)
      (TransitionTrace tenantId intentId fence change) [] := by
  cases hv : change.validate tenantId intentId fence with
  | error e =>
    simp only [transition, hv, Prog.bind_eq, Prog.ofExcept_error, Prog.raise_bind, Prog.Spec_raise]
    exact .invalid hv
  | ok _ =>
    simp only [transition, hv, clock, Prog.bind_eq, Prog.ofExcept_ok, Prog.ret_bind]
    refine ⟨trivial, fun now => ⟨⟨rfl, rfl, rfl, rfl⟩, fun answer => ?_⟩⟩
    rcases answer with e | _ | _
    · exact .refused hv (by simp)
    · exact .refused hv (by simp)
    · simp only [Prog.ret_bind, Prog.ofExcept_ok, get, Change.validate_identity hv, Prog.raiseIf,
        Prog.bind_eq]
      refine ⟨⟨rfl, rfl⟩, fun row => ?_⟩
      cases row with
      | none => exact .lost hv
      | some row => exact .done hv

theorem Names.mono {intent : SocialPublicationIntent} {t : Trace sig} {tenantId intentId : Str}
    {fence : Int} (h : Names intent t tenantId intentId fence) (u : Trace sig) :
    Names intent (t ++ u) tenantId intentId fence := by
  rcases h with h | ⟨row, hrow, h⟩
  · exact .inl h
  · exact .inr ⟨row, List.mem_append_left u hrow, h⟩

/-- What the operations of `_transition` add to a trace. -/
theorem TransitionTrace.adds {tenantId intentId : Str} {fence : Int} {change : Change}
    {t : Trace sig} {r : Except Exn SocialPublicationIntent}
    (h : TransitionTrace tenantId intentId fence change t r) :
    sent t = [] ∧ replies t = [] ∧ decrypted t = [] ∧
      (∀ m ∈ moves t, m.tenantId = tenantId ∧ m.intentId = intentId ∧ m.fence = fence ∧
        m.change = change) := by
  cases h <;> simp [sent, replies, decrypted, moves, sentOf, replyOf, decryptedOf, moveOf]

/-- A transition that was valid reached the store. -/
theorem TransitionTrace.moves_ne_nil {tenantId intentId : Str} {fence : Int} {change : Change}
    {t : Trace sig} {r : Except Exn SocialPublicationIntent}
    (h : TransitionTrace tenantId intentId fence change t r)
    (hv : change.validate tenantId intentId fence = .ok ()) :
    ∃ m ∈ moves t, m.tenantId = tenantId ∧ m.intentId = intentId ∧ m.fence = fence ∧
      m.change = change := by
  cases h with
  | invalid h => rw [hv] at h; cases h
  | refused | lost | done => simp [moves, moveOf]

/-- A chain may do the operations of a transition to a status it uses. -/
theorem TransitionPermits.chain {intent : SocialPublicationIntent} {t u : Trace sig}
    {tenantId intentId : Str} {fence : Int} {change : Change} {o : sig.Op}
    (h : TransitionPermits tenantId intentId fence change u o)
    (hn : Names intent t tenantId intentId fence)
    (hs : change.status = .pending ∨ change.status = .succeeded) (hr : change.failureReason = []) :
    ChainPermits P intent (t ++ u) o := by
  rcases o with (_ | _ | _ | _ | _ | _ | _ | _) | (_ | _ | _ | _ | _)
  case inl.clock => trivial
  case inr.get =>
    obtain ⟨rfl, rfl⟩ := h
    exact ⟨fence, hn.mono u⟩
  case inr.transition =>
    obtain ⟨rfl, rfl, rfl, rfl⟩ := h
    exact ⟨hn.mono u, hs, hr⟩
  all_goals exact absurd h not_false

/-- A transition within a chain. -/
theorem Spec_chainTransition {intent : SocialPublicationIntent} {t : Trace sig}
    {tenantId intentId : Str} {fence : Int} {change : Change}
    (hn : Names intent t tenantId intentId fence)
    (hs : change.status = .pending ∨ change.status = .succeeded) (hr : change.failureReason = []) :
    (transition tenantId intentId fence change).Spec (ChainPermits P intent)
      (fun u r => ∃ s, u = t ++ s ∧ TransitionTrace tenantId intentId fence change s r) t := by
  refine ((Spec_transition tenantId intentId fence change).shift t).mono ?_ fun _ _ h => h
  rintro u o ⟨s, rfl, h⟩
  exact h.chain hn hs hr

/-- The end of a chain: the receipt is stored, or the outcome is unknown. -/
theorem Spec_completeOrUnknown {intent row : SocialPublicationIntent} {t : Trace sig}
    {providerPostId : Str} {receipt : Obj}
    {Q : Trace sig → Except Exn SocialPublicationIntent → Prop}
    (hn : Names intent t row.tenantId row.intentId row.executionFencingToken)
    (herr : ∀ u, sent u = [] → replies u = [] → decrypted u = [] →
      (∀ m ∈ moves u, m.change.status = .succeeded) → Q (t ++ u) (.error outcomeUnknown))
    (hok : ∀ u a, sent u = [] → replies u = [] → decrypted u = [] →
      (∀ m ∈ moves u, m.change.status = .succeeded) → moves u ≠ [] → Q (t ++ u) (.ok a)) :
    (completeOrUnknown row providerPostId receipt).Spec (ChainPermits P intent) Q t := by
  refine Prog.Spec.tryCatch_of (Spec_chainTransition hn (.inr rfl) rfl) ?_ ?_
  · rintro u a ⟨s, rfl, h⟩
    obtain ⟨h1, h2, h3, h4⟩ := h.adds
    refine hok s a h1 h2 h3 (fun m hm => by rw [(h4 m hm).2.2.2]) ?_
    cases h
    simp [moves, moveOf]
  · rintro u e ⟨s, rfl, h⟩
    obtain ⟨h1, h2, h3, h4⟩ := h.adds
    exact herr s h1 h2 h3 fun m hm => by rw [(h4 m hm).2.2.2]

/-- The container of a chain: it is recorded, or the outcome is unknown. -/
theorem Spec_recordContainer {intent : SocialPublicationIntent} {t : Trace sig} {containerId : Str}
    {k : SocialPublicationIntent → Program α} {Q : Trace sig → Except Exn α → Prop}
    (herr : ∀ u, sent u = [] → replies u = [] → decrypted u = [] →
      (∀ m ∈ moves u, m.change.status = .pending) → Q (t ++ u) (.error outcomeUnknown))
    (hok : ∀ u row, sent u = [] → replies u = [] → decrypted u = [] →
      (∀ m ∈ moves u, m.change.status = .pending) → Recorded u → isIdentifier containerId = true →
      Names intent (t ++ u) row.tenantId row.intentId row.executionFencingToken →
      (k row).Spec (ChainPermits P intent) Q (t ++ u)) :
    (((recordContainer intent.tenantId intent.intentId intent.executionFencingToken
      containerId).tryCatch fun _ => throw outcomeUnknown).bind k).Spec (ChainPermits P intent) Q
      t := by
  have hspec : (recordContainer intent.tenantId intent.intentId intent.executionFencingToken
      containerId).Spec (ChainPermits P intent) _ t :=
    Spec_chainTransition (.inl ⟨rfl, rfl, rfl⟩) (.inl rfl) rfl
  rw [Prog.Spec_bind, Prog.Spec_tryCatch]
  refine hspec.mono (fun _ _ h => h) ?_
  rintro _ r ⟨u, rfl, h⟩
  obtain ⟨h1, h2, h3, h4⟩ := h.adds
  have hm : ∀ m ∈ moves u, m.change.status = .pending := fun m hm => by rw [(h4 m hm).2.2.2]
  cases h with
  | invalid | refused | lost => exact herr _ h1 h2 h3 hm
  | @done now row hv =>
    refine hok _ row h1 h2 h3 hm ?_ (Change.validate_container hv rfl)
      (.inr ⟨row, by simp, rfl, rfl, rfl⟩)
    exact ⟨_, List.mem_singleton_self _, rfl, rfl⟩

/-- The header of an X request: it is made of credentials that can be encoded. -/
theorem Spec_xAuthorization {method : String} {baseUrl : Str} {query : List (Str × Str)}
    {accessToken accessSecret : Str} {t : Trace sig} {k : Str → Program α}
    (hm : Py.encodable (Py.lit method) = true) (hb : Py.encodable baseUrl = true)
    (hq : encodablePairs query = true) (hnonce : ∀ u, R u (.inl .nonce))
    (htime : ∀ u, R u (.inl .timestamp))
    (herr : encodableCredentials A.xConsumerKey A.xConsumerSecret accessToken accessSecret = false →
      ∀ u, Quiet u → Q (t ++ u) (.error .unicodeEncodeError))
    (hok : encodableCredentials A.xConsumerKey A.xConsumerSecret accessToken accessSecret = true →
      ∀ u h, Quiet u → Py.isascii h = true → (k h).Spec R Q (t ++ u)) :
    ((xAuthorization P A method baseUrl query accessToken accessSecret).bind k).Spec R Q t := by
  simp only [xAuthorization, Prog.bind_eq]
  refine ⟨hnonce _, fun nonce => ⟨htime _, fun timestamp => ?_⟩⟩
  rw [List.append_assoc]
  simp only [Prog.ret_bind]
  have hquiet : Quiet [asked .nonce nonce, asked .timestamp timestamp] := ⟨rfl, rfl, rfl, rfl⟩
  cases hc : encodableCredentials A.xConsumerKey A.xConsumerSecret accessToken accessSecret with
  | false =>
    rw [oauthHeader_error hm hb hq nonce.ascii (Py.isascii_ofInt timestamp) hc]
    exact herr hc _ hquiet
  | true =>
    obtain ⟨h, hh, hasc⟩ := @oauthHeader_ok P _ _ _ _ _ _ _ _ _ hm hb hq nonce.ascii
      (Py.isascii_ofInt timestamp) hc
    rw [hh]
    exact hok hc _ h hquiet hasc

end

/-! ## The X chain -/

/-- Nothing in the X chain raises an exception that `execute` does not catch: the secrets are there
and can be encoded, every reply is legible, and the comparisons of the verification are of texts
they accept. -/
structure XSettles (P : Platform) (A : SocialPublicationAuthority)
    (command : SocialPublicationCommand) (tokens : Obj) (t : Trace sig) : Prop where
  secrets : ∃ accessToken accessSecret, requiredSecret tokens "access_token" = .ok accessToken ∧
    requiredSecret tokens "access_token_secret" = .ok accessSecret ∧
    encodableCredentials A.xConsumerKey A.xConsumerSecret accessToken accessSecret = true
  legible : ∀ x ∈ replies t, Legible P x.2
  comparable : ∀ created verified, (.xPostCreate, created) ∈ replies t →
    (.xPostVerify, verified) ∈ replies t → ∀ postId response payload,
    createdPostId P created = .ok postId →
    readObject P .xPostVerify verified = .ok (response, payload) →
    XComparable command postId payload

/-- How a chain ends with an exception. -/
inductive Ending (P : Platform) (C : Prop) (t : Trace sig) : Exn → Prop
  | rejected {rejection : ProviderRejection} : C → (∃ x ∈ replies t, RejectsAt P x.1 x.2) →
      RejectsLate P t → Ending P C t (.socialPublicationProviderRejected rejection)
  | unknown {e : Exn} : e.isUnknown = true → C → (∀ x ∈ replies t, ¬ RejectsAt P x.1 x.2) →
      Ending P C t e
  | strands {e : Exn} : e.caught = false → ¬ C → (∀ x ∈ replies t, ¬ RejectsAt P x.1 x.2) →
      Ending P C t e

theorem RejectsLate.of_none {P : Platform} {t : Trace sig}
    (h : ∀ x ∈ replies t, ¬ RejectsAt P x.1 x.2) : RejectsLate P t :=
  fun _ x hx hr => absurd hr (h x hx)

/-- What a chain did before, without a rejection and without creating a post, does not change how it
ends. -/
theorem Ending.prepend {P : Platform} {C C' : Prop} {t u : Trace sig} {e : Exn}
    (h : Ending P C u e) (ht : ∀ x ∈ replies t, x.1.createsPost = false ∧ ¬ RejectsAt P x.1 x.2)
    (hC : C' ↔ C) : Ending P C' (t ++ u) e := by
  have hrej (hu : ∀ x ∈ replies u, ¬ RejectsAt P x.1 x.2) :
      ∀ x ∈ replies (t ++ u), ¬ RejectsAt P x.1 x.2 := by
    intro x hx
    rcases List.mem_append.1 (replies_append t u ▸ hx) with hx | hx
    · exact (ht x hx).2
    · exact hu x hx
  cases h with
  | rejected h hx hlate =>
    obtain ⟨x, hmem, hx⟩ := hx
    refine .rejected (hC.2 h) ⟨x, by simp [hmem], hx⟩ ?_
    rintro ⟨y, hy, hcreates, haccepted⟩ z hz hr
    rcases List.mem_append.1 (replies_append t u ▸ hy) with hy | hy
    · rw [(ht y hy).1] at hcreates
      cases hcreates
    rcases List.mem_append.1 (replies_append t u ▸ hz) with hz | hz
    · exact absurd hr (ht z hz).2
    · exact hlate ⟨y, hy, hcreates, haccepted⟩ z hz hr
  | unknown he h hx => exact .unknown he (hC.2 h) (hrej hx)
  | strands he h hx => exact .strands he (fun h' => h (hC.1 h')) (hrej hx)

theorem ChainResult.ofError {P : Platform} {C : Trace sig → Prop} {t : Trace sig} {e : Exn}
    (h : Ending P (C t) t e)
    (hm : ∀ m ∈ moves t, m.change.status = .pending ∨
      m.change.status = .succeeded ∧ C t ∧ ∀ x ∈ replies t, ¬ RejectsAt P x.1 x.2)
    (hp : (∃ q ∈ sent t, q.phase = .instagramMediaPublish) ↔ Finished P t)
    (hd : Publication.decrypted t = []) : ChainResult P C t (.error e) where
  completed _ h := by cases h
  moved := hm
  rejected := by
    cases h with
    | rejected _ hx _ => exact ⟨fun _ => hx, fun _ => ⟨_, rfl⟩⟩
    | unknown he _ hx =>
      refine ⟨?_, fun ⟨x, hx', hr⟩ => absurd hr (hx x hx')⟩
      rintro ⟨_, h⟩
      cases h; cases he
    | strands he _ hx =>
      refine ⟨?_, fun ⟨x, hx', hr⟩ => absurd hr (hx x hx')⟩
      rintro ⟨_, h⟩
      cases h; cases he
  late := by
    cases h with
    | rejected _ _ hlate => exact hlate
    | unknown _ _ hx | strands _ _ hx => exact .of_none hx
  caught := by
    cases h with
    | rejected hC => exact ⟨fun _ => hC, fun _ e h => by cases h; rfl⟩
    | unknown he hC =>
      exact ⟨fun _ => hC, fun _ e h => by cases h; exact Exn.caught_of_isUnknown he⟩
    | strands he hC =>
      exact ⟨fun h => absurd (h _ rfl) (by simp [he]), fun h => absurd h hC⟩
  published := hp
  decrypted := hd

theorem ChainResult.ofOk {P : Platform} {C : Trace sig → Prop} {t : Trace sig}
    {a : SocialPublicationIntent} (hC : C t) (hx : ∀ x ∈ replies t, ¬ RejectsAt P x.1 x.2)
    (hm : ∀ m ∈ moves t, m.change.status = .pending ∨
      m.change.status = .succeeded ∧ C t ∧ ∀ x ∈ replies t, ¬ RejectsAt P x.1 x.2)
    (hc : ∃ m ∈ moves t, m.change.status = .succeeded)
    (hp : (∃ q ∈ sent t, q.phase = .instagramMediaPublish) ↔ Finished P t)
    (hd : Publication.decrypted t = []) : ChainResult P C t (.ok a) where
  completed _ _ := hc
  moved := hm
  rejected := by
    refine ⟨?_, fun ⟨x, hx', hr⟩ => absurd hr (hx x hx')⟩
    rintro ⟨_, h⟩
    cases h
  late := .of_none hx
  caught := ⟨fun _ => hC, fun _ _ h => by cases h⟩
  published := hp
  decrypted := hd

theorem not_finished_of_replies {P : Platform} {t : Trace sig}
    (h : ∀ x ∈ replies t, x.1 ≠ .instagramContainerStatus) : ¬ Finished P t :=
  fun ⟨_, hmem, _⟩ => h _ hmem rfl

/-- A chain that ends before its first request. -/
theorem ChainResult.ofQuiet {P : Platform} {C : Trace sig → Prop} {t : Trace sig} {e : Exn}
    (ht : Quiet t) (he : e.caught = false) (hC : ¬ C t) : ChainResult P C t (.error e) := by
  refine .ofError (.strands he hC (by simp [ht.replies])) (by simp [ht.moves])
    ⟨by simp [ht.sent], ?_⟩ ht.decrypted
  exact fun h => absurd h (not_finished_of_replies (by simp [ht.replies]))

theorem requiredSecret_error {tokens : Obj} {name : String} {e : Exn}
    (h : requiredSecret tokens name = .error e) : e.caught = false := by
  unfold requiredSecret at h
  split at h
  · split at h <;> cases h
    rfl
  · cases h; rfl

/-- What a reading that fails says of the end of a chain whose last reply it is. -/
theorem Reading.ending {P : Platform} {reply : HttpReply} {e : Exn} {phase : Phase} {C : Prop}
    {t : Trace sig} (h : Reading P reply (.error e)) (hphase : phase ≠ .instagramContainerStatus)
    (hmem : (phase, reply) ∈ replies t)
    (hrest : ∀ x ∈ replies t, x = (phase, reply) ∨ ¬ RejectsAt P x.1 x.2)
    (hlate : phase.verifies = true ∨
      ∀ x ∈ replies t, x = (phase, reply) ∨ x.1.createsPost = false)
    (hC : Legible P reply → C) (hno : ¬ Legible P reply → ¬ C) : Ending P C t e := by
  have hx (hr : ¬ Rejects P reply) : ∀ x ∈ replies t, ¬ RejectsAt P x.1 x.2 := by
    intro x hx
    rcases hrest x hx with rfl | h
    · rintro (h | h)
      · exact hr h
      · exact hphase h.1
    · exact h
  cases h with
  | unknown hl hr => exact .unknown rfl (hC hl) (hx hr)
  | rejected hl hr hno =>
    refine .rejected (hC hl) ⟨_, hmem, .inl hr⟩ ?_
    rintro ⟨y, hy, hcreates, haccepted⟩ z hz hrz
    rcases hrest z hz with rfl | hnz
    · refine hlate.resolve_right fun hall => ?_
      rcases hall y hy with rfl | hfalse
      · exact hno haccepted
      · rw [hfalse] at hcreates
        cases hcreates
    · exact absurd hrz hnz
  | illegible hl hr he => exact .strands he (hno hl) (hx hr)

theorem encodable_xLookupPostUrl {postId : Str} (h : Py.isdigit postId = true) :
    Py.encodable (xLookupPostUrl postId) = true := by
  have hbase : Py.encodable (xCreatePostUrl ++ Py.lit "/") = true := by decide
  have hid := Py.encodable_of_isdigit h
  simp only [Py.encodable, xLookupPostUrl, List.all_append] at hbase hid ⊢
  rw [hbase, hid]
  rfl

/-- The X chain, in every environment. -/
theorem Spec_publishX {P : Platform} {A : SocialPublicationAuthority}
    {command : SocialPublicationCommand} {intent : SocialPublicationIntent} {tokens : Obj}
    {expectedUsername : Str} (hc : Py.encodable command.content = true)
    (hx : intent.channelId = Py.lit "x") :
    (publishX P A command intent tokens expectedUsername).Spec (ChainPermits P intent)
      (ChainResult P (XSettles P A command tokens)) [] := by
  simp only [publishX, Prog.bind_eq]
  -- The secrets.
  refine (Prog.Spec_ofExcept_bind _ _ _).2 ⟨fun e h => ?_, fun accessToken hat => ?_⟩
  · refine .ofQuiet .nil (requiredSecret_error h) ?_
    rintro ⟨⟨_, _, h', _⟩, _, _⟩
    rw [h] at h'; cases h'
  refine (Prog.Spec_ofExcept_bind _ _ _).2 ⟨fun e h => ?_, fun accessSecret has => ?_⟩
  · refine .ofQuiet .nil (requiredSecret_error h) ?_
    rintro ⟨⟨_, _, _, h', _⟩, _, _⟩
    rw [h] at h'; cases h'
  refine Spec_xAuthorization (by decide) (by decide) rfl (fun _ => trivial) (fun _ => trivial)
    (fun hcred u hu => ?_) (fun hcred u₀ authorization hu₀ hasc => ?_)
  · refine .ofQuiet hu rfl ?_
    rintro ⟨⟨_, _, h1, h2, h3⟩, _, _⟩
    rw [hat] at h1; cases h1
    rw [has] at h2; cases h2
    rw [hcred] at h3; cases h3
  have hsecrets : ∃ accessToken accessSecret, requiredSecret tokens "access_token" =
      .ok accessToken ∧ requiredSecret tokens "access_token_secret" = .ok accessSecret ∧
      encodableCredentials A.xConsumerKey A.xConsumerSecret accessToken accessSecret = true :=
    ⟨_, _, hat, has, hcred⟩
  rw [List.nil_append]
  -- The create request.
  refine Spec_request ⟨fun _ => hu₀.sent, by simp [hu₀.sent], nofun, fun _ => hx⟩ (fun _ => trivial)
    (fun h => by rw [hasc] at h; cases h) (fun _ created e he => ?_)
    (fun _ created response payload hcreated => ?_)
  · have hread := he ▸ reading P .xPostCreate created
    refine .ofError ?_ (by simp [hu₀.moves]) ⟨by simp [hu₀.sent], fun h =>
      absurd h (not_finished_of_replies (by simp [hu₀.replies]))⟩ (by simp [hu₀.decrypted])
    refine Reading.ending hread (by decide : Phase.xPostCreate ≠ .instagramContainerStatus)
      (by simp) (by simp [hu₀.replies]) (.inr (by simp [hu₀.replies]))
      (fun hl => ⟨hsecrets, by simpa [hu₀.replies] using hl, by simp [hu₀.replies]⟩) fun hno h => ?_
    exact hno (h.legible (.xPostCreate, created) (by simp))
  obtain ⟨hlc, hrc, -⟩ := (hcreated ▸ reading P .xPostCreate created).ok
  -- An end before the verification is read: the outcome is unknown.
  have hearly (u : Trace sig) {e : Exn} (hs : sent u = []) (hr : replies u = [])
      (hm : moves u = []) (hd : decrypted u = []) (he : e.isUnknown = true) :
      ChainResult P (XSettles P A command tokens)
        (u₀ ++ exchange ⟨.xPostCreate, "POST", xCreatePostUrl, authorization,
          .json command.content⟩ created ++ u) (.error e) := by
    refine .ofError (.unknown he ⟨hsecrets, ?_, ?_⟩ ?_) (by simp [hu₀.moves, hm])
      ⟨by simp [hu₀.sent, hs], fun h =>
        absurd h (not_finished_of_replies (by simp [hu₀.replies, hr]))⟩ (by simp [hu₀.decrypted, hd])
    · simpa [hu₀.replies, hr] using hlc
    · simp [hu₀.replies, hr]
    · simpa [hu₀.replies, hr, RejectsAt] using hrc
  refine (Prog.Spec_ofExcept_bind _ _ _).2 ⟨fun e h => ?_, fun data hdata => ?_⟩
  · simpa using hearly [] rfl rfl rfl rfl (mapping_error h)
  refine (Prog.Spec_ofExcept_bind _ _ _).2 ⟨fun e h => ?_, fun postId hpost => ?_⟩
  · simpa using hearly [] rfl rfl rfl rfl (requiredXPostId_error h)
  have hid : createdPostId P created = .ok postId := by
    simp only [createdPostId, hcreated, hdata, bind, Except.bind]
    exact hpost
  -- The verification.
  refine Spec_xAuthorization (by decide) (encodable_xLookupPostUrl (requiredXPostId_ok hpost))
    (by decide) (fun _ => trivial) (fun _ => trivial)
    (fun hno => by rw [hcred] at hno; cases hno) (fun _ u₁ authorization' hu₁ hasc' => ?_)
  refine Spec_request ⟨nofun, nofun, nofun, nofun⟩ (fun _ => trivial)
    (fun h => by rw [hasc'] at h; cases h) (fun _ verified e he => ?_)
    (fun _ verified verification payload' hverified => ?_)
  · have hread := he ▸ reading P .xPostVerify verified
    refine .ofError ?_ (by simp [hu₀.moves, hu₁.moves]) ⟨by simp [hu₀.sent, hu₁.sent], fun h =>
      absurd h (not_finished_of_replies (by simp [hu₀.replies, hu₁.replies]))⟩
      (by simp [hu₀.decrypted, hu₁.decrypted])
    refine Reading.ending hread (by decide : Phase.xPostVerify ≠ .instagramContainerStatus)
      (by simp) ?_ (.inl rfl) (fun hl => ⟨hsecrets, ?_, ?_⟩) fun hno h => ?_
    · simpa [hu₀.replies, hu₁.replies, RejectsAt] using hrc
    · simpa [hu₀.replies, hu₁.replies] using ⟨hlc, hl⟩
    · intro c v _ hv id response payload'' _ hok
      have : v = verified := by simpa [hu₀.replies, hu₁.replies] using hv
      rw [this, he] at hok; cases hok
    · exact hno (h.legible (.xPostVerify, verified) (by simp))
  obtain ⟨hlv, hrv, -⟩ := (hverified ▸ reading P .xPostVerify verified).ok
  -- From here on only the comparisons of the verification are open.
  generalize ht : u₀ ++ exchange _ created ++ u₁ ++ exchange _ verified = t
  have hreplies : replies t = [(.xPostCreate, created), (.xPostVerify, verified)] := by
    simp [← ht, hu₀.replies, hu₁.replies]
  have hsent : ∀ q ∈ sent t, q.phase ≠ .instagramMediaPublish := by
    simp [← ht, hu₀.sent, hu₁.sent]
  have hmoves : moves t = [] := by simp [← ht, hu₀.moves, hu₁.moves]
  have hdecrypted : decrypted t = [] := by simp [← ht, hu₀.decrypted, hu₁.decrypted]
  have hsettles {u : Trace sig} (hu : replies u = []) :
      XSettles P A command tokens (t ++ u) ↔ XComparable command postId payload' := by
    refine ⟨fun h => h.comparable created verified (by simp [hreplies]) (by simp [hreplies])
      _ _ _ hid hverified, fun h => ⟨hsecrets, ?_, ?_⟩⟩
    · simpa [hreplies, hu] using ⟨hlc, hlv⟩
    · intro c v hc' hv' id r o hid' hv
      have hc' : c = created := by simpa [hreplies, hu] using hc'
      have hv' : v = verified := by simpa [hreplies, hu] using hv'
      rw [hc', hid] at hid'; cases hid'
      rw [hv', hverified] at hv; cases hv
      exact h
  have hreject {u : Trace sig} (hu : replies u = []) :
      ∀ x ∈ replies (t ++ u), ¬ RejectsAt P x.1 x.2 := by
    simpa [hreplies, hu, RejectsAt] using ⟨hrc, hrv⟩
  have hpublish {u : Trace sig} (hs : sent u = []) (hr : replies u = []) :
      (∃ q ∈ sent (t ++ u), q.phase = .instagramMediaPublish) ↔ Finished P (t ++ u) := by
    refine ⟨?_, fun h => absurd h (not_finished_of_replies (by simp [hreplies, hr]))⟩
    rintro ⟨q, hq, hphase⟩
    rw [sent_append, hs, List.append_nil] at hq
    exact absurd hphase (hsent q hq)
  refine (Prog.Spec_ofExcept_bind _ _ _).2 ⟨fun e h => ?_, fun ⟨authorId, publishedAt⟩ h => ?_⟩
  · have hverdict := h ▸ @verifyXPost_verdict P command expectedUsername postId payload' hc
    rw [← List.append_nil t]
    refine .ofError ?_ (by simp [hmoves]) (hpublish rfl rfl) (by simp [hdecrypted])
    cases hverdict with
    | unknown he hC => exact .unknown he ((hsettles rfl).2 hC) (hreject rfl)
    | strands he hC => exact .strands he (fun h => hC ((hsettles rfl).1 h)) (hreject rfl)
  have hC : XComparable command postId payload' := by
    have hverdict := h ▸ @verifyXPost_verdict P command expectedUsername postId payload' hc
    cases hverdict with
    | ok hC => exact hC
  refine (Prog.Spec_ofExcept_bind _ _ _).2 ⟨fun e h => ?_, fun _ _ => ?_⟩
  · rw [digest_ok hc] at h; cases h
  refine Spec_completeOrUnknown (.inl ⟨rfl, rfl, rfl⟩) (fun u hs hr hd hm => ?_)
    fun u a hs hr hd hm hne => ?_
  · refine .ofError (.unknown rfl ((hsettles hr).2 hC) (hreject hr)) ?_ (hpublish hs hr)
      (by simp [hdecrypted, hd])
    intro m hmem
    rw [moves_append, hmoves, List.nil_append] at hmem
    exact .inr ⟨hm m hmem, (hsettles hr).2 hC, hreject hr⟩
  · obtain ⟨m, hmem⟩ := List.exists_mem_of_ne_nil _ hne
    refine .ofOk ((hsettles hr).2 hC) (hreject hr) ?_ ⟨m, by simp [hmem], hm m hmem⟩
      (hpublish hs hr) (by simp [hdecrypted, hd])
    intro m hmem
    rw [moves_append, hmoves, List.nil_append] at hmem
    exact .inr ⟨hm m hmem, (hsettles hr).2 hC, hreject hr⟩

/-! ## The Instagram chain -/

/-- The operations of the status poll. -/
def PollPermits : Trace sig → sig.Op → Prop
  | _, .inl (.send r) => r.phase = .instagramContainerStatus
  | _, .inl (.receive _) | _, .inl .sleep => True
  | _, _ => False

theorem PollPermits.chain {P : Platform} {intent : SocialPublicationIntent} {t u : Trace sig}
    {o : sig.Op} (h : PollPermits t o) : ChainPermits P intent u o := by
  rcases o with (_ | _ | _ | _ | _ | _ | r | _) | (_ | _ | _ | _ | _)
  case inl.send =>
    have h : r.phase = .instagramContainerStatus := h
    refine ⟨?_, ?_, ?_, ?_⟩ <;> intro h' <;> rw [h] at h' <;> cases h'
  case inl.receive | inl.sleep => trivial
  all_goals exact absurd h not_false

/-- What the status poll does: it asks for the status only, and ends with the container finished, or
with an exception. -/
structure PollTrace (P : Platform) (t : Trace sig) (r : Except Exn Unit) : Prop where
  sent : ∀ q ∈ sent t, q.phase = .instagramContainerStatus
  replies : ∀ x ∈ replies t, x.1 = .instagramContainerStatus
  moves : moves t = []
  decrypted : decrypted t = []
  finished : ∀ u, r = .ok u → Finished P t ∧ (∀ x ∈ Publication.replies t, Legible P x.2) ∧
    ∀ x ∈ Publication.replies t, ¬ RejectsAt P x.1 x.2
  ended : ∀ e, r = .error e → ¬ Finished P t ∧
    Ending P (∀ x ∈ Publication.replies t, Legible P x.2) t e

/-- A poll that goes on after a round that neither finished nor rejected. -/
theorem PollTrace.cons {P : Platform} {r : Request} {reply : HttpReply} {pause t : Trace sig}
    {res : Except Exn Unit} (hr : r.phase = .instagramContainerStatus) (hp : Quiet pause)
    (hl : Legible P reply) (hno : ¬ RejectsAt P .instagramContainerStatus reply)
    (hf : containerStatus P reply ≠ some (Py.lit "FINISHED")) (h : PollTrace P t res) :
    PollTrace P (exchange r reply ++ pause ++ t) res := by
  have hfin : Finished P (exchange r reply ++ pause ++ t) ↔ Finished P t := by
    simp only [Finished, replies_append, replies_exchange, hp.replies, hr, List.append_nil,
      List.cons_append, List.nil_append, List.mem_cons, Prod.mk.injEq, true_and]
    constructor
    · rintro ⟨reply', rfl | hmem, hs⟩
      · exact absurd hs hf
      · exact ⟨reply', hmem, hs⟩
    · rintro ⟨reply', hmem, hs⟩
      exact ⟨reply', .inr hmem, hs⟩
  have hall (p : Phase × HttpReply → Prop) (hp' : p (.instagramContainerStatus, reply)) :
      (∀ x ∈ Publication.replies (exchange r reply ++ pause ++ t), p x) ↔
        ∀ x ∈ Publication.replies t, p x := by
    simp [hp.replies, hr, hp']
  refine ⟨by simpa [hp.sent, hr] using h.sent, by simpa [hp.replies, hr] using h.replies,
    by simp [hp.moves, h.moves], by simp [hp.decrypted, h.decrypted], fun u hu => ?_, fun e he => ?_⟩
  · obtain ⟨h1, h2, h3⟩ := h.finished u hu
    exact ⟨hfin.2 h1, (hall (fun x => Legible P x.2) hl).2 h2,
      (hall (fun x => ¬ RejectsAt P x.1 x.2) hno).2 h3⟩
  · obtain ⟨h1, h2⟩ := h.ended e he
    refine ⟨fun h => h1 (hfin.1 h), h2.prepend ?_ (hall (fun x => Legible P x.2) hl)⟩
    simpa [hp.replies, hr, Phase.createsPost] using hno

/-- A poll that ends at this reply. -/
theorem PollTrace.last {P : Platform} {r : Request} {reply : HttpReply} {e : Exn}
    (hr : r.phase = .instagramContainerStatus)
    (hf : containerStatus P reply ≠ some (Py.lit "FINISHED"))
    (h : Ending P (Legible P reply) (exchange r reply) e) :
    PollTrace P (exchange r reply) (.error e) := by
  refine ⟨by simp [hr], by simp [hr], rfl, rfl, fun u hu => (by cases hu), fun e' he => ?_⟩
  cases he
  refine ⟨?_, by simpa using h⟩
  rintro ⟨reply', hmem, hs⟩
  simp only [replies_exchange, List.mem_singleton, Prod.mk.injEq] at hmem
  exact hf (hmem.2 ▸ hs)

/-- The status that a reply with this payload carries. -/
theorem containerStatus_of_read {P : Platform} {reply : HttpReply} {response : Response}
    {payload : Obj} (h : readObject P .instagramContainerStatus reply = .ok (response, payload)) :
    containerStatus P reply = match Py.get payload "status_code" with
      | .str rawStatus => some (Py.upper (Py.strip rawStatus))
      | _ => none := by
  unfold containerStatus
  rewrite [h]
  rfl

/-- The status poll, for any number of rounds: the induction is on the rounds that are left. -/
theorem Spec_pollContainer {P : Platform} {authorization url : Str}
    (hasc : Py.isascii authorization = true) (attempts : Nat) :
    (pollContainer P authorization url attempts).Spec PollPermits (PollTrace P) [] := by
  induction attempts with
  | zero =>
    refine ⟨by simp [sent], by simp [replies], rfl, rfl, fun u hu => (by cases hu), fun e he => ?_⟩
    cases he
    exact ⟨not_finished_of_replies (by simp [replies]), .unknown rfl (by simp [replies])
      (by simp [replies])⟩
  | succ attempts ih =>
    rw [pollContainer]
    simp only [Prog.bind_eq, Prog.pure_eq]
    refine Spec_request rfl (fun _ => trivial) (fun h => by rw [hasc] at h; cases h)
      (fun _ reply e he => ?_) (fun _ reply response payload hread => ?_)
    · have hreading := he ▸ reading P .instagramContainerStatus reply
      have hnone : containerStatus P reply = none := by rw [containerStatus, he]
      have hlate : RejectsLate P (exchange ⟨.instagramContainerStatus, "GET", url, authorization,
          .params [("fields", Py.lit "status_code,status")]⟩ reply) := by
        simp [RejectsLate, Posted, Phase.createsPost]
      refine .last rfl (by simp [hnone]) ?_
      cases hreading with
      | unknown hl hr => exact .unknown rfl hl (by simp [RejectsAt, hr, hnone])
      | rejected hl hr _ => exact .rejected hl ⟨_, List.mem_singleton_self _, .inl hr⟩ hlate
      | illegible hl hr he => exact .strands he hl (by simp [RejectsAt, hr, hnone])
    obtain ⟨hl, hr, -⟩ := (hread ▸ reading P .instagramContainerStatus reply).ok
    have hstatus := containerStatus_of_read hread
    rw [List.nil_append]
    refine (Prog.Spec_ofExcept_bind _ _ _).2 ⟨fun e h => ?_, fun rawStatus h => ?_⟩
    · obtain ⟨hu, hno⟩ := requiredStr_error h
      have hnone : containerStatus P reply = none := by
        rw [hstatus]
        split
        · next h => exact absurd h (hno _)
        · rfl
      exact .last rfl (by simp [hnone]) (.unknown hu hl (by simp [RejectsAt, hr, hnone]))
    rw [requiredStr_ok.1 h] at hstatus
    simp only at hstatus
    have hnot {s : String} (h : Py.upper (Py.strip rawStatus) ≠ Py.lit s) :
        containerStatus P reply ≠ some (Py.lit s) := by
      rw [hstatus]
      exact fun h' => h (Option.some.inj h')
    rw [Prog.Spec_bind, Prog.Spec_raiseIf]
    refine ⟨fun hempty => ?_, fun _ => ?_⟩
    · have hne {s : String} (hs : Py.lit s ≠ []) : containerStatus P reply ≠ some (Py.lit s) :=
        hnot (by rw [hempty]; exact fun h => hs h.symm)
      refine .last rfl (hne (by decide)) (.unknown rfl hl ?_)
      simp [RejectsAt, hr, hne (by decide : Py.lit "ERROR" ≠ []),
        hne (by decide : Py.lit "EXPIRED" ≠ [])]
    rw [Prog.bindPost_ok]
    split
    · next hfin =>
      have hrej : ∀ x ∈ replies (exchange ⟨.instagramContainerStatus, "GET", url, authorization,
          .params [("fields", Py.lit "status_code,status")]⟩ reply), ¬ RejectsAt P x.1 x.2 := by
        simp only [replies_exchange, List.mem_singleton, forall_eq, RejectsAt, hr, false_or,
          true_and, hstatus, Option.some.injEq, hfin]
        decide
      refine ⟨by simp, by simp, rfl, rfl, fun _ _ => ⟨?_, by simpa using hl, hrej⟩,
        fun e he => (by cases he)⟩
      exact ⟨reply, List.mem_singleton_self _, by rw [hstatus, hfin]⟩
    · next hfin =>
      have hfin := hnot hfin
      rw [Prog.Spec_bind, Prog.Spec_raiseIf]
      refine ⟨fun herr => ?_, fun herr => ?_⟩
      · refine .last rfl hfin (.rejected hl ⟨_, List.mem_singleton_self _, .inr ⟨rfl, ?_⟩⟩
          (by simp [RejectsLate, Posted, Phase.createsPost]))
        rcases herr with herr | herr
        · exact .inl (by rw [hstatus, herr])
        · exact .inr (by rw [hstatus, herr])
      have hrej : ¬ RejectsAt P .instagramContainerStatus reply := by
        rintro (h | ⟨-, h⟩)
        · exact hr h
        · exact herr (h.imp (fun h => Option.some.inj (hstatus ▸ h))
            fun h => Option.some.inj (hstatus ▸ h))
      rw [Prog.bindPost_ok, Prog.Spec_bind, Prog.Spec_raiseIf]
      refine ⟨fun _ => .last rfl hfin (.unknown rfl hl (by simpa using hrej)), fun _ => ?_⟩
      rw [Prog.bindPost_ok]
      have hnext (pause : Trace sig) (hp : Quiet pause) :
          (pollContainer P authorization url attempts).Spec PollPermits (PollTrace P)
            (exchange ⟨.instagramContainerStatus, "GET", url, authorization,
              .params [("fields", Py.lit "status_code,status")]⟩ reply ++ pause) := by
        refine (ih.shift _).mono ?_ ?_
        · rintro _ o ⟨s, rfl, h⟩
          rcases o with o | o
          · cases o <;> exact h
          · cases o <;> exact h
        · rintro _ res ⟨s, rfl, h⟩
          exact .cons rfl hp hl hrej hfin h
      split
      · exact ⟨trivial, fun _ => hnext [asked .sleep ()] ⟨rfl, rfl, rfl, rfl⟩⟩
      · simpa using hnext [] .nil

/-- Nothing in the Instagram chain raises an exception that `execute` does not catch. -/
structure InstagramSettles (P : Platform) (command : SocialPublicationCommand) (tokens : Obj)
    (expectedUsername : Str) (t : Trace sig) : Prop where
  secret : ∃ accessToken, requiredSecret tokens "access_token" = .ok accessToken ∧
    Py.isascii accessToken = true
  legible : ∀ x ∈ replies t, Legible P x.2
  encodable : ∀ published, (.instagramMediaPublish, published) ∈ replies t → ∀ mediaId,
    publishedMediaId P published = .ok mediaId → Py.encodable mediaId = true
  comparable : ∀ published verified, (.instagramMediaPublish, published) ∈ replies t →
    (.instagramMediaVerify, verified) ∈ replies t → ∀ mediaId response payload,
    publishedMediaId P published = .ok mediaId →
    readObject P .instagramMediaVerify verified = .ok (response, payload) →
    InstagramComparable P command mediaId expectedUsername payload

theorem isascii_bearer (accessToken : Str) :
    Py.isascii (Py.lit "Bearer " ++ accessToken) = Py.isascii accessToken := by
  rw [Py.isascii_append, (by decide : Py.isascii (Py.lit "Bearer ") = true), Bool.true_and]

theorem Finished_append {P : Platform} {t u : Trace sig} :
    Finished P (t ++ u) ↔ Finished P t ∨ Finished P u := by
  simp only [Finished, replies_append, List.mem_append, or_and_right, exists_or]

/-- The trace of an Instagram chain whose container is recorded and finished. -/
structure ContainerReady (P : Platform) (intent pending : SocialPublicationIntent)
    (t : Trace sig) : Prop where
  names : Names intent t pending.tenantId pending.intentId pending.executionFencingToken
  recorded : Recorded t
  finished : Finished P t
  sent : ∀ q ∈ sent t, q.phase = .instagramContainerCreate ∨ q.phase = .instagramContainerStatus
  legible : ∀ x ∈ replies t, Legible P x.2
  notRejected : ∀ x ∈ replies t, ¬ RejectsAt P x.1 x.2
  replies : ∀ x ∈ replies t, x.1 = .instagramContainerCreate ∨ x.1 = .instagramContainerStatus
  moves : ∀ m ∈ moves t, m.change.status = .pending
  decrypted : decrypted t = []

theorem ContainerReady.createsNone {P : Platform} {intent pending : SocialPublicationIntent}
    {t : Trace sig} (h : ContainerReady P intent pending t) :
    ∀ x ∈ Publication.replies t, x.1.createsPost = false := by
  intro x hx
  rcases h.replies x hx with h | h <;> rw [h] <;> rfl

/-- The second half of the Instagram chain. -/
theorem Spec_publishFinishedContainer {P : Platform} {A : SocialPublicationAuthority}
    {command : SocialPublicationCommand} {intent pending : SocialPublicationIntent} {tokens : Obj}
    {accessToken accountBase containerId expectedUsername : Str} {t : Trace sig}
    (hc : Py.encodable command.content = true)
    (hat : requiredSecret tokens "access_token" = .ok accessToken)
    (hasc : Py.isascii (Py.lit "Bearer " ++ accessToken) = true)
    (h : ContainerReady P intent pending t) :
    (publishFinishedContainer P A command pending accountBase (Py.lit "Bearer " ++ accessToken)
      containerId expectedUsername).Spec (ChainPermits P intent)
      (ChainResult P (InstagramSettles P command tokens expectedUsername)) t := by
  have hsecret : ∃ accessToken, requiredSecret tokens "access_token" = .ok accessToken ∧
      Py.isascii accessToken = true := ⟨_, hat, by rwa [isascii_bearer] at hasc⟩
  have hnot {x : Phase} {reply : HttpReply} (hp : x = .instagramMediaPublish ∨
      x = .instagramMediaVerify) : (x, reply) ∉ replies t := by
    intro hmem
    rcases hp with rfl | rfl <;> rcases h.replies _ hmem with h | h <;> cases h
  -- What settling means once there is a reply to the publish request.
  have hsettles {u : Trace sig} (p : HttpReply) (vs : List HttpReply)
      (hr : replies u = (.instagramMediaPublish, p) :: vs.map (.instagramMediaVerify, ·)) :
      InstagramSettles P command tokens expectedUsername (t ++ u) ↔
        Legible P p ∧ (∀ v ∈ vs, Legible P v) ∧
        (∀ mediaId, publishedMediaId P p = .ok mediaId → Py.encodable mediaId = true) ∧
        ∀ v ∈ vs, ∀ mediaId response payload, publishedMediaId P p = .ok mediaId →
          readObject P .instagramMediaVerify v = .ok (response, payload) →
          InstagramComparable P command mediaId expectedUsername payload := by
    have hp {p' : HttpReply} : (.instagramMediaPublish, p') ∈ replies (t ++ u) ↔ p' = p := by
      simp [hr, hnot (.inl rfl)]
    have hv {v : HttpReply} : (.instagramMediaVerify, v) ∈ replies (t ++ u) ↔ v ∈ vs := by
      simp [hr, hnot (.inr rfl)]
    constructor
    · rintro ⟨-, h1, h2, h3⟩
      exact ⟨h1 _ (hp.2 rfl), fun v hmem => h1 _ (hv.2 hmem), h2 p (hp.2 rfl),
        fun v hmem => h3 p v (hp.2 rfl) (hv.2 hmem)⟩
    · rintro ⟨h1, h2, h3, h4⟩
      refine ⟨hsecret, fun x hx => ?_, fun p' hp' => ?_, fun p' v' hp' hv' => ?_⟩
      · simp only [replies_append, hr, List.mem_append, List.mem_cons, List.mem_map] at hx
        rcases hx with hx | rfl | ⟨v, hmem, rfl⟩
        · exact h.legible x hx
        · exact h1
        · exact h2 v hmem
      · rw [hp.1 hp']; exact h3
      · rw [hp.1 hp']; exact h4 v' (hv.1 hv')
  have hpublish {u : Trace sig} (hs : ∃ q ∈ sent u, q.phase = .instagramMediaPublish) :
      (∃ q ∈ sent (t ++ u), q.phase = .instagramMediaPublish) ↔ Finished P (t ++ u) := by
    obtain ⟨q, hq, hph⟩ := hs
    exact ⟨fun _ => Finished_append.2 (.inl h.finished), fun _ => ⟨q, by simp [hq], hph⟩⟩
  have hnone {u : Trace sig} (hu : ∀ x ∈ Publication.replies u, ¬ RejectsAt P x.1 x.2) :
      ∀ x ∈ Publication.replies (t ++ u), ¬ RejectsAt P x.1 x.2 := by
    intro x hx
    rcases List.mem_append.1 (replies_append t u ▸ hx) with hx | hx
    · exact h.notRejected x hx
    · exact hu x hx
  have hmoves {u : Trace sig} (hm : ∀ m ∈ moves u, m.change.status = .succeeded ∧
      InstagramSettles P command tokens expectedUsername (t ++ u) ∧
      ∀ x ∈ Publication.replies u, ¬ RejectsAt P x.1 x.2) :
      ∀ m ∈ moves (t ++ u), m.change.status = .pending ∨ m.change.status = .succeeded ∧
        InstagramSettles P command tokens expectedUsername (t ++ u) ∧
        ∀ x ∈ Publication.replies (t ++ u), ¬ RejectsAt P x.1 x.2 := by
    intro m hmem
    rcases List.mem_append.1 (moves_append t u ▸ hmem) with hmem | hmem
    · exact .inl (h.moves m hmem)
    · obtain ⟨h1, h2, h3⟩ := hm m hmem
      exact .inr ⟨h1, h2, hnone h3⟩
  have hfail {u : Trace sig} {e : Exn} (hs : ∃ q ∈ sent u, q.phase = .instagramMediaPublish)
      (hm : ∀ m ∈ moves u, m.change.status = .succeeded ∧
        InstagramSettles P command tokens expectedUsername (t ++ u) ∧
        ∀ x ∈ Publication.replies u, ¬ RejectsAt P x.1 x.2) (hd : decrypted u = [])
      (hend : Ending P (InstagramSettles P command tokens expectedUsername (t ++ u)) u e) :
      ChainResult P (InstagramSettles P command tokens expectedUsername) (t ++ u) (.error e) :=
    .ofError (hend.prepend (fun x hx => ⟨h.createsNone x hx, h.notRejected x hx⟩) Iff.rfl) (hmoves hm) (hpublish hs)
      (by simp [h.decrypted, hd])
  simp only [publishFinishedContainer, Prog.bind_eq]
  -- The publish request.
  refine Spec_request ⟨nofun, fun _ q hq => ?_, fun _ => ⟨h.recorded, h.finished⟩, nofun⟩
    (fun _ => trivial) (fun hno => by rw [hasc] at hno; cases hno) (fun _ p e he => ?_)
    (fun _ p response payload hp => ?_)
  · rcases h.sent q hq with hph | hph <;> rw [hph] <;> rfl
  · have hread := he ▸ reading P .instagramMediaPublish p
    have hnone : ∀ mediaId, publishedMediaId P p ≠ .ok mediaId := by
      intro mediaId hok
      simp only [publishedMediaId, he, bind, Except.bind] at hok
      cases hok
    refine hfail (by simp) (by simp) (by simp) (Reading.ending hread
      (by decide : Phase.instagramMediaPublish ≠ _) (by simp) (by simp) (.inr (by simp)) (fun hl => ?_)
      fun hno hC => ?_)
    · exact (hsettles p [] (by simp)).2 ⟨hl, by simp, fun _ h => absurd h (hnone _), by simp⟩
    · exact hno ((hsettles p [] (by simp)).1 hC).1
  obtain ⟨hlp, hrp, -⟩ := (hp ▸ reading P .instagramMediaPublish p).ok
  refine (Prog.Spec_ofExcept_bind _ _ _).2 ⟨fun e he => ?_, fun mediaId hid => ?_⟩
  · have hnone : ∀ mediaId, publishedMediaId P p ≠ .ok mediaId := by
      intro mediaId hok
      simp only [publishedMediaId, hp, he, bind, Except.bind] at hok
      cases hok
    refine hfail (by simp) (by simp) (by simp) (.unknown (requiredIdentifier_error he)
      ((hsettles p [] (by simp)).2 ⟨hlp, by simp, fun _ h => absurd h (hnone _), by simp⟩)
      (by simpa [RejectsAt] using hrp))
  have hmedia : publishedMediaId P p = .ok mediaId := by
    simp only [publishedMediaId, hp, bind, Except.bind]
    exact hid
  have honly {mediaId' : Str} (h' : publishedMediaId P p = .ok mediaId') : mediaId' = mediaId := by
    rw [hmedia] at h'; cases h'; rfl
  refine (Prog.Spec_ofExcept_bind _ _ _).2 ⟨fun e he => ?_, fun postPath hpath => ?_⟩
  · cases henc : Py.encodable mediaId with
    | true => rw [quote_ok henc] at he; cases he
    | false =>
      rw [quote_error henc] at he
      cases he
      refine hfail (by simp) (by simp) (by simp) (.strands rfl (fun hC => ?_)
        (by simpa [RejectsAt] using hrp))
      have := ((hsettles p [] (by simp)).1 hC).2.2.1 mediaId hmedia
      rw [henc] at this; cases this
  have henc : Py.encodable mediaId = true := by
    cases henc : Py.encodable mediaId with
    | true => rfl
    | false => rw [quote_error henc] at hpath; cases hpath
  -- The verification.
  refine Spec_request ⟨nofun, nofun, nofun, nofun⟩ (fun _ => trivial)
    (fun hno => by rw [hasc] at hno; cases hno) (fun _ v e he => ?_)
    (fun _ v verification payload' hv => ?_)
  · have hread := he ▸ reading P .instagramMediaVerify v
    rw [List.append_assoc]
    refine hfail (by simp) (by simp) (by simp) (Reading.ending hread
      (by decide : Phase.instagramMediaVerify ≠ _) (by simp) (by simpa [RejectsAt] using hrp)
      (.inl rfl) (fun hl => ?_) fun hno hC => ?_)
    · refine (hsettles p [v] (by simp)).2 ⟨hlp, by simpa using hl, fun _ h => ?_, ?_⟩
      · rw [honly h]; exact henc
      · intro v' hv' _ _ _ _ hok
        rw [List.mem_singleton.1 hv', he] at hok; cases hok
    · exact hno (((hsettles p [v] (by simp)).1 hC).2.1 v (by simp))
  obtain ⟨hlv, hrv, -⟩ := (hv ▸ reading P .instagramMediaVerify v).ok
  rw [List.append_assoc]
  generalize hu : exchange _ p ++ exchange _ v = u
  have hreplies : replies u = [(.instagramMediaPublish, p), (.instagramMediaVerify, v)] := by
    simp [← hu]
  have hC {w : Trace sig} (hw : replies w = []) :
      InstagramSettles P command tokens expectedUsername (t ++ (u ++ w)) ↔
        InstagramComparable P command mediaId expectedUsername payload' := by
    rw [hsettles p [v] (by simp [hreplies, hw])]
    constructor
    · rintro ⟨-, -, -, h4⟩
      exact h4 v (by simp) _ _ _ hmedia hv
    · intro hcomp
      refine ⟨hlp, by simpa using hlv, fun _ h => by rw [honly h]; exact henc, ?_⟩
      intro v' hv' id r pl hid' hok
      rw [List.mem_singleton.1 hv', hv] at hok; cases hok
      rw [honly hid']
      exact hcomp
  have hrej {w : Trace sig} (hw : replies w = []) :
      ∀ x ∈ replies (u ++ w), ¬ RejectsAt P x.1 x.2 := by
    simpa [hreplies, hw, RejectsAt] using ⟨hrp, hrv⟩
  have hs {w : Trace sig} : ∃ q ∈ sent (u ++ w), q.phase = .instagramMediaPublish := by
    simp [← hu]
  have hum : moves u = [] := by simp [← hu]
  have hud : decrypted u = [] := by simp [← hu]
  have hverdict := @verifyInstagramMedia_verdict P command mediaId expectedUsername verification
    payload' hc
  refine (Prog.Spec_ofExcept_bind _ _ _).2 ⟨fun e he => ?_, fun verified hok => ?_⟩
  · rw [he] at hverdict
    rw [← List.append_nil u]
    refine hfail hs (by simp [hum]) (by simp [hud]) ?_
    cases hverdict with
    | unknown he h => exact .unknown he ((hC rfl).2 h) (hrej rfl)
    | strands he h => exact .strands he (fun h' => h ((hC rfl).1 h')) (hrej rfl)
  have hcomp : InstagramComparable P command mediaId expectedUsername payload' := by
    rw [hok] at hverdict
    cases hverdict with
    | ok h => exact h
  refine Spec_completeOrUnknown (h.names.mono u) (fun w hws hwr hwd hwm => ?_)
    fun w a hws hwr hwd hwm hne => ?_
  · rw [List.append_assoc]
    exact hfail hs (fun m hm => ⟨hwm m (by simpa [hum] using hm), (hC hwr).2 hcomp, hrej hwr⟩)
      (by simp [hud, hwd])
      (.unknown rfl ((hC hwr).2 hcomp) (hrej hwr))
  · obtain ⟨m, hmem⟩ := List.exists_mem_of_ne_nil _ hne
    rw [List.append_assoc]
    exact .ofOk ((hC hwr).2 hcomp) (hnone (hrej hwr))
      (hmoves fun m hm => ⟨hwm m (by simpa [hum] using hm), (hC hwr).2 hcomp, hrej hwr⟩)
      ⟨m, by simp [hmem], hwm m hmem⟩ (hpublish hs) (by simp [h.decrypted, hud, hwd])

/-- The Instagram chain, in every environment. -/
theorem Spec_publishInstagram {P : Platform} {A : SocialPublicationAuthority}
    {command : SocialPublicationCommand} {intent : SocialPublicationIntent} {tokens : Obj}
    {expectedUsername : Str} (hc : Py.encodable command.content = true)
    (ha : Py.encodable command.accountId = true)
    (hmedia : command.mediaUrl.isSome = true ∧ command.mediaHash.isSome = true) :
    (publishInstagram P A command intent tokens expectedUsername).Spec (ChainPermits P intent)
      (ChainResult P (InstagramSettles P command tokens expectedUsername)) [] := by
  obtain ⟨mediaUrl, hurl⟩ := Option.isSome_iff_exists.1 hmedia.1
  obtain ⟨mediaHash, hhash⟩ := Option.isSome_iff_exists.1 hmedia.2
  simp only [publishInstagram, hurl, hhash, Prog.bind_eq]
  -- The secret.
  refine (Prog.Spec_ofExcept_bind _ _ _).2 ⟨fun e h => ?_, fun accessToken hat => ?_⟩
  · refine .ofQuiet .nil (requiredSecret_error h) ?_
    rintro ⟨⟨_, h', _⟩, _, _, _⟩
    rw [h] at h'; cases h'
  refine (Prog.Spec_ofExcept_bind _ _ _).2 ⟨fun e h => ?_, fun account _ => ?_⟩
  · rw [quote_ok ha] at h; cases h
  -- The container.
  refine Spec_request ⟨fun _ => rfl, by rintro ⟨⟩, by rintro ⟨⟩, by rintro ⟨⟩⟩ (fun _ => trivial)
    (fun h => ?_) (fun hasc container e he => ?_)
    (fun hasc container response payload hcontainer => ?_)
  · refine .ofQuiet .nil rfl ?_
    rintro ⟨⟨_, h1, h2⟩, _, _, _⟩
    rw [hat] at h1; cases h1
    rw [isascii_bearer, h2] at h; cases h
  · have hsecret : ∃ accessToken, requiredSecret tokens "access_token" = .ok accessToken ∧
        Py.isascii accessToken = true := ⟨_, hat, by rwa [isascii_bearer] at hasc⟩
    have hread := he ▸ reading P .instagramContainerCreate container
    refine .ofError ?_ (by simp) ⟨by simp, fun h =>
      absurd h (not_finished_of_replies (by simp))⟩ (by simp)
    refine Reading.ending hread (by decide : Phase.instagramContainerCreate ≠ _)
      (by simp) (by simp) (.inr (by simp))
      (fun hl => ⟨hsecret, by simpa using hl, by simp, by simp⟩) fun hno h => ?_
    exact hno (h.legible (.instagramContainerCreate, container) (by simp))
  have hsecret : ∃ accessToken, requiredSecret tokens "access_token" = .ok accessToken ∧
      Py.isascii accessToken = true := ⟨_, hat, by rwa [isascii_bearer] at hasc⟩
  obtain ⟨hl, hr, -⟩ := (hcontainer ▸ reading P .instagramContainerCreate container).ok
  rw [List.nil_append]
  generalize ht : exchange _ container = t
  have hreplies : replies t = [(.instagramContainerCreate, container)] := by rw [← ht]; rfl
  have hphase : ∀ q ∈ sent t, q.phase = .instagramContainerCreate := by simp [← ht]
  have hmoves : moves t = [] := by simp [← ht]
  have hdecrypted : decrypted t = [] := by simp [← ht]
  have hfin : ¬ Finished P t := not_finished_of_replies (by simp [hreplies])
  -- An end before media is published.
  have hearly (u : Trace sig) {e : Exn} (hs : ∀ q ∈ sent u, q.phase ≠ .instagramMediaPublish)
      (hx : ∀ x ∈ replies u, x.1 = .instagramContainerStatus)
      (hm : ∀ m ∈ moves u, m.change.status = .pending) (hd : decrypted u = [])
      (hf : ¬ Finished P u) (hend : Ending P (∀ x ∈ replies u, Legible P x.2) u e) :
      ChainResult P (InstagramSettles P command tokens expectedUsername) (t ++ u) (.error e) := by
    have hC : InstagramSettles P command tokens expectedUsername (t ++ u) ↔
        ∀ x ∈ replies u, Legible P x.2 := by
      refine ⟨fun h x hx => h.legible x (by simp [hx]), fun h => ⟨hsecret, ?_, ?_, ?_⟩⟩
      · intro x hx'
        rcases List.mem_append.1 (replies_append t u ▸ hx') with hx' | hx'
        · rw [hreplies, List.mem_singleton] at hx'
          exact hx' ▸ hl
        · exact h x hx'
      · intro p hp
        simp only [replies_append, hreplies, List.mem_append, List.mem_singleton, Prod.mk.injEq,
          reduceCtorEq, false_and, false_or] at hp
        cases hx _ hp
      · intro p v hp
        simp only [replies_append, hreplies, List.mem_append, List.mem_singleton, Prod.mk.injEq,
          reduceCtorEq, false_and, false_or] at hp
        cases hx _ hp
    refine .ofError (hend.prepend (by simp [hreplies, RejectsAt, hr, Phase.createsPost]) hC) ?_
      ⟨?_, fun h => absurd h (by simp [Finished_append, hfin, hf])⟩ (by simp [hdecrypted, hd])
    · intro m hmem
      rw [moves_append, hmoves, List.nil_append] at hmem
      exact .inl (hm m hmem)
    · rintro ⟨q, hq, hph⟩
      rcases List.mem_append.1 (sent_append t u ▸ hq) with hq | hq
      · rw [hphase q hq] at hph; cases hph
      · exact absurd hph (hs q hq)
  have hunknown (u : Trace sig) {e : Exn} (hs : sent u = []) (hx : replies u = [])
      (hm : ∀ m ∈ moves u, m.change.status = .pending) (hd : decrypted u = [])
      (he : e.isUnknown = true) :
      ChainResult P (InstagramSettles P command tokens expectedUsername) (t ++ u) (.error e) :=
    hearly u (by simp [hs]) (by simp [hx]) hm hd (not_finished_of_replies (by simp [hx]))
      (.unknown he (by simp [hx]) (by simp [hx]))
  refine (Prog.Spec_ofExcept_bind _ _ _).2 ⟨fun e h => ?_, fun containerId hid => ?_⟩
  · simpa using hunknown [] rfl rfl (by simp [moves]) rfl (requiredIdentifier_error h)
  -- The container is recorded.
  refine Spec_recordContainer (fun u hs hx hd hm => hunknown u hs hx hm hd rfl)
    fun u pending hs hx hd hm hrecorded hident hnames => ?_
  -- The poll.
  have hpoll : ∀ path, (pollContainer P (Py.lit "Bearer " ++ accessToken)
      (A.instagramGraphBase ++ Py.lit "/" ++ path) A.instagramContainerPollAttempts).Spec
      (ChainPermits P intent) (fun v r => ∃ s, v = t ++ u ++ s ∧ PollTrace P s r) (t ++ u) :=
    fun path => ((Spec_pollContainer hasc _).shift (t ++ u)).mono
      (fun _ _ h => h.elim fun _ h => h.2.chain) fun _ _ h => h
  rw [waitForInstagramContainer, quote_ok (Py.encodable_of_isascii (isascii_of_isIdentifier hident))]
  simp only [Prog.bind_eq, Prog.ofExcept_ok, Prog.ret_bind]
  refine Prog.Spec.bind_of (hpoll _) ?_ ?_
  · rintro _ _ ⟨s, rfl, hs'⟩
    obtain ⟨hf, hlegible, hrejects⟩ := hs'.finished _ rfl
    refine Spec_publishFinishedContainer hc hat hasc ?_
    refine ⟨hnames.mono s, ?_, Finished_append.2 (.inr hf), ?_, ?_, ?_, ?_, ?_, ?_⟩
    · obtain ⟨m, hm, h⟩ := hrecorded
      exact ⟨m, by simp [hm], h⟩
    · intro q hq
      simp only [sent_append, hs, List.append_nil, List.mem_append] at hq
      exact hq.imp (hphase q) (hs'.sent q)
    · intro x hx'
      simp only [replies_append, hx, hreplies, List.append_nil, List.mem_append,
        List.mem_singleton] at hx'
      rcases hx' with rfl | hx'
      · exact hl
      · exact hlegible x hx'
    · intro x hx'
      simp only [replies_append, hx, hreplies, List.append_nil, List.mem_append,
        List.mem_singleton] at hx'
      rcases hx' with rfl | hx'
      · simp [RejectsAt, hr]
      · exact hrejects x hx'
    · intro x hx'
      simp only [replies_append, hx, hreplies, List.append_nil, List.mem_append,
        List.mem_singleton] at hx'
      exact hx'.imp (by rintro rfl; rfl) (hs'.replies x)
    · intro m hm'
      simp only [moves_append, hmoves, hs'.moves, List.append_nil, List.nil_append] at hm'
      exact hm m hm'
    · simp [hdecrypted, hd, hs'.decrypted]
  · rintro _ e ⟨s, rfl, h⟩
    obtain ⟨hf, hend⟩ := h.ended e rfl
    rw [List.append_assoc]
    refine hearly (u ++ s) ?_ ?_ ?_ (by simp [hd, h.decrypted]) ?_ ?_
    · intro q hq
      rw [sent_append, hs, List.nil_append] at hq
      rw [h.sent q hq]
      decide
    · simpa [hx] using h.replies
    · simpa [h.moves] using hm
    · rw [Finished_append]
      exact fun h' => h'.elim (not_finished_of_replies (by simp [hx])) hf
    · exact hend.prepend (by simp [hx]) (by simp [hx])

end Publication

end AgencyRuntime
