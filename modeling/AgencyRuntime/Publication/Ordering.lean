import AgencyRuntime.Publication.AtMostOnce

/-!
# The order of an Instagram publication

What `_publish_instagram` has done when it sends `media_publish`, and what it has seen when it
records `succeeded`. The statements name the container and the post, so they say more of the chain
than `ChainPermits` does: the container that is published is the one the store accepted and the one
that was polled.
-/

namespace AgencyRuntime

open Effects Tables

namespace Publication

/-- The status polls of a trace. -/
def polls (t : Trace sig) : List Request :=
  (sent t).filter (·.phase = .instagramContainerStatus)

@[simp] theorem polls_append (t u : Trace sig) : polls (t ++ u) = polls t ++ polls u := by
  simp [polls]

/-- The URL of an object of the Graph API. -/
def IsGraphUrl (A : SocialPublicationAuthority) (id url : Str) : Prop :=
  ∃ path, Py.quote "" id = .ok path ∧ url = A.instagramGraphBase ++ Py.lit "/" ++ path

/-- The store accepted the container for the intent. -/
def RecordedFor (intent : SocialPublicationIntent) (containerId : Str) (t : Trace sig) : Prop :=
  ∃ now, called (.transition intent.tenantId intent.intentId intent.executionFencingToken
    { status := .pending, providerContainerId := some containerId } now) (.ok true) ∈ t

/-- A status poll for the container reported that it is finished. -/
def FinishedFor (P : Platform) (A : SocialPublicationAuthority) (containerId : Str)
    (t : Trace sig) : Prop :=
  ∃ r reply, asked (.receive r) reply ∈ t ∧ r.phase = .instagramContainerStatus ∧
    IsGraphUrl A containerId r.url ∧ containerStatus P reply = some (Py.lit "FINISHED")

/-- The payload shows the post: its id, the digest of its caption, an image and the account. -/
structure ShowsPost (P : Platform) (command : SocialPublicationCommand) (mediaId username : Str)
    (payload : Obj) : Prop where
  id : requiredIdentifier payload "id" = .ok mediaId
  caption : ∃ caption, Py.get payload "caption" = .str caption ∧
    Py.encodable caption = true ∧ P.digest caption = P.digest command.content
  image : Py.get payload "media_type" = .str (Py.lit "IMAGE")
  account : Py.get payload "username" = .str username

/-- The post was published under this id, and the answer to its verification shows it. -/
def VerifiedPost (P : Platform) (A : SocialPublicationAuthority)
    (command : SocialPublicationCommand) (username mediaId : Str) (t : Trace sig) : Prop :=
  (∃ published, (.instagramMediaPublish, published) ∈ replies t ∧
    publishedMediaId P published = .ok mediaId) ∧
  ∃ r reply response payload, asked (.receive r) reply ∈ t ∧ r.phase = .instagramMediaVerify ∧
    IsGraphUrl A mediaId r.url ∧
    readObject P .instagramMediaVerify reply = .ok (response, payload) ∧
    ShowsPost P command mediaId username payload

section
variable {P : Platform} {A : SocialPublicationAuthority} {command : SocialPublicationCommand}
variable {intent : SocialPublicationIntent} {containerId username mediaId : Str} {t u : Trace sig}

theorem RecordedFor.mono (h : RecordedFor intent containerId t) (htu : t ⊆ u) :
    RecordedFor intent containerId u := by
  obtain ⟨now, h⟩ := h
  exact ⟨now, htu h⟩

theorem FinishedFor.mono (h : FinishedFor P A containerId t) (htu : t ⊆ u) :
    FinishedFor P A containerId u := by
  obtain ⟨r, reply, h, hr⟩ := h
  exact ⟨r, reply, htu h, hr⟩

theorem replies_mono (htu : t ⊆ u) : replies t ⊆ replies u := by
  intro x hx
  obtain ⟨e, he, hx⟩ := List.mem_filterMap.1 hx
  exact List.mem_filterMap.2 ⟨e, htu he, hx⟩

theorem connections_mono (htu : t ⊆ u) : connections t ⊆ connections u := by
  intro x hx
  obtain ⟨e, he, hx⟩ := List.mem_filterMap.1 hx
  exact List.mem_filterMap.2 ⟨e, htu he, hx⟩

theorem reservations_mono (htu : t ⊆ u) : reservations t ⊆ reservations u := by
  intro x hx
  obtain ⟨e, he, hx⟩ := List.mem_filterMap.1 hx
  exact List.mem_filterMap.2 ⟨e, htu he, hx⟩

theorem VerifiedPost.mono (h : VerifiedPost P A command username mediaId t) (htu : t ⊆ u) :
    VerifiedPost P A command username mediaId u := by
  obtain ⟨⟨published, hp, hid⟩, r, reply, response, payload, hmem, hr⟩ := h
  exact ⟨⟨published, replies_mono htu hp, hid⟩, r, reply, response, payload, htu hmem, hr⟩

theorem receive_mem_exchange (r : Request) (reply : HttpReply) :
    asked (.receive r) reply ∈ exchange r reply :=
  List.mem_cons_of_mem _ (List.mem_singleton_self _)

/-- What the verification has compared when it succeeds. -/
theorem verifyInstagramMedia_ok {response : Response} {payload receipt : Obj}
    (h : verifyInstagramMedia P command mediaId username response payload = .ok receipt) :
    ShowsPost P command mediaId username payload := by
  obtain ⟨observedId, hid, h⟩ := exceptBind_ok h
  obtain ⟨_, hsame, h⟩ := exceptBind_ok h
  obtain ⟨caption, hcaption, h⟩ := exceptBind_ok h
  obtain ⟨captionDigest, hcd, h⟩ := exceptBind_ok h
  obtain ⟨contentDigest, hd, h⟩ := exceptBind_ok h
  obtain ⟨_, hdigest, h⟩ := exceptBind_ok h
  obtain ⟨mediaType, htype, h⟩ := exceptBind_ok h
  obtain ⟨_, himage, h⟩ := exceptBind_ok h
  obtain ⟨name, hname, h⟩ := exceptBind_ok h
  obtain ⟨same, hcompare, h⟩ := exceptBind_ok h
  obtain ⟨_, haccount, -⟩ := exceptBind_ok h
  have hsame := check_ok.1 hsame
  have hdigest := check_ok.1 hdigest
  have himage := check_ok.1 himage
  have haccount := check_ok.1 haccount
  obtain ⟨bytes, henc, -⟩ := exceptBind_ok hcd
  refine ⟨hsame ▸ hid, ⟨caption, requiredStr_ok.1 hcaption, (Py.encode_ok.1 henc).1, ?_⟩, ?_, ?_⟩
  · rw [hcd, hd, hdigest]
  · rw [requiredStr_ok.1 htype, himage]
  · have hequal := (Py.compareDigest_ok.1 hcompare).2
    rw [haccount, beq_iff_eq] at hequal
    rw [requiredStr_ok.1 hname, hequal]

/-- What `execute` may do on Instagram after a trace: it polls within the configured attempts, sends
`media_publish` for a container that the store accepted and a poll found finished, and records a
success for a post it has verified. -/
def OrderPermits (P : Platform) (A : SocialPublicationAuthority)
    (command : SocialPublicationCommand) (t : Trace sig) : sig.Op → Prop
  | .inl (.send r) =>
    (r.phase = .instagramContainerStatus →
      (polls t).length < A.instagramContainerPollAttempts) ∧
    (r.phase = .instagramMediaPublish → ∃ intent containerId, Granted t intent ∧
      r.payload = .params [("creation_id", containerId)] ∧ RecordedFor intent containerId t ∧
      FinishedFor P A containerId t)
  | .inr (.transition _ _ _ change _) => change.status = .succeeded →
    ∃ connection mediaId, some connection ∈ connections t ∧
      change.providerPostId = some mediaId ∧
      VerifiedPost P A command connection.accountUsername mediaId t
  | _ => True

/-- A transition within `execute`. -/
theorem Spec_orderTransition {tenantId intentId : Str} {fence : Int} {change : Change}
    (hs : change.status = .succeeded → ∃ connection mediaId, some connection ∈ connections t ∧
      change.providerPostId = some mediaId ∧
      VerifiedPost P A command connection.accountUsername mediaId t) :
    (transition tenantId intentId fence change).Spec (OrderPermits P A command)
      (fun u r => ∃ s, u = t ++ s ∧ TransitionTrace tenantId intentId fence change s r) t := by
  refine ((Spec_transition tenantId intentId fence change).shift t).mono ?_ fun _ _ h => h
  rintro _ o ⟨s, rfl, h⟩
  rcases o with (_ | _ | _ | _ | _ | _ | _ | _) | (_ | _ | _ | _ | _)
  case inr.transition =>
    obtain ⟨-, -, -, rfl⟩ := h
    intro hstatus
    obtain ⟨connection, mediaId, hconn, hid, hverified⟩ := hs hstatus
    have hts : t ⊆ t ++ s := List.subset_append_left t s
    exact ⟨connection, mediaId, connections_mono hts hconn, hid, hverified.mono hts⟩
  case inl.clock | inr.get => trivial
  all_goals exact absurd h not_false

/-- A mark within `execute`. -/
theorem Spec_orderMark {change : Change} (hs : change.status ≠ .succeeded) :
    (swallowStateError (transition intent.tenantId intent.intentId intent.executionFencingToken
      change)).Spec (OrderPermits P A command) (fun _ _ => True) t := by
  rw [swallowStateError, Prog.Spec_tryCatch, Prog.bind_eq, Prog.Spec_bind]
  refine (Spec_orderTransition fun h => absurd h hs).mono (fun _ _ h => h) fun u r _ => ?_
  cases r with
  | ok a => trivial
  | error e =>
    simp only [Prog.bindPost_error, Prog.catchPost_error]
    split <;> trivial

/-- How `execute` records the end of a chain. -/
theorem Spec_orderOutcome (e : Exn) :
    (settleOutcome intent e).Spec (OrderPermits P A command) (fun _ _ => True) t := by
  have hmark (change : Change) (e' : Exn) (hs : change.status ≠ .succeeded) :
      ((swallowStateError (transition intent.tenantId intent.intentId intent.executionFencingToken
        change)).bind fun _ => (.raise e' : Program SocialPublicationIntent)).Spec
        (OrderPermits P A command) (fun _ _ => True) t :=
    Prog.Spec.bind_of (Spec_orderMark hs) (fun _ _ _ => trivial) fun _ _ _ => trivial
  unfold settleOutcome
  split
  · exact hmark _ _ nofun
  · exact hmark _ _ nofun
  · exact hmark _ _ nofun
  · trivial

/-- The status poll: the induction is on the attempts that are left, and what was polled before
makes up the others. -/
theorem Spec_orderPoll {authorization url : Str} (hurl : IsGraphUrl A containerId url)
    (attempts : Nat) (hleft : (polls t).length + attempts ≤ A.instagramContainerPollAttempts) :
    (pollContainer P authorization url attempts).Spec (OrderPermits P A command)
      (fun u r => ∃ s, u = t ++ s ∧ (r = .ok () → FinishedFor P A containerId u)) t := by
  induction attempts generalizing t with
  | zero => exact ⟨[], by simp, by rintro ⟨⟩⟩
  | succ attempts ih =>
    have herror (u : Trace sig) (e : Exn) :
        ∃ s, t ++ u = t ++ s ∧ ((.error e : Except Exn Unit) = .ok () →
          FinishedFor P A containerId (t ++ u)) := ⟨u, rfl, by rintro ⟨⟩⟩
    have herror' (e : Exn) : ∃ s, t = t ++ s ∧ ((.error e : Except Exn Unit) = .ok () →
        FinishedFor P A containerId t) := ⟨[], by simp, by rintro ⟨⟩⟩
    rw [pollContainer]
    simp only [Prog.bind_eq, Prog.pure_eq]
    refine Spec_request ⟨fun _ => by omega, by rintro ⟨⟩⟩ (fun _ => trivial) (fun _ => herror' _)
      (fun _ reply e _ => herror _ e) (fun _ reply response payload hread => ?_)
    refine (Prog.Spec_ofExcept_bind _ _ _).2 ⟨fun e _ => herror _ e, fun rawStatus hraw => ?_⟩
    rw [Prog.Spec_bind, Prog.Spec_raiseIf]
    refine ⟨fun _ => herror _ _, fun _ => ?_⟩
    rw [Prog.bindPost_ok]
    split
    · next hfinished =>
      refine ⟨_, rfl, fun _ => ?_⟩
      refine ⟨_, reply, List.mem_append_right _ (receive_mem_exchange _ reply), rfl, hurl, ?_⟩
      rw [containerStatus_of_read hread, requiredStr_ok.1 hraw]
      exact congrArg some hfinished
    · rw [Prog.Spec_bind, Prog.Spec_raiseIf]
      refine ⟨fun _ => herror _ _, fun _ => ?_⟩
      rw [Prog.bindPost_ok, Prog.Spec_bind, Prog.Spec_raiseIf]
      refine ⟨fun _ => herror _ _, fun _ => ?_⟩
      rw [Prog.bindPost_ok]
      -- The next round starts after this exchange and the pause, if there is one.
      have hnext (pause : Trace sig) (hpause : sent pause = []) :
          (pollContainer P authorization url attempts).Spec (OrderPermits P A command)
            (fun u r => ∃ s, u = t ++ s ∧ (r = .ok () → FinishedFor P A containerId u))
            (t ++ exchange ⟨.instagramContainerStatus, "GET", url, authorization,
              .params [("fields", Py.lit "status_code,status")]⟩ reply ++ pause) := by
        refine (ih ?_).mono (fun _ _ h => h) ?_
        · have hpolls : polls pause = [] := by rw [polls, hpause]; rfl
          simp only [polls_append, hpolls, List.append_nil, List.length_append]
          have hone : (polls (exchange ⟨.instagramContainerStatus, "GET", url, authorization,
            .params [("fields", Py.lit "status_code,status")]⟩ reply)).length = 1 := rfl
          omega
        · rintro _ r ⟨s, rfl, h⟩
          exact ⟨_, by rw [List.append_assoc, List.append_assoc], h⟩
      split
      · exact ⟨trivial, fun _ => hnext [asked .sleep ()] rfl⟩
      · simpa using hnext [] rfl

/-- The second half of the chain, when the container is recorded and finished. -/
theorem Spec_orderFinished {pending : SocialPublicationIntent} {connection : SocialConnection}
    {accountBase authorization : Str} (hgranted : Granted t intent)
    (hrecorded : RecordedFor intent containerId t) (hfinished : FinishedFor P A containerId t)
    (hconn : some connection ∈ connections t) :
    (publishFinishedContainer P A command pending accountBase authorization containerId
      connection.accountUsername).Spec (OrderPermits P A command) (fun _ _ => True) t := by
  simp only [publishFinishedContainer, Prog.bind_eq]
  refine Spec_request ⟨by rintro ⟨⟩, fun _ => ⟨intent, containerId, hgranted, rfl, hrecorded, hfinished⟩⟩
    (fun _ => trivial) (fun _ => trivial) (fun _ _ _ _ => trivial)
    (fun _ published response payload hpublished => ?_)
  refine (Prog.Spec_ofExcept_bind _ _ _).2 ⟨fun _ _ => trivial, fun mediaId hid => ?_⟩
  refine (Prog.Spec_ofExcept_bind _ _ _).2 ⟨fun _ _ => trivial, fun path hpath => ?_⟩
  refine Spec_request ⟨by rintro ⟨⟩, by rintro ⟨⟩⟩ (fun _ => trivial) (fun _ => trivial)
    (fun _ _ _ _ => trivial) (fun _ verified verification payload' hverified => ?_)
  refine (Prog.Spec_ofExcept_bind _ _ _).2 ⟨fun _ _ => trivial, fun receipt hreceipt => ?_⟩
  refine Prog.Spec.tryCatch_of (Spec_orderTransition fun _ => ?_) (fun _ _ _ => trivial)
    fun _ _ _ => trivial
  have hmedia : publishedMediaId P published = .ok mediaId := by
    simp only [publishedMediaId, hpublished, bind, Except.bind]
    exact hid
  refine ⟨connection, mediaId, ?_, rfl, ⟨published, by simp, hmedia⟩, _, verified, verification,
    payload', List.mem_append_right _ (receive_mem_exchange _ verified), rfl, ⟨path, hpath, rfl⟩,
    hverified, verifyInstagramMedia_ok hreceipt⟩
  rw [connections_append, connections_append]
  exact List.mem_append_left _ (List.mem_append_left _ hconn)

/-- The Instagram chain. -/
theorem Spec_orderInstagram {connection : SocialConnection} {tokens : Obj}
    (hgranted : Granted t intent) (hpolls : polls t = [])
    (hconn : some connection ∈ connections t) :
    (publishInstagram P A command intent tokens connection.accountUsername).Spec
      (OrderPermits P A command) (fun _ _ => True) t := by
  simp only [publishInstagram, Prog.bind_eq]
  refine (Prog.Spec_ofExcept_bind _ _ _).2 ⟨fun _ _ => trivial, fun accessToken _ => ?_⟩
  split
  · refine (Prog.Spec_ofExcept_bind _ _ _).2 ⟨fun _ _ => trivial, fun account _ => ?_⟩
    refine Spec_request ⟨by rintro ⟨⟩, by rintro ⟨⟩⟩ (fun _ => trivial) (fun _ => trivial)
      (fun _ _ _ _ => trivial) (fun _ container response payload _ => ?_)
    refine (Prog.Spec_ofExcept_bind _ _ _).2 ⟨fun _ _ => trivial, fun containerId _ => ?_⟩
    generalize hu : t ++ exchange _ container = u
    have htu : t ⊆ u := by rw [← hu]; exact List.subset_append_left _ _
    have hpollsu : polls u = [] := by rw [← hu, polls_append, hpolls]; rfl
    -- The container is recorded.
    rw [Prog.Spec_bind]
    refine Prog.Spec.tryCatch_of (Spec_orderTransition (by rintro ⟨⟩)) ?_ fun _ _ _ => trivial
    rintro _ pending ⟨s, rfl, hs⟩
    have hrecorded : RecordedFor intent containerId (u ++ s) := by
      cases hs with
      | @done now => exact ⟨now, List.mem_append_right u (by simp)⟩
    have hpollss : polls (u ++ s) = [] := by
      have hsent : polls s = [] := by rw [polls, hs.adds.1]; rfl
      rw [polls_append, hpollsu, hsent]
      rfl
    rw [Prog.bindPost_ok, waitForInstagramContainer]
    -- The poll.
    simp only [Prog.bind_eq]
    rw [Prog.Spec_bind]
    refine (Prog.Spec_ofExcept_bind _ _ _).2 ⟨fun _ _ => trivial, fun path hpath => ?_⟩
    refine (Spec_orderPoll ⟨path, hpath, rfl⟩ _ ?_).mono (fun _ _ h => h) ?_
    · rw [hpollss, List.length_nil]
      omega
    rintro _ r ⟨v, rfl, hfinished⟩
    cases r with
    | error e => trivial
    | ok _ =>
      have hsub : u ++ s ⊆ u ++ s ++ v := List.subset_append_left _ _
      have hall : t ⊆ u ++ s ++ v := fun x hx => hsub (List.subset_append_left u s (htu hx))
      exact Spec_orderFinished (reservations_mono hall hgranted) (hrecorded.mono hsub)
        (hfinished rfl) (connections_mono hall hconn)
  · trivial

/-- What `execute` does for a reserved intent. -/
theorem Spec_orderReserved {connection : SocialConnection}
    (hchannel : command.channelId ≠ Py.lit "x") (hgranted : Granted t intent)
    (hpolls : polls t = []) (hconn : some connection ∈ connections t) :
    (executeReserved P A command connection intent).Spec (OrderPermits P A command)
      (fun _ _ => True) t := by
  simp only [executeReserved, Prog.bind_eq]
  refine (Prog.Spec_ask_bind _ _).2 ⟨trivial, fun tokens => ?_⟩
  have htu := List.subset_append_left t [asked (.decrypt connection.encryptedTokens
    (connectionAad command.tenantId command.channelId)) tokens]
  cases tokens with
  | none => exact Prog.Spec.bind_of (Spec_orderMark (by rintro ⟨⟩)) (fun _ _ _ => trivial) fun _ _ _ => trivial
  | some tokens =>
    simp only [publish, if_neg hchannel]
    rw [Prog.Spec_bind]
    refine Prog.Spec.tryCatch_of (Spec_orderInstagram (reservations_mono htu hgranted) ?_
      (connections_mono htu hconn)) (fun _ _ _ => trivial) fun u e _ => ?_
    · rw [polls_append, hpolls]
      rfl
    · refine (Spec_orderOutcome e).mono (fun _ _ h => h) fun _ r _ => ?_
      cases r <;> trivial

/-- What `execute` may do before the reservation is in order. -/
theorem StartPermits.order {o : sig.Op} (h : StartPermits P command o) :
    OrderPermits P A command t o := by
  rcases o with (_ | _ | _ | _ | _ | _ | _ | _) | (_ | _ | _ | _ | _)
  case inl.send | inr.transition => exact absurd h not_false
  all_goals trivial

/-- `execute` on Instagram, in every environment. -/
theorem Spec_orderExecute (hchannel : command.channelId ≠ Py.lit "x") :
    (execute P A command).Spec (OrderPermits P A command.normalized) (fun _ _ => True) [] := by
  simp only [execute, Prog.bind_eq]
  rw [Prog.Spec_bind, Prog.Spec_raiseIf]
  refine ⟨fun _ => trivial, fun _ => ?_⟩
  rw [Prog.bindPost_ok]
  refine (Prog.Spec_ofExcept_bind _ _ _).2 ⟨fun _ _ => trivial, fun validated hv => ?_⟩
  obtain ⟨rfl, -⟩ := validateCommand_ok hv
  refine Prog.Spec.bind_of (Spec_authorizedConnection.mono (fun _ _ h => h.2.order)
    fun _ _ h => h) ?_ fun _ _ _ => trivial
  rintro t connection ⟨ht, hconn⟩
  obtain ⟨hconn, -⟩ := hconn connection rfl
  refine Prog.Spec.bind_of ((Spec_buildIntent.shift t).mono ?_ fun _ _ h => h) ?_
    fun _ _ _ => trivial
  · rintro _ o ⟨s, rfl, -, h⟩
    exact h.order
  · rintro _ intent ⟨s, rfl, ⟨hs, -⟩, -⟩
    have hbefore := ht.append hs
    simp only [reserve, Prog.bind_eq]
    rw [Prog.Spec_bind]
    refine (Prog.Spec_ofExcept_bind _ _ _).2 ⟨fun _ _ => trivial, fun _ _ => ?_⟩
    refine (Prog.Spec_call_bind _ _).2 ⟨trivial, fun answer => ?_⟩
    refine (Prog.Spec_ofExcept_bind _ _ _).2 ⟨fun _ _ => trivial, fun reserved hr => ?_⟩
    subst hr
    cases reserved with
    | existing record =>
      by_cases hst : record.status = .succeeded
      · simp [hst]
      · simp only [hst, decide_false]
        trivial
    | inserted =>
      refine Spec_orderReserved hchannel ?_ ?_ ?_
      · simp [Granted, reservations, reservationOf]
      · rw [polls_append, polls, hbefore.sent]
        rfl
      · simp [hconn]

/-- A trace in which every request was in order polls within the configured attempts. -/
theorem polls_le (h : ∀ a e b, t = a ++ e :: b → OrderPermits P A command a e.op) :
    (polls t).length ≤ A.instagramContainerPollAttempts := by
  induction t using List.reverseRecOn with
  | nil => exact Nat.zero_le _
  | append_singleton u e ih =>
    have hu := ih fun a x b heq => h a x (b ++ [e]) (by simp [heq])
    have he := h u e [] rfl
    rw [polls_append, List.length_append]
    rcases e with ⟨_ | _, _⟩
    case append_singleton.inl o _ =>
      cases o with
      | send r =>
        by_cases hr : r.phase = .instagramContainerStatus
        · have hlt := he.1 hr
          have hone : (polls [(⟨.inl (.send r), ()⟩ : Event sig)]).length = 1 := by
            simp [polls, sent, sentOf, hr]
          exact hone ▸ hlt
        · have hnone : (polls [(⟨.inl (.send r), ()⟩ : Event sig)]).length = 0 := by
            simp [polls, sent, sentOf, hr]
          exact hnone ▸ hu
      | _ => exact hu
    case append_singleton.inr => exact hu

end

/-! ## In a run -/

/-- SHA-256 does not collide between the content and a caption that a verification read back. -/
def NoCaptionCollision (P : Platform) (content : Str) (t : Trace sig) : Prop :=
  ∀ reply response payload caption, (.instagramMediaVerify, reply) ∈ replies t →
    readObject P .instagramMediaVerify reply = .ok (response, payload) →
    Py.get payload "caption" = .str caption → P.digest caption = P.digest content →
      caption = content

/-- The answer to the verification carries the published id, exactly the content, an image and the
account. -/
def VerifiedExactly (P : Platform) (A : SocialPublicationAuthority) (content username mediaId : Str)
    (t : Trace sig) : Prop :=
  (∃ published, (.instagramMediaPublish, published) ∈ replies t ∧
    publishedMediaId P published = .ok mediaId) ∧
  ∃ r reply response payload, asked (.receive r) reply ∈ t ∧ r.phase = .instagramMediaVerify ∧
    IsGraphUrl A mediaId r.url ∧
    readObject P .instagramMediaVerify reply = .ok (response, payload) ∧
    requiredIdentifier payload "id" = .ok mediaId ∧ Py.get payload "caption" = .str content ∧
    Py.get payload "media_type" = .str (Py.lit "IMAGE") ∧
    Py.get payload "username" = .str username

/-- Thread `i` stored the container on the row of the intent while it was pending: in one
transaction of the run, which found the row pending. -/
def ContainerStored (P : Platform) (calls : Nat → Call) (start : IntentTable) (L : History) (i : Nat)
    (intent : SocialPublicationIntent) (containerId : Str) : Prop :=
  ∃ L₁ now L₂ d d',
    L = L₁ ++ .act i (called (.transition intent.tenantId intent.intentId
      intent.executionFencingToken
      { status := .pending, providerContainerId := some containerId } now) (.ok true)) :: L₂ ∧
    Run P calls start L₁ d ∧
    Step (service.machine outside) d (.act i (called (.transition intent.tenantId intent.intentId
      intent.executionFencingToken
      { status := .pending, providerContainerId := some containerId } now) (.ok true))) d' ∧
    ∃ row ∈ d.world.rows, row.isFor intent.tenantId intent.intentId = true ∧
      row.status = .pending ∧
      { row with updatedAt := now, providerContainerId := some containerId, failureReason := [] } ∈
        d'.world.rows

section
variable {P : Platform} {calls : Nat → Call} {start : IntentTable} {L : History} {c : State}
variable {i : Nat} {A : SocialPublicationAuthority} {command : SocialPublicationCommand}

theorem VerifiedPost.exactly {username mediaId : Str} {t u : Trace sig}
    (h : VerifiedPost P A command username mediaId t) (htu : t ⊆ u)
    (hcollide : NoCaptionCollision P command.content u) :
    VerifiedExactly P A command.content username mediaId t := by
  obtain ⟨hp, r, reply, response, payload, hmem, hphase, hurl, hread, hshows⟩ := h
  obtain ⟨caption, hcaption, -, hdigest⟩ := hshows.caption
  have hreply : (.instagramMediaVerify, reply) ∈ replies u :=
    List.mem_filterMap.2 ⟨_, htu hmem, by simp [replyOf, hphase]⟩
  refine ⟨hp, r, reply, response, payload, hmem, hphase, hurl, hread, hshows.id, ?_, hshows.image,
    hshows.account⟩
  rw [hcaption, hcollide reply response payload caption hreply hread hcaption hdigest]

/-- A container that the trace shows as accepted was stored on the pending row. -/
theorem RecordedFor.stored {intent : SocialPublicationIntent} {containerId : Str}
    (h : Run P calls start L c) (hr : RecordedFor intent containerId (L.trace i)) :
    ContainerStored P calls start L i intent containerId := by
  obtain ⟨now, hmem⟩ := hr
  obtain ⟨L₁, L₂, rfl⟩ := List.append_of_mem (Log.mem_trace.1 hmem)
  obtain ⟨d, d', h1, hrun, hstep, -⟩ := h.at_call
  refine ⟨L₁, now, L₂, d, d', rfl, h1, hstep, ?_⟩
  have hencodable : Py.encodable [] = true := rfl
  simp only [Statement.run, hencodable, if_true] at hrun
  obtain ⟨hcount, hworld⟩ := Prod.mk.inj hrun
  have hcount := of_decide_eq_true (Except.ok.inj hcount)
  have hpos : 0 < d.world.count (inFlight intent.tenantId intent.intentId
      intent.executionFencingToken) := by omega
  obtain ⟨row, hrow, hsel⟩ := List.countP_pos_iff.1 hpos
  have hsel' := hsel
  simp only [inFlight, Bool.and_eq_true, decide_eq_true_eq] at hsel'
  refine ⟨row, hrow, hsel'.1.1, hsel'.1.2, ?_⟩
  rw [← hworld, Table.mem_modify]
  refine ⟨row, hrow, ?_⟩
  simp only [hsel, if_true, Change.apply]
  simp [hsel'.1.2]

/-- In every run, an Instagram execution sends `media_publish` at most once, for a container that it
stored on the pending intent and that a status poll reported as finished; it polls at most as often
as configured; and it records `succeeded` only for a post that its verification showed. -/
theorem instagram_publication_ordered (h : Run P calls start L c)
    (hcall : calls i = .execute A command) (hchannel : command.channelId = Py.lit "instagram")
    (hcollide : NoCaptionCollision P command.normalized.content (L.trace i)) :
    (∀ (L₁ L₂ : History) r, L = L₁ ++ .act i (asked (.send r) ()) :: L₂ →
      r.phase = .instagramMediaPublish →
      (∀ q ∈ sent (L₁.trace i), q.phase ≠ .instagramMediaPublish) ∧
      ∃ intent containerId, Granted (L₁.trace i) intent ∧
        r.payload = .params [("creation_id", containerId)] ∧
        ContainerStored P calls start L₁ i intent containerId ∧
        FinishedFor P A containerId (L₁.trace i)) ∧
    (polls (L.trace i)).length ≤ A.instagramContainerPollAttempts ∧
    (∀ (L₁ L₂ : History) tenantId intentId fence change now answer,
      L = L₁ ++ .act i (called (.transition tenantId intentId fence change now) answer) :: L₂ →
      change.status = .succeeded → ∃ connection mediaId,
        some connection ∈ connections (L₁.trace i) ∧ change.providerPostId = some mediaId ∧
        VerifiedExactly P A command.normalized.content connection.accountUsername mediaId
          (L₁.trace i)) := by
  have hspec : ((calls i).program P).Spec (OrderPermits P A command.normalized)
      (fun _ _ => True) [] := by
    rw [hcall]
    have hne : command.channelId ≠ Py.lit "x" := by
      rw [hchannel]
      decide
    exact Prog.Spec.bind_of (Spec_orderExecute hne) (fun _ _ _ => trivial) fun _ _ _ => trivial
  refine ⟨?_, ?_, ?_⟩
  · rintro L₁ L₂ r rfl hphase
    obtain ⟨-, hpublish⟩ := Steps.spec_op h hspec
    obtain ⟨intent, containerId, hgranted, hpayload, hrecorded, hfinished⟩ := hpublish hphase
    obtain ⟨_, _, h1, -⟩ := Steps.split h
    refine ⟨fun q hq hq' => ?_, intent, containerId, hgranted, hpayload, hrecorded.stored h1,
      hfinished⟩
    obtain ⟨_, _, _, s, -, hs, -, hpost, -⟩ := h.send_permitted
    rw [hs.sent] at hq
    have hnone := hpost (Phase.createsPost_iff.2 (.inr hphase)) q hq
    rw [hq'] at hnone
    cases hnone
  · refine @polls_le P A command.normalized _ fun a e b heq => ?_
    have hpath := h.path i
    rw [heq] at hpath
    simpa using hspec.path_op hpath
  · rintro L₁ L₂ tenantId intentId fence change now answer rfl hstatus
    have hmove : OrderPermits P A command.normalized (L₁.trace i)
        (.inr (.transition tenantId intentId fence change now)) := Steps.spec_op h hspec
    obtain ⟨connection, mediaId, hconn, hid, hverified⟩ := hmove hstatus
    refine ⟨connection, mediaId, hconn, hid, hverified.exactly ?_ hcollide⟩
    rw [Log.trace_append]
    exact List.subset_append_left _ _

end

namespace Sample

/-- What the Graph API shows of the sample post. -/
def media : Obj :=
  [
    (Py.lit "caption", .str (Py.lit "Launch day")),
    (Py.lit "id", .str (Py.lit "1")),
    (Py.lit "media_type", .str (Py.lit "IMAGE")),
    (Py.lit "permalink", .str (Py.lit "https://www.instagram.com/p/1/")),
    (Py.lit "timestamp", .str (Py.lit "2026-01-01T00:00:00+00:00")),
    (Py.lit "username", .str (Py.lit "user"))]

/-- The text of `media`. -/
def mediaBody : Bytes :=
  match canonicalJson (.obj media) with
  | .ok text => Py.utf8 text
  | .error _ => []

/-- The sample platform, which also reads what the verification is answered with. -/
def verifying : Platform :=
  { platform with
    loads := fun b => if b = mediaBody then .value (.obj media) else loads b
    fromisoformat := fun s =>
      if s = Py.lit "2026-01-01T00:00:00+00:00" then some ⟨true, 1767225600000000⟩ else none
    urlsplit := fun url =>
      if url = Py.lit "https://www.instagram.com/p/1/" then
        some ⟨Py.lit "https", some (Py.lit "www.instagram.com"), none, none, []⟩
      else platform.urlsplit url }

/-- The whole execution: container, recording, poll, publication, verification and recording. -/
def verified : List (Choice (Oracle outside) Empty) :=
  let tokens : Option Obj := some [(Py.lit "access_token", .str (Py.lit "T"))]
  moves 0 10 tokens (.reply 200 [] (body "id" "1")) ++
    moves 0 2 tokens (.reply 200 [] (body "status_code" "FINISHED")) ++
    moves 0 2 tokens (.reply 200 [] (body "id" "1")) ++ moves 0 5 tokens (.reply 200 [] mediaBody)

/-- The captions a trace read back are this one. -/
def captionsAre (content : Str) (t : Trace sig) : Bool :=
  (replies t).all fun x =>
    match readObject verifying .instagramMediaVerify x.2 with
    | .ok (_, payload) =>
      match Py.get payload "caption" with
      | .str caption => caption == content
      | _ => true
    | .error _ => true

theorem noCollision_of_captionsAre {content : Str} {t : Trace sig}
    (h : captionsAre content t = true) : NoCaptionCollision verifying content t := by
  intro reply response payload caption hmem hread hcaption _
  have hone := List.all_eq_true.1 h _ hmem
  simp only [hread, hcaption, beq_iff_eq] at hone
  exact hone

end Sample

/-- The theorem for a publication that is verified and recorded. -/
theorem instagram_publication_ordered_recorded :
    ∃ L c, Run Sample.verifying (fun _ => .execute Sample.authority (Sample.command 1)) .empty L c ∧
      c.world.rows.map (·.status) = [.succeeded] ∧
      (polls (L.trace 0)).length ≤ Sample.authority.instagramContainerPollAttempts := by
  obtain ⟨L, c, h, hrows, hcaptions⟩ := @Run.of_schedule Sample.verifying
    (fun _ => .execute Sample.authority (Sample.command 1)) .empty Sample.verified
    (fun L c => c.world.rows.map (·.status) = [.succeeded] ∧
      Sample.captionsAre (Sample.command 1).normalized.content (L.trace 0) = true) inferInstance
    (by decide +kernel)
  have hcollide := Sample.noCollision_of_captionsAre hcaptions
  exact ⟨L, c, h, hrows, (instagram_publication_ordered h rfl rfl hcollide).2.1⟩

end Publication

end AgencyRuntime
