import AgencyRuntime.Release.Endpoint

/-!
# No publication without a Greenlight

What a preparation has read when it hands over a command (`Prepared`), and from it what must have
been stored before a publish request reserves an intent or reaches the provider: an active
Greenlight that covers the artifact and the channel, a connected account, and for Instagram live
media (`reserved_under_greenlight`). The stores may change between any two of the reads, so each of
these held at a moment of its own.
-/

namespace AgencyRuntime

open Effects Tables Py Orchestrator

namespace Release

/-! ## Publishing a command -/

/-- The intent is built for the command and its content. -/
structure Builds (P : Platform) (command : SocialPublicationCommand)
    (intent : SocialPublicationIntent) : Prop where
  built : Publication.BuiltFor P command.normalized intent
  content : P.digest (strip command.content) = .ok intent.contentHash

/-- Publishing a command reserves only what is built for it. -/
def Publishes (P : Platform) (command : SocialPublicationCommand) : Reauthorize.sig.Op → Prop
  | .inr (.publication (.reserve intent)) => Builds P command intent
  | _ => True

section
variable {P : Platform} {A : SocialPublicationAuthority} {command : SocialPublicationCommand}

/-- A reservation is made with the digest of this content. -/
def Digests (P : Platform) (content : Str) : Publication.sig.Op → Prop
  | .inr (.reserve intent) => P.digest content = .ok intent.contentHash
  | _ => True

theorem Spec_authorizedConnection {validated : SocialPublicationCommand} :
    (Publication.authorizedConnection P A validated).Spec
      (fun _ o => Digests P validated.content o) (fun _ _ => True) [] := by
  simp only [Publication.authorizedConnection, Prog.bind_eq]
  refine (Prog.Spec_ask_bind _ _).2 ⟨trivial, fun connection => ?_⟩
  cases connection with
  | none => trivial
  | some connection =>
    simp only
    rw [Prog.Spec_bind, Prog.Spec_raiseIf]
    refine ⟨fun _ => trivial, fun _ => ?_⟩
    rw [Prog.bindPost_ok]
    refine (Prog.Spec_ask_bind _ _).2 ⟨trivial, fun now => ?_⟩
    rw [Prog.Spec_bind, Prog.Spec_raiseIf]
    refine ⟨fun _ => trivial, fun _ => ?_⟩
    rw [Prog.bindPost_ok, Prog.Spec_bind, Prog.Spec_raiseIf]
    exact ⟨fun _ => trivial, fun _ => trivial⟩

theorem Spec_buildIntent {validated : SocialPublicationCommand} {t : Trace Publication.sig} :
    (Publication.buildIntent P validated).Spec (fun _ o => Digests P validated.content o)
      (fun _ x => ∀ intent, x = .ok intent → P.digest validated.content = .ok intent.contentHash ∧
        intent.accountId = validated.accountId ∧ intent.channelId = validated.channelId) t := by
  simp only [Publication.buildIntent, Prog.bind_eq]
  refine (Prog.Spec_ofExcept_bind _ _ _).2 ⟨fun _ _ _ h => (by cases h), fun contentHash hc => ?_⟩
  refine (Prog.Spec_ofExcept_bind _ _ _).2 ⟨fun _ _ _ h => (by cases h), fun urlHash _ => ?_⟩
  refine (Prog.Spec_ofExcept_bind _ _ _).2 ⟨fun _ _ _ h => (by cases h), fun binding _ => ?_⟩
  refine (Prog.Spec_ofExcept_bind _ _ _).2 ⟨fun _ _ _ h => (by cases h), fun digest _ => ?_⟩
  refine (Prog.Spec_ofExcept_bind _ _ _).2 ⟨fun _ _ _ h => (by cases h), fun key _ => ?_⟩
  refine (Prog.Spec_ask_bind _ _).2 ⟨trivial, fun now => ?_⟩
  refine (Prog.Spec_ofExcept_bind _ _ _).2 ⟨fun _ _ _ h => (by cases h), fun intentId _ => ?_⟩
  intro intent h
  cases h
  exact ⟨hc, rfl, rfl⟩

theorem ReservedPermits.digests {content : Str} {intent : SocialPublicationIntent}
    {t : Trace Publication.sig} {o : Publication.sig.Op}
    (h : Publication.ReservedPermits P intent t o) : Digests P content o := by
  rcases o with o | o
  · trivial
  · cases o with
    | reserve => exact h.elim
    | _ => trivial

/-- The content hash of a reservation is that of the command's content. -/
theorem Spec_execute_content : (Publication.execute P A command).Spec
    (fun _ o => Digests P command.normalized.content o) (fun _ _ => True) [] := by
  simp only [Publication.execute, Prog.bind_eq]
  rw [Prog.Spec_bind, Prog.Spec_raiseIf]
  refine ⟨fun _ => trivial, fun _ => ?_⟩
  refine (Prog.Spec_ofExcept_bind _ _ _).2 ⟨fun _ _ => trivial, fun validated hv => ?_⟩
  obtain ⟨rfl, hvalid⟩ := Publication.validateCommand_ok hv
  refine Prog.Spec.bind_of Spec_authorizedConnection (fun t connection _ => ?_) fun _ _ _ => trivial
  refine Prog.Spec.bind_of Spec_buildIntent (fun u intent hbuilt => ?_) fun _ _ _ => trivial
  obtain ⟨hcontent, haccount, hchannel⟩ := hbuilt intent rfl
  simp only [Publication.reserve, Prog.bind_eq]
  rw [Prog.Spec_bind]
  refine (Prog.Spec_ofExcept_bind _ _ _).2 ⟨fun _ _ => trivial, fun _ hi => ?_⟩
  refine (Prog.Spec_call_bind _ _).2 ⟨hcontent, fun answer => ?_⟩
  refine (Prog.Spec_ofExcept_bind _ _ _).2 ⟨fun _ _ => trivial, fun reserved _ => ?_⟩
  cases reserved with
  | existing record =>
    by_cases hst : record.status = .succeeded
    · simp [hst]
    · simp only [hst, decide_false]
      trivial
  | inserted =>
    exact ((Publication.Spec_executeReserved hvalid hi haccount hchannel).shift _).mono
      (fun _ _ h => ReservedPermits.digests h.choose_spec.2) fun _ _ _ => trivial

theorem publishes_embedOp {t : Trace Publication.sig} {o : Publication.sig.Op}
    (h : Publication.ExecutePermits P command.normalized t o)
    (hd : Digests P command.normalized.content o) :
    Publishes P command (Reauthorize.embedOp o) := by
  rcases h with ⟨-, h⟩ | ⟨intent, s, -, h⟩
  · rcases o with o | o
    · cases o <;> trivial
    · cases o with
      | reserve intent => exact ⟨h.1, hd⟩
      | _ => exact h.elim
  · rcases o with o | o
    · cases o <;> trivial
    · cases o with
      | reserve => exact h.elim
      | _ => trivial

theorem Spec_publishPrepared : (Reauthorize.publishPrepared P A command).Spec
    (fun _ o => Publishes P command o) Reauthorize.anything [] := by
  have hexecute : (Publication.execute P A command).Spec
      (fun _ o => Publishes P command (Reauthorize.embedOp o)) (fun _ _ => True) [] :=
    (Publication.Spec_execute.and Spec_execute_content).mono
      (fun _ _ h => publishes_embedOp h.1 h.2) fun _ _ _ => trivial
  refine Prog.Spec.bind_of (Q := Reauthorize.anything)
    (hexecute.lift (fun _ _ h => h) fun _ _ _ => trivial) (fun t result _ => ?_)
    fun _ _ _ => trivial
  refine (Prog.Spec_ask_bind _ _).2 ⟨trivial, fun recorded => ?_⟩
  exact (Prog.Spec_ofExcept_bind _ _ _).2 ⟨fun _ _ => trivial, fun _ _ => trivial⟩

theorem Spec_deleted (tenantId channelId : Str) (revokedIntents : Nat)
    (t : Trace Reauthorize.sig) :
    ((Reauthorize.call (.deleteConnection tenantId channelId)).bind fun invalidated =>
      if invalidated = true then
        (Reauthorize.ask (.recordSocialEvent tenantId channelId revokedIntents)).bind
          fun recorded => Prog.ofExcept recorded
      else pure ()).Spec (fun _ o => Publishes P command o) Reauthorize.anything t := by
  refine (Prog.Spec_call_bind _ _).2 ⟨trivial, fun invalidated => ?_⟩
  cases invalidated with
  | false => trivial
  | true =>
    refine (Prog.Spec_ask_bind _ _).2 ⟨trivial, fun recorded => ?_⟩
    exact (Prog.Spec_ofExcept _ _).2 trivial

theorem Spec_invalidateCredential (tenantId channelId : Str) (t : Trace Reauthorize.sig) :
    (Reauthorize.invalidateCredential tenantId channelId).Spec
      (fun _ o => Publishes P command o) Reauthorize.anything t := by
  have hrevoke (filter : Publication.RevokeFilter) (reason : Str) :
      (Publication.revokeUnused filter reason).Spec
        (fun _ o => Publishes P command (Reauthorize.embedOp o)) (fun _ _ => True) [] := by
    refine (Prog.Spec_ofExcept_bind _ _ _).2 ⟨fun _ _ => trivial, fun _ _ => ?_⟩
    refine (Prog.Spec_ask_bind _ _).2 ⟨trivial, fun now => ?_⟩
    refine (Prog.Spec_call_bind _ _).2 ⟨trivial, fun answer => ?_⟩
    exact (Prog.Spec_ofExcept _ _).2 trivial
  refine (Prog.Spec_ofExcept_bind _ _ _).2 ⟨fun _ _ => trivial, fun _ _ => ?_⟩
  refine (Prog.Spec_call_bind _ _).2 ⟨trivial, fun connection => ?_⟩
  cases connection with
  | none => exact Spec_deleted tenantId channelId 0 _
  | some connection =>
    exact Prog.Spec.bind_of (Q := Reauthorize.anything)
      ((hrevoke _ _).lift (fun _ _ h => h) fun _ _ _ => trivial)
      (fun u revokedIntents _ => Spec_deleted tenantId channelId revokedIntents u)
      fun _ _ _ => trivial

theorem Spec_answerFailure (e : Exn) (t : Trace Reauthorize.sig) :
    (Reauthorize.answerFailure command e).Spec (fun _ o => Publishes P command o)
      Reauthorize.anything t := by
  unfold Reauthorize.answerFailure
  split
  case h_3 error =>
    split
    · refine Prog.Spec.bind_of (Q := Reauthorize.anything) (Spec_invalidateCredential _ _ t)
        (fun _ _ _ => ?_) fun _ _ _ => trivial
      trivial
    · trivial
  case h_7 => split <;> trivial
  all_goals trivial

/-- A command that is published, in every environment. -/
theorem Spec_publishCommand : (Reauthorize.publishSocialArtifact P A command).Spec
    (fun _ o => Publishes P command o) Reauthorize.anything [] := by
  refine Prog.Spec.bind_of (Q := Reauthorize.anything)
    ((Prog.Spec_attempt _ _).2 Spec_publishPrepared) (fun t outcome _ => ?_) fun _ _ _ => trivial
  cases outcome with
  | ok result => trivial
  | error e => exact Spec_answerFailure e t

end

/-! ## What a preparation has read -/

/-- The run was read. -/
abbrev ReadRun (t : Trace sig) (tenantId runId : Str) (run : ExecutionRun) : Prop :=
  called (.getRun tenantId runId) (some run) ∈ t

/-- The media of the reference was read while it was live, and its bytes have the hash. -/
structure ReadMedia (P : Platform) (r : PublishRequest) (t : Trace sig)
    (reference : MediaReference) : Prop where
  record : ∃ record now, called (.getMedia r.tenantId reference.mediaId) (some record) ∈ t ∧
    asked .utcNow now ∈ t ∧ liveMedia r.runId now reference record = true
  content : ∃ content, called (.getContent r.tenantId reference.mediaId) (.ok content) ∈ t ∧
    P.sha256 content = reference.sha256

/-- The media part of a command. -/
def MediaChecked (P : Platform) (r : PublishRequest) (run : ExecutionRun) (greenlight : Greenlight)
    (t : Trace sig) : Option MediaReference → Prop
  | some reference => r.channelId = lit "instagram" ∧
      approvedMedia P run greenlight r.request.mediaArtifactId = .ok reference ∧
      ReadMedia P r t reference
  | none => r.channelId ≠ lit "instagram"

/-- What a preparation has read and checked when it hands over a command. -/
structure Prepared (P : Platform) (r : PublishRequest) (confirmationHash : Option Str)
    (t : Trace sig) (run : ExecutionRun) (greenlight : Greenlight) (copy : Copy)
    (media : Option MediaReference) (connection : SocialConnection)
    (command : SocialPublicationCommand) : Prop where
  channel : r.channelId = lit "x" ∨ r.channelId = lit "instagram"
  read : ReadRun t r.tenantId r.runId run
  active : activeGreenlight run = .ok greenlight
  eligible : checkEligible run = .ok ()
  authorized : ∃ checked, ReadRun t r.tenantId r.runId checked ∧
    checkEffect (r.effect greenlight) checked = .ok ()
  copied : approvedCopy P run greenlight r.request.artifactId r.channelId = .ok copy
  mediaRead : MediaChecked P r run greenlight t media
  compliant : checkCompliance P run greenlight = .ok ()
  connected : called (.account (.getConnection r.tenantId r.channelId)) (some connection) ∈ t
  command : command = {
    tenantId := r.tenantId
    channelId := r.channelId
    accountId := connection.accountId
    runId := r.runId
    artifactId := copy.artifact.artifactId
    artifactHash := copy.artifactHash
    content := copy.content
    mediaUrl := media.map (·.mediaUrl)
    mediaHash := media.map (·.sha256)
    greenlightId := r.request.greenlightId
    greenlightFencingToken := r.request.greenlightFencingToken
    budgetCents := 0
    idempotencyKey := r.idempotencyKey
    confirmationHash := confirmationHash }

/-- The command was prepared after the checks on a political run. -/
def PreparedCommand (D : Deployment) (r : PublishRequest) (t : Trace sig)
    (command : SocialPublicationCommand) : Prop :=
  (∃ run, ReadRun t r.tenantId r.runId run ∧
    politicalGate D.platform D.politicalPublicationEnabled r run =
      .ok (.passed command.confirmationHash)) ∧
  ∃ run greenlight copy media connection,
    Prepared D.platform r command.confirmationHash t run greenlight copy media connection command

section
variable {P : Platform} {r : PublishRequest} {t : Trace sig}

theorem MediaChecked.mono {run : ExecutionRun} {greenlight : Greenlight}
    {media : Option MediaReference} (h : MediaChecked P r run greenlight t media) {u : Trace sig}
    (hu : t ⊆ u) : MediaChecked P r run greenlight u media := by
  cases media with
  | none => exact h
  | some reference =>
    obtain ⟨hchannel, happroved, hrecord, hcontent⟩ := h
    obtain ⟨record, now, hmedia, hnow, hlive⟩ := hrecord
    obtain ⟨content, hbytes, hsha⟩ := hcontent
    exact ⟨hchannel, happroved, ⟨record, now, hu hmedia, hu hnow, hlive⟩, content, hu hbytes, hsha⟩

theorem Prepared.mono {confirmationHash : Option Str} {run : ExecutionRun}
    {greenlight : Greenlight} {copy : Copy} {media : Option MediaReference}
    {connection : SocialConnection} {command : SocialPublicationCommand}
    (h : Prepared P r confirmationHash t run greenlight copy media connection command)
    {u : Trace sig} (hu : t ⊆ u) :
    Prepared P r confirmationHash u run greenlight copy media connection command where
  channel := h.channel
  read := hu h.read
  active := h.active
  eligible := h.eligible
  authorized := by
    obtain ⟨checked, hread, hchecked⟩ := h.authorized
    exact ⟨checked, hu hread, hchecked⟩
  copied := h.copied
  mediaRead := h.mediaRead.mono hu
  compliant := h.compliant
  connected := hu h.connected
  command := h.command

theorem PreparedCommand.mono {D : Deployment} {command : SocialPublicationCommand}
    (h : PreparedCommand D r t command) {u : Trace sig} (hu : t ⊆ u) :
    PreparedCommand D r u command := by
  obtain ⟨⟨run, hread, hgate⟩, run', greenlight, copy, media, connection, hprepared⟩ := h
  exact ⟨⟨run, hu hread, hgate⟩, run', greenlight, copy, media, connection, hprepared.mono hu⟩

/-- The operation reads a run. -/
def ReadsRun : sig.Op → Prop
  | .inr (.getRun ..) => True
  | _ => False

/-- The last run that was read had an active Greenlight. -/
def LastActive (t : Trace sig) (tenantId runId : Str) : Prop :=
  ∃ checked greenlight s u, t = s ++ called (.getRun tenantId runId) (some checked) :: u ∧
    activeGreenlight checked = .ok greenlight ∧ ∀ e ∈ u, ¬ ReadsRun e.op

theorem LastActive.append {tenantId runId : Str} (h : LastActive t tenantId runId) {u : Trace sig}
    (hu : ∀ e ∈ u, ¬ ReadsRun e.op) : LastActive (t ++ u) tenantId runId := by
  obtain ⟨checked, greenlight, s, v, rfl, hactive, hv⟩ := h
  refine ⟨checked, greenlight, s, v ++ u, by simp, hactive, fun e he => ?_⟩
  rcases List.mem_append.1 he with he | he
  · exact hv e he
  · exact hu e he

theorem LastActive.prepend {tenantId runId : Str} (h : LastActive t tenantId runId)
    (u : Trace sig) : LastActive (u ++ t) tenantId runId := by
  obtain ⟨checked, greenlight, s, v, rfl, hactive, hv⟩ := h
  exact ⟨checked, greenlight, u ++ s, v, by simp, hactive, hv⟩

/-- What the media part of a preparation may do. -/
def ReadsMedia : sig.Op → Prop
  | .inr (.getMedia ..) | .inr (.getContent ..) | .inl .utcNow => True
  | _ => False

/-- What a preparation may do. -/
def Reads : sig.Op → Prop
  | .inr (.getRun ..) | .inr (.getMedia ..) | .inr (.getContent ..) | .inl .utcNow => True
  | .inr (.account (.getConnection ..)) => True
  | _ => False

theorem ReadsMedia.reads {o : sig.Op} (h : ReadsMedia o) : Reads o ∧ ¬ ReadsRun o := by
  rcases o with (_ | _ | _ | _ | _ | _) | (_ | _ | _ | _ | _)
  case inl.utcNow | inr.getMedia | inr.getContent => exact ⟨trivial, not_false⟩
  all_goals exact h.elim

/-- Loading a run reads it. -/
theorem Spec_loadRun {tenantId runId : Str} :
    (loadRun tenantId runId).Spec (fun _ o => Reads o)
      (fun u x => ∀ run, x = .ok run → ReadRun u tenantId runId run) [] := by
  refine (Prog.Spec_call_bind _ _).2 ⟨trivial, fun found => (Prog.Spec_ofExcept _ _).2 ?_⟩
  intro run hfound
  cases found with
  | none => cases hfound
  | some _ =>
    cases hfound
    exact List.mem_singleton.2 rfl

theorem Spec_loadMedia {reference : MediaReference} :
    (loadMedia P r.tenantId r.runId reference).Spec (fun _ o => ReadsMedia o)
      (fun u x => ∀ a, x = .ok a → ReadMedia P r u reference) [] := by
  refine (Prog.Spec_ofExcept_bind _ _ _).2 ⟨fun _ _ => nofun, fun _ _ => ?_⟩
  refine (Prog.Spec_call_bind _ _).2 ⟨trivial, fun found => ?_⟩
  refine (Prog.Spec_ask_bind _ _).2 ⟨trivial, fun now => ?_⟩
  refine (Prog.Spec_ofExcept_bind _ _ _).2 ⟨fun _ _ => nofun, fun _ hlive => ?_⟩
  refine (Prog.Spec_call_bind _ _).2 ⟨trivial, fun content => ?_⟩
  refine (Prog.Spec_ofExcept_bind _ _ _).2 ⟨fun _ _ => nofun, fun bytes hbytes => ?_⟩
  rw [Prog.Spec_ofExcept]
  intro _ hsha
  cases found with
  | none => cases hlive
  | some record =>
    subst hbytes
    exact ⟨⟨record, now, by simp, by simp, check_ok.1 hlive⟩, bytes, by simp, check_ok.1 hsha⟩

theorem Spec_prepareMedia {run : ExecutionRun} {greenlight : Greenlight} :
    (prepareMedia P r run greenlight).Spec (fun _ o => ReadsMedia o)
      (fun u x => ∀ media, x = .ok media → MediaChecked P r run greenlight u media) [] := by
  unfold prepareMedia
  split
  · next hchannel =>
    refine (Prog.Spec_ofExcept_bind _ _ _).2 ⟨fun _ _ => nofun, fun reference happroved => ?_⟩
    refine Prog.Spec.bind_of Spec_loadMedia (fun u _ hread => ?_) fun _ _ _ => nofun
    intro media hmedia
    cases hmedia
    exact ⟨hchannel, happroved, hread () rfl⟩
  · next hchannel =>
    intro media hmedia
    cases hmedia
    exact hchannel

/-- The second check reads the run once more. -/
theorem Spec_assertGreenlight {effect : Effect} :
    (assertGreenlightEffectAuthorized r.tenantId r.runId effect).Spec (fun _ o => Reads o)
      (fun u x => ∀ a, x = .ok a → ∃ checked,
        u = [called (.getRun r.tenantId r.runId) (some checked)] ∧
          checkEffect effect checked = .ok ()) [] := by
  refine Prog.Spec.bind_of (Q := fun u x => ∀ run, x = .ok run →
    u = [called (.getRun r.tenantId r.runId) (some run)]) ?_ (fun u checked hchecked => ?_)
    fun _ _ _ => nofun
  · refine (Prog.Spec_call_bind _ _).2 ⟨trivial, fun found => (Prog.Spec_ofExcept _ _).2 ?_⟩
    intro run hfound
    cases found with
    | none => cases hfound
    | some _ =>
      cases hfound
      rfl
  · exact (Prog.Spec_ofExcept _ _).2 fun _ heffect => ⟨checked, hchecked checked rfl, heffect⟩

/-- A command is handed over only when all of it was read and checked. -/
theorem Spec_prepare {confirmationHash : Option Str} :
    (prepareSocialPublication P r confirmationHash).Spec (fun _ o => Reads o)
      (fun u x => ∀ command, x = .ok command → LastActive u r.tenantId r.runId ∧
        ∃ run greenlight copy media connection,
          Prepared P r confirmationHash u run greenlight copy media connection command) [] := by
  refine (Prog.Spec_ofExcept_bind _ _ _).2 ⟨fun _ _ => nofun, fun _ hchannel => ?_⟩
  refine Prog.Spec.bind_of Spec_loadRun (fun t run hrun => ?_) fun _ _ _ => nofun
  refine (Prog.Spec_ofExcept_bind _ _ _).2 ⟨fun _ _ => nofun, fun greenlight hactive => ?_⟩
  refine (Prog.Spec_ofExcept_bind _ _ _).2 ⟨fun _ _ => nofun, fun _ heligible => ?_⟩
  refine Prog.Spec.bind_of ((Spec_assertGreenlight.shift t).mono (fun _ _ h => h.choose_spec.2)
    fun _ _ h => h) (fun u _ hauthorized => ?_) fun _ _ _ => nofun
  obtain ⟨s, rfl, hauthorized⟩ := hauthorized
  obtain ⟨checked, rfl, heffect⟩ := hauthorized () rfl
  refine (Prog.Spec_ofExcept_bind _ _ _).2 ⟨fun _ _ => nofun, fun copy hcopy => ?_⟩
  refine Prog.Spec.bind_of ((Spec_prepareMedia.permitted.shift _).mono
    (fun _ _ h => h.choose_spec.2.reads.1) fun _ _ h => h) (fun v media hmedia => ?_)
    fun _ _ _ => nofun
  obtain ⟨s, rfl, hmedia, _, rfl, hs⟩ := hmedia
  refine (Prog.Spec_ofExcept_bind _ _ _).2 ⟨fun _ _ => nofun, fun _ hcompliant => ?_⟩
  refine (Prog.Spec_ofExcept_bind _ _ _).2 ⟨fun _ _ => nofun, fun _ _ => ?_⟩
  refine (Prog.Spec_call_bind _ _).2 ⟨trivial, fun found => ?_⟩
  cases found with
  | none => exact fun _ => nofun
  | some connection =>
    intro command hcommand
    cases hcommand
    obtain ⟨g, hg, -⟩ := exceptBind_ok heffect
    have hlast : LastActive (t ++ [called (.getRun r.tenantId r.runId) (some checked)])
        r.tenantId r.runId := ⟨checked, g, t, [], rfl, hg, by simp⟩
    have hquiet : ∀ e ∈ s ++
        [called (.account (.getConnection r.tenantId r.channelId)) (some connection)],
        ¬ ReadsRun e.op := by
      intro e he
      rcases List.mem_append.1 he with he | he
      · obtain ⟨a, b, hsplit⟩ := List.append_of_mem he
        exact (hs a e b hsplit).reads.2
      · rw [List.mem_singleton.1 he]
        exact not_false
    refine ⟨by simpa using hlast.append hquiet, run, greenlight, copy, media, connection, ?_⟩
    exact {
      channel := check_ok.1 hchannel
      read := by simpa using .inl (hrun run rfl)
      active := hactive
      eligible := heligible
      authorized := ⟨checked, by simp, heffect⟩
      copied := hcopy
      mediaRead := (hmedia media rfl).mono fun e he => by simp [he]
      compliant := hcompliant
      connected := by simp
      command := rfl }

end

/-! ## What a request may do -/

/-- What a request may do. Only a publication reserves and sends, once it has a command; only a
revocation saves a run. -/
def Permits (D : Deployment) : Request → Trace sig → sig.Op → Prop
  | .publish r, t, .inr (.account (.publication (.reserve intent))) =>
    LastActive t r.tenantId r.runId ∧
      ∃ command, PreparedCommand D r t command ∧ Builds D.platform command intent
  | .publish r, t, .inl (.account (.publication (.send _))) =>
    LastActive t r.tenantId r.runId ∧ ∃ command, PreparedCommand D r t command
  | .revoke r, t, .inr (.saveRun tenantId run expected _) =>
    tenantId = r.tenantId ∧ expected = .completed ∧ ∃ clock read,
      ReadRun t r.tenantId r.runId read ∧ revokedRun clock read r.subjectId r.reason = .ok run
  | _, _, .inr (.account (.publication (.reserve _))) => False
  | _, _, .inl (.account (.publication (.send _))) => False
  | _, _, .inr (.saveRun ..) => False
  | _, _, _ => True

/-- The postcondition of the specifications below. -/
abbrev anything {α : Type} : Trace sig → Except Exn α → Prop := fun _ _ => True

section
variable {D : Deployment} {r : PublishRequest} {t : Trace sig}

theorem Reads.permits {request : Request} {o : sig.Op} (h : Reads o) : Permits D request t o := by
  rcases o with (_ | _ | _ | _ | _ | _) | (o | _ | _ | _ | _)
  case inl.utcNow | inr.getRun | inr.getMedia | inr.getContent => cases request <;> trivial
  case inr.account =>
    cases o with
    | getConnection => cases request <;> trivial
    | _ => exact h.elim
  all_goals exact h.elim

theorem not_readsRun_embedOp (o : Reauthorize.sig.Op) : ¬ ReadsRun (embedOp o) := by
  rcases o with o | o <;> exact not_false

theorem permits_publish {command : SocialPublicationCommand} (h : PreparedCommand D r t command)
    (hlast : LastActive t r.tenantId r.runId) {o : Reauthorize.sig.Op}
    (ho : Publishes D.platform command o) {s : Trace sig}
    (hs : ∀ e ∈ s, ∃ o', Publishes D.platform command o' ∧ e.op = embedding.op o') :
    Permits D (.publish r) (t ++ s) (embedOp o) := by
  have hlater := h.mono (List.subset_append_left t s)
  have hstill : LastActive (t ++ s) r.tenantId r.runId := by
    refine hlast.append fun e he => ?_
    obtain ⟨o', -, heq⟩ := hs e he
    rw [heq]
    exact not_readsRun_embedOp o'
  rcases o with (o | _ | _) | (o | _ | _)
  case inl.publication =>
    cases o with
    | send => exact ⟨hstill, command, hlater⟩
    | _ => trivial
  case inr.publication =>
    cases o with
    | reserve => exact ⟨hstill, command, hlater, ho⟩
    | _ => trivial
  all_goals trivial

theorem Spec_answerPreparation (request : Request) (e : Exn) :
    (answerPreparation e).Spec (Permits D request) anything t := by
  unfold answerPreparation
  split
  · trivial
  · split <;> trivial

/-- The part after the checks on a political run. -/
theorem Spec_publishConfirmed {run : ExecutionRun} {confirmationHash : Option Str}
    (hread : ReadRun t r.tenantId r.runId run)
    (hgate : politicalGate D.platform D.politicalPublicationEnabled r run =
      .ok (.passed confirmationHash)) :
    (publishConfirmed D.platform D.authority r confirmationHash).Spec (Permits D (.publish r))
      anything t := by
  have hprepare : (prepareSocialPublication D.platform r confirmationHash).attempt.Spec
      (Permits D (.publish r)) (fun u (x : Except Exn (Except Exn SocialPublicationCommand)) =>
        ∀ command, x = .ok (.ok command) →
          LastActive u r.tenantId r.runId ∧ PreparedCommand D r u command) t := by
    refine (Prog.Spec_attempt _ _).2 ((Spec_prepare.shift t).mono
      (fun _ _ h => h.choose_spec.2.permits) ?_)
    rintro _ x ⟨s, rfl, hprepared⟩ command hx
    obtain ⟨hlast, read, greenlight, copy, media, connection, hcommand⟩ :=
      hprepared command (Except.ok.inj hx)
    have hhash : command.confirmationHash = confirmationHash := by rw [hcommand.command]
    subst hhash
    exact ⟨hlast.prepend t, ⟨run, List.mem_append_left s hread, hgate⟩, read, greenlight, copy,
      media, connection, hcommand.mono (List.subset_append_right t s)⟩
  refine Prog.Spec.bind_of hprepare (fun u prepared hprepared => ?_) fun _ _ _ => trivial
  cases prepared with
  | error e => exact Spec_answerPreparation _ e
  | ok command =>
    obtain ⟨hlast, hready⟩ := hprepared command rfl
    exact Prog.Spec.bind_of (Q := anything)
      (Spec_publishCommand.lift_of (fun _ _ hs ho => permits_publish hready hlast ho hs)
        fun _ _ _ _ => trivial) (fun _ _ _ => trivial) fun _ _ _ => trivial

theorem Spec_publishSocialArtifact :
    (publishSocialArtifact D.platform D.authority D.politicalPublicationEnabled r).Spec
      (Permits D (.publish r)) anything [] := by
  refine (Prog.Spec_call_bind _ _).2 ⟨trivial, fun found => ?_⟩
  cases found with
  | none => trivial
  | some run =>
    refine (Prog.Spec_ofExcept_bind _ _ _).2 ⟨fun _ _ => trivial, fun gate hgate => ?_⟩
    cases gate with
    | refused reply => trivial
    | passed confirmationHash =>
      simp only
      split
      · trivial
      · exact Spec_publishConfirmed (List.mem_singleton.2 rfl) hgate

/-- What `revoke_unused` does. -/
def Clears : Reauthorize.sig.Op → Prop
  | .inl (.publication .clock) | .inr (.publication (.revokeUnused ..)) => True
  | _ => False

theorem Spec_revokeUnused (request : Request) (filter : Publication.RevokeFilter)
    (reason : String) : (revokeUnused filter reason).Spec (Permits D request) anything t := by
  have hrevoke : (Publication.revokeUnused filter (lit reason)).Spec
      (fun _ o => Clears (Reauthorize.embedOp o)) (fun _ _ => True) [] := by
    refine (Prog.Spec_ofExcept_bind _ _ _).2 ⟨fun _ _ => trivial, fun _ _ => ?_⟩
    refine (Prog.Spec_ask_bind _ _).2 ⟨trivial, fun now => ?_⟩
    refine (Prog.Spec_call_bind _ _).2 ⟨trivial, fun answer => ?_⟩
    exact (Prog.Spec_ofExcept _ _).2 trivial
  have hlifted : ((Publication.revokeUnused filter (lit reason)).lift Reauthorize.embedding).Spec
      (fun _ o => Clears o) Reauthorize.anything [] :=
    hrevoke.lift (fun _ _ h => h) fun _ _ _ => trivial
  refine hlifted.lift (fun s o ho => ?_) fun _ _ _ => trivial
  rcases o with (o | _ | _) | (o | _ | _)
  case inl.publication =>
    cases o with
    | clock => cases request <;> trivial
    | _ => exact ho.elim
  case inr.publication =>
    cases o with
    | revokeUnused => cases request <;> trivial
    | _ => exact ho.elim
  all_goals exact ho.elim

theorem Spec_revokeGreenlight {r : RevokeRequest} :
    (revokeGreenlight r).Spec (Permits D (.revoke r)) anything [] := by
  refine (Prog.Spec_ask_bind _ _).2 ⟨trivial, fun recorded => ?_⟩
  refine (Prog.Spec_ofExcept_bind _ _ _).2 ⟨fun _ _ => trivial, fun replayed _ => ?_⟩
  cases replayed with
  | true => trivial
  | false =>
    refine Prog.Spec.bind_of ((Spec_loadRun.shift _).mono (fun _ _ h => h.choose_spec.2.permits)
      fun _ _ h => h) (fun u run hrun => ?_) fun _ _ _ => trivial
    obtain ⟨s, rfl, hread⟩ := hrun
    refine (Prog.Spec_ask_bind _ _).2 ⟨trivial, fun clock => ?_⟩
    refine (Prog.Spec_ofExcept_bind _ _ _).2 ⟨fun _ _ => trivial, fun revoked hrevoked => ?_⟩
    refine (Prog.Spec_ask_bind _ _).2 ⟨trivial, fun fault => ?_⟩
    have hsave : Permits D (.revoke r) ([asked (.commandReplay r.tenantId r.idempotencyKey) recorded]
        ++ s ++ [asked .stationClock clock] ++ [asked .auditFault fault])
        (.inr (.saveRun r.tenantId revoked .completed fault)) :=
      ⟨rfl, rfl, clock, run, by simp [hread run rfl], hrevoked⟩
    refine (Prog.Spec_call_bind _ _).2 ⟨hsave, fun saved => ?_⟩
    unfold answerSave
    split
    case h_2 =>
      refine (Prog.Spec_ask_bind _ _).2 ⟨trivial, fun recorded => ?_⟩
      refine (Prog.Spec_ofExcept_bind _ _ _).2 ⟨fun _ _ => trivial, fun replayed _ => ?_⟩
      cases replayed <;> trivial
    all_goals trivial

theorem Spec_revokeRunGreenlight {r : RevokeRequest} :
    (revokeRunGreenlight r).Spec (Permits D (.revoke r)) anything [] := by
  have hrevoke : (revokeAndClear r).Spec (Permits D (.revoke r)) anything [] := by
    refine Prog.Spec.bind_of (Q := anything) Spec_revokeGreenlight (fun t replayed _ => ?_)
      fun _ _ _ => trivial
    cases replayed with
    | true => trivial
    | false =>
      refine Prog.Spec.bind_of (Q := anything) (Spec_revokeUnused _ _ _)
        (fun u revokedIntents _ => ?_) fun _ _ _ => trivial
      simp only [Prog.bind_eq]
      split
      · refine (Prog.Spec_ask_bind _ _).2 ⟨trivial, fun recorded => ?_⟩
        exact (Prog.Spec_ofExcept_bind _ _ _).2 ⟨fun _ _ => trivial, fun _ _ => trivial⟩
      · trivial
  refine Prog.Spec.bind_of (Q := anything) ((Prog.Spec_attempt _ _).2 hrevoke)
    (fun t outcome _ => ?_) fun _ _ _ => trivial
  cases outcome with
  | ok reply => trivial
  | error e =>
    simp only
    unfold answerRevocation
    split
    case h_3 => split <;> trivial
    all_goals trivial

theorem Spec_disconnectSocialChannel (tenantId channelId : Str) :
    (disconnectSocialChannel tenantId channelId).Spec (Permits D (.disconnect tenantId channelId))
      anything [] := by
  have hdelete (revokedIntents : Nat) (t : Trace sig) :
      (deleteConnection tenantId channelId revokedIntents).Spec
        (Permits D (.disconnect tenantId channelId)) anything t := by
    refine (Prog.Spec_ofExcept_bind _ _ _).2 ⟨fun _ _ => trivial, fun _ _ => ?_⟩
    refine (Prog.Spec_call_bind _ _).2 ⟨trivial, fun disconnected => ?_⟩
    cases disconnected with
    | false => trivial
    | true =>
      refine (Prog.Spec_ask_bind _ _).2 ⟨trivial, fun recorded => ?_⟩
      exact (Prog.Spec_ofExcept_bind _ _ _).2 ⟨fun _ _ => trivial, fun _ _ => trivial⟩
  unfold disconnectSocialChannel
  split
  · trivial
  refine (Prog.Spec_ofExcept_bind _ _ _).2 ⟨fun _ _ => trivial, fun _ _ => ?_⟩
  refine (Prog.Spec_call_bind _ _).2 ⟨trivial, fun connection => ?_⟩
  cases connection with
  | none => exact hdelete 0 _
  | some connection =>
    exact Prog.Spec.bind_of (Q := anything) (Spec_revokeUnused _ _ _)
      (fun u revokedIntents _ => hdelete revokedIntents u) fun _ _ _ => trivial

/-- A request, in every environment. -/
theorem Spec_program (request : Request) :
    (request.program D).Spec (Permits D request) anything [] := by
  cases request with
  | publish r => exact Spec_publishSocialArtifact
  | revoke r => exact Spec_revokeRunGreenlight
  | disconnect tenantId channelId => exact Spec_disconnectSocialChannel tenantId channelId

end

/-! ## What a reservation rests on -/

/-- At some moment of the run the stores were such. -/
def Once (D : Deployment) (requests : Nat → Request) (start : Stores) (L : History)
    (φ : Stores → Prop) : Prop :=
  ∃ K M d, L = K ++ M ∧ Run D requests start K d ∧ φ d.world

/-- The Greenlight of the run is active, is the one the intent names, and covers its channel and its
artifact, which has this hash. -/
def Covers (intent : SocialPublicationIntent) (hash : Str) (run : ExecutionRun) : Prop :=
  ∃ greenlight, activeGreenlight run = .ok greenlight ∧
    greenlight.greenlightId = intent.greenlightId ∧
    greenlight.fencingToken = intent.greenlightFencingToken ∧
    intent.channelId ∈ greenlight.authorizedChannels.map TargetPlatform.value ∧
    0 ≤ intent.budgetCents ∧ intent.budgetCents ≤ greenlight.authorizedBudgetCents ∧
    frozenHash greenlight intent.artifactId = some hash

/-- The artifact is the one of the intent, and its text for the channel is the content. -/
structure Carries (P : Platform) (intent : SocialPublicationIntent) (artifact : Artifact)
    (hash : Str) : Prop where
  artifactId : artifact.artifactId = intent.artifactId
  kind : artifact.kind = lit "copy_deck"
  approved : approvedHash P artifact = .ok hash
  artifactHash : (canonicalJson artifact.toJson >>= P.digest) = .ok intent.artifactHash
  content : ∃ content, channelContent artifact intent.channelId = .ok content ∧
    P.digest (strip content) = .ok intent.contentHash

/-- The checks on a political run passed. -/
def Politic (D : Deployment) (run : ExecutionRun) : Prop :=
  ∃ greenlight, activeGreenlight run = .ok greenlight ∧ checkEligible run = .ok () ∧
    checkCompliance D.platform run greenlight = .ok ()

/-- The media of the intent, live for the run. -/
def LiveFor (intent : SocialPublicationIntent) (mediaId : Str) (w : Stores) : Prop :=
  ∃ row mediaHash now, w.mediaRow intent.tenantId mediaId = some row ∧
    intent.mediaHash = some mediaHash ∧ row.record.sha256 = mediaHash ∧
    row.record.runId = intent.runId ∧ row.record.revokedAt = none ∧
    now < row.record.expiresAt

/-- The stored bytes have the hash of the intent. -/
def BytesOf (P : Platform) (intent : SocialPublicationIntent) (mediaId : Str) (w : Stores) : Prop :=
  ∃ content, w.getContent intent.tenantId mediaId = .ok content ∧
    intent.mediaHash = some (P.sha256 content)

/-- What the reservation of an intent rests on. -/
structure Released (D : Deployment) (requests : Nat → Request) (start : Stores) (L : History)
    (r : PublishRequest) (intent : SocialPublicationIntent) : Prop where
  tenantId : intent.tenantId = r.tenantId
  runId : intent.runId = r.runId
  channelId : intent.channelId = r.channelId
  greenlight : ∃ artifact hash, Carries D.platform intent artifact hash ∧
    Once D requests start L fun w => ∃ run, w.getRun r.tenantId r.runId = some run ∧
      Covers intent hash run
  confirmed : Once D requests start L fun w => ∃ run, w.getRun r.tenantId r.runId = some run ∧
    politicalGate D.platform D.politicalPublicationEnabled r run =
      .ok (.passed intent.confirmationHash)
  political : Once D requests start L fun w => ∃ run, w.getRun r.tenantId r.runId = some run ∧
    Politic D run
  account : Once D requests start L fun w => ∃ connection,
    w.getConnection r.tenantId r.channelId = some connection ∧
      connection.accountId = intent.accountId
  media : intent.channelId = lit "instagram" → ∃ mediaId,
    Once D requests start L (LiveFor intent mediaId) ∧
      Once D requests start L (BytesOf D.platform intent mediaId)

section
variable {D : Deployment} {requests : Nat → Request} {start : Stores} {L : History} {c : State}

theorem Once.imp {φ ψ : Stores → Prop} (h : Once D requests start L φ) (hφ : ∀ w, φ w → ψ w) :
    Once D requests start L ψ := by
  obtain ⟨K, M, d, hL, hrun, hd⟩ := h
  exact ⟨K, M, d, hL, hrun, hφ _ hd⟩

/-- What a transaction answered, it answered on the stores of its moment. -/
theorem Run.once (h : Run D requests start L c) {i : Nat} {o : Access} {a : accesses.Ans o}
    (he : called o a ∈ L.trace i) : Once D requests start L fun w => (o.run w).1 = a := by
  obtain ⟨K, M, rfl⟩ := List.append_of_mem (Log.mem_trace.1 he)
  obtain ⟨d, d', hbefore, hstep, -⟩ := Steps.split h
  refine ⟨K, _, d, rfl, hbefore, ?_⟩
  cases hstep with
  | act _ _ hex => exact (Prod.mk.inj (Option.some.inj hex)).1

/-- A run that was read was stored. -/
theorem Run.once_read (h : Run D requests start L c) {i : Nat} {tenantId runId : Str}
    {run : ExecutionRun} {φ : ExecutionRun → Prop} (he : ReadRun (L.trace i) tenantId runId run)
    (hφ : φ run) :
    Once D requests start L fun w => ∃ run, w.getRun tenantId runId = some run ∧ φ run :=
  (h.once he).imp fun _ hw => ⟨run, hw, hφ⟩

theorem checkEffect_ok {effect : Effect} {run : ExecutionRun}
    (h : checkEffect effect run = .ok ()) : ∃ greenlight, activeGreenlight run = .ok greenlight ∧
      greenlight.greenlightId = effect.greenlightId ∧
      greenlight.fencingToken = effect.fencingToken ∧
      greenlight.approvedArtifactIds = effect.artifactIds ∧
      greenlight.approvedArtifactHashes = effect.artifactHashes ∧
      effect.channel ∈ greenlight.authorizedChannels.map TargetPlatform.value ∧
      0 ≤ effect.budgetCents ∧ effect.budgetCents ≤ greenlight.authorizedBudgetCents := by
  obtain ⟨greenlight, hactive, h⟩ := exceptBind_ok h
  obtain ⟨hid, h⟩ := checkBind_ok.1 h
  obtain ⟨hfence, h⟩ := checkBind_ok.1 h
  obtain ⟨⟨hids, hhashes⟩, h⟩ := checkBind_ok.1 h
  obtain ⟨hchannel, h⟩ := checkBind_ok.1 h
  exact ⟨greenlight, hactive, hid, hfence, hids, hhashes, hchannel, check_ok.1 h⟩

theorem checkFrozen_ok {P : Platform} {greenlight : Greenlight} {artifact : Artifact}
    {notApproved mismatch : String}
    (h : checkFrozen P greenlight artifact notApproved mismatch = .ok ()) :
    ∃ hash, frozenHash greenlight artifact.artifactId = some hash ∧
      approvedHash P artifact = .ok hash := by
  obtain ⟨frozen, hfrozen, h⟩ := exceptBind_ok h
  obtain ⟨actual, hactual, h⟩ := exceptBind_ok h
  obtain rfl := check_ok.1 h
  cases hlookup : frozenHash greenlight artifact.artifactId with
  | none =>
    rw [hlookup] at hfrozen
    cases hfrozen
  | some hash =>
    rw [hlookup] at hfrozen
    cases hfrozen
    exact ⟨_, rfl, hactual⟩

/-- An artifact of a kind that a request names is one of the run. -/
theorem elim_filter_ok {found : Option Artifact} {kind : String} {e : Exn} {artifact : Artifact}
    (h : (found.filter (·.kind == lit kind)).elim (.error e) .ok = (.ok artifact : Except Exn _)) :
    found = some artifact ∧ artifact.kind = lit kind := by
  cases hfound : found.filter (·.kind == lit kind) with
  | none =>
    rw [hfound] at h
    cases h
  | some a =>
    rw [hfound] at h
    cases h
    obtain ⟨hsome, hkind⟩ := Option.filter_eq_some_iff.1 hfound
    exact ⟨hsome, beq_iff_eq.1 hkind⟩

theorem artifactById_mem {run : ExecutionRun} {artifactId : Str} {artifact : Artifact}
    (h : artifactById run artifactId = some artifact) :
    artifact ∈ run.artifacts ∧ artifact.artifactId = artifactId :=
  ⟨List.mem_reverse.1 (List.mem_of_find?_eq_some h), by simpa using List.find?_some h⟩

/-- What is copied is an artifact of the run that the Greenlight froze. -/
theorem approvedCopy_ok {P : Platform} {run : ExecutionRun} {greenlight : Greenlight}
    {artifactId channelId : Str} {copy : Copy}
    (h : approvedCopy P run greenlight artifactId channelId = .ok copy) :
    artifactById run artifactId = some copy.artifact ∧ copy.artifact.kind = lit "copy_deck" ∧
      (∃ hash, frozenHash greenlight copy.artifact.artifactId = some hash ∧
        approvedHash P copy.artifact = .ok hash) ∧
      (canonicalJson copy.artifact.toJson >>= P.digest) = .ok copy.artifactHash ∧
      channelContent copy.artifact channelId = .ok copy.content := by
  obtain ⟨artifact, hfound, h⟩ := exceptBind_ok h
  obtain ⟨_, hfrozen, h⟩ := exceptBind_ok h
  obtain ⟨document, hdocument, h⟩ := exceptBind_ok h
  obtain ⟨artifactHash, hdigest, h⟩ := exceptBind_ok h
  obtain ⟨content, hcontent, h⟩ := exceptBind_ok h
  cases h
  obtain ⟨hsome, hkind⟩ := elim_filter_ok hfound
  exact ⟨hsome, hkind, checkFrozen_ok hfrozen, exceptBind_ok_iff.2 ⟨document, hdocument, hdigest⟩,
    hcontent⟩

theorem Prepared.covers {P : Platform} {r : PublishRequest} {confirmationHash : Option Str}
    {t : Trace sig} {run : ExecutionRun} {greenlight : Greenlight} {copy : Copy}
    {media : Option MediaReference} {connection : SocialConnection}
    {command : SocialPublicationCommand} {intent : SocialPublicationIntent}
    (h : Prepared P r confirmationHash t run greenlight copy media connection command)
    (hi : Builds P command intent) :
    ∃ hash checked, Carries P intent copy.artifact hash ∧ ReadRun t r.tenantId r.runId checked ∧
      Covers intent hash checked := by
  obtain ⟨⟨contentHash, mediaUrlHash, _, _, _, _, _, -, -, -, -, rfl⟩, hdigest⟩ := hi
  obtain ⟨hfound, hkind, ⟨hash, hfrozen, happroved⟩, hhash, hcontent⟩ := approvedCopy_ok h.copied
  obtain ⟨checked, hread, heffect⟩ := h.authorized
  obtain ⟨g, hactive, hid, hfence, hids, hhashes, hchannel, hbudget⟩ := checkEffect_ok heffect
  obtain rfl := h.command
  have hsame : frozenHash g copy.artifact.artifactId = some hash := by
    rw [← hfrozen, frozenHash, frozenHash, hids, hhashes]
    rfl
  exact ⟨hash, checked, ⟨rfl, hkind, happroved, hhash, copy.content, hcontent, hdigest⟩, hread,
    g, hactive, hid, hfence, hchannel, hbudget.1, hbudget.2, hsame⟩

/-- What was read of the media was stored. -/
theorem Run.released_media (h : Run D requests start L c) {i : Nat} {r : PublishRequest}
    {reference : MediaReference} {intent : SocialPublicationIntent}
    (hread : ReadMedia D.platform r (L.trace i) reference) (htenant : intent.tenantId = r.tenantId)
    (hrun : intent.runId = r.runId) (hhash : intent.mediaHash = some reference.sha256) :
    Once D requests start L (LiveFor intent reference.mediaId) ∧
      Once D requests start L (BytesOf D.platform intent reference.mediaId) := by
  obtain ⟨⟨record, now, hmedia, -, hlive⟩, content, hcontent, hsha⟩ := hread
  simp only [liveMedia, Bool.and_eq_true, beq_iff_eq, Option.isNone_iff_eq_none,
    decide_eq_true_eq] at hlive
  obtain ⟨⟨⟨⟨hrunId, -⟩, hrevoked⟩, hnow⟩, hrecord⟩ := hlive
  refine ⟨(h.once hmedia).imp fun w hw => ?_, (h.once hcontent).imp fun w hw => ?_⟩
  · obtain ⟨row, hrow, rfl⟩ := Option.map_eq_some_iff.1 hw
    exact ⟨row, reference.sha256, now, htenant ▸ hrow, hhash, hrecord, hrunId.trans hrun.symm,
      hrevoked, hnow⟩
  · exact ⟨content, htenant ▸ hw, by rw [hhash, hsha]⟩

end

/-! ## A sample run -/

namespace Sample

def platform : Platform :=
  { Publication.Sample.platform with sha256 := fun _ => List.replicate 64 (Fin.ofNat _ 0x30) }

def authority : SocialPublicationAuthority :=
  { Publication.Sample.authority with
    xConsumerKey := lit "key"
    xConsumerSecret := lit "secret" }

def deployment : Deployment := ⟨platform, authority, false⟩

def draft : BriefDraft where
  title := lit "T"
  objective := lit "O"
  audience := lit "A"
  platforms := [.x]

theorem draft_checked : draft.postInit = .ok () := rfl

/-- A copy deck for X. -/
def copyDeck : Artifact where
  artifactId := lit "copy"
  kind := lit "copy_deck"
  title := lit "Copy"
  createdBy := .writer
  payload := [(lit "variants", .obj [(lit "x", .obj [(lit "hook", .str (lit "Launch day"))])])]

def greenlightDraft : GreenlightDraft where
  greenlightId := lit "g"
  runId := lit "r"
  decision := .approved
  reviewer := lit "reviewer"
  note := []
  decidedAt := lit "2026-01-01T00:00:00+00:00"
  approvedArtifactIds := [lit "copy"]
  approvedArtifactHashes := [lit "sha256-" ++ List.replicate 64 (Fin.ofNat _ 0x30)]
  authorizedChannels := [.x]

theorem greenlightDraft_checked : greenlightDraft.postInit = .ok () := rfl

/-- A completed run with its Greenlight. -/
def run : ExecutionRun where
  runId := lit "r"
  brief := ⟨draft, draft_checked⟩
  status := .completed
  startedAt := lit "2026-01-01T00:00:00+00:00"
  agentStates _ := {}
  artifacts := [copyDeck]
  greenlight := some ⟨greenlightDraft, greenlightDraft_checked⟩
  execution := { state := .completed, nextStation := [], leased := RunExecution.unleased }

/-- The connected account. -/
def connection : SocialConnectionRecord :=
  ⟨lit "t", lit "x", ⟨lit "a", lit "user", lit "e", none⟩⟩

/-- The run is stored and the account connected. -/
def stores : Stores where
  connections := Table.empty.replace connection
  intents := .empty
  runs := Table.empty.replace ⟨lit "t", run⟩
  media := .empty

/-- A request to publish the copy deck. -/
def publishRequest : PublishRequest where
  tenantId := lit "t"
  runId := lit "r"
  channelId := lit "x"
  request := ⟨lit "copy", none, lit "g", 1, []⟩
  idempotencyKey := lit "launch-key-1"

theorem instant_inRange : 0 < 3652059 * dayMicros := by decide

def instant : Datetime := ⟨0, instant_inRange⟩

/-- What the outside answers; no command was recorded before. -/
def oracle : Oracle questions
  | .account o => Reauthorize.Sample.oracle o
  | .utcNow => instant
  | .stationClock => fun _ => lit "2026-01-01T00:00:00+00:00"
  | .commandReplay .. => .ok false
  | .auditFault => none
  | .recordRevokedIntents .. => .ok ()

/-- Request `i` moves `n` times. -/
def moves (i n : Nat) : List (Choice (Oracle questions) Change) :=
  List.replicate n (.act i oracle)

/-- Request 0 obtains the reservation of an intent. -/
def reservationOf : Entry sig Change → Option SocialPublicationIntent
  | .act 0 ⟨.inr (.account (.publication (.reserve intent))), .ok .inserted⟩ => some intent
  | _ => none

theorem reservationOf_sound {e : Entry sig Change} {intent : SocialPublicationIntent}
    (h : reservationOf e = some intent) :
    e = .act 0 (called (.account (.publication (.reserve intent))) (.ok .inserted)) := by
  unfold reservationOf at h
  split at h
  · cases h
    rfl
  · cases h

end Sample

/-- A schedule whose outcome passes a test yields a run. -/
theorem Run.of_schedule {D : Deployment} {requests : Nat → Request} {start : Stores}
    (schedule : List (Choice (Oracle questions) Change)) (test : History → State → Prop)
    [∀ L c, Decidable (test L c)]
    (h : (((service.machine questions).simulate schedule
      (.start start fun i => (requests i).program D)).map fun r => decide (test r.1 r.2)) =
        some true) :
    ∃ L c, Run D requests start L c ∧ test L c :=
  Machine.exists_run h

end Release

end AgencyRuntime
