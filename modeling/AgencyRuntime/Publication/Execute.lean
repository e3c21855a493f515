import AgencyRuntime.Publication.Chain

/-!
# What `execute` does

The specification of `execute` over its own trace, assembled from those of the two chains, and the
calls of the publication service that a run interleaves.
-/

namespace AgencyRuntime

open Effects

/-- The command `execute` works with: `_validate_command` strips the content. -/
def SocialPublicationCommand.normalized (command : SocialPublicationCommand) :
    SocialPublicationCommand :=
  { command with content := Py.strip command.content }

namespace Publication

def reservationOf : Event sig → Option (SocialPublicationIntent × Except Exn Reserved)
  | ⟨.inr (.reserve intent), answer⟩ => some (intent, answer)
  | _ => none

def connectionOf : Event sig → Option (Option SocialConnection)
  | ⟨.inl (.getConnection _ _), connection⟩ => some connection
  | _ => none

/-- The reservations a program asked for, with the store's answers. -/
def reservations (t : Trace sig) : List (SocialPublicationIntent × Except Exn Reserved) :=
  t.filterMap reservationOf

/-- What the connection store answered. -/
def connections (t : Trace sig) : List (Option SocialConnection) := t.filterMap connectionOf

@[simp] theorem reservations_append (t u : Trace sig) :
    reservations (t ++ u) = reservations t ++ reservations u :=
  List.filterMap_append
@[simp] theorem connections_append (t u : Trace sig) :
    connections (t ++ u) = connections t ++ connections u :=
  List.filterMap_append

section
variable (encrypted aad : Str) (tokens : Option Obj) (t : Trace sig)

@[simp] theorem sent_decrypt : sent (asked (.decrypt encrypted aad) tokens :: t) = sent t := rfl
@[simp] theorem replies_decrypt :
    replies (asked (.decrypt encrypted aad) tokens :: t) = replies t := rfl
@[simp] theorem moves_decrypt : moves (asked (.decrypt encrypted aad) tokens :: t) = moves t := rfl
@[simp] theorem decrypted_decrypt :
    decrypted (asked (.decrypt encrypted aad) tokens :: t) = tokens :: decrypted t := rfl

end

/-- The trace holds an executable reservation of `intent`. -/
def Granted (t : Trace sig) (intent : SocialPublicationIntent) : Prop :=
  (intent, .ok .inserted) ∈ reservations t

/-- Why a publication may be recorded as failed: the credential could not be decrypted, or a
provider rejected a request. -/
def FailureCause (P : Platform) (t : Trace sig) : Prop :=
  none ∈ decrypted t ∨ ∃ x ∈ replies t, RejectsAt P x.1 x.2

/-- What `execute` may do for a reserved intent, over the trace since its reservation. -/
def ReservedPermits (P : Platform) (intent : SocialPublicationIntent) (t : Trace sig) :
    sig.Op → Prop
  | .inl (.send r) =>
    (r.phase.startsChain = true → sent t = []) ∧
      (r.phase.createsPost = true → ∀ q ∈ sent t, q.phase.createsPost = false) ∧
      (r.phase = .instagramMediaPublish → Recorded t ∧ Finished P t) ∧
      (r.phase = .xPostCreate → intent.channelId = Py.lit "x")
  | .inl (.getConnection ..) => False
  | .inl _ => True
  | .inr (.transition tenantId intentId fence change _) =>
    Names intent t tenantId intentId fence ∧ Py.encodable change.failureReason = true ∧
      change.status ≠ .revoked ∧ (change.status = .failed → FailureCause P t)
  | .inr (.get tenantId intentId) => ∃ fence, Names intent t tenantId intentId fence
  | .inr _ => False

/-- What `execute` has done for a reserved intent when it is over; `C` says that nothing raised an
exception it does not catch. -/
structure ReservedResult (P : Platform) (C : Trace sig → Prop) (t : Trace sig) : Prop where
  settled : (∃ m ∈ moves t, m.change.status ≠ .pending) ↔ C t
  failed : (∃ m ∈ moves t, m.change.status = .failed) ↔ FailureCause P t
  only : FailureCause P t → ∀ m ∈ moves t,
    m.change.status = .pending ∨ m.change.status = .failed
  late : Posted t → FailureCause P t → ∃ x ∈ replies t, x.1.verifies = true ∧ Rejects P x.2
  published : (∃ q ∈ sent t, q.phase = .instagramMediaPublish) ↔ Finished P t

/-- Nothing that `execute` does for a reserved intent raises an exception it does not catch. -/
def ChannelSettles (P : Platform) (A : SocialPublicationAuthority)
    (command : SocialPublicationCommand) (expectedUsername : Str) (t : Trace sig) : Prop :=
  ∀ tokens, some tokens ∈ decrypted t →
    if command.channelId = Py.lit "x" then XSettles P A command tokens t
    else InstagramSettles P command tokens expectedUsername t

/-- A transition to a final status, with what it raises ignored: `_mark_unknown`, `_mark_failed`. -/
theorem Spec_markQuietly (intent : SocialPublicationIntent) (change : Change)
    (hv : change.validate intent.tenantId intent.intentId intent.executionFencingToken = .ok ()) :
    (swallowStateError (transition intent.tenantId intent.intentId intent.executionFencingToken
      change)).Spec (TransitionPermits intent.tenantId intent.intentId intent.executionFencingToken
        change) (fun t _ => (sent t = [] ∧ replies t = [] ∧ decrypted t = []) ∧
        (∀ m ∈ moves t, m.change = change) ∧ moves t ≠ []) [] := by
  have hpost : ∀ t r, TransitionTrace intent.tenantId intent.intentId intent.executionFencingToken
      change t r → (sent t = [] ∧ replies t = [] ∧ decrypted t = []) ∧
        (∀ m ∈ moves t, m.change = change) ∧ moves t ≠ [] := by
    intro t r h
    obtain ⟨h1, h2, h3, h4⟩ := h.adds
    obtain ⟨m, hm, -⟩ := h.moves_ne_nil hv
    exact ⟨⟨h1, h2, h3⟩, fun m hm => (h4 m hm).2.2.2, List.ne_nil_of_mem hm⟩
  rw [swallowStateError, Prog.Spec_tryCatch, Prog.bind_eq, Prog.Spec_bind]
  refine (Spec_transition _ _ _ _).mono (fun _ _ h => h) fun t r h => ?_
  cases r with
  | ok a => exact hpost t _ h
  | error e =>
    simp only [Prog.bindPost_error, Prog.catchPost_error]
    split
    · exact hpost t _ h
    · exact hpost t _ h

/-- `execute` may do the operations of such a transition. -/
theorem TransitionPermits.reserved {P : Platform} {intent : SocialPublicationIntent}
    {t u : Trace sig} {change : Change} {o : sig.Op}
    (h : TransitionPermits intent.tenantId intent.intentId intent.executionFencingToken change u o)
    (henc : Py.encodable change.failureReason = true) (hs : change.status ≠ .revoked)
    (hf : change.status = .failed → FailureCause P t) : ReservedPermits P intent (t ++ u) o := by
  rcases o with (_ | _ | _ | _ | _ | _ | _ | _) | (_ | _ | _ | _ | _)
  case inl.clock => trivial
  case inr.get =>
    obtain ⟨rfl, rfl⟩ := h
    exact ⟨_, .inl ⟨rfl, rfl, rfl⟩⟩
  case inr.transition =>
    obtain ⟨rfl, rfl, rfl, rfl⟩ := h
    refine ⟨.inl ⟨rfl, rfl, rfl⟩, henc, hs, fun h => ?_⟩
    rcases hf h with h | ⟨x, hx, h⟩
    · exact .inl (by simp [h])
    · exact .inr ⟨x, by simp [hx], h⟩
  all_goals exact absurd h not_false

/-- So may it those of a chain, once the tokens are decrypted. -/
theorem ChainPermits.reserved {P : Platform} {intent : SocialPublicationIntent} {t : Trace sig}
    {o : sig.Op} {encrypted aad : Str} {tokens : Option Obj} (h : ChainPermits P intent t o) :
    ReservedPermits P intent ([asked (.decrypt encrypted aad) tokens] ++ t) o := by
  rcases o with (_ | _ | _ | _ | _ | _ | _ | _) | (_ | _ | _ | _ | _)
  case inl.send => exact h
  case inl.clock | inl.nonce | inl.timestamp | inl.sleep | inl.receive => trivial
  case inr.get =>
    obtain ⟨fence, h | ⟨row, hrow, h⟩⟩ := h
    · exact ⟨fence, .inl h⟩
    · exact ⟨fence, .inr ⟨row, List.mem_cons_of_mem _ hrow, h⟩⟩
  case inr.transition =>
    obtain ⟨hn, hs, hr⟩ := h
    refine ⟨?_, by rw [hr]; rfl, ?_, ?_⟩
    · rcases hn with h | ⟨row, hrow, h⟩
      · exact .inl h
      · exact .inr ⟨row, List.mem_cons_of_mem _ hrow, h⟩
    · rcases hs with hs | hs <;> rw [hs] <;> decide
    · rcases hs with hs | hs <;> rw [hs] <;> nofun
  all_goals exact absurd h not_false

/-- A mark passes the checks of `_transition`. -/
theorem validate_mark {intent : SocialPublicationIntent} {status : PublicationStatus} {reason : Str}
    (h : validateIntent intent = .ok ()) (hr : validateReason reason = .ok ()) :
    Change.validate { status, failureReason := reason } intent.tenantId intent.intentId
      intent.executionFencingToken = .ok () := by
  obtain ⟨⟨hid, ht, -⟩, -, hf⟩ := validateIntent_ok h
  have h1 : validateIdentity intent.tenantId intent.intentId = .ok () := by
    rw [validateIdentity, check_ok, ht, hid]
    rfl
  have h2 : check (1 ≤ intent.executionFencingToken)
      (.valueError "publication fence must be positive") = .ok () := check_ok.2 hf
  rw [Change.validate, h1]
  simp only [bind, Except.bind, h2, Option.elim]
  split
  · rfl
  · exact hr

theorem XSettles.congr {P : Platform} {A : SocialPublicationAuthority}
    {command : SocialPublicationCommand} {tokens : Obj} {t u : Trace sig}
    (h : replies t = replies u) (hs : XSettles P A command tokens t) :
    XSettles P A command tokens u :=
  ⟨hs.secrets, h ▸ hs.legible, h ▸ hs.comparable⟩

theorem InstagramSettles.congr {P : Platform} {command : SocialPublicationCommand} {tokens : Obj}
    {expectedUsername : Str} {t u : Trace sig} (h : replies t = replies u)
    (hs : InstagramSettles P command tokens expectedUsername t) :
    InstagramSettles P command tokens expectedUsername u :=
  ⟨hs.secret, h ▸ hs.legible, h ▸ hs.encodable, h ▸ hs.comparable⟩

/-- What `execute` knows of a validated command. -/
structure ValidCommand (command : SocialPublicationCommand) : Prop where
  content : Py.encodable command.content = true
  media : command.channelId ≠ Py.lit "x" →
    command.mediaUrl.isSome = true ∧ command.mediaHash.isSome = true

/-- The chain of the channel, in every environment. -/
theorem Spec_publish {P : Platform} {A : SocialPublicationAuthority}
    {command : SocialPublicationCommand} {intent : SocialPublicationIntent} {tokens : Obj}
    {expectedUsername : Str} (hc : ValidCommand command)
    (ha : Py.encodable command.accountId = true) (hch : intent.channelId = command.channelId) :
    (publish P A command intent tokens expectedUsername).Spec (ChainPermits P intent)
      (ChainResult P fun t => if command.channelId = Py.lit "x" then XSettles P A command tokens t
        else InstagramSettles P command tokens expectedUsername t) [] := by
  unfold publish
  split
  · next hx => exact Spec_publishX hc.content (hch.trans hx)
  · next h => exact Spec_publishInstagram hc.content ha (hc.media h)

/-- How `execute` records the end of a chain. -/
theorem Spec_settleOutcome {P : Platform} {C : Trace sig → Prop} {intent : SocialPublicationIntent}
    {t : Trace sig} {e : Exn} (before : Trace sig) (hi : validateIntent intent = .ok ())
    (h : ChainResult P C t (.error e)) :
    (settleOutcome intent e).Spec (fun u o => ReservedPermits P intent (before ++ t ++ u) o)
      (fun u _ => (sent u = [] ∧ replies u = [] ∧ decrypted u = []) ∧
        (moves u ≠ [] ↔ C t) ∧ ∀ m ∈ moves u, m.change.status ≠ .pending ∧
          (m.change.status = .failed ↔ ∃ x ∈ replies t, RejectsAt P x.1 x.2)) [] := by
  have hmark (change : Change) (e' : Exn)
      (hv : change.validate intent.tenantId intent.intentId intent.executionFencingToken = .ok ())
      (henc : Py.encodable change.failureReason = true) (hs : change.status ≠ .revoked)
      (hpending : change.status ≠ .pending) (hC : C t)
      (hf : change.status = .failed ↔ ∃ x ∈ replies t, RejectsAt P x.1 x.2) :
      ((swallowStateError (transition intent.tenantId intent.intentId intent.executionFencingToken
        change)).bind fun _ => (.raise e' : Program SocialPublicationIntent)).Spec
        (fun u o => ReservedPermits P intent (before ++ t ++ u) o)
        (fun u _ => (sent u = [] ∧ replies u = [] ∧ decrypted u = []) ∧
          (moves u ≠ [] ↔ C t) ∧ ∀ m ∈ moves u, m.change.status ≠ .pending ∧
            (m.change.status = .failed ↔ ∃ x ∈ replies t, RejectsAt P x.1 x.2)) [] := by
    rw [Prog.Spec_bind]
    refine (Spec_markQuietly intent change hv).mono
      (fun u o ho => ho.reserved henc hs fun h => ?_) fun u r ⟨hq, hm, hne⟩ => ?_
    · obtain ⟨x, hx, hr⟩ := hf.1 h
      exact .inr ⟨x, by simp [hx], hr⟩
    have hall : (sent u = [] ∧ replies u = [] ∧ decrypted u = []) ∧
        (moves u ≠ [] ↔ C t) ∧ ∀ m ∈ moves u, m.change.status ≠ .pending ∧
          (m.change.status = .failed ↔ ∃ x ∈ replies t, RejectsAt P x.1 x.2) :=
      ⟨hq, ⟨fun _ => hC, fun _ => hne⟩, fun m hmem => by rw [hm m hmem]; exact ⟨hpending, hf⟩⟩
    cases r <;> exact hall
  have hC (hcaught : e.caught = true) : C t := h.caught.1 fun e' he' => by cases he'; exact hcaught
  have hunknown := @validateReason_of_printable (Py.lit "provider_outcome_unknown") (by decide)
    (by decide) (by decide)
  unfold settleOutcome
  split
  · next rejection =>
    obtain ⟨-, hvalid, henc⟩ := failureReason_valid rejection
    exact hmark _ _ (validate_mark hi hvalid) henc nofun nofun (hC rfl)
      ⟨fun _ => h.rejected.1 ⟨_, rfl⟩, fun _ => rfl⟩
  · refine hmark _ _ (validate_mark hi hunknown.1) hunknown.2 nofun nofun (hC rfl)
      ⟨nofun, fun hx => ?_⟩
    obtain ⟨_, he⟩ := h.rejected.2 hx
    cases he
  · refine hmark _ _ (validate_mark hi hunknown.1) hunknown.2 nofun nofun (hC rfl)
      ⟨nofun, fun hx => ?_⟩
    obtain ⟨_, he⟩ := h.rejected.2 hx
    cases he
  · next h1 h2 h3 =>
    have hno : ¬ C t := by
      intro hC
      have := h.caught.2 hC e rfl
      cases e <;> first | exact h1 _ rfl | exact h2 _ rfl | exact h3 rfl | cases this
    refine ⟨⟨rfl, rfl, rfl⟩, ⟨fun h => absurd rfl h, fun h => absurd h hno⟩, ?_⟩
    intro m hm
    cases hm

/-- What `execute` does for a reserved intent, in every environment. -/
theorem Spec_executeReserved {P : Platform} {A : SocialPublicationAuthority}
    {command : SocialPublicationCommand} {connection : SocialConnection}
    {intent : SocialPublicationIntent} (hc : ValidCommand command)
    (hi : validateIntent intent = .ok ()) (ha : intent.accountId = command.accountId)
    (hch : intent.channelId = command.channelId) :
    (executeReserved P A command connection intent).Spec (ReservedPermits P intent)
      (fun t _ => ReservedResult P
        (ChannelSettles P A command connection.accountUsername) t) [] := by
  have hacc : Py.encodable command.accountId = true := by
    rw [← ha]
    exact Py.encodable_of_isascii (isascii_of_isIdentifier (validateIntent_ok hi).1.2.2)
  simp only [executeReserved, Prog.bind_eq]
  refine (Prog.Spec_ask_bind _ _).2 ⟨trivial, fun tokens => ?_⟩
  rw [List.nil_append]
  cases tokens with
  | none =>
    -- The credential cannot be decrypted.
    obtain ⟨hreason, henc⟩ := @validateReason_of_printable (Py.lit "credential_invalid") (by decide)
      (by decide) (by decide)
    simp only
    rw [Prog.Spec_bind]
    refine ((Spec_markQuietly intent _ (validate_mark hi hreason)).shift _).mono ?_ ?_
    · rintro _ o ⟨u, rfl, h⟩
      exact h.reserved henc nofun fun _ => .inl (by simp)
    · rintro _ r ⟨u, rfl, ⟨hs, hx, hd⟩, hm, hne⟩
      obtain ⟨m, hmem⟩ := List.exists_mem_of_ne_nil _ hne
      have hfailed : m.change.status = .failed := by rw [hm m hmem]
      have hres : ReservedResult P (ChannelSettles P A command connection.accountUsername)
          ([asked (.decrypt connection.encryptedTokens (connectionAad command.tenantId
            command.channelId)) none] ++ u) := by
        refine ⟨⟨fun _ => ?_, fun _ => ⟨m, by simpa using hmem, by rw [hfailed]; decide⟩⟩,
          ⟨fun _ => .inl (by simp), fun _ => ⟨m, by simpa using hmem, hfailed⟩⟩,
          fun _ m' hm' => .inr (by rw [hm m' (by simpa using hm')]), by simp [Posted, hx],
          ⟨by simp [hs], fun h => absurd h (not_finished_of_replies (by simp [hx]))⟩⟩
        intro tokens hmem
        simp [hd] at hmem
      cases r <;> exact hres
  | some tokens =>
    simp only
    rw [Prog.Spec_bind, Prog.Spec_tryCatch]
    refine ((Spec_publish hc hacc hch).shift _).mono ?_ ?_
    · rintro _ o ⟨u, rfl, h⟩
      exact h.reserved
    rintro _ r ⟨s, rfl, h⟩
    -- The replies since the reservation are those of the chain.
    have hsettles {u : Trace sig} (hx : replies u = []) (hd : decrypted u = []) :
        ChannelSettles P A command connection.accountUsername
          (asked (.decrypt connection.encryptedTokens (connectionAad command.tenantId
            command.channelId)) (some tokens) :: (s ++ u)) ↔
        if command.channelId = Py.lit "x" then XSettles P A command tokens s
        else InstagramSettles P command tokens connection.accountUsername s := by
      have hone : ∀ tokens', some tokens' ∈ decrypted (asked (.decrypt connection.encryptedTokens
          (connectionAad command.tenantId command.channelId)) (some tokens) :: (s ++ u)) ↔
          tokens' = tokens := by
        simp [h.decrypted, hd]
      have hreplies : replies (asked (.decrypt connection.encryptedTokens (connectionAad
          command.tenantId command.channelId)) (some tokens) :: (s ++ u)) = replies s := by
        simp [hx]
      unfold ChannelSettles
      simp only [hone, forall_eq]
      split
      · exact ⟨.congr hreplies, .congr hreplies.symm⟩
      · exact ⟨.congr hreplies, .congr hreplies.symm⟩
    have hfailure {u : Trace sig} (hx : replies u = []) (hd : decrypted u = []) :
        FailureCause P (asked (.decrypt connection.encryptedTokens (connectionAad
          command.tenantId command.channelId)) (some tokens) :: (s ++ u)) ↔
          ∃ x ∈ replies s, RejectsAt P x.1 x.2 := by
      simp [FailureCause, h.decrypted, hd, hx]
    have hlate {u : Trace sig} (hx : replies u = []) (hd : decrypted u = [])
        (hposted : Posted (asked (.decrypt connection.encryptedTokens (connectionAad
          command.tenantId command.channelId)) (some tokens) :: (s ++ u)))
        (hf : FailureCause P (asked (.decrypt connection.encryptedTokens (connectionAad
          command.tenantId command.channelId)) (some tokens) :: (s ++ u))) :
        ∃ x ∈ replies (asked (.decrypt connection.encryptedTokens (connectionAad
          command.tenantId command.channelId)) (some tokens) :: (s ++ u)),
          x.1.verifies = true ∧ Rejects P x.2 := by
      obtain ⟨x, hmem, hr⟩ := (hfailure hx hd).1 hf
      have hverifies := h.late (by simpa [Posted, hx] using hposted) x hmem hr
      refine ⟨x, by simp [hmem], hverifies, ?_⟩
      rcases hr with hr | ⟨hphase, -⟩
      · exact hr
      · rw [hphase] at hverifies
        cases hverifies
    have hpublished {u : Trace sig} (hs : sent u = []) (hx : replies u = []) :
        (∃ q ∈ sent (asked (.decrypt connection.encryptedTokens (connectionAad
          command.tenantId command.channelId)) (some tokens) :: (s ++ u)),
          q.phase = .instagramMediaPublish) ↔
        Finished P (asked (.decrypt connection.encryptedTokens (connectionAad
          command.tenantId command.channelId)) (some tokens) :: (s ++ u)) := by
      simpa [Finished, hs, hx] using h.published
    cases r with
    | ok a =>
      obtain ⟨m, hm, hsucceeded⟩ := h.completed a rfl
      have hC := h.caught.1 fun e he => by cases he
      have hno : ¬ ∃ x ∈ replies s, RejectsAt P x.1 x.2 := by
        intro hx
        obtain ⟨_, he⟩ := h.rejected.2 hx
        cases he
      have hres : ReservedResult P (ChannelSettles P A command connection.accountUsername)
          (asked (.decrypt connection.encryptedTokens (connectionAad command.tenantId
            command.channelId)) (some tokens) :: (s ++ [])) := by
        refine ⟨⟨fun _ => (hsettles rfl rfl).2 hC, fun _ => ⟨m, by simpa using hm, ?_⟩⟩,
          ⟨?_, fun hf => absurd ((hfailure rfl rfl).1 hf) hno⟩,
          fun hf => absurd ((hfailure rfl rfl).1 hf) hno, hlate rfl rfl, hpublished rfl rfl⟩
        · rw [hsucceeded]; decide
        · rintro ⟨m', hm', hf⟩
          rcases h.moved m' (by simpa using hm') with h | ⟨h, -⟩ <;> rw [h] at hf <;> cases hf
      simpa using hres
    | error e =>
      rw [Prog.catchPost_error, Prog.Spec_from]
      refine (Spec_settleOutcome [asked (.decrypt connection.encryptedTokens (connectionAad
        command.tenantId command.channelId)) (some tokens)] hi h).mono (fun _ _ h => h) ?_
      rintro u r ⟨⟨hs, hx, hd⟩, hne, hm⟩
      have hres : ReservedResult P (ChannelSettles P A command connection.accountUsername)
          (asked (.decrypt connection.encryptedTokens (connectionAad command.tenantId
            command.channelId)) (some tokens) :: (s ++ u)) := by
        refine ⟨?_, ?_, ?_, hlate hx hd, hpublished hs hx⟩
        · rw [hsettles hx hd]
          constructor
          · rintro ⟨m, hmem, hst⟩
            rcases List.mem_append.1 (by simpa using hmem) with hmem | hmem
            · rcases h.moved m hmem with h | ⟨-, hC, -⟩
              · exact absurd h hst
              · exact hC
            · exact hne.1 (List.ne_nil_of_mem hmem)
          · intro hC
            obtain ⟨m, hmem⟩ := List.exists_mem_of_ne_nil _ (hne.2 hC)
            exact ⟨m, by simp [hmem], (hm m hmem).1⟩
        · rw [hfailure hx hd]
          constructor
          · rintro ⟨m, hmem, hst⟩
            rcases List.mem_append.1 (by simpa using hmem) with hmem | hmem
            · rcases h.moved m hmem with h | ⟨h, -⟩ <;> rw [h] at hst <;> cases hst
            · exact (hm m hmem).2.1 hst
          · intro hrej
            obtain ⟨rejection, he⟩ := h.rejected.2 hrej
            have hC := h.caught.1 fun e' he' => by cases he; cases he'; rfl
            obtain ⟨m, hmem⟩ := List.exists_mem_of_ne_nil _ (hne.2 hC)
            exact ⟨m, by simp [hmem], (hm m hmem).2.2 hrej⟩
        · rw [hfailure hx hd]
          rintro ⟨x, hmem', hrej⟩ m hmem
          rcases List.mem_append.1 (by simpa using hmem) with hmem | hmem
          · rcases h.moved m hmem with h | ⟨-, -, hno⟩
            · exact .inl h
            · exact absurd hrej (hno x hmem')
          · exact .inr ((hm m hmem).2.2 ⟨x, hmem', hrej⟩)
      cases r with
      | ok a => simpa using hres
      | error e => simpa using hres

/-- The part of a trace before the reservation is asked for. -/
structure BeforeReservation (t : Trace sig) : Prop extends Quiet t where
  reservations : reservations t = []

/-- The intent is one that `_build_intent` builds for the command. -/
def BuiltFor (P : Platform) (command : SocialPublicationCommand)
    (intent : SocialPublicationIntent) : Prop :=
  ∃ contentHash mediaUrlHash binding bindingDigest idempotencyDigest intentId now,
    canonicalJson (.obj (bindingOf command contentHash mediaUrlHash)) = .ok binding ∧
      P.digest binding = .ok bindingDigest ∧ P.digest command.idempotencyKey = .ok idempotencyDigest ∧
      P.stableId "social-publication-intent" [.str command.tenantId, .str idempotencyDigest] 48 =
        .ok intentId ∧
      intent = pendingIntent command intentId contentHash mediaUrlHash idempotencyDigest
        bindingDigest now

theorem BuiltFor.status {P : Platform} {command : SocialPublicationCommand}
    {intent : SocialPublicationIntent} (h : BuiltFor P command intent) : intent.status = .pending := by
  obtain ⟨_, _, _, _, _, _, _, -, -, -, -, rfl⟩ := h
  rfl

/-- The intent was reserved, and `s` is what was done since. -/
def Since (t : Trace sig) (intent : SocialPublicationIntent) (s : Trace sig) : Prop :=
  ∃ before, BeforeReservation before ∧ t = before ++ called (.reserve intent) (.ok .inserted) :: s

theorem BeforeReservation.append {t u : Trace sig} (ht : BeforeReservation t)
    (hu : BeforeReservation u) : BeforeReservation (t ++ u) :=
  ⟨ht.toQuiet.append hu.toQuiet, by simp [ht.reservations, hu.reservations]⟩

theorem Since.mem {t s : Trace sig} {intent : SocialPublicationIntent} (h : Since t intent s) :
    called (.reserve intent) (.ok .inserted) ∈ t := by
  obtain ⟨before, -, rfl⟩ := h
  simp

/-- The executable reservation is the first one. -/
theorem Since.reservations {t s : Trace sig} {intent : SocialPublicationIntent}
    (h : Since t intent s) :
    Publication.reservations t = (intent, .ok .inserted) :: Publication.reservations s := by
  obtain ⟨before, hb, rfl⟩ := h
  rw [reservations_append, hb.reservations]
  rfl

theorem Since.sent {t s : Trace sig} {intent : SocialPublicationIntent} (h : Since t intent s) :
    Publication.sent t = Publication.sent s := by
  obtain ⟨before, hb, rfl⟩ := h
  rw [sent_append, hb.sent]
  rfl

/-- What `execute` may do before the reservation, and the reservation itself. -/
def StartPermits (P : Platform) (command : SocialPublicationCommand) : sig.Op → Prop
  | .inr (.reserve intent) => BuiltFor P command intent ∧ validateIntent intent = .ok ()
  | .inl .clock | .inl (.getConnection ..) => True
  | _ => False

/-- What `execute` may do after a trace. -/
def ExecutePermits (P : Platform) (command : SocialPublicationCommand) (t : Trace sig)
    (o : sig.Op) : Prop :=
  (BeforeReservation t ∧ StartPermits P command o) ∨
    ∃ intent s, Since t intent s ∧ ReservedPermits P intent s o

/-- What `execute` comes to. -/
inductive ExecuteTrace (P : Platform) (A : SocialPublicationAuthority)
    (command : SocialPublicationCommand) (t : Trace sig) :
    Except Exn SocialPublicationResult → Prop
  | early {e : Exn} : BeforeReservation t → ExecuteTrace P A command t (.error e)
  | refused {before : Trace sig} {intent : SocialPublicationIntent} {e : Exn} :
      BeforeReservation before → t = before ++ [called (.reserve intent) (.error e)] →
      ExecuteTrace P A command t (.error e)
  | existing {before : Trace sig} {intent record : SocialPublicationIntent} :
      BeforeReservation before →
      t = before ++ [called (.reserve intent) (.ok (.existing record))] →
      ExecuteTrace P A command t
        (if record.status = .succeeded then .ok (.fromIntent record true)
          else .error (.socialPublicationBlocked record.status.text))
  | granted {before s : Trace sig} {intent : SocialPublicationIntent}
      {connection : SocialConnection} {r : Except Exn SocialPublicationResult} :
      BeforeReservation before → connections before = [some connection] →
      t = before ++ called (.reserve intent) (.ok .inserted) :: s →
      ReservedResult P (ChannelSettles P A command.normalized connection.accountUsername) s →
      ExecuteTrace P A command t r

/-- The result of `execute` when its reservation is not executable. -/
inductive RefusedWith : Except Exn Reserved → Except Exn SocialPublicationResult → Prop
  | error {e : Exn} : RefusedWith (.error e) (.error e)
  | replayed {record : SocialPublicationIntent} : record.status = .succeeded →
      RefusedWith (.ok (.existing record)) (.ok (.fromIntent record true))
  | blocked {record : SocialPublicationIntent} : record.status ≠ .succeeded →
      RefusedWith (.ok (.existing record)) (.error (.socialPublicationBlocked record.status.text))

/-- Without an executable reservation `execute` sends nothing. -/
theorem ExecuteTrace.refusedWith {P : Platform} {A : SocialPublicationAuthority}
    {command : SocialPublicationCommand} {t : Trace sig} {r : Except Exn SocialPublicationResult}
    {intent : SocialPublicationIntent} {answer : Except Exn Reserved}
    {rest : List (SocialPublicationIntent × Except Exn Reserved)}
    (h : ExecuteTrace P A command t r) (ht : reservations t = (intent, answer) :: rest)
    (hno : answer ≠ .ok .inserted) : sent t = [] ∧ RefusedWith answer r := by
  cases h with
  | early hb =>
    rw [hb.reservations] at ht
    cases ht
  | refused hb =>
    subst t
    rw [reservations_append, hb.reservations] at ht
    cases ht
    exact ⟨by rw [sent_append, hb.sent]; rfl, .error⟩
  | @existing before _ record hb =>
    subst t
    rw [reservations_append, hb.reservations] at ht
    cases ht
    refine ⟨by rw [sent_append, hb.sent]; rfl, ?_⟩
    split
    · next hs => exact .replayed hs
    · next hs => exact .blocked hs
  | granted hb =>
    subst t
    rw [reservations_append, hb.reservations] at ht
    exact absurd (Prod.mk.inj (List.cons.inj ht).1).2.symm hno

theorem reservationOf_ne_none (intent : SocialPublicationIntent) (answer : Except Exn Reserved) :
    reservationOf (called (.reserve intent) answer) ≠ none := nofun

/-- Only one event of a trace is its first reservation. -/
theorem first_reservation {a b s u : Trace sig} {x y : Event sig} (ha : reservations a = [])
    (hb : reservations b = []) (hx : reservationOf x ≠ none) (hy : reservationOf y ≠ none)
    (h : a ++ x :: s = b ++ y :: u) : a = b ∧ x = y ∧ s = u := by
  have hnone {c : Trace sig} (hc : reservations c = []) :
      ∀ e ∈ c, ¬ reservationOf e ≠ none :=
    fun e he hne => hne (List.filterMap_eq_nil_iff.1 hc e he)
  exact Trace.split_unique (hnone ha) (hnone hb) hx hy h

/-- What `execute` has done since its executable reservation. -/
theorem ExecuteTrace.since {P : Platform} {A : SocialPublicationAuthority}
    {command : SocialPublicationCommand} {before s : Trace sig} {intent : SocialPublicationIntent}
    {r : Except Exn SocialPublicationResult}
    (h : ExecuteTrace P A command (before ++ called (.reserve intent) (.ok .inserted) :: s) r)
    (hb : BeforeReservation before) :
    ∃ connection, connections before = [some connection] ∧
      ReservedResult P (ChannelSettles P A command.normalized connection.accountUsername) s := by
  generalize ht : before ++ called (.reserve intent) (.ok .inserted) :: s = t at h
  cases h with
  | early h0 =>
    have := h0.reservations
    rw [← ht, reservations_append, hb.reservations] at this
    cases this
  | refused h0 h1 | existing h0 h1 =>
    obtain ⟨-, h, -⟩ := first_reservation hb.reservations h0.reservations (reservationOf_ne_none _ _)
      (reservationOf_ne_none _ _) (ht.trans h1)
    cases h
  | @granted before' s' _ connection _ h0 hc h1 hres =>
    obtain ⟨rfl, -, rfl⟩ := first_reservation hb.reservations h0.reservations (reservationOf_ne_none _ _)
      (reservationOf_ne_none _ _) (ht.trans h1)
    exact ⟨connection, hc, hres⟩

/-- A validated command is the normalized one. -/
theorem validateCommand_ok {P : Platform} {command v : SocialPublicationCommand}
    (h : validateCommand P command = .ok v) : v = command.normalized ∧ ValidCommand v := by
  obtain ⟨_, hcontent, h⟩ := exceptBind_ok h
  obtain ⟨_, _, h⟩ := exceptBind_ok h
  obtain ⟨_, hchannel, h⟩ := exceptBind_ok h
  obtain ⟨_, _, h⟩ := exceptBind_ok h
  obtain ⟨_, _, h⟩ := exceptBind_ok h
  obtain ⟨_, _, h⟩ := exceptBind_ok h
  obtain ⟨_, _, h⟩ := exceptBind_ok h
  obtain ⟨_, _, h⟩ := exceptBind_ok h
  obtain ⟨_, _, h⟩ := exceptBind_ok h
  obtain ⟨_, _, h⟩ := exceptBind_ok h
  obtain ⟨_, hmedia, h⟩ := exceptBind_ok h
  cases h
  refine ⟨rfl, (Py.encode_ok.1 hcontent).1, fun hx => check_ok.1 hmedia ?_⟩
  have hchannel := check_ok.1 hchannel
  simp only [isChannel, Bool.or_eq_true, beq_iff_eq] at hchannel
  exact hchannel.resolve_left hx

/-- The checks before the intent is built. -/
theorem Spec_authorizedConnection {P : Platform} {A : SocialPublicationAuthority}
    {validated : SocialPublicationCommand} :
    (authorizedConnection P A validated).Spec
      (fun t o => BeforeReservation t ∧ StartPermits P validated o)
      (fun t r => BeforeReservation t ∧ ∀ c, r = .ok c →
        connections t = [some c] ∧ c.accountId = validated.accountId) [] := by
  simp only [authorizedConnection, Prog.bind_eq]
  refine (Prog.Spec_ask_bind _ _).2 ⟨⟨⟨.nil, rfl⟩, trivial⟩, fun connection => ?_⟩
  cases connection with
  | none => exact ⟨⟨⟨rfl, rfl, rfl, rfl⟩, rfl⟩, fun c h => by cases h⟩
  | some connection =>
    simp only
    rw [Prog.Spec_bind, Prog.Spec_raiseIf]
    refine ⟨fun _ => ⟨⟨⟨rfl, rfl, rfl, rfl⟩, rfl⟩, fun c h => by cases h⟩, fun hacc => ?_⟩
    rw [Prog.bindPost_ok]
    refine (Prog.Spec_ask_bind _ _).2 ⟨⟨⟨⟨rfl, rfl, rfl, rfl⟩, rfl⟩, trivial⟩, fun now => ?_⟩
    rw [Prog.Spec_bind, Prog.Spec_raiseIf]
    refine ⟨fun _ => ⟨⟨⟨rfl, rfl, rfl, rfl⟩, rfl⟩, fun c h => by cases h⟩, fun _ => ?_⟩
    rw [Prog.bindPost_ok, Prog.Spec_bind, Prog.Spec_raiseIf]
    refine ⟨fun _ => ⟨⟨⟨rfl, rfl, rfl, rfl⟩, rfl⟩, fun c h => by cases h⟩, fun _ => ?_⟩
    refine ⟨⟨⟨rfl, rfl, rfl, rfl⟩, rfl⟩, fun c h => ?_⟩
    cases h
    exact ⟨rfl, not_not.1 hacc⟩

/-- Building the intent asks for the time only. -/
theorem Spec_buildIntent {P : Platform} {command : SocialPublicationCommand} :
    (buildIntent P command).Spec (fun t o => BeforeReservation t ∧ StartPermits P command o)
      (fun t r => (BeforeReservation t ∧ connections t = []) ∧
        ∀ intent, r = .ok intent → BuiltFor P command intent) [] := by
  have hnil : BeforeReservation [] := ⟨.nil, rfl⟩
  have herr (e : Exn) : ∀ intent, (.error e : Except Exn SocialPublicationIntent) = .ok intent →
      BuiltFor P command intent := fun _ h => by cases h
  simp only [buildIntent, Prog.bind_eq]
  refine (Prog.Spec_ofExcept_bind _ _ _).2 ⟨fun e _ => ⟨⟨hnil, rfl⟩, herr e⟩, fun contentHash _ => ?_⟩
  refine (Prog.Spec_ofExcept_bind _ _ _).2 ⟨fun e _ => ⟨⟨hnil, rfl⟩, herr e⟩, fun urlHash _ => ?_⟩
  refine (Prog.Spec_ofExcept_bind _ _ _).2 ⟨fun e _ => ⟨⟨hnil, rfl⟩, herr e⟩, fun binding hb => ?_⟩
  refine (Prog.Spec_ofExcept_bind _ _ _).2 ⟨fun e _ => ⟨⟨hnil, rfl⟩, herr e⟩, fun digest hd => ?_⟩
  refine (Prog.Spec_ofExcept_bind _ _ _).2 ⟨fun e _ => ⟨⟨hnil, rfl⟩, herr e⟩, fun key hk => ?_⟩
  refine (Prog.Spec_ask_bind _ _).2 ⟨⟨hnil, trivial⟩, fun now => ?_⟩
  refine (Prog.Spec_ofExcept_bind _ _ _).2
    ⟨fun e _ => ⟨⟨⟨⟨rfl, rfl, rfl, rfl⟩, rfl⟩, rfl⟩, herr e⟩, fun intentId hid => ?_⟩
  refine ⟨⟨⟨⟨rfl, rfl, rfl, rfl⟩, rfl⟩, rfl⟩, fun intent h => ?_⟩
  cases h
  exact ⟨contentHash, urlHash, binding, digest, key, intentId, now, hb, hd, hk, hid, rfl⟩

/-- `execute`, in every environment. -/
theorem Spec_execute {P : Platform} {A : SocialPublicationAuthority}
    {command : SocialPublicationCommand} :
    (execute P A command).Spec (ExecutePermits P command.normalized) (ExecuteTrace P A command)
      [] := by
  have hnil : BeforeReservation [] := ⟨.nil, rfl⟩
  simp only [execute, Prog.bind_eq]
  rw [Prog.Spec_bind, Prog.Spec_raiseIf]
  refine ⟨fun _ => .early hnil, fun _ => ?_⟩
  rw [Prog.bindPost_ok]
  refine (Prog.Spec_ofExcept_bind _ _ _).2 ⟨fun _ _ => .early hnil, fun validated hv => ?_⟩
  obtain ⟨rfl, hvalid⟩ := validateCommand_ok hv
  refine Prog.Spec.bind_of (Spec_authorizedConnection.mono (fun _ _ h => .inl h) fun _ _ h => h) ?_
    fun t e h => .early h.1
  rintro t connection ⟨ht, hconn⟩
  obtain ⟨hconn, hacc⟩ := hconn connection rfl
  refine Prog.Spec.bind_of ((Spec_buildIntent.shift t).mono ?_ fun _ _ h => h) ?_ ?_
  · rintro _ o ⟨s, rfl, hs, h⟩
    exact .inl ⟨ht.append hs, h⟩
  · rintro _ intent ⟨s, rfl, ⟨hs, hnone⟩, hbuilt⟩
    have hbuilt := hbuilt intent rfl
    have hbefore := ht.append hs
    have hconn' : connections (t ++ s) = [some connection] := by simp [hconn, hnone]
    simp only [reserve, Prog.bind_eq]
    rw [Prog.Spec_bind]
    refine (Prog.Spec_ofExcept_bind _ _ _).2 ⟨fun e _ => .early hbefore, fun _ hi => ?_⟩
    refine (Prog.Spec_call_bind _ _).2 ⟨.inl ⟨hbefore, hbuilt, hi⟩, fun answer => ?_⟩
    refine (Prog.Spec_ofExcept_bind _ _ _).2 ⟨fun e he => ?_, fun reserved hr => ?_⟩
    · subst he
      exact .refused hbefore rfl
    subst hr
    cases reserved with
    | existing record =>
      have hend : ExecuteTrace P A command
          ((t ++ s) ++ [called (.reserve intent) (.ok (.existing record))])
          (if record.status = .succeeded then .ok (.fromIntent record true)
            else .error (.socialPublicationBlocked record.status.text)) :=
        .existing hbefore rfl
      by_cases hst : record.status = .succeeded
      · simpa [hst] using hend
      · simp only [hst, if_false] at hend
        simp only [hst, decide_false]
        exact hend
    | inserted =>
      have hsame : intent.accountId = command.normalized.accountId ∧
          intent.channelId = command.normalized.channelId := by
        obtain ⟨_, _, _, _, _, _, _, _, _, _, _, rfl⟩ := hbuilt
        exact ⟨rfl, rfl⟩
      refine ((Spec_executeReserved hvalid hi hsame.1 hsame.2).shift _).mono ?_ ?_
      · rintro _ o ⟨u, rfl, h⟩
        exact .inr ⟨intent, u, ⟨t ++ s, hbefore, by simp⟩, h⟩
      · rintro _ r ⟨u, rfl, h⟩
        exact .granted hbefore hconn' (List.append_assoc ..) h
  · rintro _ e ⟨s, rfl, ⟨hs, -⟩, -⟩
    exact .early (ht.append hs)

end Publication

end AgencyRuntime
