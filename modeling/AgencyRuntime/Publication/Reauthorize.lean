import AgencyRuntime.Effects.Parts
import AgencyRuntime.Publication.Outcomes

/-!
# Reauthorization

The endpoint that publishes (`publish_social_artifact`, api.py) over the two stores it uses. When
Instagram rejects a request with code 190 it looks the connection up again, revokes the unused
intents of its account and deletes it. A completion of the OAuth flow may store another connection
between any two of these steps.
-/

namespace AgencyRuntime

open Effects Tables

/-- A row of `social_connections`. -/
structure SocialConnectionRecord where
  tenantId : Str
  channelId : Str
  connection : SocialConnection

/-- The row of a tenant and a channel. -/
def SocialConnectionRecord.isFor (r : SocialConnectionRecord) (tenantId channelId : Str) : Bool :=
  r.tenantId == tenantId && r.channelId == channelId

/-- `PRIMARY KEY (tenant_id, channel_id)` -/
def connectionSchema : Schema SocialConnectionRecord := .ofKey fun r => (r.tenantId, r.channelId)

/-- `social_connections` -/
abbrev ConnectionTable := Table connectionSchema

namespace Reauthorize

open Publication (Statement Outside)

/-! ## The stores and the endpoint -/

/-- The stores the endpoint works on. -/
structure Stores where
  connections : ConnectionTable
  intents : IntentTable

/-- The transactions on both stores. -/
inductive Access
  | publication (o : Statement)
  | getConnection (tenantId channelId : Str)
  | deleteConnection (tenantId channelId : Str)

/-- The answers of the transactions. -/
abbrev accesses : Sig where
  Op := Access
  Ans
    | .publication o => Publication.statements.Ans o
    | .getConnection _ _ => Option SocialConnection
    | .deleteConnection _ _ => Bool

/-- What the endpoint asks of the outside: what the publication service asks, and the audit
ledger. -/
inductive Question
  | publication (o : Outside)
  | recordSocialEvent (tenantId channelId : Str) (revokedIntents : Nat)
  | recordPublicationEvent (result : SocialPublicationResult)

/-- The answers from the outside. -/
abbrev questions : Sig where
  Op := Question
  Ans
    | .publication o => Publication.outside.Ans o
    | .recordSocialEvent .. => Except Exn Unit
    | .recordPublicationEvent _ => Except Exn Unit

/-- `get_connection` -/
def Stores.getConnection (w : Stores) (tenantId channelId : Str) : Option SocialConnection :=
  (w.connections.rows.find? fun r => r.isFor tenantId channelId).map (·.connection)

/-- `delete_connection`: the row is overwritten before it is deleted, in one transaction. -/
def Stores.deleteConnection (w : Stores) (tenantId channelId : Str) : Bool × Stores :=
  (w.connections.rows.any fun r => r.isFor tenantId channelId,
    { w with connections := w.connections.delete fun r => r.isFor tenantId channelId })

/-- The effect of each transaction. -/
def Access.run (o : Access) (w : Stores) : accesses.Ans o × Stores :=
  match o with
  | .publication o => ((o.run w.intents).1, { w with intents := (o.run w.intents).2 })
  | .getConnection tenantId channelId => (w.getConnection tenantId channelId, w)
  | .deleteConnection tenantId channelId => w.deleteConnection tenantId channelId

/-- `upsert_connection`, with which a completion of the OAuth flow ends. -/
def upsertConnection (record : SocialConnectionRecord) (w : Stores) : Stores :=
  { w with connections := w.connections.replace record }

/-- The stores as a service; completions come from elsewhere. -/
def service : Service accesses Stores SocialConnectionRecord where
  run _ o w := some (o.run w)
  crash _ w := w
  env record w := some (upsertConnection record w)

/-- The signature of the endpoint. -/
abbrev sig : Sig := questions.sum accesses

/-- The programs of the endpoint. -/
abbrev Program (α : Type) := Prog sig Exn α

/-- The logs of its runs. -/
abbrev History := Log sig SocialConnectionRecord

/-- The event of a transaction that ran. -/
abbrev called (o : Access) (a : accesses.Ans o) : Event sig :=
  @Event.store questions accesses o a

/-- Ask the outside. -/
abbrev ask (o : Question) : Program (questions.Ans o) :=
  @Prog.ask questions accesses Exn o

/-- Run a transaction. -/
abbrev call (o : Access) : Program (accesses.Ans o) :=
  @Prog.call questions accesses Exn o

/-- An operation of the publication service; a lookup of a connection reads the store. -/
def embedOp : Publication.sig.Op → sig.Op
  | .inl (.getConnection tenantId channelId) => .inr (.getConnection tenantId channelId)
  | .inl o => .inl (.publication o)
  | .inr o => .inr (.publication o)

/-- The answer to such an operation. -/
def embedAns : (o : Publication.sig.Op) → sig.Ans (embedOp o) → Publication.sig.Ans o
  | .inl (.getConnection _ _), a => a
  | .inl .clock, a => a
  | .inl .nonce, a => a
  | .inl .timestamp, a => a
  | .inl .sleep, a => a
  | .inl (.decrypt _ _), a => a
  | .inl (.send _), a => a
  | .inl (.receive _), a => a
  | .inr _, a => a

/-- The publication service among the stores. -/
def embedding : Embedding Publication.sig sig := ⟨embedOp, embedAns⟩

/-- What the endpoint answers: the published result, or the status and the code of its error. -/
inductive PublishReply
  | published (result : SocialPublicationResult)
  | apiError (statusCode : Nat) (code : String)

/-- `_validate_tenant_channel` -/
def validateTenantChannel (tenantId channelId : Str) : Except Exn Unit :=
  check (isIdentifier tenantId ∧ isChannel channelId)
    (.valueError "social connection identity is invalid")

/-- The branch for code 190. -/
def invalidateCredential (tenantId channelId : Str) : Program Unit := do
  .ofExcept (validateTenantChannel tenantId channelId)
  let connection ← call (.getConnection tenantId channelId)
  let revokedIntents ← match connection with
    | none => pure 0
    | some connection =>
      (Publication.revokeUnused ⟨tenantId, some channelId, some connection.accountId, none⟩
        (Py.lit "provider_credential_invalidated")).lift embedding
  let invalidated ← call (.deleteConnection tenantId channelId)
  if invalidated then
    let recorded ← ask (.recordSocialEvent tenantId channelId revokedIntents)
    .ofExcept recorded

/-- The `except` clauses of `publish_social_artifact`. -/
def answerFailure (command : SocialPublicationCommand) : Exn → Program PublishReply
  | .socialPublicationConflict _ => return .apiError 409 "idempotency_conflict"
  | .socialPublicationBlocked _ => return .apiError 409 "social_publication_blocked"
  | .socialPublicationProviderRejected error =>
    if command.channelId = Py.lit "instagram" ∧ error.providerCode = Py.lit "190" then do
      invalidateCredential command.tenantId command.channelId
      return .apiError 409 "social_connection_reauthorization_required"
    else return .apiError 502 "social_publication_rejected"
  | .socialPublicationUnknown _ => return .apiError 503 "social_publication_unknown"
  | .socialPublicationUnavailable _ => return .apiError 409 "social_publication_unavailable"
  | .keyError _ => return .apiError 404 "not_found"
  | e =>
    if e.isGreenlight ∨ e.isValueError then return .apiError 409 "social_publication_unavailable"
    else throw e

/-- The `try` of `publish_social_artifact`, for a prepared command: it carries the tenant of the
principal and the channel of the path. -/
def publishPrepared (P : Platform) (A : SocialPublicationAuthority)
    (command : SocialPublicationCommand) : Program SocialPublicationResult := do
  let result ← (Publication.execute P A command).lift embedding
  let recorded ← ask (.recordPublicationEvent result)
  .ofExcept recorded
  return result

/-- `publish_social_artifact` -/
def publishSocialArtifact (P : Platform) (A : SocialPublicationAuthority)
    (command : SocialPublicationCommand) : Program PublishReply := do
  let outcome ← (publishPrepared P A command).attempt
  match outcome with
  | .ok result => return .published result
  | .error e => answerFailure command e

/-- The state of a run. -/
abbrev State := Config sig Exn PublishReply Stores

/-- A run of publish requests, one for each thread, and of completions. -/
def Run (P : Platform) (A : SocialPublicationAuthority) (commands : Nat → SocialPublicationCommand)
    (start : Stores) (L : History) (c : State) : Prop :=
  Steps (service.machine questions)
    (.start start fun i => publishSocialArtifact P A (commands i)) L c

/-! ## Newer connections -/

/-- Request `i` has looked the connection of the tenant and the channel up. -/
def LookedUp (L : History) (i : Nat) (tenantId channelId : Str) : Prop :=
  ∃ connection, .act i (called (.getConnection tenantId channelId) connection) ∈ L

/-- A connection was stored for the tenant and the channel after request `i` had looked it up. -/
def StoredSince (L : History) (i : Nat) (tenantId channelId : Str) : Prop :=
  ∃ L₁ record L₂, L = L₁ ++ .env record :: L₂ ∧ record.isFor tenantId channelId = true ∧
    LookedUp L₁ i tenantId channelId

/-- The row was stored after request `i` had looked its connection up. -/
def NewerThan (L : History) (i : Nat) (r : SocialConnectionRecord) : Prop :=
  ∃ L₁ L₂, L = L₁ ++ .env r :: L₂ ∧ LookedUp L₁ i r.tenantId r.channelId

/-- The intent was reserved by a request that looked its connection up after a connection newer than
that of request `i` had been stored. -/
def ReservedUnderNewer (L : History) (i : Nat) (intent : SocialPublicationIntent) : Prop :=
  ∃ L₁ record M₁ j reserved M₂,
    L = L₁ ++ .env record :: (M₁ ++
      .act j (called (.publication (.reserve reserved)) (.ok .inserted)) :: M₂) ∧
    record.isFor intent.tenantId intent.channelId = true ∧
    LookedUp L₁ i intent.tenantId intent.channelId ∧
    LookedUp M₁ j intent.tenantId intent.channelId ∧ reserved.core = intent.core

/-- A step of request `i` neither deletes a newer connection nor revokes an intent reserved under
one. -/
structure Spares (L : History) (i : Nat) (w w' : Stores) : Prop where
  connections : ∀ r ∈ w.connections.rows, r ∉ w'.connections.rows → ¬ NewerThan L i r
  intents : ∀ r ∈ w.intents.rows, ∀ r' ∈ w'.intents.rows, r'.core = r.core →
    r.status ≠ .revoked → r'.status = .revoked → ¬ ReservedUnderNewer L i r

/-- Every step of every request of the run spares what is newer than the connection the request
looked up. -/
def SparesNewer (P : Platform) (A : SocialPublicationAuthority)
    (commands : Nat → SocialPublicationCommand) (start : Stores) (L : History) : Prop :=
  ∀ L₁ i e L₂ d d', L = L₁ ++ .act i e :: L₂ → Run P A commands start L₁ d →
    Step (service.machine questions) d (.act i e) d' → Spares L₁ i d.world d'.world

/-- The operation revokes intents or deletes the connection of the tenant and the channel. -/
def Invalidates : sig.Op → Str → Str → Prop
  | .inr (.publication (.revokeUnused filter _ _)), tenantId, channelId =>
    filter.tenantId = tenantId ∧ filter.channelId.all (· == channelId) = true
  | .inr (.deleteConnection tenantId' channelId'), tenantId, channelId =>
    tenantId' = tenantId ∧ channelId' = channelId
  | _, _, _ => False

/-- When a request revokes intents or deletes a connection, none has been stored for the tenant and
the channel since the request looked it up. -/
def Undisturbed (L : History) : Prop :=
  ∀ L₁ i e L₂ tenantId channelId, L = L₁ ++ .act i e :: L₂ → Invalidates e.op tenantId channelId →
    ¬ StoredSince L₁ i tenantId channelId

theorem NewerThan.storedSince {L : History} {i : Nat} {r : SocialConnectionRecord}
    (h : NewerThan L i r) : StoredSince L i r.tenantId r.channelId := by
  obtain ⟨L₁, L₂, hL, hlooked⟩ := h
  exact ⟨L₁, r, L₂, hL, by simp [SocialConnectionRecord.isFor], hlooked⟩

theorem ReservedUnderNewer.storedSince {L : History} {i : Nat} {intent : SocialPublicationIntent}
    (h : ReservedUnderNewer L i intent) : StoredSince L i intent.tenantId intent.channelId := by
  obtain ⟨L₁, record, M₁, j, reserved, M₂, hL, hfor, hlooked, -, -⟩ := h
  exact ⟨L₁, record, _, hL, hfor, hlooked⟩

/-! ## What a request may do -/

/-- What a publish request may do. -/
def Permits (command : SocialPublicationCommand) : sig.Op → Prop
  | .inr (.publication (.transition _ _ _ change _)) => change.status ≠ .revoked
  | .inr (.publication (.revokeUnused filter _ _)) =>
    filter.tenantId = command.tenantId ∧ filter.channelId = some command.channelId
  | .inr (.publication (.reconcile ..)) => False
  | .inr (.deleteConnection tenantId channelId) =>
    tenantId = command.tenantId ∧ channelId = command.channelId
  | _ => True

theorem permits_embedOp {P : Platform} {validated command : SocialPublicationCommand}
    {t : Trace Publication.sig} {o : Publication.sig.Op}
    (h : Publication.ExecutePermits P validated t o) : Permits command (embedOp o) := by
  rcases h with ⟨-, h⟩ | ⟨intent, s, -, h⟩
  · rcases o with o | o
    · cases o <;> trivial
    · cases o with
      | reserve => trivial
      | _ => exact h.elim
  · rcases o with o | o
    · cases o <;> trivial
    · cases o with
      | transition => exact h.2.2.1
      | get => trivial
      | _ => exact h.elim

/-- The postcondition of the specifications below. -/
abbrev anything {α : Type} : Trace sig → Except Exn α → Prop := fun _ _ => True

theorem Spec_publishPrepared {P : Platform} {A : SocialPublicationAuthority}
    {command : SocialPublicationCommand} :
    (publishPrepared P A command).Spec (fun _ o => Permits command o) anything [] := by
  have hexecute : (Publication.execute P A command).Spec
      (fun _ o => Permits command (embedOp o)) (fun _ _ => True) [] :=
    Publication.Spec_execute.mono (fun _ _ h => permits_embedOp h) fun _ _ _ => trivial
  refine Prog.Spec.bind_of (Q := anything)
    (hexecute.lift (fun _ _ h => h) fun _ _ _ => trivial) (fun t result _ => ?_)
    fun _ _ _ => trivial
  refine (Prog.Spec_ask_bind _ _).2 ⟨trivial, fun recorded => ?_⟩
  exact (Prog.Spec_ofExcept_bind _ _ _).2 ⟨fun _ _ => trivial, fun _ _ => trivial⟩

/-- The end of the branch for code 190. -/
theorem Spec_deleted {command : SocialPublicationCommand} (revokedIntents : Nat) (t : Trace sig) :
    ((call (.deleteConnection command.tenantId command.channelId)).bind fun invalidated =>
      if invalidated = true then
        (ask (.recordSocialEvent command.tenantId command.channelId revokedIntents)).bind
          fun recorded => Prog.ofExcept recorded
      else pure ()).Spec (fun _ o => Permits command o) anything t := by
  refine (Prog.Spec_call_bind _ _).2 ⟨⟨rfl, rfl⟩, fun invalidated => ?_⟩
  cases invalidated with
  | false => trivial
  | true =>
    refine (Prog.Spec_ask_bind _ _).2 ⟨trivial, fun recorded => ?_⟩
    exact (Prog.Spec_ofExcept _ _).2 trivial

theorem Spec_revokeUnused {command : SocialPublicationCommand} (accountId reason : Str)
    (t : Trace sig) :
    ((Publication.revokeUnused ⟨command.tenantId, some command.channelId, some accountId, none⟩
      reason).lift embedding).Spec (fun _ o => Permits command o) anything t := by
  have hrevoke : (Publication.revokeUnused
      ⟨command.tenantId, some command.channelId, some accountId, none⟩ reason).Spec
      (fun _ o => Permits command (embedOp o)) (fun _ _ => True) [] := by
    refine (Prog.Spec_ofExcept_bind _ _ _).2 ⟨fun _ _ => trivial, fun _ _ => ?_⟩
    refine (Prog.Spec_ask_bind _ _).2 ⟨trivial, fun now => ?_⟩
    refine (Prog.Spec_call_bind _ _).2 ⟨⟨rfl, rfl⟩, fun answer => ?_⟩
    exact (Prog.Spec_ofExcept _ _).2 trivial
  exact hrevoke.lift (fun _ _ h => h) fun _ _ _ => trivial

theorem Spec_invalidateCredential {command : SocialPublicationCommand} (t : Trace sig) :
    (invalidateCredential command.tenantId command.channelId).Spec
      (fun _ o => Permits command o) anything t := by
  refine (Prog.Spec_ofExcept_bind _ _ _).2 ⟨fun _ _ => trivial, fun _ _ => ?_⟩
  refine (Prog.Spec_call_bind _ _).2 ⟨trivial, fun connection => ?_⟩
  cases connection with
  | none => exact Spec_deleted 0 _
  | some connection =>
    exact Prog.Spec.bind_of (Spec_revokeUnused connection.accountId _ _)
      (fun u revokedIntents _ => Spec_deleted revokedIntents u) fun _ _ _ => trivial

theorem Spec_answerFailure {command : SocialPublicationCommand} (e : Exn) (t : Trace sig) :
    (answerFailure command e).Spec (fun _ o => Permits command o) anything t := by
  unfold answerFailure
  split
  case h_3 error =>
    split
    · refine Prog.Spec.bind_of (Q := anything) (Spec_invalidateCredential t) (fun _ _ _ => ?_)
        fun _ _ _ => trivial
      trivial
    · trivial
  case h_7 => split <;> trivial
  all_goals trivial

/-- A publish request, in every environment. -/
theorem Spec_publishSocialArtifact {P : Platform} {A : SocialPublicationAuthority}
    {command : SocialPublicationCommand} :
    (publishSocialArtifact P A command).Spec (fun _ o => Permits command o) anything [] := by
  refine Prog.Spec.bind_of (Q := anything) ((Prog.Spec_attempt _ _).2 Spec_publishPrepared)
    (fun t outcome _ => ?_) fun _ _ _ => trivial
  cases outcome with
  | ok result => trivial
  | error e => exact Spec_answerFailure e t

/-! ## What a step changes -/

/-- Rows of one table that were reserved as the same intent are one row. -/
theorem eq_of_core {t : IntentTable} {r r' : SocialPublicationIntent} (hr : r ∈ t.rows)
    (hr' : r' ∈ t.rows) (h : r'.core = r.core) : r' = r := by
  refine t.eq_of_clash hr' hr ?_
  change intentSchema.clash r'.core r.core = true
  rw [h]
  exact intentSchema.refl _

/-- Only a revocation that covers the row, or a transition to `revoked`, revokes it. -/
theorem revokes_cases {o : Statement} {t : IntentTable} {r r' : SocialPublicationIntent}
    (hr : r ∈ t.rows) (hr' : r' ∈ (o.run t).2.rows) (hcore : r'.core = r.core)
    (hbefore : r.status ≠ .revoked) (hafter : r'.status = .revoked) :
    (∃ filter reason now, o = .revokeUnused filter reason now ∧ filter.covers r = true) ∨
      ∃ tenantId intentId fence change now,
        o = .transition tenantId intentId fence change now ∧ change.status = .revoked := by
  have hsame : r' = o.onRow r :=
    eq_of_core (o.onRow_mem hr) hr' (hcore.trans (o.core_onRow r).symm)
  rw [hsame, o.status_onRow] at hafter
  cases hlife : o.lifeEvent r with
  | none =>
    rw [hlife] at hafter
    exact absurd hafter hbefore
  | some event =>
    rw [hlife] at hafter
    cases event with
    | settle status =>
      obtain ⟨tenantId, intentId, fence, change, now, rfl, hchange, -⟩ :=
        Publication.Statement.lifeEvent_settle hlife
      have hstatus : r.status.after (.settle status) = .revoked := hafter
      cases hr : r.status with
      | revoked => exact absurd hr hbefore
      | pending =>
        rw [hr] at hstatus
        exact .inr ⟨tenantId, intentId, fence, change, now, rfl, hchange.trans hstatus⟩
      | succeeded | unknown | failed =>
        rw [hr] at hstatus
        cases hstatus
    | revoke =>
      obtain ⟨filter, reason, now, ho, hcovers, -⟩ := Publication.Statement.lifeEvent_revoke hlife
      exact .inl ⟨filter, reason, now, ho, hcovers⟩
    | reconcile =>
      have hstatus : r.status.after .reconcile = .revoked := hafter
      cases hr : r.status with
      | revoked => exact absurd hr hbefore
      | pending | succeeded | unknown | failed =>
        rw [hr] at hstatus
        cases hstatus

/-- What a request does when nothing was stored since it looked its connection up. -/
theorem Spares.of_quiet {L : History} {i : Nat} {command : SocialPublicationCommand}
    {e : Event sig} {d d' : State} (hstep : Step (service.machine questions) d (.act i e) d')
    (hp : Permits command e.op)
    (hquiet : ∀ tenantId channelId, Invalidates e.op tenantId channelId →
      ¬ StoredSince L i tenantId channelId) : Spares L i d.world d'.world := by
  cases hstep with
  | @act _ o k oracle a w _ _ hex =>
    have hkept : ∀ t : ConnectionTable, ∀ r ∈ t.rows, r ∉ t.rows → ¬ NewerThan L i r :=
      fun _ _ hr hno => absurd hr hno
    have hsame : ∀ t : IntentTable, ∀ r ∈ t.rows, ∀ r' ∈ t.rows, r'.core = r.core →
        r.status ≠ .revoked → r'.status = .revoked → ¬ ReservedUnderNewer L i r := by
      intro t r hr r' hr' hcore hbefore hafter
      rw [eq_of_core hr hr' hcore] at hafter
      exact absurd hafter hbefore
    cases o with
    | inl o =>
      cases hex
      exact ⟨hkept _, hsame _⟩
    | inr o =>
      cases o with
      | publication o =>
        cases hex
        refine ⟨hkept _, fun r hr r' hr' hcore hbefore hafter hnewer => ?_⟩
        rcases revokes_cases hr hr' hcore hbefore hafter with
          ⟨filter, reason, now, rfl, hcovers⟩ | ⟨_, _, _, change, _, rfl, hchange⟩
        · simp only [Publication.RevokeFilter.covers, Bool.and_eq_true, beq_iff_eq] at hcovers
          exact hquiet r.tenantId r.channelId ⟨hcovers.1.1.1.symm, hcovers.1.1.2⟩
            hnewer.storedSince
        · exact hp hchange
      | getConnection tenantId channelId =>
        cases hex
        exact ⟨hkept _, hsame _⟩
      | deleteConnection tenantId channelId =>
        cases hex
        refine ⟨fun r hr hgone hnewer => ?_, hsame _⟩
        have hfor : r.isFor tenantId channelId = true := by
          by_contra hne
          exact hgone (Table.mem_delete.2 ⟨hr, Bool.eq_false_iff.2 hne⟩)
        simp only [SocialConnectionRecord.isFor, Bool.and_eq_true, beq_iff_eq] at hfor
        exact hquiet r.tenantId r.channelId ⟨hfor.1.symm, hfor.2.symm⟩ hnewer.storedSince

/-! ## The row that is stored -/

/-- Only a completion stores a connection. -/
theorem StoredSince.of_snoc {L : History} {i : Nat} {x : Entry sig SocialConnectionRecord}
    {tenantId channelId : Str} (h : StoredSince (L ++ [x]) i tenantId channelId)
    (hx : ∀ record, x ≠ .env record) : StoredSince L i tenantId channelId := by
  obtain ⟨L₁, record, L₂, hL, hfor, hlooked⟩ := h
  rcases List.eq_nil_or_concat L₂ with rfl | ⟨M, y, rfl⟩
  · exact absurd (List.cons.inj (List.append_inj' hL rfl).2).1 (hx record)
  · rw [List.concat_eq_append, ← List.cons_append, ← List.append_assoc] at hL
    exact ⟨L₁, record, M, (List.append_inj' hL rfl).1, hfor, hlooked⟩

theorem NewerThan.append {L : History} {i : Nat} {r : SocialConnectionRecord}
    (h : NewerThan L i r) (M : History) : NewerThan (L ++ M) i r := by
  obtain ⟨L₁, L₂, rfl, hlooked⟩ := h
  exact ⟨L₁, L₂ ++ M, by simp, hlooked⟩

/-- A row that stands where a connection was stored is itself that new. -/
def Latest (L : History) (w : Stores) : Prop :=
  ∀ i, ∀ r ∈ w.connections.rows, StoredSince L i r.tenantId r.channelId → NewerThan L i r

/-- A transaction stores no connection. -/
theorem Access.connections_run (o : Access) {w : Stores} {r : SocialConnectionRecord}
    (h : r ∈ (o.run w).2.connections.rows) : r ∈ w.connections.rows := by
  cases o with
  | publication o => exact h
  | getConnection => exact h
  | deleteConnection => exact (Table.mem_delete.1 h).1

theorem Latest.upsert {L : History} {w : Stores} (h : Latest L w)
    (record : SocialConnectionRecord) :
    Latest (L ++ [.env record]) (upsertConnection record w) := by
  intro i r hr hstored
  obtain ⟨L₁, stored, L₂, hL, hfor, hlooked⟩ := hstored
  rcases Table.mem_replace.1 hr with rfl | ⟨hmem, hdistinct⟩
  · rcases List.eq_nil_or_concat L₂ with rfl | ⟨M, x, rfl⟩
    · exact ⟨L, [], rfl, (List.append_inj' hL rfl).1 ▸ hlooked⟩
    · rw [List.concat_eq_append, ← List.cons_append, ← List.append_assoc] at hL
      obtain ⟨connection, hconnection⟩ := hlooked
      refine ⟨L, [], rfl, connection, ?_⟩
      rw [(List.append_inj' hL rfl).1]
      exact List.mem_append_left _ hconnection
  · rcases List.eq_nil_or_concat L₂ with rfl | ⟨M, x, rfl⟩
    · -- The last entry stored another tenant's or channel's connection.
      cases (List.append_inj' hL rfl).2
      simp only [SocialConnectionRecord.isFor, Bool.and_eq_true, beq_iff_eq] at hfor
      have hclash : connectionSchema.clash (connectionSchema.key r)
          (connectionSchema.key record) = true := by
        simp [connectionSchema, Schema.ofKey, hfor]
      rw [hclash] at hdistinct
      cases hdistinct
    · rw [List.concat_eq_append, ← List.cons_append, ← List.append_assoc] at hL
      exact (h i r hmem ⟨L₁, stored, M, (List.append_inj' hL rfl).1, hfor, hlooked⟩).append _

/-- In a run, the row that stands where a connection was stored is itself that new. -/
theorem Run.latest {P : Platform} {A : SocialPublicationAuthority}
    {commands : Nat → SocialPublicationCommand} {start : Stores} {L : History} {c : State}
    (h : Run P A commands start L c) : Latest L c.world := by
  induction h with
  | refl =>
    rintro i r - ⟨L₁, record, L₂, hL, -⟩
    simp at hL
  | @snoc d d' L e _ hs ih =>
    cases hs with
    | @act j o k oracle a w _ _ hex =>
      intro i r hr hstored
      have hmem : r ∈ d.world.connections.rows := by
        rcases o with o | o
        · cases hex
          exact hr
        · have hworld : (o.run d.world).2 = w := (Prod.mk.inj (Option.some.inj hex)).2
          exact o.connections_run (hworld ▸ hr)
      exact (ih i r hmem (hstored.of_snoc fun _ h => by cases h)).append _
    | crash =>
      intro i r hr hstored
      exact (ih i r hr (hstored.of_snoc fun _ h => by cases h)).append _
    | env hex =>
      cases hex
      exact ih.upsert _

/-! ## The credential that failed -/

section
variable {P : Platform} {A : SocialPublicationAuthority}
variable {commands : Nat → SocialPublicationCommand} {start : Stores} {L : History} {c : State}

/-- A deletion after another connection was stored deletes that one. -/
theorem Run.deletes_newer (h : Run P A commands start L c) {i : Nat} {tenantId channelId : Str}
    {c' : State} (hstored : StoredSince L i tenantId channelId)
    (hstep : Step (service.machine questions) c
      (.act i (called (.deleteConnection tenantId channelId) true)) c') :
    ¬ Spares L i c.world c'.world := by
  intro hspares
  cases hstep with
  | act _ _ hex =>
    have hrun := Option.some.inj hex
    have hfound : (c.world.connections.rows.any fun r => r.isFor tenantId channelId) = true :=
      (Prod.mk.inj hrun).1
    obtain ⟨r, hr, hfor⟩ := List.any_eq_true.1 hfound
    have hgone : r ∉ (c.world.deleteConnection tenantId channelId).2.connections.rows := by
      intro hmem
      have hkept := (Table.mem_delete.1 hmem).2
      rw [hfor] at hkept
      cases hkept
    simp only [SocialConnectionRecord.isFor, Bool.and_eq_true, beq_iff_eq] at hfor
    obtain ⟨rfl, rfl⟩ := hfor
    have hworld := (Prod.mk.inj hrun).2
    exact hspares.connections r hr (hworld ▸ hgone) (h.latest i r hr hstored)

/-- When no connection is stored between a request's lookup and what it does about a rejected
credential, everything newer is spared; a deletion after another connection was stored deletes that
one. -/
theorem invalidation_spares_newer (h : Run P A commands start L c) :
    (Undisturbed L → SparesNewer P A commands start L) ∧
      ∀ i tenantId channelId c', StoredSince L i tenantId channelId →
        Step (service.machine questions) c
          (.act i (called (.deleteConnection tenantId channelId) true)) c' →
        ¬ Spares L i c.world c'.world := by
  refine ⟨fun hquiet L₁ i e L₂ d d' hL hrun hstep => ?_,
    fun i tenantId channelId c' hstored hstep => h.deletes_newer hstored hstep⟩
  have hsplit : Run P A commands start (L₁ ++ .act i e :: L₂) c := hL ▸ h
  have hp : Permits (commands i) e.op := Steps.spec_op hsplit Spec_publishSocialArtifact
  exact .of_quiet hstep hp fun tenantId channelId hinv =>
    hquiet L₁ i e L₂ tenantId channelId hL hinv

end

/-! ## Sample runs -/

namespace Sample

open Publication.Sample (command authority tokens)

/-- What the Graph API answers when the access token is no longer valid. -/
def invalidated : Obj :=
  [(Py.lit "error", .obj [(Py.lit "code", .int 190)])]

def invalidatedBody : Bytes := Py.utf8 (Py.lit "\x7b\"error\":\x7b\"code\":190\x7d\x7d")

def platform : Platform :=
  { Publication.Sample.platform with
    loads := fun b =>
      if b = invalidatedBody then .value (.obj invalidated) else Publication.Sample.loads b }

/-- The connection with these encrypted tokens. -/
def record (encryptedTokens : String) : SocialConnectionRecord where
  tenantId := Py.lit "t"
  channelId := Py.lit "instagram"
  connection := ⟨Py.lit "a", Py.lit "user", Py.lit encryptedTokens, none⟩

/-- One connected account, and no intents. -/
def stores : Stores := ⟨Table.empty.replace (record "e"), .empty⟩

/-- The provider rejects the credential. -/
def oracle : Oracle questions
  | .publication o => Publication.Sample.oracle tokens (.reply 400 [] invalidatedBody) o
  | .recordSocialEvent .. => .ok ()
  | .recordPublicationEvent _ => .ok ()

/-- The request moves `n` times. -/
def moves (n : Nat) : List (Choice (Oracle questions) SocialConnectionRecord) :=
  List.replicate n (.act 0 oracle)

/-- The request deletes the connection. -/
def deletionOf : Entry sig SocialConnectionRecord → Option Unit
  | .act 0 ⟨.inr (.deleteConnection tenantId channelId), true⟩ =>
    if tenantId = Py.lit "t" ∧ channelId = Py.lit "instagram" then some () else none
  | _ => none

def storedOf : Entry sig SocialConnectionRecord → Option SocialConnectionRecord
  | .env r => some r
  | _ => none

/-- The request looks the connection up. -/
def looksUp : Entry sig SocialConnectionRecord → Bool
  | .act 0 ⟨.inr (.getConnection tenantId channelId), _⟩ =>
    tenantId = Py.lit "t" ∧ channelId = Py.lit "instagram"
  | _ => false

theorem deletionOf_sound {e : Entry sig SocialConnectionRecord} (h : deletionOf e = some ()) :
    e = .act 0 (called (.deleteConnection (Py.lit "t") (Py.lit "instagram")) true) := by
  unfold deletionOf at h
  split at h
  · next tenantId channelId =>
    simp only [Option.ite_none_right_eq_some, and_true] at h
    obtain ⟨rfl, rfl⟩ := h
    rfl
  · cases h

theorem storedOf_sound {e : Entry sig SocialConnectionRecord} {r : SocialConnectionRecord}
    (h : storedOf e = some r) : e = .env r := by
  cases e with
  | env x =>
    cases h
    rfl
  | act | crash => cases h

theorem looksUp_sound {L : History} (h : L.any looksUp = true) :
    LookedUp L 0 (Py.lit "t") (Py.lit "instagram") := by
  obtain ⟨e, he, hlooks⟩ := List.any_eq_true.1 h
  unfold looksUp at hlooks
  split at hlooks
  · next tenantId channelId connection =>
    obtain ⟨rfl, rfl⟩ := of_decide_eq_true hlooks
    exact ⟨connection, he⟩
  · cases hlooks

/-- The deletion came after another connection was stored. -/
def overtaken (L : History) : Bool :=
  match Log.split? deletionOf L with
  | some (L₁, _, _) =>
    match Log.split? storedOf L₁ with
    | some (K₁, r, _) => r.isFor (Py.lit "t") (Py.lit "instagram") && K₁.any looksUp
    | none => false
  | none => false

end Sample

/-- A schedule whose outcome passes a test yields a run. -/
theorem Run.of_schedule {P : Platform} {A : SocialPublicationAuthority}
    {commands : Nat → SocialPublicationCommand} {start : Stores}
    (schedule : List (Choice (Oracle questions) SocialConnectionRecord))
    (test : History → State → Prop) [∀ L c, Decidable (test L c)]
    (h : (((service.machine questions).simulate schedule
      (.start start fun i => publishSocialArtifact P A (commands i))).map
        fun r => decide (test r.1 r.2)) = some true) :
    ∃ L c, Run P A commands start L c ∧ test L c :=
  Machine.exists_run h

/-- The theorem for a rejected request that no completion overtakes. -/
theorem invalidation_spares_newer_sample :
    ∃ L c, Run Sample.platform Publication.Sample.authority
        (fun _ => Publication.Sample.command 1) Sample.stores L c ∧
      (c.thread 0).Done ∧ c.world.connections.rows.length = 0 ∧
      SparesNewer Sample.platform Publication.Sample.authority
        (fun _ => Publication.Sample.command 1) Sample.stores L := by
  obtain ⟨L, c, h, hdone, hrows, hnone⟩ := @Run.of_schedule Sample.platform
    Publication.Sample.authority (fun _ => Publication.Sample.command 1) Sample.stores
    (Sample.moves 15)
    (fun L c => (c.thread 0).Done ∧ c.world.connections.rows.length = 0 ∧
      L.all (fun e => (Sample.storedOf e).isNone) = true) inferInstance (by decide +kernel)
  refine ⟨L, c, h, hdone, hrows, (invalidation_spares_newer h).1 ?_⟩
  rintro L₁ i e L₂ tenantId channelId rfl - ⟨K₁, r, K₂, rfl, -⟩
  have := List.all_eq_true.1 hnone (.env r) (by simp)
  cases this

/-- A completion that stores another connection before the deletion loses it. -/
theorem invalidation_can_overtake :
    ¬ ∀ (P : Platform) (A : SocialPublicationAuthority)
      (commands : Nat → SocialPublicationCommand) (start : Stores) (L : History) (c : State),
      Run P A commands start L c → SparesNewer P A commands start L := by
  intro hclaim
  obtain ⟨L, c, h, htest⟩ := @Run.of_schedule Sample.platform
    Publication.Sample.authority (fun _ => Publication.Sample.command 1) Sample.stores
    (Sample.moves 7 ++ .env (Sample.record "f") :: Sample.moves 7)
    (fun L _ => Sample.overtaken L = true) inferInstance (by decide +kernel)
  have hspares := hclaim _ _ _ _ _ _ h
  unfold Sample.overtaken at htest
  split at htest
  · next L₁ _ L₂ hdeleted =>
    split at htest
    · next K₁ r K₂ hstored =>
      obtain ⟨e, rfl, he⟩ := Log.split?_sound hdeleted
      obtain rfl := Sample.deletionOf_sound he
      obtain ⟨x, hL₁, hx⟩ := Log.split?_sound hstored
      obtain rfl := Sample.storedOf_sound hx
      obtain ⟨hfor, hlooks⟩ := Bool.and_eq_true_iff.1 htest
      obtain ⟨d, d', hbefore, hstep, -⟩ := Steps.split h
      exact Run.deletes_newer hbefore
        ⟨K₁, r, K₂, hL₁, hfor, Sample.looksUp_sound hlooks⟩ hstep
        (hspares L₁ 0 _ L₂ d d' rfl hbefore hstep)
    · cases htest
  · cases htest

end Reauthorize

end AgencyRuntime
