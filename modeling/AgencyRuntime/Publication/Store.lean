import AgencyRuntime.Effects.Service
import AgencyRuntime.Publication.Intent

/-!
# The publication store

`SQLiteSocialPublicationStore` (social_publication_store.py). A method validates its arguments,
reads the clock, runs one transaction and may read the row back in another. `Statement` lists the
transactions and `Statement.run` is their effect on the table; `Outside` lists what the publication
service asks of the outside.
-/

namespace AgencyRuntime

open Effects Tables

/-- The provider requests, by the `phase` the source gives them. -/
inductive Phase
  | xPostCreate
  | xPostVerify
  | instagramContainerCreate
  | instagramContainerStatus
  | instagramMediaPublish
  | instagramMediaVerify
deriving DecidableEq, Repr

/-- The text of a phase. -/
def Phase.text : Phase → String
  | .xPostCreate => "x_post_create"
  | .xPostVerify => "x_post_verify"
  | .instagramContainerCreate => "instagram_container_create"
  | .instagramContainerStatus => "instagram_container_status"
  | .instagramMediaPublish => "instagram_media_publish"
  | .instagramMediaVerify => "instagram_media_verify"

/-- The request is the one that creates the public post. -/
def Phase.createsPost : Phase → Bool
  | .xPostCreate | .instagramMediaPublish => true
  | _ => false

theorem Phase.createsPost_iff {p : Phase} :
    p.createsPost = true ↔ p = .xPostCreate ∨ p = .instagramMediaPublish := by
  cases p <;> simp [Phase.createsPost]

/-- The request reads the public post back. -/
def Phase.verifies : Phase → Bool
  | .xPostVerify | .instagramMediaVerify => true
  | _ => false

/-- The request is the first one of its provider chain. -/
def Phase.startsChain : Phase → Bool
  | .xPostCreate | .instagramContainerCreate => true
  | _ => false

/-- What a request carries besides its headers. -/
inductive Payload
  | none
  | json (text : Str)
  | files (imageUrl caption : Str)
  | params (query : List (String × Str))
deriving DecidableEq

/-- A request to a provider: method, URL, `Authorization` header and payload. -/
structure Request where
  phase : Phase
  method : String
  url : Str
  authorization : Str
  payload : Payload
deriving DecidableEq

/-- What comes back: a failure of the transport, or a status, the decoded headers (lower-case
names, one entry for each) and the body. -/
inductive HttpReply
  | transportError
  | reply (statusCode : Nat) (headers : List (Str × Str)) (body : Bytes)

/-- A connected account, as the connection store returns it. -/
structure SocialConnection where
  accountId : Str
  accountUsername : Str
  encryptedTokens : Str
  tokenExpiresAt : Option Str

/-- A nonce of `secrets.token_urlsafe`. -/
structure UrlSafeToken where
  text : Str
  ascii : Py.isascii text = true

namespace Publication

/-- What the publication service asks of the outside. `decrypt` answers `none` when the cipher
raises. A request is sent in one step and answered in another. -/
inductive Outside
  | clock
  | nonce
  | timestamp
  | sleep
  | getConnection (tenantId channelId : Str)
  | decrypt (encryptedTokens associatedData : Str)
  | send (request : Request)
  | receive (request : Request)

/-- The answers from the outside. -/
abbrev outside : Sig where
  Op := Outside
  Ans
    | .clock => Str
    | .nonce => UrlSafeToken
    | .timestamp => Int
    | .sleep => Unit
    | .getConnection _ _ => Option SocialConnection
    | .decrypt _ _ => Option Obj
    | .send _ => Unit
    | .receive _ => HttpReply

/-- The arguments of `_transition` that the `UPDATE` assigns. -/
structure Change where
  status : PublicationStatus
  providerContainerId : Option Str := none
  providerPostId : Option Str := none
  receipt : Option Obj := none
  failureReason : Str := []
  completed : Bool := false

/-- The assignments of `_transition` on one row. -/
def Change.apply (c : Change) (now : Str) : Update intentSchema where
  apply r :=
    { r with
      status := c.status
      updatedAt := now
      providerContainerId := c.providerContainerId.or r.providerContainerId
      providerPostId := c.providerPostId.or r.providerPostId
      receipt := c.receipt.getD r.receipt
      failureReason :=
        if c.failureReason ≠ [] ∨ c.status = .succeeded ∨ c.status = .pending then c.failureReason
        else r.failureReason
      completedAt := if c.completed then some now else r.completedAt }
  key_apply _ := rfl

/-- The assignments of `reconcile_success`. -/
def reconcileRow (providerPostId : Str) (receipt : Obj) (now : Str) : Update intentSchema where
  apply r :=
    { r with
      status := .succeeded
      providerPostId := some providerPostId
      receipt := receipt
      failureReason := []
      completedAt := some now
      updatedAt := now }
  key_apply _ := rfl

/-- The assignments of `revoke_unused`. -/
def revokeRow (reason now : Str) : Update intentSchema where
  apply r :=
    { r with
      status := .revoked
      failureReason := reason
      revokedAt := some now
      updatedAt := now }
  key_apply _ := rfl

/-- The `WHERE` arguments of `revoke_unused`. -/
structure RevokeFilter where
  tenantId : Str
  channelId : Option Str := none
  accountId : Option Str := none
  runId : Option Str := none

/-- The clauses of `revoke_unused` apart from `status = 'pending'`. -/
def RevokeFilter.covers (f : RevokeFilter) (r : SocialPublicationIntent) : Bool :=
  r.tenantId == f.tenantId && f.channelId.all (· == r.channelId) &&
    f.accountId.all (· == r.accountId) && f.runId.all (· == r.runId)

/-- The transactions of the store. -/
inductive Statement
  | reserve (intent : SocialPublicationIntent)
  | get (tenantId intentId : Str)
  | transition (tenantId intentId : Str) (fence : Int) (change : Change) (now : Str)
  | reconcile (tenantId intentId providerPostId : Str) (receipt : Obj) (now : Str)
  | revokeUnused (filter : RevokeFilter) (reason now : Str)

/-- The outcome of the transaction of `reconcile_success`: the update took place, or this is the
row there is. -/
inductive Reconciled
  | updated
  | found (row : Option SocialPublicationIntent)

/-- The outcome of the transaction of `reserve`: the intent was inserted, or this row has its key or
its binding. -/
inductive Reserved
  | inserted
  | existing (record : SocialPublicationIntent)

/-- The answers of the transactions; an error is an exception inside the transaction. -/
abbrev statements : Sig where
  Op := Statement
  Ans
    | .reserve _ => Except Exn Reserved
    | .get _ _ => Option SocialPublicationIntent
    | .transition .. => Except Exn Bool
    | .reconcile .. => Reconciled
    | .revokeUnused .. => Except Exn Nat

/-- A number SQLite can store in an INTEGER column. -/
def fitsInteger (n : Int) : Bool := -(2 ^ 63) ≤ n && n < 2 ^ 63

/-- The `SELECT` of `reserve`: the row with the idempotency key comes first. -/
def priorIntent (t : IntentTable) (intent : SocialPublicationIntent) :
    Option SocialPublicationIntent :=
  (t.rows.find? fun r => r.sameKey intent).or (t.rows.find? fun r => r.sameBinding intent)

/-- The transaction of `reserve`. An exception rolls it back. -/
def reserveIn (intent : SocialPublicationIntent) (t : IntentTable) :
    Except Exn Reserved × IntentTable :=
  match priorIntent t intent with
  | some record =>
    if record.idempotencyDigest = intent.idempotencyDigest ∧
        record.bindingDigest ≠ intent.bindingDigest then
      (.error (.socialPublicationConflict
        "publication idempotency key conflicts with a prior binding"), t)
    else if record.bindingDigest ≠ intent.bindingDigest then
      (.error (.socialPublicationConflict
        "publication binding conflicts with a prior intent"), t)
    else (.ok (.existing record), t)
  | none =>
    if fitsInteger intent.greenlightFencingToken && fitsInteger intent.budgetCents then
      match t.insert intent with
      | some t' => (.ok .inserted, t')
      | none => (.error .integrityError, t)
    else (.error .overflowError, t)

/-- The rows the `UPDATE` of `_transition` selects. -/
def inFlight (tenantId intentId : Str) (fence : Int) (r : SocialPublicationIntent) : Bool :=
  r.isFor tenantId intentId && r.status = .pending && r.executionFencingToken == fence

/-- The rows the `UPDATE` of `reconcile_success` selects. -/
def reconcilable (tenantId intentId : Str) (r : SocialPublicationIntent) : Bool :=
  r.isFor tenantId intentId && r.status = .unknown

/-- The effect of each transaction. A text that cannot be encoded raises as it is bound. -/
def Statement.run (o : Statement) (t : IntentTable) : statements.Ans o × IntentTable :=
  match o with
  | .reserve intent => reserveIn intent t
  | .get tenantId intentId => (t.rows.find? fun r => r.isFor tenantId intentId, t)
  | .transition tenantId intentId fence change now =>
    if Py.encodable change.failureReason then
      let sel := inFlight tenantId intentId fence
      (.ok (t.count sel = 1), t.modify sel (change.apply now))
    else (.error .unicodeEncodeError, t)
  | .reconcile tenantId intentId providerPostId receipt now =>
    let sel := reconcilable tenantId intentId
    if t.count sel = 1 then (.updated, t.modify sel (reconcileRow providerPostId receipt now))
    else (.found (t.rows.find? fun r => r.isFor tenantId intentId), t)
  | .revokeUnused filter reason now =>
    if Py.encodable reason then
      let sel := fun r : SocialPublicationIntent => filter.covers r && r.status = .pending
      (.ok (t.count sel), t.modify sel (revokeRow reason now))
    else (.error .unicodeEncodeError, t)

/-- The publication service over its table. -/
def service : Service statements IntentTable Empty where
  run _ o t := some (o.run t)
  crash _ t := t
  env x _ := nomatch x

/-- The signature of the publication programs. -/
abbrev sig : Sig := outside.sum statements

/-- The programs of the publication service. -/
abbrev Program (α : Type) := Prog sig Exn α

/-- The logs of its runs. -/
abbrev History := Log sig Empty

/-- Ask the outside. -/
abbrev ask (o : Outside) : Program (outside.Ans o) :=
  @Prog.ask outside statements Exn o

/-- Run a transaction. -/
abbrev call (o : Statement) : Program (statements.Ans o) :=
  @Prog.call outside statements Exn o

/-! ## The methods -/

/-- The event of an answered question. -/
abbrev asked (o : Outside) (a : outside.Ans o) : Event sig :=
  @Event.outside outside statements o a

/-- The event of a transaction that ran. -/
abbrev called (o : Statement) (a : statements.Ans o) : Event sig :=
  @Event.store outside statements o a

/-- `self._clock()` -/
def clock : Program Str := ask .clock

/-- `reserve` -/
def reserve (intent : SocialPublicationIntent) : Program SocialPublicationReservation := do
  .ofExcept (validateIntent intent)
  let answer ← call (.reserve intent)
  let reserved ← .ofExcept answer
  match reserved with
  | .inserted => return ⟨intent, true, false⟩
  | .existing record => return ⟨record, false, record.status = .succeeded⟩

/-- `get` -/
def get (tenantId intentId : Str) : Program SocialPublicationIntent := do
  .ofExcept (validateIdentity tenantId intentId)
  let row ← call (.get tenantId intentId)
  match row with
  | some row => return row
  | none => throw (.keyError "social publication intent not found")

/-- The checks of `_transition`. -/
def Change.validate (c : Change) (tenantId intentId : Str) (fence : Int) : Except Exn Unit := do
  validateIdentity tenantId intentId
  check (1 ≤ fence) (.valueError "publication fence must be positive")
  c.providerContainerId.elim (.ok ()) validateProviderId
  c.providerPostId.elim (.ok ()) validateProviderId
  c.receipt.elim (.ok ()) validateReceipt
  if c.failureReason = [] then .ok () else validateReason c.failureReason

/-- `_transition` -/
def transition (tenantId intentId : Str) (fence : Int) (change : Change) :
    Program SocialPublicationIntent := do
  .ofExcept (change.validate tenantId intentId fence)
  let now ← clock
  let answer ← call (.transition tenantId intentId fence change now)
  let updated ← .ofExcept answer
  .raiseIf (updated = false)
    (.socialPublicationState "publication intent is not pending for this fence")
  get tenantId intentId

/-- `record_container` -/
def recordContainer (tenantId intentId : Str) (fence : Int) (containerId : Str) :
    Program SocialPublicationIntent :=
  transition tenantId intentId fence { status := .pending, providerContainerId := some containerId }

/-- `complete` -/
def complete (tenantId intentId : Str) (fence : Int) (providerPostId : Str) (receipt : Obj) :
    Program SocialPublicationIntent :=
  transition tenantId intentId fence
    { status := .succeeded, providerPostId := some providerPostId, receipt := some receipt
      completed := true }

/-- `mark_unknown` -/
def markUnknown (tenantId intentId : Str) (fence : Int) (reason : Str) :
    Program SocialPublicationIntent :=
  transition tenantId intentId fence { status := .unknown, failureReason := reason }

/-- `mark_failed` -/
def markFailed (tenantId intentId : Str) (fence : Int) (reason : Str) :
    Program SocialPublicationIntent :=
  transition tenantId intentId fence { status := .failed, failureReason := reason }

/-- `reconcile_success` -/
def reconcileSuccess (tenantId intentId providerPostId : Str) (receipt : Obj) :
    Program SocialPublicationIntent := do
  .ofExcept (validateIdentity tenantId intentId)
  .ofExcept (validateProviderId providerPostId)
  .ofExcept (validateReceipt receipt)
  let now ← clock
  let answer ← call (.reconcile tenantId intentId providerPostId receipt now)
  match answer with
  | .updated => get tenantId intentId
  | .found (some existing) =>
    if reconciliationMatches existing providerPostId receipt then return existing
    else throw (.socialPublicationState "only an unknown publication can be reconciled")
  | .found none => throw (.socialPublicationState "only an unknown publication can be reconciled")

/-- The checks of `revoke_unused`. -/
def RevokeFilter.validate (f : RevokeFilter) (reason : Str) : Except Exn Unit := do
  check (isIdentifier f.tenantId) (.valueError "tenant_id is invalid")
  check (f.channelId.all isChannel) (.valueError "channel_id is invalid")
  check (f.accountId.all isIdentifier) (.valueError "account_id is invalid")
  check (f.runId.all isIdentifier) (.valueError "run_id is invalid")
  validateReason reason

/-- `revoke_unused` -/
def revokeUnused (filter : RevokeFilter) (reason : Str) : Program Nat := do
  .ofExcept (filter.validate reason)
  let now ← clock
  let answer ← call (.revokeUnused filter reason now)
  .ofExcept answer

end Publication

end AgencyRuntime
