import AgencyRuntime.Effects.Service
import AgencyRuntime.Ledger.Chain

/-!
# The audited operations of the run store

`SQLiteRunStore` (persistence.py) as programs over its locked sections: a transaction, or a read.
`append_audit`, `create`, `save`, `create_session` and `revoke_session` run one transaction each, and
`create` and `save` may look the event up again after it; `verify_audit_chain` reads the events in
one section and the head in another.
-/

namespace AgencyRuntime

open Effects Tables

namespace Ledger

/-- A reading of the clock: an ISO instant, which is not empty. -/
structure Instant where
  text : Str
  nonempty : text ≠ []

/-- What the store asks of the outside: the clock, what a transaction takes from outside, the end of
a session (`datetime.fromisoformat(created_at) + timedelta(seconds=…)`), and random tokens. -/
inductive Outside
  | clock
  | reading
  | expiry (createdAt : Str) (ttlSeconds : Int)
  | token
  | uuid
  | lookupFault

/-- The answers from the outside. -/
abbrev outside : Sig where
  Op := Outside
  Ans
    | .clock => Instant
    | .reading => Reading
    | .expiry _ _ => Except Exn Str
    | .token => Str
    | .uuid => Str
    | .lookupFault => Option Exn

/-- What `create` and `save` take of a run: its id, its status, and
`execution_run_to_document(run)`. -/
structure StoredRun (F : Floats) where
  runId : Str
  status : Str
  document : Value F

/-- The locked sections of the store. -/
inductive Section (F : Floats)
  | appendAudit (tenantId : Str) (audit : AuditWrite F) (reading : Reading)
  | create (row : RunRow) (audit : Option (AuditWrite F)) (reading : Reading)
  | save (tenantId runId status documentJson : Str) (expectedStatus : Option Str)
      (audit : Option (AuditWrite F)) (reading : Reading)
  | createSession (row : SessionRow) (sessionToken csrfToken requestId actor : Str)
      (reading : Reading)
  | revokeSession (tenantId sessionId revokedAt requestId actor : Str) (reading : Reading)
  | selectEvent (tenantId eventId : Str) (fault : Option Exn)
  | selectEvents (tenantId : Str)
  | selectHead (tenantId : Str)

/-- The answers of the sections. -/
abbrev sections (F : Floats) : Sig where
  Op := Section F
  Ans
    | .selectEvent .. => Except Exn (Option EventRow)
    | .selectEvents _ => Except Exn (List EventRow)
    | .selectHead _ => Except Exn (Option HeadRow)
    | _ => Except Exn Unit

/-- A section on the database. -/
def Section.run (P : Platform) {F : Floats} :
    (o : Section F) → RunDatabase → (sections F).Ans o × RunDatabase
  | .appendAudit tenantId audit reading, db =>
    (appendAuditLocked P tenantId audit reading).commit ⟨db, reading.faults⟩
  | .create row audit reading, db => (createLocked P row audit reading).commit ⟨db, reading.faults⟩
  | .save tenantId runId status documentJson expectedStatus audit reading, db =>
    (saveLocked P tenantId runId status documentJson expectedStatus audit reading).commit
      ⟨db, reading.faults⟩
  | .createSession row sessionToken csrfToken requestId actor reading, db =>
    (createSessionLocked P (F := F) row sessionToken csrfToken requestId actor reading).commit
      ⟨db, reading.faults⟩
  | .revokeSession tenantId sessionId revokedAt requestId actor reading, db =>
    (revokeSessionLocked P (F := F) tenantId sessionId revokedAt requestId actor reading).commit
      ⟨db, reading.faults⟩
  | .selectEvent tenantId eventId fault, db =>
    (do
      fault.elim (.ok ()) .error
      bindTexts [tenantId, eventId]
      return (eventsOf db tenantId).find? (·.eventId == eventId), db)
  | .selectEvents tenantId, db => (do bindTexts [tenantId]; return eventsOf db tenantId, db)
  | .selectHead tenantId, db => (do bindTexts [tenantId]; return headOf db.heads tenantId, db)

/-- A program of the store. -/
abbrev Program (F : Floats) (α : Type) := Prog (outside.sum (sections F)) Exn α

section
variable {F : Floats}

/-- Ask the outside. -/
def ask (o : Outside) : Program F (outside.Ans o) := @Prog.ask outside (sections F) Exn o

/-- Run a locked section. -/
def call (o : Section F) : Program F ((sections F).Ans o) := @Prog.call outside (sections F) Exn o

/-- `audit_event`, as far as `create` and `save` use it. -/
def auditEvent (tenantId eventId : Str) : Program F (Option Json) := do
  .ofExcept (requireNonEmpty tenantId "tenant_id")
  .ofExcept (requireNonEmpty eventId "event_id")
  let fault ← ask .lookupFault
  let answer ← call (.selectEvent tenantId eventId fault)
  match ← Prog.ofExcept answer with
  | none => return none
  | some row => return some (← Prog.ofExcept (jsonLoads F row.payloadJson))

/-- `audit is not None and audit.event_id and self.audit_event(…) is not None` -/
def receiptExists (tenantId : Str) (audit : Option (AuditWrite F)) : Program F Bool :=
  match audit with
  | none => return false
  | some audit =>
    if audit.eventId = [] then return false
    else do return (← auditEvent tenantId audit.eventId).isSome

/-- The handlers of `create` and `save`: an integrity error is a conflict when the receipt exists,
and `otherwise` when it does not. -/
def orConflict (tenantId : Str) (audit : Option (AuditWrite F)) (otherwise : Exn) :
    Except Exn Unit → Program F Unit
  | .error .integrityError => do
    if ← receiptExists tenantId audit then throw (.auditEventConflict "command receipt already exists")
    else throw otherwise
  | answer => .ofExcept answer

/-- `append_audit` -/
def appendAudit (tenantId : Str) (audit : AuditWrite F) : Program F Unit := do
  .ofExcept (requireNonEmpty tenantId "tenant_id")
  let reading ← ask .reading
  let answer ← call (.appendAudit tenantId audit reading)
  .ofExcept answer

/-- `create` -/
def create (tenantId : Str) (run : StoredRun F) (audit : Option (AuditWrite F)) :
    Program F Unit := do
  let timestamp ← ask .clock
  let document ← .ofExcept run.document.canonicalJson
  let reading ← ask .reading
  let answer ← call (.create
    { tenantId := tenantId, runId := run.runId, status := run.status, documentJson := document
      createdAt := timestamp.text, updatedAt := timestamp.text } audit reading)
  orConflict tenantId audit (.valueError ("run already exists for tenant: " ++ Py.display run.runId))
    answer

/-- `save` -/
def save (tenantId : Str) (run : StoredRun F) (audit : Option (AuditWrite F))
    (expectedStatus : Option Str) : Program F Unit := do
  let document ← .ofExcept run.document.canonicalJson
  let reading ← ask .reading
  let answer ← call
    (.save tenantId run.runId run.status document expectedStatus audit reading)
  orConflict tenantId audit .integrityError answer

/-- `SessionIssue` -/
structure SessionIssue where
  sessionId : Str
  sessionToken : Str
  csrfToken : Str
  tenantId : Str
  subjectId : Str
  role : Str
  keyId : Str
  credentialFingerprint : Str
  expiresAt : Str
deriving DecidableEq

/-- `create_session` -/
def createSession (tenantId credentialFingerprint : Str) (ttlSeconds : Int)
    (requestId actor subjectId role keyId : Str) : Program F SessionIssue := do
  let subjectId := if subjectId = [] then Py.lit "tenant:" ++ tenantId else subjectId
  let keyId := if keyId = [] then Py.lit "legacy:" ++ tenantId else keyId
  .ofExcept (check (300 ≤ ttlSeconds ∧ ttlSeconds ≤ 86400)
    (.valueError "session ttl must be between 300 and 86400 seconds"))
  let createdAt ← ask .clock
  let expiry ← ask (.expiry createdAt.text ttlSeconds)
  let expiresAt ← .ofExcept expiry
  let uuid ← ask .uuid
  let sessionId := Py.lit "session-" ++ uuid
  let sessionToken ← ask .token
  let csrfToken ← ask .token
  let reading ← ask .reading
  let answer ← call (.createSession
    { sessionId := sessionId, tenantId := tenantId, sessionTokenHash := [], csrfTokenHash := []
      credentialFingerprint := credentialFingerprint, subjectId := subjectId, role := role
      keyId := keyId, createdAt := createdAt.text, expiresAt := expiresAt, revokedAt := none }
    sessionToken csrfToken requestId actor reading)
  .ofExcept answer
  return {
    sessionId := sessionId, sessionToken := sessionToken, csrfToken := csrfToken
    tenantId := tenantId, subjectId := subjectId, role := role, keyId := keyId
    credentialFingerprint := credentialFingerprint, expiresAt := expiresAt }

/-- `revoke_session` -/
def revokeSession (tenantId sessionId requestId actor : Str) : Program F Unit := do
  let revokedAt ← ask .clock
  let reading ← ask .reading
  let answer ← call (.revokeSession tenantId sessionId revokedAt.text requestId actor reading)
  .ofExcept answer

/-- `verify_audit_chain` -/
def verifyAuditChain (P : Platform) (tenantId : Str) : Program F AuditChainCheckpoint := do
  .ofExcept (requireNonEmpty tenantId "tenant_id")
  let rows ← call (.selectEvents tenantId)
  let rows ← Prog.ofExcept rows
  let seen ← .ofExcept (checkRows P F tenantId rows (genesisAuditHash, []))
  let head ← call (.selectHead tenantId)
  let head ← Prog.ofExcept head
  .ofExcept (checkHead rows seen head)
  let verifiedAt ← ask .clock
  let checkpoint := checkpointOf tenantId rows seen verifiedAt.text
  .ofExcept checkpoint.postInit
  return checkpoint

end

/-- The calls of the store. -/
inductive Call (F : Floats)
  | appendAudit (tenantId : Str) (audit : AuditWrite F)
  | create (tenantId : Str) (run : StoredRun F) (audit : Option (AuditWrite F))
  | save (tenantId : Str) (run : StoredRun F) (audit : Option (AuditWrite F))
      (expectedStatus : Option Str)
  | createSession (tenantId credentialFingerprint : Str) (ttlSeconds : Int)
      (requestId actor subjectId role keyId : Str)
  | revokeSession (tenantId sessionId requestId actor : Str)
  | verifyAuditChain (tenantId : Str)

/-- What a call returns. -/
inductive CallResult
  | done
  | session (issue : SessionIssue)
  | checkpoint (checkpoint : AuditChainCheckpoint)

/-- The program of a call. -/
def Call.program (P : Platform) {F : Floats} : Call F → Program F CallResult
  | .appendAudit tenantId audit => do
    Ledger.appendAudit tenantId audit
    return .done
  | .create tenantId run audit => do
    Ledger.create tenantId run audit
    return .done
  | .save tenantId run audit expectedStatus => do
    Ledger.save tenantId run audit expectedStatus
    return .done
  | .createSession tenantId fingerprint ttlSeconds requestId actor subjectId role keyId => do
    return .session
      (← Ledger.createSession tenantId fingerprint ttlSeconds requestId actor subjectId role keyId)
  | .revokeSession tenantId sessionId requestId actor => do
    Ledger.revokeSession tenantId sessionId requestId actor
    return .done
  | .verifyAuditChain tenantId => do return .checkpoint (← Ledger.verifyAuditChain P tenantId)

end Ledger

end AgencyRuntime
