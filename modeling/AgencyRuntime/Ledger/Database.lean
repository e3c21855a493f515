import AgencyRuntime.Ledger.Audit
import AgencyRuntime.Tables.Transaction
import AgencyRuntime.Tables.Unique

/-!
# The run database

The tables of `SQLiteRunStore` (persistence.py) that its audited operations write, the statements on
them, and the transactions made of these. A statement binds its arguments first, and no text with a
lone surrogate can be bound.
-/

namespace AgencyRuntime

open Tables

namespace Ledger

/-- A row of `runtime_runs`. -/
structure RunRow where
  tenantId : Str
  runId : Str
  status : Str
  documentJson : Str
  createdAt : Str
  updatedAt : Str
deriving DecidableEq

/-- A row of `runtime_sessions`. -/
structure SessionRow where
  sessionId : Str
  tenantId : Str
  sessionTokenHash : Str
  csrfTokenHash : Str
  credentialFingerprint : Str
  subjectId : Str
  role : Str
  keyId : Str
  createdAt : Str
  expiresAt : Str
  revokedAt : Option Str
deriving DecidableEq

def runSchema : Schema RunRow := .ofKey fun r => (r.tenantId, r.runId)
def eventSchema : Schema EventRow := .ofKey (·.eventId)
def headSchema : Schema HeadRow := .ofKey (·.tenantId)

/-- A session has a unique id and a unique token hash. -/
def sessionSchema : Schema SessionRow where
  Key := Str × Str
  key r := (r.sessionId, r.sessionTokenHash)
  clash k l := k.1 == l.1 || k.2 == l.2
  refl _ := by simp
  symm k l := by simp [BEq.comm]

/-- The tables; the events are in the order of their sequence numbers. -/
structure RunDatabase where
  runs : Table runSchema
  events : Table eventSchema
  heads : Table headSchema
  sessions : Table sessionSchema

/-- A new database. -/
def RunDatabase.empty : RunDatabase := ⟨.empty, .empty, .empty, .empty⟩

/-- The events of a tenant, `ORDER BY sequence ASC`. -/
def eventsOf (db : RunDatabase) (tenantId : Str) : List EventRow :=
  db.events.rows.filter (·.tenantId == tenantId)

/-- The head row of a tenant. -/
def headOf (heads : Table headSchema) (tenantId : Str) : Option HeadRow :=
  heads.rows.find? (·.tenantId == tenantId)

/-- The arguments `AuditWrite` is built from. -/
structure AuditDraft (F : Floats) where
  requestId : Str
  action : Str
  resourceType : Str
  resourceId : Str
  actor : Str
  payload : List (Str × Value F)
  eventId : Str := []

/-- `AuditWrite.__post_init__` -/
def AuditDraft.postInit {F : Floats} (a : AuditDraft F) : Except Exn Unit := do
  requireNonEmpty a.requestId "request_id"
  requireNonEmpty a.action "action"
  requireNonEmpty a.resourceType "resource_type"
  requireNonEmpty a.resourceId "resource_id"
  requireNonEmpty a.actor "actor"
  if a.eventId = [] then return () else requireNonEmpty a.eventId "event_id"

/-- `AuditWrite` -/
structure AuditWrite (F : Floats) extends AuditDraft F where
  checked : toAuditDraft.postInit = .ok ()

/-- Build an `AuditWrite`. -/
def AuditDraft.build {F : Floats} (a : AuditDraft F) : Except Exn (AuditWrite F) :=
  match h : a.postInit with
  | .ok () => .ok ⟨a, h⟩
  | .error e => .error e

/-- What a transaction takes from outside: the clock at its first statement and at the audit event,
a new event id, and the failures its statements meet. -/
structure Reading where
  now : Str
  occurredAt : Str
  uuid : Str
  faults : List (Option Exn)

/-- Bind texts to a statement. -/
def bindTexts (texts : List Str) : Except Exn Unit := check (texts.all Py.encodable) .unicodeEncodeError

section
variable (P : Platform) {F : Floats}

/-- `INSERT INTO audit_events` -/
def insertEvent (row : EventRow) (db : RunDatabase) : Except Exn (Unit × RunDatabase) := do
  bindTexts [row.eventId, row.tenantId, row.requestId, row.occurredAt, row.action, row.resourceType,
    row.resourceId, row.actor, row.payloadJson, row.previousHash, row.eventHash]
  match db.events.insert row with
  | some events => return ((), { db with events := events })
  | none => throw .integrityError

/-- The assignments of the upsert of a head. -/
def setHead (row : HeadRow) : Update headSchema where
  apply r :=
    { r with eventCount := row.eventCount, headEventId := row.headEventId, headHash := row.headHash }
  key_apply _ := rfl

/-- `INSERT … ON CONFLICT(tenant_id) DO UPDATE` -/
def upsertHead (row : HeadRow) (heads : Table headSchema) : Table headSchema :=
  (heads.insert row).getD (heads.modify (·.tenantId == row.tenantId) (setHead row))

/-- The upsert as a statement; the count must fit an INTEGER. -/
def writeHead (row : HeadRow) (db : RunDatabase) : Except Exn (Unit × RunDatabase) := do
  check (row.eventCount < 2 ^ 63) .overflowError
  bindTexts [row.tenantId, row.headEventId, row.headHash]
  return ((), { db with heads := upsertHead row db.heads })

/-- The `SELECT` on `audit_chain_heads`. -/
def selectHead (tenantId : Str) (db : RunDatabase) : Except Exn (Option HeadRow × RunDatabase) := do
  bindTexts [tenantId]
  return (headOf db.heads tenantId, db)

/-- `_append_audit_locked` -/
def appendAuditLocked (tenantId : Str) (audit : AuditWrite F) (reading : Reading) :
    Transaction RunDatabase Exn Unit := do
  let eventId := if audit.eventId = [] then Py.lit "audit-" ++ reading.uuid else audit.eventId
  let payload := (Value.dict audit.payload).toPrimitive
  let payloadJson ← .compute (dumps payload)
  let head ← .statement (selectHead tenantId)
  let previousHash := head.elim genesisAuditHash (·.headHash)
  let previousCount := head.elim 0 (·.eventCount)
  let texts : EventTexts :=
    { eventId := eventId, tenantId := tenantId, requestId := audit.requestId
      occurredAt := reading.occurredAt, action := audit.action, resourceType := audit.resourceType
      resourceId := audit.resourceId, actor := audit.actor }
  let eventHash ← .compute (auditEventHash P texts payload previousHash)
  .statement (insertEvent
    { texts with payloadJson := payloadJson, previousHash := previousHash, eventHash := eventHash })
  .statement (writeHead
    { tenantId := tenantId, eventCount := previousCount + 1, headEventId := eventId
      headHash := eventHash })

/-- The audit event of an operation, if it carries one. -/
def appendOptional (tenantId : Str) (audit : Option (AuditWrite F)) (reading : Reading) :
    Transaction RunDatabase Exn Unit :=
  audit.elim (pure ()) fun audit => appendAuditLocked P tenantId audit reading

/-- `INSERT INTO runtime_runs` -/
def insertRun (row : RunRow) (db : RunDatabase) : Except Exn (Unit × RunDatabase) := do
  bindTexts [row.tenantId, row.runId, row.status, row.documentJson, row.createdAt, row.updatedAt]
  match db.runs.insert row with
  | some runs => return ((), { db with runs := runs })
  | none => throw .integrityError

/-- The transaction of `create`. -/
def createLocked (row : RunRow) (audit : Option (AuditWrite F)) (reading : Reading) :
    Transaction RunDatabase Exn Unit := do
  .statement (insertRun row)
  appendOptional P row.tenantId audit reading

/-- The assignments of the `UPDATE` of `save`. -/
def setRun (status documentJson now : Str) : Update runSchema where
  apply r := { r with status := status, documentJson := documentJson, updatedAt := now }
  key_apply _ := rfl

/-- The `WHERE` clause of the `UPDATE` of `save`. -/
def savedRow (tenantId runId : Str) (expectedStatus : Option Str) (r : RunRow) : Bool :=
  r.tenantId == tenantId && r.runId == runId && expectedStatus.all (· == r.status)

/-- The `UPDATE` of `save`, with its row count. -/
def updateRun (tenantId runId status documentJson now : Str) (expectedStatus : Option Str)
    (db : RunDatabase) : Except Exn (Nat × RunDatabase) := do
  bindTexts ([status, documentJson, now, tenantId, runId] ++ expectedStatus.toList)
  let saved := savedRow tenantId runId expectedStatus
  return (db.runs.count saved,
    { db with runs := db.runs.modify saved (setRun status documentJson now) })

/-- The `SELECT` of a run. -/
def selectRun (tenantId runId : Str) (db : RunDatabase) :
    Except Exn (Option RunRow × RunDatabase) := do
  bindTexts [tenantId, runId]
  return (db.runs.rows.find? (fun r => r.tenantId == tenantId && r.runId == runId), db)

/-- What `save` raises when it updated no row. -/
def notSaved (runId : Str) (row : Option RunRow) : Exn :=
  row.elim (.keyError ("run not found: " ++ Py.display runId)) fun _ =>
    .runStateConflict ("run state changed before persistence: " ++ Py.display runId)

/-- The transaction of `save`. -/
def saveLocked (tenantId runId status documentJson : Str) (expectedStatus : Option Str)
    (audit : Option (AuditWrite F)) (reading : Reading) : Transaction RunDatabase Exn Unit := do
  let rowcount ← .statement
    (updateRun tenantId runId status documentJson reading.now expectedStatus)
  if rowcount = 1 then appendOptional P tenantId audit reading
  else do
    let row ← .statement (selectRun tenantId runId)
    .compute (.error (notSaved runId row))

/-- `INSERT INTO runtime_sessions` -/
def insertSession (row : SessionRow) (db : RunDatabase) : Except Exn (Unit × RunDatabase) := do
  bindTexts [row.sessionId, row.tenantId, row.sessionTokenHash, row.csrfTokenHash,
    row.credentialFingerprint, row.subjectId, row.role, row.keyId, row.createdAt, row.expiresAt]
  match db.sessions.insert row with
  | some sessions => return ((), { db with sessions := sessions })
  | none => throw .integrityError

/-- The transaction of `create_session`, on the row less its token hashes. -/
def createSessionLocked (row : SessionRow) (sessionToken csrfToken requestId actor : Str)
    (reading : Reading) : Transaction RunDatabase Exn Unit := do
  let sessionTokenHash ← .compute (P.digest sessionToken)
  let csrfTokenHash ← .compute (P.digest csrfToken)
  .statement (insertSession
    { row with sessionTokenHash := sessionTokenHash, csrfTokenHash := csrfTokenHash })
  let audit ← .compute (AuditDraft.build (F := F)
    { requestId := requestId, action := Py.lit "session.created"
      resourceType := Py.lit "browser_session", resourceId := row.sessionId, actor := actor
      payload :=
        [(Py.lit "auth_method", .str (Py.lit "http_only_cookie")),
          (Py.lit "subject_id", .str row.subjectId), (Py.lit "role", .str row.role),
          (Py.lit "key_id", .str row.keyId), (Py.lit "expires_at", .str row.expiresAt)] })
  appendAuditLocked P row.tenantId audit reading

/-- The assignments of the `UPDATE` of `revoke_session`. -/
def setRevoked (revokedAt : Str) : Update sessionSchema where
  apply r := { r with revokedAt := some revokedAt }
  key_apply _ := rfl

/-- The `WHERE` clause of the `UPDATE` of `revoke_session`. -/
def activeSession (tenantId sessionId : Str) (r : SessionRow) : Bool :=
  r.tenantId == tenantId && r.sessionId == sessionId && r.revokedAt.isNone

/-- The `UPDATE` of `revoke_session`, with its row count. -/
def updateSession (tenantId sessionId revokedAt : Str) (db : RunDatabase) :
    Except Exn (Nat × RunDatabase) := do
  bindTexts [revokedAt, tenantId, sessionId]
  let active := activeSession tenantId sessionId
  return (db.sessions.count active,
    { db with sessions := db.sessions.modify active (setRevoked revokedAt) })

/-- The transaction of `revoke_session`. -/
def revokeSessionLocked (tenantId sessionId revokedAt requestId actor : Str) (reading : Reading) :
    Transaction RunDatabase Exn Unit := do
  let rowcount ← .statement (updateSession tenantId sessionId revokedAt)
  .compute (check (rowcount = 1) (.keyError "active browser session not found"))
  let audit ← .compute (AuditDraft.build (F := F)
    { requestId := requestId, action := Py.lit "session.revoked"
      resourceType := Py.lit "browser_session", resourceId := sessionId, actor := actor
      payload := [(Py.lit "revoked_at", .str revokedAt)] })
  appendAuditLocked P tenantId audit reading

end

end Ledger

end AgencyRuntime
