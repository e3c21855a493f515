import AgencyRuntime.Ledger.Atomic
import AgencyRuntime.Python.Datetime

/-!
# Browser sessions

The session methods of `SQLiteRunStore` (persistence.py), called one after the other.
`create_session` and `revoke_session` are the transactions of the run database;
`rotate_session_csrf`, `authenticate_session` and `verify_session_csrf` are added here. A clock
reading is a `Datetime`, whose text the rows keep, and a random token is a text that is not empty.
What a history of calls achieved is a log of `SessionEvent`s. The table holds a row for each session
of the log, and it says of the session what the log says (`Tracks`).
-/

namespace AgencyRuntime

namespace Ledger

open Py Tables

/-! ## The methods -/

/-- `secrets.token_urlsafe(32)` -/
structure RandomToken where
  text : Str
  nonempty : text ≠ []

/-- The arguments of `create_session`. -/
structure SessionRequest where
  tenantId : Str
  credentialFingerprint : Str
  ttlSeconds : Int
  requestId : Str
  actor : Str
  subjectId : Str := []
  role : Str := Py.lit "admin"
  keyId : Str := []

/-- What `create_session` draws: the time, the hexadecimal digits of a UUID, two tokens, and what its
transaction takes from outside. -/
structure SessionDraws where
  now : Datetime
  uuid : Str
  sessionToken : RandomToken
  csrfToken : RandomToken
  reading : Reading

/-- `SessionRecord` -/
structure SessionRecord where
  sessionId : Str
  tenantId : Str
  subjectId : Str
  role : Str
  keyId : Str
  credentialFingerprint : Str
  createdAt : Str
  expiresAt : Str
  revokedAt : Option Str
deriving DecidableEq

/-- `_row_to_session_record` -/
def SessionRow.record (r : SessionRow) : SessionRecord where
  sessionId := r.sessionId
  tenantId := r.tenantId
  subjectId := r.subjectId
  role := r.role
  keyId := r.keyId
  credentialFingerprint := r.credentialFingerprint
  createdAt := r.createdAt
  expiresAt := r.expiresAt
  revokedAt := r.revokedAt

/-- The end of a session, after the check of its duration. -/
def SessionRequest.expiry (request : SessionRequest) (now : Datetime) : Except Exn Datetime := do
  check (300 ≤ request.ttlSeconds ∧ request.ttlSeconds ≤ 86400)
    (.valueError "session ttl must be between 300 and 86400 seconds")
  now.add (request.ttlSeconds * 1000000)

/-- What `create_session` returns. -/
def SessionRequest.issue (request : SessionRequest) (draws : SessionDraws) (expires : Datetime) :
    SessionIssue where
  sessionId := lit "session-" ++ draws.uuid
  sessionToken := draws.sessionToken.text
  csrfToken := draws.csrfToken.text
  tenantId := request.tenantId
  subjectId :=
    if request.subjectId = [] then lit "tenant:" ++ request.tenantId else request.subjectId
  role := request.role
  keyId := if request.keyId = [] then lit "legacy:" ++ request.tenantId else request.keyId
  credentialFingerprint := request.credentialFingerprint
  expiresAt := expires.isoformat

/-- The row of a new session, less its token hashes. -/
def SessionIssue.row (issue : SessionIssue) (createdAt : Datetime) : SessionRow where
  sessionId := issue.sessionId
  tenantId := issue.tenantId
  sessionTokenHash := []
  csrfTokenHash := []
  credentialFingerprint := issue.credentialFingerprint
  subjectId := issue.subjectId
  role := issue.role
  keyId := issue.keyId
  createdAt := createdAt.isoformat
  expiresAt := issue.expiresAt
  revokedAt := none

/-- The `SELECT` of a session by its id. -/
def selectSession (sessionId : Str) (db : RunDatabase) :
    Except Exn (Option SessionRow × RunDatabase) := do
  bindTexts [sessionId]
  return (db.sessions.rows.find? (·.sessionId == sessionId), db)

/-- `datetime.fromisoformat(str(row["expires_at"])) <= datetime.fromisoformat(self._clock())` -/
def SessionRow.isOver (row : SessionRow) (now : Datetime) : Except Exn Bool := do
  let expires ← orValueError (Datetime.fromisoformat row.expiresAt) "Invalid isoformat string"
  return expires ≤ now

/-- The activity check of `rotate_session_csrf` and `verify_session_csrf`, which raise different
exceptions. -/
def activeRow (raised : String → Exn) (now : Datetime) (row : Option SessionRow) :
    Except Exn SessionRow :=
  match row with
  | none => .error (raised "browser session is not active")
  | some row => do
    check (row.revokedAt = none) (raised "browser session is not active")
    check (¬ (← row.isOver now)) (raised "browser session is expired")
    return row

/-- The assignments of the `UPDATE` of `rotate_session_csrf`. -/
def setCsrf (csrfTokenHash : Str) : Update sessionSchema where
  apply r := { r with csrfTokenHash := csrfTokenHash }
  key_apply _ := rfl

/-- The `UPDATE` of `rotate_session_csrf`. -/
def updateCsrf (sessionId csrfTokenHash : Str) (db : RunDatabase) :
    Except Exn (Unit × RunDatabase) := do
  bindTexts [csrfTokenHash, sessionId]
  return ((), { db with
    sessions := db.sessions.modify (·.sessionId == sessionId) (setCsrf csrfTokenHash) })

section
variable (P : Platform)

/-- The transaction of `rotate_session_csrf`. -/
def rotateLocked (sessionId csrfToken : Str) (now : Datetime) :
    Transaction RunDatabase Exn SessionRow := do
  let found ← .statement (selectSession sessionId)
  let row ← .compute (activeRow .sessionAuthentication now found)
  let csrfTokenHash ← .compute (P.digest csrfToken)
  .statement (updateCsrf sessionId csrfTokenHash)
  return row

/-- `create_session` -/
def SessionRequest.create (F : Floats) (request : SessionRequest) (draws : SessionDraws)
    (db : RunDatabase) : Except Exn SessionIssue × RunDatabase :=
  match request.expiry draws.now with
  | .error e => (.error e, db)
  | .ok expires =>
    let issue := request.issue draws expires
    let (result, db') := (createSessionLocked P (F := F) (issue.row draws.now) issue.sessionToken
      issue.csrfToken request.requestId request.actor draws.reading).commit
        ⟨db, draws.reading.faults⟩
    (result.map fun _ => issue, db')

/-- `rotate_session_csrf`, which returns no session token. -/
def rotateSessionCsrf (sessionId : Str) (csrfToken : RandomToken) (now : Datetime)
    (faults : List (Option Exn)) (db : RunDatabase) : Except Exn SessionIssue × RunDatabase :=
  let (result, db') := (rotateLocked P sessionId csrfToken.text now).commit ⟨db, faults⟩
  (result.map fun row =>
    { sessionId := row.sessionId, sessionToken := [], csrfToken := csrfToken.text
      tenantId := row.tenantId, subjectId := row.subjectId, role := row.role, keyId := row.keyId
      credentialFingerprint := row.credentialFingerprint, expiresAt := row.expiresAt }, db')

/-- `revoke_session` -/
def revokeSessionAt (F : Floats) (tenantId sessionId requestId actor : Str) (now : Datetime)
    (reading : Reading) (db : RunDatabase) : Except Exn Unit × RunDatabase :=
  (revokeSessionLocked P (F := F) tenantId sessionId now.isoformat requestId actor reading).commit
    ⟨db, reading.faults⟩

/-- `authenticate_session`; both digests are hexadecimal, so that `compare_digest` compares them. -/
def authenticateSession (sessionToken : Str) (now : Datetime) (db : RunDatabase) :
    Except Exn SessionRecord := do
  check (sessionToken ≠ []) (.sessionAuthentication "browser session is missing")
  let tokenHash ← P.digest sessionToken
  match db.sessions.rows.find? (·.sessionTokenHash == tokenHash) with
  | none => .error (.sessionAuthentication "browser session is invalid")
  | some row => do
    check (tokenHash = row.sessionTokenHash) (.sessionAuthentication "browser session is invalid")
    check (row.revokedAt = none) (.sessionAuthentication "browser session is revoked")
    check (¬ (← row.isOver now)) (.sessionAuthentication "browser session is expired")
    return row.record

/-- `verify_session_csrf` -/
def verifySessionCsrf (sessionId csrfToken : Str) (now : Datetime) (db : RunDatabase) :
    Except Exn Unit := do
  check (csrfToken ≠ []) (.sessionCsrf "CSRF token is required")
  let (found, _) ← selectSession sessionId db
  let row ← activeRow .sessionCsrf now found
  check ((← P.digest csrfToken) = row.csrfTokenHash) (.sessionCsrf "CSRF token is invalid")

end

/-! ## Histories -/

/-- A session that was created. -/
structure IssuedSession extends SessionIssue where
  createdAt : Datetime
  ttlSeconds : Int
deriving DecidableEq

/-- The record of a session while it is not revoked. -/
def IssuedSession.record (s : IssuedSession) : SessionRecord :=
  (s.row s.createdAt).record

/-- What a call that returned achieved. -/
inductive SessionEvent
  | created (s : IssuedSession)
  | rotated (sessionId csrfToken : Str)
  | revoked (tenantId sessionId : Str)
deriving DecidableEq

/-- The calls that write sessions. -/
inductive SessionCall
  | create (request : SessionRequest) (draws : SessionDraws)
  | rotate (sessionId : Str) (csrfToken : RandomToken) (now : Datetime) (faults : List (Option Exn))
  | revoke (tenantId sessionId requestId actor : Str) (now : Datetime) (reading : Reading)

/-- A call on a database. -/
def SessionCall.perform (P : Platform) (F : Floats) :
    SessionCall → RunDatabase → Except Exn SessionEvent × RunDatabase
  | .create request draws, db =>
    let (result, db') := request.create P F draws db
    (result.map fun issue => .created ⟨issue, draws.now, request.ttlSeconds⟩, db')
  | .rotate sessionId csrfToken now faults, db =>
    let (result, db') := rotateSessionCsrf P sessionId csrfToken now faults db
    (result.map fun issue => .rotated issue.sessionId issue.csrfToken, db')
  | .revoke tenantId sessionId requestId actor now reading, db =>
    let (result, db') := revokeSessionAt P F tenantId sessionId requestId actor now reading db
    (result.map fun _ => .revoked tenantId sessionId, db')

/-- What the calls achieved, and the database after them. -/
structure SessionHistory where
  log : List SessionEvent
  db : RunDatabase

/-- A new store. -/
def SessionHistory.start : SessionHistory := ⟨[], .empty⟩

/-- One more call; only a call that returned is in the log. -/
def SessionHistory.next (P : Platform) (F : Floats) (h : SessionHistory) (call : SessionCall) :
    SessionHistory where
  log := h.log ++ (call.perform P F h.db).1.toOption.toList
  db := (call.perform P F h.db).2

/-- The calls made one after the other on a new store. -/
def SessionHistory.of (P : Platform) (F : Floats) (calls : List SessionCall) : SessionHistory :=
  calls.foldl (·.next P F) .start

/-! ### What a log says of a session -/

/-- The session an event created. -/
def SessionEvent.issued : SessionEvent → Option IssuedSession
  | .created s => some s
  | _ => none

/-- The CSRF token an event issued for a session. -/
def SessionEvent.csrfFor (sessionId : Str) : SessionEvent → Option Str
  | .created s => if s.sessionId = sessionId then some s.csrfToken else none
  | .rotated sessionId' csrfToken => if sessionId' = sessionId then some csrfToken else none
  | .revoked _ _ => none

/-- The event revoked a session. -/
def SessionEvent.revokes (sessionId : Str) : SessionEvent → Bool
  | .revoked _ sessionId' => sessionId' == sessionId
  | _ => false

/-- The event revoked a session for a tenant. -/
def SessionEvent.revokesFor (tenantId sessionId : Str) : SessionEvent → Bool
  | .revoked tenantId' sessionId' => tenantId' == tenantId && sessionId' == sessionId
  | _ => false

/-- The CSRF token issued last for a session. -/
def latestCsrf (log : List SessionEvent) (sessionId : Str) : Option Str :=
  (log.filterMap (·.csrfFor sessionId)).getLast?

/-- The session was created and not revoked, and the time is strictly before its expiry. -/
structure Live (log : List SessionEvent) (s : IssuedSession) (now : Datetime) : Prop where
  created : .created s ∈ log
  unrevoked : ∀ tenantId, .revoked tenantId s.sessionId ∉ log
  early : (now.micros : Int) < s.createdAt.micros + s.ttlSeconds * 1000000

/-- The audit event records the revocation of a session. -/
def EventRow.recordsRevocation (tenantId sessionId : Str) (row : EventRow) : Bool :=
  row.tenantId == tenantId && row.action == lit "session.revoked" &&
    row.resourceType == lit "browser_session" && row.resourceId == sessionId

end Ledger

end AgencyRuntime
