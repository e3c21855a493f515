import AgencyRuntime.Chains.Paired
import AgencyRuntime.Ledger.Sessions

/-!
# The life of a session

Over any history of `create_session`, `rotate_session_csrf` and `revoke_session` the table holds one
row for each created session, in their order, and each row is what the log of the calls says of its
session (`RowOf`). What `authenticate_session` and `verify_session_csrf` answer is then read off the
log.
-/

namespace AgencyRuntime

namespace Ledger

open Chains Py Tables

variable {P : Platform} {F : Floats}

/-! ## What the calls do -/

theorem createSessionLocked_binds (row : SessionRow)
    (sessionToken csrfToken requestId actor : Str) (reading : Reading) :
    (createSessionLocked P (F := F) row sessionToken csrfToken requestId actor reading).Does
      fun _ _ _ => encodable row.sessionId = true := by
  refine Transaction.Does.mono ((Transaction.does_compute _).bind fun _ =>
    (Transaction.does_compute _).bind fun _ => (Transaction.does_statement _).bind fun _ =>
      (Transaction.does_compute _).bind fun audit => appendAuditLocked_does audit reading) ?_
  rintro db _ db' ⟨_, _, -, _, _, -, _, _, hinsert, -⟩
  obtain ⟨_, hbind, -⟩ := exceptBind_ok hinsert
  have hall := check_ok.1 hbind
  simp only [List.all_cons, Bool.and_eq_true] at hall
  exact hall.1

/-- The row `create_session` inserts. -/
def SessionRequest.storedRow (request : SessionRequest) (draws : SessionDraws) (expires : Datetime)
    (sessionTokenHash csrfTokenHash : Str) : SessionRow :=
  { (request.issue draws expires).row draws.now with
    sessionTokenHash := sessionTokenHash, csrfTokenHash := csrfTokenHash }

/-- What a `create_session` that returned did. -/
structure SessionRequest.Stored (P : Platform) (F : Floats) (request : SessionRequest)
    (draws : SessionDraws) (expires : Datetime) (row : SessionRow) (db db' : RunDatabase) :
    Prop where
  expiry : request.expiry draws.now = .ok expires
  sessionToken : P.digest draws.sessionToken.text = .ok row.sessionTokenHash
  csrfToken : P.digest draws.csrfToken.text = .ok row.csrfTokenHash
  stored : row = request.storedRow draws expires row.sessionTokenHash row.csrfTokenHash
  binds : encodable row.sessionId = true
  done : WithEvent P F request.tenantId (SessionCreated row) (RecordsSession · request.tenantId
    request.requestId (lit "session.created") row.sessionId request.actor) db db'

theorem create_cases (request : SessionRequest) (draws : SessionDraws) (db : RunDatabase) :
    (∃ e, request.create P F draws db = (.error e, db)) ∨
      ∃ expires row db', request.create P F draws db = (.ok (request.issue draws expires), db') ∧
        request.Stored P F draws expires row db db' := by
  unfold SessionRequest.create
  split
  · next e _ => exact .inl ⟨e, rfl⟩
  · next expires hexpiry =>
    simp only
    rcases Transaction.commit_cases ((createSessionLocked_does (P := P) (F := F) _ _ _ _ _ _).and
      (createSessionLocked_binds _ _ _ _ _ _)) _ with ⟨e, h⟩ | ⟨_, db', h, hdone, hbinds⟩
    · exact .inl ⟨e, by rw [h]; rfl⟩
    · obtain ⟨sessionTokenHash, csrfTokenHash, hsession, hcsrf, hevent⟩ := hdone
      exact .inr ⟨expires, request.storedRow draws expires sessionTokenHash csrfTokenHash, db',
        by rw [h]; rfl, hexpiry, hsession, hcsrf, rfl, hbinds, hevent⟩

/-- What a `rotate_session_csrf` that returned did. -/
structure Rotated (P : Platform) (sessionId csrfToken : Str) (row : SessionRow)
    (db db' : RunDatabase) : Prop where
  mem : row ∈ db.sessions.rows
  found : row.sessionId = sessionId
  done : ∃ csrfTokenHash, P.digest csrfToken = .ok csrfTokenHash ∧ db' = { db with
    sessions := db.sessions.modify (·.sessionId == sessionId) (setCsrf csrfTokenHash) }

theorem isOver_ok {row : SessionRow} {now : Datetime} {b : Bool} :
    row.isOver now = .ok b ↔
      ∃ expires, Datetime.fromisoformat row.expiresAt = some expires ∧ decide (expires ≤ now) = b := by
  rw [SessionRow.isOver, exceptBind_ok_iff]
  refine exists_congr fun expires => and_congr ?_ ?_
  · cases Datetime.fromisoformat row.expiresAt <;> simp [orValueError]
  · exact ⟨Except.ok.inj, congrArg _⟩

/-- The activity check passes a row that is not revoked, before its expiry. -/
theorem activeRow_ok {raised : String → Exn} {now : Datetime} {found : Option SessionRow}
    {row : SessionRow} :
    activeRow raised now found = .ok row ↔ found = some row ∧ row.revokedAt = none ∧
      row.isOver now = .ok false := by
  cases found with
  | none => simp [activeRow]
  | some found =>
    rw [activeRow, checkBind_ok, exceptBind_ok_iff]
    constructor
    · rintro ⟨hrevoked, expired, hover, hrow⟩
      obtain ⟨hnot, hrow⟩ := checkBind_ok.1 hrow
      cases hrow
      rw [Bool.not_eq_true] at hnot
      exact ⟨rfl, hrevoked, hnot ▸ hover⟩
    · rintro ⟨hfound, hrevoked, hover⟩
      cases hfound
      exact ⟨hrevoked, false, hover, checkBind_ok.2 ⟨Bool.false_ne_true, rfl⟩⟩

theorem rotateLocked_does (sessionId csrfToken : Str) (now : Datetime) :
    (rotateLocked P sessionId csrfToken now).Does fun db row db' =>
      Rotated P sessionId csrfToken row db db' := by
  refine Transaction.Does.mono ((Transaction.does_statement _).bind fun _ =>
    (Transaction.does_compute _).bind fun row => (Transaction.does_compute _).bind fun _ =>
      (Transaction.does_statement _).bind fun _ => Transaction.does_pure row) ?_
  rintro db _ db' ⟨found, _, hselect, row, _, ⟨hactive, rfl⟩, csrfTokenHash, _, ⟨hdigest, rfl⟩, _,
    _, hupdate, rfl, rfl⟩
  obtain ⟨_, -, hselect⟩ := exceptBind_ok hselect
  obtain ⟨rfl, rfl⟩ := Prod.ext_iff.1 (Except.ok.inj hselect)
  obtain ⟨_, -, hupdate⟩ := exceptBind_ok hupdate
  obtain ⟨-, rfl⟩ := Prod.ext_iff.1 (Except.ok.inj hupdate)
  obtain ⟨hfound, -, -⟩ := activeRow_ok.1 hactive
  exact ⟨List.mem_of_find?_eq_some hfound, by simpa using List.find?_some hfound, csrfTokenHash,
    hdigest, rfl⟩

/-! ## The rows and the log -/

/-- The row is what the log says of the session. -/
structure RowOf (P : Platform) (log : List SessionEvent) (s : IssuedSession) (row : SessionRow) :
    Prop where
  record : { row.record with revokedAt := none } = s.record
  binds : encodable s.sessionId = true
  sessionToken : s.sessionToken ≠ [] ∧ P.digest s.sessionToken = .ok row.sessionTokenHash
  csrfToken : ∃ token, latestCsrf log s.sessionId = some token ∧ token ≠ [] ∧
    P.digest token = .ok row.csrfTokenHash
  revocations : log.countP (·.revokes s.sessionId) = row.revokedAt.toList.length
  expiry : ∃ expires : Datetime, s.expiresAt = expires.isoformat ∧
    (expires.micros : Int) = s.createdAt.micros + s.ttlSeconds * 1000000

/-- The sessions of a log, in the order of their creation. -/
def sessionsOf (log : List SessionEvent) : List IssuedSession := log.filterMap (·.issued)

/-- The table holds the sessions of the log, a revoked session is one of its tenant, and every
revocation has its audit event. -/
structure Tracks (P : Platform) (h : SessionHistory) : Prop where
  rows : List.Forall₂ (RowOf P h.log) (sessionsOf h.log) h.db.sessions.rows
  revoked : ∀ tenantId sessionId, .revoked tenantId sessionId ∈ h.log →
    ∃ row ∈ h.db.sessions.rows, row.tenantId = tenantId ∧ row.sessionId = sessionId
  audited : ∀ tenantId sessionId,
    h.db.events.rows.countP (·.recordsRevocation tenantId sessionId) =
      h.log.countP (·.revokesFor tenantId sessionId)

theorem tracks_start : Tracks P .start := by
  refine ⟨.nil, ?_, fun _ _ => rfl⟩
  intro tenantId sessionId h
  cases h

section
variable {log : List SessionEvent} {s : IssuedSession} {row : SessionRow}

theorem RowOf.sessionId (h : RowOf P log s row) : row.sessionId = s.sessionId :=
  congrArg SessionRecord.sessionId h.record

theorem RowOf.tenantId (h : RowOf P log s row) : row.tenantId = s.tenantId :=
  congrArg SessionRecord.tenantId h.record

theorem RowOf.expiresAt (h : RowOf P log s row) : row.expiresAt = s.expiresAt :=
  congrArg SessionRecord.expiresAt h.record

theorem mem_sessionsOf : s ∈ sessionsOf log ↔ .created s ∈ log := by
  rw [sessionsOf, List.mem_filterMap]
  constructor
  · rintro ⟨event, hevent, hissued⟩
    cases event with
    | created s' => cases hissued; exact hevent
    | rotated => cases hissued
    | revoked => cases hissued
  · intro h
    exact ⟨_, h, rfl⟩

@[simp] theorem sessionsOf_append (log' : List SessionEvent) :
    sessionsOf (log ++ log') = sessionsOf log ++ sessionsOf log' := List.filterMap_append

@[simp] theorem latestCsrf_append (event : SessionEvent) (sessionId : Str) :
    latestCsrf (log ++ [event]) sessionId =
      (event.csrfFor sessionId).or (latestCsrf log sessionId) := by
  cases h : event.csrfFor sessionId <;>
    simp [latestCsrf, List.filterMap_append, h]

/-- An event that is not about a session leaves what the log says of it. -/
theorem RowOf.append (h : RowOf P log s row) {event : SessionEvent}
    (hcsrf : event.csrfFor s.sessionId = none) (hrevokes : event.revokes s.sessionId = false) :
    RowOf P (log ++ [event]) s row where
  record := h.record
  binds := h.binds
  sessionToken := h.sessionToken
  csrfToken := by
    rw [latestCsrf_append, hcsrf]
    exact h.csrfToken
  revocations := by
    rw [List.countP_append, List.countP_singleton, hrevokes]
    exact h.revocations
  expiry := h.expiry

end

section
variable {h : SessionHistory} {s : IssuedSession} {row : SessionRow}

theorem Tracks.row_of (ht : Tracks P h) (hs : .created s ∈ h.log) :
    ∃ row ∈ h.db.sessions.rows, RowOf P h.log s row :=
  exists_right ht.rows (mem_sessionsOf.2 hs)

theorem Tracks.session_of (ht : Tracks P h) (hrow : row ∈ h.db.sessions.rows) :
    ∃ s, .created s ∈ h.log ∧ RowOf P h.log s row := by
  obtain ⟨s, hs, hof⟩ := exists_left ht.rows hrow
  exact ⟨s, mem_sessionsOf.1 hs, hof⟩

/-- A session no row is kept of has not been revoked. -/
theorem Tracks.not_revoked (ht : Tracks P h) {sessionId : Str}
    (hnone : ∀ row ∈ h.db.sessions.rows, row.sessionId ≠ sessionId) :
    h.log.countP (·.revokes sessionId) = 0 := by
  rw [List.countP_eq_zero]
  intro event hevent hrevokes
  cases event with
  | created => cases hrevokes
  | rotated => cases hrevokes
  | revoked tenantId sessionId' =>
    obtain ⟨row, hrow, -, hid⟩ := ht.revoked tenantId sessionId' hevent
    exact hnone row hrow (hid.trans (by simpa [SessionEvent.revokes] using hrevokes))

/-! ### One call -/

theorem SessionRequest.Stored.row_of {request : SessionRequest} {draws : SessionDraws}
    {expires : Datetime} {db db' : RunDatabase}
    (hstored : request.Stored P F draws expires row db db') (log : List SessionEvent)
    (hfresh : log.countP (·.revokes row.sessionId) = 0) :
    RowOf P (log ++ [.created ⟨request.issue draws expires, draws.now, request.ttlSeconds⟩])
      ⟨request.issue draws expires, draws.now, request.ttlSeconds⟩ row := by
  have hrow := hstored.stored
  have hid : row.sessionId = (request.issue draws expires).sessionId := by
    rw [hrow]
    rfl
  refine ⟨?_, ?_, ⟨draws.sessionToken.nonempty, hstored.sessionToken⟩,
    ⟨draws.csrfToken.text, ?_, draws.csrfToken.nonempty, hstored.csrfToken⟩, ?_, expires, rfl, ?_⟩
  · rw [hrow]
    rfl
  · exact hid ▸ hstored.binds
  · simp [SessionEvent.csrfFor, SessionRequest.issue]
  · have hnull : row.revokedAt = none := by rw [hrow]; rfl
    rw [List.countP_append, ← hid, hfresh, hnull]
    rfl
  · have hexpiry := hstored.expiry
    exact Datetime.add_ok (checkBind_ok.1 hexpiry).2

theorem Tracks.created (ht : Tracks P h) {request : SessionRequest} {draws : SessionDraws}
    {expires : Datetime} {db' : RunDatabase}
    (hstored : request.Stored P F draws expires row h.db db') :
    Tracks P ⟨h.log ++ [.created ⟨request.issue draws expires, draws.now, request.ttlSeconds⟩],
      db'⟩ := by
  obtain ⟨middle, event, ⟨hfresh, sessions, hrows, rfl⟩, hrecords, happended⟩ := hstored.done
  have hsessions : db'.sessions.rows = h.db.sessions.rows ++ [row] := by
    rw [happended.sessions]
    exact hrows
  have hevents : db'.events.rows = h.db.events.rows ++ [event] := happended.events
  have hids : ∀ r ∈ h.db.sessions.rows, r.sessionId ≠ row.sessionId := by
    intro r hr heq
    have hclash := hfresh r hr
    simp [sessionSchema, heq] at hclash
  have hid : row.sessionId = (request.issue draws expires).sessionId := by
    rw [hstored.stored]
    rfl
  refine ⟨?_, fun tenantId sessionId hmem => ?_, fun tenantId sessionId => ?_⟩
  · rw [sessionsOf_append, hsessions]
    refine List.rel_append ?_ (.cons (hstored.row_of h.log (ht.not_revoked hids)) .nil)
    refine imp_right ht.rows fun s r hr hof => hof.append ?_ rfl
    refine if_neg fun heq => hids r hr ?_
    exact hof.sessionId.trans (heq.symm.trans hid.symm)
  · obtain ⟨r, hr, hfor⟩ := ht.revoked tenantId sessionId (by simpa using hmem)
    rw [hsessions]
    exact ⟨r, List.mem_append_left _ hr, hfor⟩
  · have haction : event.recordsRevocation tenantId sessionId = false := by
      have hne : (lit "session.created" == lit "session.revoked") = false := by decide
      simp [EventRow.recordsRevocation, hrecords.action, hne]
    rw [hevents, List.countP_append, List.countP_append, ht.audited]
    simp [haction, SessionEvent.revokesFor]

theorem Tracks.rotated (ht : Tracks P h) {sessionId : Str} {csrfToken : RandomToken}
    {db' : RunDatabase} (hrotated : Rotated P sessionId csrfToken.text row h.db db') :
    Tracks P ⟨h.log ++ [.rotated sessionId csrfToken.text], db'⟩ := by
  obtain ⟨csrfTokenHash, hdigest, rfl⟩ := hrotated.done
  refine ⟨?_, fun tenantId sessionId' hmem => ?_, fun tenantId sessionId' => ?_⟩
  · rw [sessionsOf_append]
    simp only [sessionsOf, List.filterMap_cons, SessionEvent.issued, List.filterMap_nil,
      List.append_nil, Table.modify]
    refine List.forall₂_map_right_iff.2 (ht.rows.imp fun s r hof => ?_)
    have hid := hof.sessionId
    split
    · next hsel =>
      rw [beq_iff_eq, hid] at hsel
      refine ⟨hof.record, hof.binds, hof.sessionToken,
        ⟨csrfToken.text, ?_, csrfToken.nonempty, hdigest⟩, ?_, hof.expiry⟩
      · simp [SessionEvent.csrfFor, hsel]
      · rw [List.countP_append]
        exact hof.revocations
    · next hsel =>
      rw [beq_iff_eq, hid] at hsel
      exact hof.append (if_neg fun heq => hsel heq.symm) rfl
  · obtain ⟨r, hr, htenant, hid⟩ := ht.revoked tenantId sessionId' (by simpa using hmem)
    refine ⟨_, Table.mem_modify.2 ⟨r, hr, rfl⟩, ?_⟩
    split <;> exact ⟨htenant, hid⟩
  · rw [List.countP_append, ← ht.audited]
    rfl

/-- The row a revocation selects is the one row of the session. -/
theorem active_of_sessionId {db : RunDatabase} {tenantId sessionId : Str} {active : SessionRow}
    (hactive : active ∈ db.sessions.rows) (hsel : activeSession tenantId sessionId active = true)
    (hrow : row ∈ db.sessions.rows) (hid : row.sessionId = sessionId) :
    activeSession tenantId sessionId row = true := by
  have hsession : active.sessionId = sessionId := by
    simp only [activeSession, Bool.and_eq_true, beq_iff_eq] at hsel
    exact hsel.1.2
  have hsame : row = active :=
    db.sessions.eq_of_clash hrow hactive (by simp [sessionSchema, hid, hsession])
  exact hsame ▸ hsel

theorem Tracks.revokedFor (ht : Tracks P h) {tenantId sessionId requestId actor revokedAt : Str}
    {db' : RunDatabase}
    (hdone : WithEvent P F tenantId (SessionRevoked tenantId sessionId revokedAt)
      (RecordsSession · tenantId requestId (lit "session.revoked") sessionId actor) h.db db') :
    Tracks P ⟨h.log ++ [.revoked tenantId sessionId], db'⟩ := by
  obtain ⟨middle, event, ⟨hcount, rfl⟩, hrecords, happended⟩ := hdone
  have hsessions : db'.sessions.rows = h.db.sessions.rows.map fun r =>
      if activeSession tenantId sessionId r then { r with revokedAt := some revokedAt } else r := by
    rw [happended.sessions]
    rfl
  have hevents : db'.events.rows = h.db.events.rows ++ [event] := happended.events
  obtain ⟨active, hmem, hsel⟩ : ∃ r ∈ h.db.sessions.rows, activeSession tenantId sessionId r = true :=
    List.countP_pos_iff.1 (by
      have hpos : h.db.sessions.rows.countP (activeSession tenantId sessionId) = 1 := hcount
      omega)
  refine ⟨?_, fun tenant session hrevoked => ?_, fun tenant session => ?_⟩
  · rw [sessionsOf_append, hsessions]
    simp only [sessionsOf, List.filterMap_cons, SessionEvent.issued, List.filterMap_nil,
      List.append_nil]
    refine List.forall₂_map_right_iff.2 ?_
    refine imp_right ht.rows fun s r hr hof => ?_
    have hid := hof.sessionId
    have hrevocations := hof.revocations
    split
    · next hr' =>
      simp only [activeSession, Bool.and_eq_true, beq_iff_eq, Option.isNone_iff_eq_none] at hr'
      have hsession : s.sessionId = sessionId := hid.symm.trans hr'.1.2
      rw [hr'.2] at hrevocations
      refine ⟨hof.record, hof.binds, hof.sessionToken, ?_, ?_, hof.expiry⟩
      · rw [latestCsrf_append]
        exact hof.csrfToken
      · rw [List.countP_append, hrevocations]
        simp [SessionEvent.revokes, hsession]
    · next hr' =>
      refine hof.append rfl ?_
      rw [SessionEvent.revokes, beq_eq_false_iff_ne]
      intro heq
      exact hr' (active_of_sessionId hmem hsel hr (hid.trans heq.symm))
  · rw [hsessions]
    rcases List.mem_append.1 hrevoked with hbefore | hlast
    · obtain ⟨r, hr, htenant, hid⟩ := ht.revoked tenant session hbefore
      refine ⟨_, List.mem_map.2 ⟨r, hr, rfl⟩, ?_⟩
      split <;> exact ⟨htenant, hid⟩
    · cases List.mem_singleton.1 hlast
      refine ⟨_, List.mem_map.2 ⟨active, hmem, rfl⟩, ?_⟩
      simp only [activeSession, Bool.and_eq_true, beq_iff_eq] at hsel
      split <;> exact hsel.1
  · rw [hevents, List.countP_append, List.countP_append, ht.audited]
    simp [EventRow.recordsRevocation, SessionEvent.revokesFor, hrecords.action, hrecords.tenant,
      hrecords.resourceType, hrecords.resourceId]

end

/-! ### Every history -/

/-- A call leaves the database as it was when it raises, and keeps the table in step with the log. -/
theorem SessionHistory.next_spec (h : SessionHistory) (call : SessionCall) :
    (∀ e, (call.perform P F h.db).1 = .error e → (call.perform P F h.db).2 = h.db) ∧
      (Tracks P h → Tracks P (h.next P F call)) := by
  have hrefused {e : Exn} (heq : call.perform P F h.db = (.error e, h.db)) :
      (∀ e, (call.perform P F h.db).1 = .error e → (call.perform P F h.db).2 = h.db) ∧
        (Tracks P h → Tracks P (h.next P F call)) := by
    refine ⟨fun _ _ => by rw [heq], fun ht => ?_⟩
    simp only [SessionHistory.next, heq, Except.toOption, Option.toList_none, List.append_nil]
    exact ht
  have hdone (event : SessionEvent) (db' : RunDatabase)
      (heq : call.perform P F h.db = (.ok event, db'))
      (hnext : Tracks P h → Tracks P ⟨h.log ++ [event], db'⟩) :
      (∀ e, (call.perform P F h.db).1 = .error e → (call.perform P F h.db).2 = h.db) ∧
        (Tracks P h → Tracks P (h.next P F call)) := by
    refine ⟨fun e he => absurd he (by simp [heq]), fun ht => ?_⟩
    simp only [SessionHistory.next, heq, Except.toOption, Option.toList_some]
    exact hnext ht
  cases call with
  | create request draws =>
    rcases create_cases (P := P) (F := F) request draws h.db with
      ⟨e, heq⟩ | ⟨expires, row, db', heq, hstored⟩
    · exact hrefused (e := e) (by simp only [SessionCall.perform, heq]; rfl)
    · refine hdone _ db' (by simp only [SessionCall.perform, heq]; rfl) fun ht => ?_
      exact ht.created hstored
  | rotate sessionId csrfToken now faults =>
    rcases Transaction.commit_cases (rotateLocked_does (P := P) sessionId csrfToken.text now)
      ⟨h.db, faults⟩ with ⟨e, heq⟩ | ⟨row, db', heq, hrotated⟩
    · exact hrefused (e := e) (by simp only [SessionCall.perform, rotateSessionCsrf, heq]; rfl)
    · refine hdone (.rotated sessionId csrfToken.text) db' ?_
        fun ht => ht.rotated hrotated
      simp only [SessionCall.perform, rotateSessionCsrf, heq, Except.map, hrotated.found]
  | revoke tenantId sessionId requestId actor now reading =>
    rcases Transaction.commit_cases (revokeSessionLocked_does (P := P) (F := F) tenantId sessionId
      now.isoformat requestId actor reading) ⟨h.db, reading.faults⟩ with
      ⟨e, heq⟩ | ⟨_, db', heq, hevent⟩
    · exact hrefused (e := e) (by simp only [SessionCall.perform, revokeSessionAt, heq]; rfl)
    · refine hdone (.revoked tenantId sessionId) db' ?_
        fun ht => ht.revokedFor hevent
      simp only [SessionCall.perform, revokeSessionAt, heq]
      rfl

/-- After any calls the table says what the log says. -/
theorem tracks_of (calls : List SessionCall) : Tracks P (SessionHistory.of P F calls) := by
  suffices hall : ∀ h, Tracks P h → Tracks P (calls.foldl (·.next P F) h) from
    hall .start tracks_start
  induction calls with
  | nil => exact fun _ h => h
  | cons call calls ih => exact fun h ht => ih _ ((h.next_spec call).2 ht)

/-! ## The answers of the checks -/

/-- The tokens an event issued. -/
def SessionEvent.tokens : SessionEvent → List Str
  | .created s => [s.sessionToken, s.csrfToken]
  | .rotated _ csrfToken => [csrfToken]
  | .revoked _ _ => []

/-- No issued token has the hash of another text that is presented. -/
def Distinguishes (P : Platform) (log : List SessionEvent) (token : Str) : Prop :=
  ∀ issued ∈ log.flatMap (·.tokens), P.digest issued = P.digest token → issued = token

theorem latestCsrf_mem {log : List SessionEvent} {sessionId token : Str}
    (h : latestCsrf log sessionId = some token) : token ∈ log.flatMap (·.tokens) := by
  obtain ⟨event, hevent, hcsrf⟩ := List.mem_filterMap.1 (List.mem_of_getLast? h)
  refine List.mem_flatMap.2 ⟨event, hevent, ?_⟩
  cases event with
  | created s =>
    obtain ⟨-, rfl⟩ : s.sessionId = sessionId ∧ s.csrfToken = token := by
      simpa [SessionEvent.csrfFor] using hcsrf
    exact List.mem_cons_of_mem _ (List.mem_singleton_self _)
  | rotated id csrfToken =>
    obtain ⟨-, rfl⟩ : id = sessionId ∧ csrfToken = token := by
      simpa [SessionEvent.csrfFor] using hcsrf
    exact List.mem_singleton_self _
  | revoked => cases hcsrf

section
variable {log : List SessionEvent} {s : IssuedSession} {row : SessionRow} {now : Datetime}

theorem RowOf.isOver (h : RowOf P log s row) : row.isOver now = .ok false ↔
    (now.micros : Int) < s.createdAt.micros + s.ttlSeconds * 1000000 := by
  obtain ⟨expires, hexpires, hmicros⟩ := h.expiry
  rw [isOver_ok, h.expiresAt, hexpires, Datetime.fromisoformat_isoformat, ← hmicros]
  simp [Datetime.le_def]

theorem RowOf.revokedAt (h : RowOf P log s row) :
    row.revokedAt = none ↔ ∀ tenantId, .revoked tenantId s.sessionId ∉ log := by
  have hcount : row.revokedAt = none ↔ log.countP (·.revokes s.sessionId) = 0 := by
    rw [h.revocations]
    cases row.revokedAt <;> simp
  rw [hcount, List.countP_eq_zero]
  constructor
  · intro hnone tenantId hmem
    exact hnone _ hmem (beq_self_eq_true _)
  · intro hnone event hevent hrevokes
    cases event with
    | created => cases hrevokes
    | rotated => cases hrevokes
    | revoked tenantId sessionId =>
      obtain rfl : sessionId = s.sessionId := by simpa [SessionEvent.revokes] using hrevokes
      exact hnone tenantId hevent

/-- The checks on the row of a session pass exactly while it is live. -/
theorem RowOf.live (h : RowOf P log s row) (hs : .created s ∈ log) :
    row.revokedAt = none ∧ row.isOver now = .ok false ↔ Live log s now := by
  rw [h.revokedAt, h.isOver]
  exact ⟨fun h => ⟨hs, h.1, h.2⟩, fun h => ⟨h.unrevoked, h.early⟩⟩

theorem RowOf.record_eq (h : RowOf P log s row) (hnull : row.revokedAt = none) :
    row.record = s.record := by
  have hrecord : row.record.revokedAt = none := hnull
  rw [← h.record, ← hrecord]

end

section
variable {h : SessionHistory} {now : Datetime}

theorem authenticateSession_ok {token : Str} {db : RunDatabase} {record : SessionRecord} :
    authenticateSession P token now db = .ok record ↔ token ≠ [] ∧ ∃ row ∈ db.sessions.rows,
      P.digest token = .ok row.sessionTokenHash ∧
        (row.revokedAt = none ∧ row.isOver now = .ok false) ∧ row.record = record := by
  rw [authenticateSession, checkBind_ok, exceptBind_ok_iff]
  refine and_congr_right fun _ => ?_
  constructor
  · rintro ⟨tokenHash, hdigest, hrow⟩
    split at hrow
    · cases hrow
    · next row hfind =>
      obtain ⟨hhash, hrow⟩ := checkBind_ok.1 hrow
      obtain ⟨hnull, hrow⟩ := checkBind_ok.1 hrow
      obtain ⟨expired, hover, hrow⟩ := exceptBind_ok hrow
      obtain ⟨hnot, hrow⟩ := checkBind_ok.1 hrow
      rw [Bool.not_eq_true] at hnot
      exact ⟨row, List.mem_of_find?_eq_some hfind, hhash ▸ hdigest, ⟨hnull, hnot ▸ hover⟩,
        Except.ok.inj hrow⟩
  · rintro ⟨row, hrow, hdigest, ⟨hnull, hover⟩, hrecord⟩
    refine ⟨_, hdigest, ?_⟩
    have hfind : db.sessions.rows.find? (·.sessionTokenHash == row.sessionTokenHash) = some row := by
      refine Table.find?_eq_some hrow (beq_self_eq_true _) fun r hr => ?_
      simp [sessionSchema, beq_iff_eq.1 hr]
    rw [hfind]
    refine checkBind_ok.2 ⟨rfl, checkBind_ok.2 ⟨hnull, ?_⟩⟩
    exact exceptBind_ok_iff.2 ⟨false, hover, checkBind_ok.2 ⟨Bool.false_ne_true, hrecord ▸ rfl⟩⟩

theorem verifySessionCsrf_ok {sessionId token : Str} {db : RunDatabase} :
    verifySessionCsrf P sessionId token now db = .ok () ↔ token ≠ [] ∧
      encodable sessionId = true ∧ ∃ row ∈ db.sessions.rows, row.sessionId = sessionId ∧
        P.digest token = .ok row.csrfTokenHash ∧
        (row.revokedAt = none ∧ row.isOver now = .ok false) := by
  rw [verifySessionCsrf, checkBind_ok, exceptBind_ok_iff]
  refine and_congr_right fun _ => ?_
  constructor
  · rintro ⟨⟨found, _⟩, hselect, hrow⟩
    obtain ⟨_, hbind, hselect⟩ := exceptBind_ok hselect
    cases hselect
    obtain ⟨row, hactive, hrow⟩ := exceptBind_ok hrow
    obtain ⟨hfound, hnull, hover⟩ := activeRow_ok.1 hactive
    obtain ⟨hash, hdigest, hrow⟩ := exceptBind_ok hrow
    have hbinds : encodable sessionId = true := by simpa [bindTexts] using hbind
    exact ⟨hbinds, row, List.mem_of_find?_eq_some hfound, by simpa using List.find?_some hfound,
      check_ok.1 hrow ▸ hdigest, hnull, hover⟩
  · rintro ⟨hbinds, row, hrow, rfl, hdigest, hactive⟩
    have hfind : db.sessions.rows.find? (·.sessionId == row.sessionId) = some row := by
      refine Table.find?_eq_some hrow (beq_self_eq_true _) fun r hr => ?_
      simp [sessionSchema, beq_iff_eq.1 hr]
    refine ⟨(some row, db), ?_, ?_⟩
    · rw [selectSession, bindTexts_tenant hbinds, ← hfind]
      rfl
    · refine exceptBind_ok_iff.2 ⟨row, activeRow_ok.2 ⟨rfl, hactive⟩, ?_⟩
      exact exceptBind_ok_iff.2 ⟨_, hdigest, (check_ok (u := ())).2 rfl⟩

/-- The table after any calls, against the log. -/
theorem Tracks.authenticates (ht : Tracks P h) {token : Str} (htoken : Distinguishes P h.log token)
    (record : SessionRecord) :
    authenticateSession P token now h.db = .ok record ↔
      ∃ s, Live h.log s now ∧ s.sessionToken = token ∧ s.record = record := by
  rw [authenticateSession_ok]
  constructor
  · rintro ⟨-, row, hrow, hdigest, hactive, rfl⟩
    obtain ⟨s, hs, hof⟩ := ht.session_of hrow
    refine ⟨s, (hof.live hs).1 hactive, ?_, (hof.record_eq hactive.1).symm⟩
    refine htoken _ (List.mem_flatMap.2 ⟨_, hs, List.mem_cons_self⟩) ?_
    rw [hof.sessionToken.2, hdigest]
  · rintro ⟨s, hlive, rfl, rfl⟩
    obtain ⟨row, hrow, hof⟩ := ht.row_of hlive.created
    have hactive := (hof.live hlive.created).2 hlive
    exact ⟨hof.sessionToken.1, row, hrow, hof.sessionToken.2, hactive, hof.record_eq hactive.1⟩

theorem Tracks.verifies (ht : Tracks P h) {sessionId token : Str}
    (htoken : Distinguishes P h.log token) :
    verifySessionCsrf P sessionId token now h.db = .ok () ↔
      ∃ s, Live h.log s now ∧ s.sessionId = sessionId ∧ latestCsrf h.log sessionId = some token := by
  rw [verifySessionCsrf_ok]
  constructor
  · rintro ⟨-, -, row, hrow, rfl, hdigest, hactive⟩
    obtain ⟨s, hs, hof⟩ := ht.session_of hrow
    obtain ⟨issued, hlatest, -, hissued⟩ := hof.csrfToken
    have hsame : issued = token :=
      htoken _ (latestCsrf_mem hlatest) (hissued.trans hdigest.symm)
    rw [hof.sessionId]
    exact ⟨s, (hof.live hs).1 hactive, rfl, hsame ▸ hlatest⟩
  · rintro ⟨s, hlive, rfl, hlatest⟩
    obtain ⟨row, hrow, hof⟩ := ht.row_of hlive.created
    obtain ⟨issued, hissued, hne, hdigest⟩ := hof.csrfToken
    obtain rfl : issued = token := Option.some.inj (hissued.symm.trans hlatest)
    exact ⟨hne, hof.binds, row, hrow, hof.sessionId, hdigest, (hof.live hlive.created).2 hlive⟩

/-- A session is revoked at most once. -/
theorem Tracks.revocations_le (ht : Tracks P h) (sessionId : Str) :
    h.log.countP (·.revokes sessionId) ≤ 1 := by
  by_cases hnone : ∀ row ∈ h.db.sessions.rows, row.sessionId ≠ sessionId
  · rw [ht.not_revoked hnone]
    exact Nat.zero_le 1
  · push Not at hnone
    obtain ⟨row, hrow, rfl⟩ := hnone
    obtain ⟨s, -, hof⟩ := ht.session_of hrow
    rw [hof.sessionId, hof.revocations]
    cases row.revokedAt <;> simp

/-- A session is revoked by its own tenant. -/
theorem Tracks.revoked_by_own (ht : Tracks P h) {tenantId sessionId : Str}
    (hrevoked : .revoked tenantId sessionId ∈ h.log) :
    (∃ s, .created s ∈ h.log ∧ s.sessionId = sessionId) ∧
      ∀ s, .created s ∈ h.log → s.sessionId = sessionId → s.tenantId = tenantId := by
  obtain ⟨row, hrow, htenant, hid⟩ := ht.revoked tenantId sessionId hrevoked
  constructor
  · obtain ⟨s, hs, hof⟩ := ht.session_of hrow
    exact ⟨s, hs, hof.sessionId.symm.trans hid⟩
  · rintro s hs rfl
    obtain ⟨row', hrow', hof⟩ := ht.row_of hs
    have hsame : row' = row :=
      Table.eq_of_clash hrow' hrow (by simp [sessionSchema, hof.sessionId, hid])
    exact hof.tenantId.symm.trans (hsame ▸ htenant)

end

/-- After any calls of `create_session`, `rotate_session_csrf` and `revoke_session` on a new store, as
long as no issued token has the hash of the one presented: `authenticate_session` returns the record
of a live session for its token and raises for any other text; `verify_session_csrf` passes the CSRF
token issued last for a live session, and no other; a session is revoked at most once, by its own
tenant, and each revocation has one audit event; and a call that raises changes nothing. -/
theorem session_lifecycle (P : Platform) (F : Floats) (calls : List SessionCall) :
    (∀ token now, Distinguishes P (SessionHistory.of P F calls).log token → ∀ record,
      authenticateSession P token now (SessionHistory.of P F calls).db = .ok record ↔
        ∃ s, Live (SessionHistory.of P F calls).log s now ∧ s.sessionToken = token ∧
          s.record = record) ∧
    (∀ sessionId token now, Distinguishes P (SessionHistory.of P F calls).log token →
      (verifySessionCsrf P sessionId token now (SessionHistory.of P F calls).db = .ok () ↔
        ∃ s, Live (SessionHistory.of P F calls).log s now ∧ s.sessionId = sessionId ∧
          latestCsrf (SessionHistory.of P F calls).log sessionId = some token)) ∧
    (∀ sessionId,
      (SessionHistory.of P F calls).log.countP (·.revokes sessionId) ≤ 1 ∧
      ∀ tenantId,
        (.revoked tenantId sessionId ∈ (SessionHistory.of P F calls).log →
          (∃ s, .created s ∈ (SessionHistory.of P F calls).log ∧ s.sessionId = sessionId) ∧
          ∀ s, .created s ∈ (SessionHistory.of P F calls).log → s.sessionId = sessionId →
            s.tenantId = tenantId) ∧
        (SessionHistory.of P F calls).db.events.rows.countP
            (·.recordsRevocation tenantId sessionId) =
          (SessionHistory.of P F calls).log.countP (·.revokesFor tenantId sessionId)) ∧
    ∀ call e, (SessionCall.perform P F call (SessionHistory.of P F calls).db).1 = .error e →
      (call.perform P F (SessionHistory.of P F calls).db).2 =
        (SessionHistory.of P F calls).db := by
  have ht : Tracks P (SessionHistory.of P F calls) := tracks_of calls
  refine ⟨fun token now htoken => ht.authenticates htoken,
    fun sessionId token now htoken => ht.verifies htoken,
    fun sessionId => ⟨ht.revocations_le sessionId, fun tenantId =>
      ⟨ht.revoked_by_own, ht.audited tenantId sessionId⟩⟩, ?_⟩
  exact fun call => ((SessionHistory.of P F calls).next_spec call).1

namespace SessionSample

def sessionToken : RandomToken := ⟨lit "kE2m0xqTz8bWv1n4Yc7RjD5sLh9PaGu3oIiFf6XeZtQ", by decide⟩

def csrfToken : RandomToken := ⟨lit "pN3b8Vd1_ySw6Kt0HrA-x2Mq7JzUeLg5CcOfBiTnWk4", by decide⟩

/-- SHA-256 of the two tokens, and of the event that the call below writes. -/
def platform : Platform where
  sha256 b :=
    if b = utf8 sessionToken.text then
      lit "541311c9e8f022ecae007e015b61eac27b7149b1e5af0a2ac0a4724780a7afc1"
    else if b = utf8 csrfToken.text then
      lit "306bb3d34348f5c1c86d5f2f21fc185b570652642628125a0f7b0e5e0dd26090"
    else lit "c4597d71e2b09701b504467fc5e320a1f365c8b992b1c11cd3399837a14568cf"
  loads _ := .decodeError
  fromisoformat _ := none
  urlsplit _ := none
  hmacSha1 _ _ := []

/-- The first instant of 2026, some minutes later. -/
def minute (minutes : Fin 60) : Datetime where
  micros := 63902822400000000 + minutes * 60000000
  inRange := by
    have := minutes.isLt
    unfold dayMicros
    omega

def request : SessionRequest where
  tenantId := lit "t"
  credentialFingerprint := lit "f"
  ttlSeconds := 300
  requestId := lit "r"
  actor := lit "u"

def draws : SessionDraws where
  now := minute 0
  uuid := lit "00000000000000000000000000000001"
  sessionToken := sessionToken
  csrfToken := csrfToken
  reading := ⟨(minute 0).isoformat, (minute 0).isoformat, lit "00000000000000000000000000000002", []⟩

def session : IssuedSession := ⟨request.issue draws (minute 5), minute 0, 300⟩

end SessionSample

/-- A session of five minutes is known by its token after four of them, and not after five. -/
theorem session_lifecycle_sample :
    authenticateSession SessionSample.platform SessionSample.sessionToken.text (SessionSample.minute 4)
        (SessionHistory.of SessionSample.platform Sample.floats
          [.create SessionSample.request SessionSample.draws]).db =
        .ok SessionSample.session.record ∧
      ∀ record, authenticateSession SessionSample.platform SessionSample.sessionToken.text
        (SessionSample.minute 5) (SessionHistory.of SessionSample.platform Sample.floats
          [.create SessionSample.request SessionSample.draws]).db ≠ .ok record := by
  have hlog : (SessionHistory.of SessionSample.platform Sample.floats
      [.create SessionSample.request SessionSample.draws]).log =
      [.created SessionSample.session] := by decide +kernel
  have htoken : Distinguishes SessionSample.platform (SessionHistory.of SessionSample.platform
      Sample.floats [.create SessionSample.request SessionSample.draws]).log
      SessionSample.sessionToken.text := by
    rw [hlog, Distinguishes]
    decide
  have hauthenticates := (session_lifecycle SessionSample.platform Sample.floats
    [.create SessionSample.request SessionSample.draws]).1 SessionSample.sessionToken.text
  constructor
  · refine (hauthenticates _ htoken _).2 ⟨SessionSample.session, ⟨?_, ?_, by decide⟩, rfl, rfl⟩
    · rw [hlog]
      exact List.mem_singleton_self _
    · rw [hlog]
      simp
  · intro record hok
    obtain ⟨s, hlive, -, -⟩ := (hauthenticates _ htoken _).1 hok
    have hs := hlive.created
    rw [hlog] at hs
    cases List.mem_singleton.1 hs
    exact absurd hlive.early (by decide)

end Ledger

end AgencyRuntime
