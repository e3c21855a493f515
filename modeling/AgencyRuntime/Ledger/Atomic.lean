import AgencyRuntime.Ledger.Store

/-!
# Atomicity and verifiability of the audit ledger

Every locked section raises and leaves the database as it was, or does all of its work: the change
of a run or a session together with its audit event (`Call.Committed`). So every ledger stays intact
over any history of calls, and an intact ledger verifies.
-/

namespace AgencyRuntime

open Effects Tables Chains

namespace Ledger

variable {P : Platform} {F : Floats}

/-! ## What the transactions do -/

/-- A change of the runs or sessions, and the audit event that goes with it. -/
def WithEvent (P : Platform) (F : Floats) (tenantId : Str)
    (mutation : RunDatabase → RunDatabase → Prop) (records : EventRow → Prop)
    (db db' : RunDatabase) : Prop :=
  ∃ middle row, mutation db middle ∧ records row ∧ Appended P F tenantId row middle db'

/-- A change of the runs or sessions with the audit event it carries, if it carries one. -/
def WithOptional (P : Platform) {F : Floats} (tenantId : Str) (audit : Option (AuditWrite F))
    (mutation : RunDatabase → RunDatabase → Prop) (db db' : RunDatabase) : Prop :=
  match audit with
  | none => mutation db db'
  | some audit =>
    WithEvent P F tenantId mutation (Records · tenantId audit.toAuditDraft) db db'

/-- A run was inserted. -/
def RunCreated (row : RunRow) (db db' : RunDatabase) : Prop :=
  db.runs.Fresh row ∧ ∃ runs, runs.rows = db.runs.rows ++ [row] ∧ db' = { db with runs := runs }

/-- One stored run was saved. -/
def RunSaved (tenantId runId status documentJson now : Str) (expectedStatus : Option Str)
    (db db' : RunDatabase) : Prop :=
  db.runs.count (savedRow tenantId runId expectedStatus) = 1 ∧
    db' = { db with
      runs := db.runs.modify (savedRow tenantId runId expectedStatus)
        (setRun status documentJson now) }

/-- A session was inserted. -/
def SessionCreated (row : SessionRow) (db db' : RunDatabase) : Prop :=
  db.sessions.Fresh row ∧
    ∃ sessions, sessions.rows = db.sessions.rows ++ [row] ∧ db' = { db with sessions := sessions }

/-- One active session was revoked. -/
def SessionRevoked (tenantId sessionId revokedAt : Str) (db db' : RunDatabase) : Prop :=
  db.sessions.count (activeSession tenantId sessionId) = 1 ∧
    db' = { db with
      sessions := db.sessions.modify (activeSession tenantId sessionId) (setRevoked revokedAt) }

/-- The row records a session event. -/
structure RecordsSession (row : EventRow) (tenantId requestId action sessionId actor : Str) :
    Prop where
  tenant : row.tenantId = tenantId
  requestId : row.requestId = requestId
  action : row.action = action
  resourceType : row.resourceType = Py.lit "browser_session"
  resourceId : row.resourceId = sessionId
  actor : row.actor = actor

theorem AuditDraft.build_ok {a : AuditDraft F} {audit : AuditWrite F} (h : a.build = .ok audit) :
    audit.toAuditDraft = a := by
  unfold AuditDraft.build at h
  split at h
  · cases h; rfl
  · cases h

theorem createLocked_does (row : RunRow) (audit : Option (AuditWrite F)) (reading : Reading) :
    (createLocked P row audit reading).Does fun db _ db' =>
      WithOptional P row.tenantId audit (RunCreated row) db db' := by
  refine Transaction.Does.mono ((Transaction.does_statement _).bind fun _ =>
    appendOptional_does audit reading) ?_
  rintro db _ db' ⟨_, middle, hinsert, hevent⟩
  obtain ⟨_, -, hinsert⟩ := exceptBind_ok hinsert
  split at hinsert
  · next runs hruns =>
    cases hinsert
    obtain ⟨hfresh, hrows⟩ := Table.insert_eq_some.1 hruns
    have hcreated : RunCreated row db { db with runs := runs } := ⟨hfresh, runs, hrows, rfl⟩
    cases audit with
    | none =>
      obtain rfl : db' = _ := hevent
      exact hcreated
    | some audit =>
      obtain ⟨event, hrecords, happended⟩ := hevent
      exact ⟨_, event, hcreated, hrecords, happended⟩
  · cases hinsert

theorem saveLocked_does (tenantId runId status documentJson : Str) (expectedStatus : Option Str)
    (audit : Option (AuditWrite F)) (reading : Reading) :
    (saveLocked P tenantId runId status documentJson expectedStatus audit reading).Does
      fun db _ db' => WithOptional P tenantId audit
        (RunSaved tenantId runId status documentJson reading.now expectedStatus) db db' := by
  have hrest (rowcount : Nat) : Transaction.Does
      (if rowcount = 1 then appendOptional P tenantId audit reading
      else do
        let row ← .statement (selectRun tenantId runId)
        .compute (.error (notSaved runId row))) fun db _ db' =>
        rowcount = 1 ∧ audit.elim (db' = db) fun audit =>
          ∃ row, Records row tenantId audit.toAuditDraft ∧ Appended P F tenantId row db db' := by
    split
    · next hone => exact (appendOptional_does audit reading).mono fun _ _ _ h => ⟨hone, h⟩
    · refine Transaction.Does.mono ((Transaction.does_statement _).bind fun _ =>
        Transaction.does_compute _) ?_
      rintro _ _ _ ⟨_, _, _, hraise, _⟩
      cases hraise
  refine Transaction.Does.mono ((Transaction.does_statement _).bind hrest) ?_
  rintro db _ db' ⟨rowcount, middle, hupdate, rfl, hevent⟩
  obtain ⟨_, -, hupdate⟩ := exceptBind_ok hupdate
  obtain ⟨hcount, rfl⟩ := Prod.ext_iff.1 (Except.ok.inj hupdate)
  have hsaved : RunSaved tenantId runId status documentJson reading.now expectedStatus db _ :=
    ⟨hcount, rfl⟩
  cases audit with
  | none =>
    obtain rfl : db' = _ := hevent
    exact hsaved
  | some audit =>
    obtain ⟨event, hrecords, happended⟩ := hevent
    exact ⟨_, event, hsaved, hrecords, happended⟩

theorem createSessionLocked_does (row : SessionRow)
    (sessionToken csrfToken requestId actor : Str) (reading : Reading) :
    (createSessionLocked P (F := F) row sessionToken csrfToken requestId actor reading).Does
      fun db _ db' => ∃ sessionTokenHash csrfTokenHash,
        P.digest sessionToken = .ok sessionTokenHash ∧ P.digest csrfToken = .ok csrfTokenHash ∧
        WithEvent P F row.tenantId
          (SessionCreated { row with
            sessionTokenHash := sessionTokenHash, csrfTokenHash := csrfTokenHash })
          (RecordsSession · row.tenantId requestId (Py.lit "session.created") row.sessionId actor)
          db db' := by
  refine Transaction.Does.mono ((Transaction.does_compute _).bind fun tokenHash =>
    (Transaction.does_compute _).bind fun csrfHash => (Transaction.does_statement _).bind fun _ =>
      (Transaction.does_compute _).bind fun audit => appendAuditLocked_does audit reading) ?_
  rintro db _ db' ⟨tokenHash, _, ⟨htoken, rfl⟩, csrfHash, _, ⟨hcsrf, rfl⟩, _, middle, hinsert,
    audit, _, ⟨hbuild, rfl⟩, event, hrecords, happended⟩
  obtain ⟨_, -, hinsert⟩ := exceptBind_ok hinsert
  rw [AuditDraft.build_ok hbuild] at hrecords
  split at hinsert
  · next sessions hsessions =>
    cases hinsert
    obtain ⟨hfresh, hrows⟩ := Table.insert_eq_some.1 hsessions
    exact ⟨tokenHash, csrfHash, htoken, hcsrf, _, event, ⟨hfresh, sessions, hrows, rfl⟩,
      ⟨hrecords.tenant, hrecords.requestId, hrecords.action, hrecords.resourceType,
        hrecords.resourceId, hrecords.actor⟩, happended⟩
  · cases hinsert

theorem revokeSessionLocked_does (tenantId sessionId revokedAt requestId actor : Str)
    (reading : Reading) :
    (revokeSessionLocked P (F := F) tenantId sessionId revokedAt requestId actor reading).Does
      fun db _ db' => WithEvent P F tenantId (SessionRevoked tenantId sessionId revokedAt)
        (RecordsSession · tenantId requestId (Py.lit "session.revoked") sessionId actor) db db' := by
  refine Transaction.Does.mono ((Transaction.does_statement _).bind fun rowcount =>
    (Transaction.does_compute _).bind fun _ => (Transaction.does_compute _).bind fun audit =>
      appendAuditLocked_does audit reading) ?_
  rintro db _ db' ⟨rowcount, middle, hupdate, _, _, ⟨hone, rfl⟩, audit, _, ⟨hbuild, rfl⟩, event,
    hrecords, happended⟩
  obtain ⟨_, -, hupdate⟩ := exceptBind_ok hupdate
  obtain ⟨hcount, rfl⟩ := Prod.ext_iff.1 (Except.ok.inj hupdate)
  rw [check_ok] at hone
  rw [AuditDraft.build_ok hbuild] at hrecords
  exact ⟨_, event, ⟨hcount.trans hone, rfl⟩,
    ⟨hrecords.tenant, hrecords.requestId, hrecords.action, hrecords.resourceType,
      hrecords.resourceId, hrecords.actor⟩, happended⟩

/-! ## Histories -/

/-- The tenant a call is for. -/
def Call.tenantId : Call F → Str
  | .appendAudit tenantId _ | .create tenantId .. | .save tenantId .. | .createSession tenantId ..
  | .revokeSession tenantId .. | .verifyAuditChain tenantId => tenantId

/-- The call writes an audit event. -/
def Call.audits : Call F → Bool
  | .appendAudit .. | .createSession .. | .revokeSession .. => true
  | .create _ _ audit | .save _ _ audit _ => audit.isSome
  | .verifyAuditChain _ => false

/-- All the work of a call: its change of a run or a session, and its audit event. -/
def Call.Committed (P : Platform) : Call F → RunDatabase → RunDatabase → Prop
  | .appendAudit tenantId audit, db, db' =>
    WithEvent P F tenantId (· = ·) (Records · tenantId audit.toAuditDraft) db db'
  | .create tenantId run audit, db, db' => ∃ document now,
    run.document.canonicalJson = .ok document ∧ WithOptional P tenantId audit
      (RunCreated
        { tenantId := tenantId, runId := run.runId, status := run.status, documentJson := document
          createdAt := now, updatedAt := now }) db db'
  | .save tenantId run audit expectedStatus, db, db' => ∃ document now,
    run.document.canonicalJson = .ok document ∧ WithOptional P tenantId audit
      (RunSaved tenantId run.runId run.status document now expectedStatus) db db'
  | .createSession tenantId _ _ requestId actor _ _ _, db, db' => ∃ row : SessionRow,
    row.tenantId = tenantId ∧ row.revokedAt = none ∧ WithEvent P F tenantId (SessionCreated row)
      (RecordsSession · tenantId requestId (Py.lit "session.created") row.sessionId actor) db db'
  | .revokeSession tenantId sessionId requestId actor, db, db' => ∃ revokedAt,
    WithEvent P F tenantId (SessionRevoked tenantId sessionId revokedAt)
      (RecordsSession · tenantId requestId (Py.lit "session.revoked") sessionId actor) db db'
  | .verifyAuditChain _, db, db' => db' = db

/-- A call on a database, with the answers of the outside. -/
def Call.perform (P : Platform) (call : Call F) (oracle : Oracle outside) (db : RunDatabase) :
    Except Exn CallResult × RunDatabase :=
  (call.program P).eval (Section.run P) oracle db

/-- A call that was made, and what it came to. -/
abbrev Made (F : Floats) := Call F × Except Exn CallResult

/-- The calls made one after the other, and the database after them. -/
def performAll (P : Platform) :
    List (Call F × Oracle outside) → RunDatabase → List (Made F) × RunDatabase
  | [], db => ([], db)
  | (call, oracle) :: calls, db =>
    let r := call.perform P oracle db
    let rest := performAll P calls r.2
    ((call, r.1) :: rest.1, rest.2)

/-- The call returned, and wrote an event for the tenant. -/
def committedFor (tenantId : Str) (made : Made F) : Bool :=
  made.1.audits && made.1.tenantId == tenantId && made.2.toBool

/-! ### One call -/

/-- A call raised and left the database as it was, or returned and did all of its work. -/
def Call.Outcome (P : Platform) (call : Call F) (db : RunDatabase) :
    Except Exn CallResult → RunDatabase → Prop
  | .error _, db' => db' = db
  | .ok _, db' => call.Committed P db db'

/-- Made on a database, the call has one of its outcomes. -/
def Call.Settles (P : Platform) (call : Call F) (oracle : Oracle outside) (db : RunDatabase) :
    Prop :=
  (call.program P).Ends (Section.run P) oracle db (call.Outcome P db)

section
variable {oracle : Oracle outside} {db : RunDatabase} {tenantId : Str}

/-- The lookup of a receipt changes nothing. -/
theorem receiptExists_ends (audit : Option (AuditWrite F)) :
    (receiptExists tenantId audit).Ends (Section.run P) oracle db fun _ db' => db' = db := by
  refine Prog.Ends.of_reads (t := []) ?_
  cases audit with
  | none => trivial
  | some audit =>
    simp only [receiptExists]
    split
    · trivial
    · refine Prog.Spec.bind_of (Q := fun _ _ => True) ?_ (fun _ _ _ => trivial) fun _ _ _ => trivial
      refine (Prog.Spec_ofExcept_bind _ _ _).2 ⟨fun _ _ => trivial, fun _ _ => ?_⟩
      refine (Prog.Spec_ofExcept_bind _ _ _).2 ⟨fun _ _ => trivial, fun _ _ => ?_⟩
      refine (Prog.Spec_ask_bind _ _).2 ⟨nofun, fun fault => ?_⟩
      refine (Prog.Spec_call_bind _ _).2 ⟨fun _ ho _ => by cases ho; rfl, fun answer => ?_⟩
      refine (Prog.Spec_ofExcept_bind _ _ _).2 ⟨fun _ _ => trivial, fun row _ => ?_⟩
      cases row with
      | none => trivial
      | some row =>
        exact (Prog.Spec_ofExcept_bind _ _ _).2 ⟨fun _ _ => trivial, fun _ _ => trivial⟩

/-- The handlers pass a success on, and raise at any exception. -/
theorem orConflict_ends {Q : Except Exn Unit → RunDatabase → Prop}
    {audit : Option (AuditWrite F)} {otherwise : Exn} {answer : Except Exn Unit}
    (hok : answer = .ok () → Q (.ok ()) db) (herr : ∀ e, answer = .error e → ∀ e', Q (.error e') db) :
    (orConflict tenantId audit otherwise answer).Ends (Section.run P) oracle db Q := by
  unfold orConflict
  split
  · refine (receiptExists_ends audit).bind ?_ ?_
    · rintro e db' rfl
      exact herr _ rfl e
    · rintro b db' rfl
      cases b <;> exact herr _ rfl _
  · cases answer with
    | ok _ => exact hok rfl
    | error e => exact herr e rfl e

theorem appendAudit_settles (audit : AuditWrite F) :
    (Call.appendAudit tenantId audit).Settles P oracle db := by
  refine Prog.Ends.bind (R := fun x db' => (Call.appendAudit tenantId audit).Outcome P db
    (x.map fun _ => .done) db') ?_ (fun _ _ h => h) fun _ _ h => h
  refine Prog.Ends.ofExcept (fun _ _ => rfl) fun _ _ => ?_
  refine Prog.Ends.ask (Prog.Ends.call ?_)
  simp only [Section.run]
  refine Transaction.commit_elim (appendAuditLocked_does audit _) _ (fun _ => rfl) ?_
  rintro _ db' ⟨row, hrow, happended⟩
  exact ⟨db, row, rfl, hrow, happended⟩

theorem create_settles (run : StoredRun F) (audit : Option (AuditWrite F)) :
    (Call.create tenantId run audit).Settles P oracle db := by
  refine Prog.Ends.bind (R := fun x db' => (Call.create tenantId run audit).Outcome P db
    (x.map fun _ => .done) db') ?_ (fun _ _ h => h) fun _ _ h => h
  refine Prog.Ends.ask (Prog.Ends.ofExcept (fun _ _ => rfl) fun document hdocument => ?_)
  refine Prog.Ends.ask (Prog.Ends.call ?_)
  simp only [Section.run]
  refine Transaction.commit_elim (createLocked_does _ audit _) _ (fun e => ?_) fun _ _ hdone => ?_
  · exact orConflict_ends (fun h => by cases h) fun _ _ _ => rfl
  · exact orConflict_ends (fun _ => ⟨document, _, hdocument, hdone⟩) fun _ h => by cases h

theorem save_settles (run : StoredRun F) (audit : Option (AuditWrite F))
    (expectedStatus : Option Str) :
    (Call.save tenantId run audit expectedStatus).Settles P oracle db := by
  refine Prog.Ends.bind (R := fun x db' => (Call.save tenantId run audit expectedStatus).Outcome P
    db (x.map fun _ => .done) db') ?_ (fun _ _ h => h) fun _ _ h => h
  refine Prog.Ends.ofExcept (fun _ _ => rfl) fun document hdocument => ?_
  refine Prog.Ends.ask (Prog.Ends.call ?_)
  simp only [Section.run]
  refine Transaction.commit_elim (saveLocked_does _ _ _ _ _ audit _) _ (fun e => ?_)
    fun _ _ hdone => ?_
  · exact orConflict_ends (fun h => by cases h) fun _ _ _ => rfl
  · exact orConflict_ends (fun _ => ⟨document, _, hdocument, hdone⟩) fun _ h => by cases h

theorem createSession_settles (fingerprint : Str) (ttlSeconds : Int)
    (requestId actor subjectId role keyId : Str) :
    (Call.createSession (F := F) tenantId fingerprint ttlSeconds requestId actor subjectId role
      keyId).Settles P oracle db := by
  refine Prog.Ends.bind (R := fun x db' => (Call.createSession tenantId fingerprint ttlSeconds
    requestId actor subjectId role keyId).Outcome (F := F) P db (x.map .session) db') ?_
    (fun _ _ h => h) fun _ _ h => h
  refine Prog.Ends.ofExcept (fun _ _ => rfl) fun _ _ => ?_
  refine Prog.Ends.ask (Prog.Ends.ask (Prog.Ends.ofExcept (fun _ _ => rfl) fun expiresAt _ => ?_))
  refine Prog.Ends.ask (Prog.Ends.ask (Prog.Ends.ask (Prog.Ends.ask (Prog.Ends.call ?_))))
  simp only [Section.run]
  refine Transaction.commit_elim (createSessionLocked_does _ _ _ _ _ _) _ (fun _ => rfl) ?_
  rintro _ db' ⟨tokenHash, csrfHash, -, -, hdone⟩
  exact ⟨_, rfl, rfl, hdone⟩

theorem revokeSession_settles (sessionId requestId actor : Str) :
    (Call.revokeSession (F := F) tenantId sessionId requestId actor).Settles P oracle db := by
  refine Prog.Ends.bind (R := fun x db' => (Call.revokeSession tenantId sessionId requestId
    actor).Outcome (F := F) P db (x.map fun _ => .done) db') ?_ (fun _ _ h => h) fun _ _ h => h
  refine Prog.Ends.ask (Prog.Ends.ask (Prog.Ends.call ?_))
  simp only [Section.run]
  refine Transaction.commit_elim (revokeSessionLocked_does _ _ _ _ _ _) _ (fun _ => rfl) ?_
  exact fun _ _ hdone => ⟨_, hdone⟩

theorem verifyAuditChain_settles :
    (Call.verifyAuditChain (F := F) tenantId).Settles P oracle db := by
  refine Prog.Ends.bind (R := fun _ db' => db' = db) ?_ (fun _ _ h => h) fun _ _ h => h
  refine Prog.Ends.ofExcept (fun _ _ => rfl) fun _ _ => Prog.Ends.call ?_
  refine Prog.Ends.ofExcept (fun _ _ => rfl) fun rows _ => ?_
  refine Prog.Ends.ofExcept (fun _ _ => rfl) fun seen _ => Prog.Ends.call ?_
  refine Prog.Ends.ofExcept (fun _ _ => rfl) fun head _ => ?_
  refine Prog.Ends.ofExcept (fun _ _ => rfl) fun _ _ => Prog.Ends.ask ?_
  exact Prog.Ends.ofExcept (fun _ _ => rfl) fun _ _ => rfl

/-- A call raises and leaves the database as it was, or returns and does all of its work. -/
theorem Call.settles (call : Call F) (oracle : Oracle outside) (db : RunDatabase) :
    call.Settles P oracle db := by
  cases call with
  | appendAudit => exact appendAudit_settles _
  | create => exact create_settles _ _
  | save => exact save_settles _ _ _
  | createSession => exact createSession_settles _ _ _ _ _ _ _
  | revokeSession => exact revokeSession_settles _ _ _
  | verifyAuditChain => exact verifyAuditChain_settles

end

/-! ### The ledgers over a history -/

/-- Neither events nor heads changed. -/
def SameLedger (db db' : RunDatabase) : Prop := db'.events = db.events ∧ db'.heads = db.heads

/-- One event of the tenant was appended, next to changes that are not of the ledger. -/
def EventAppended (P : Platform) (F : Floats) (tenantId : Str) (db db' : RunDatabase) : Prop :=
  ∃ row middle, SameLedger db middle ∧ Appended P F tenantId row middle db'

section
variable {db db' : RunDatabase} {tenantId : Str}

theorem EventAppended.intact (h : EventAppended P F tenantId db db') (hdb : db.Intact P F) :
    db'.Intact P F := by
  obtain ⟨row, middle, hsame, happended⟩ := h
  exact happended.intact (hdb.of_eq hsame.1 hsame.2)

theorem EventAppended.count (h : EventAppended P F tenantId db db') (tenant : Str) :
    (eventsOf db' tenant).length =
      (eventsOf db tenant).length + if tenantId = tenant then 1 else 0 := by
  obtain ⟨row, middle, hsame, happended⟩ := h
  have hmiddle : eventsOf middle tenant = eventsOf db tenant := by rw [eventsOf, hsame.1, eventsOf]
  rw [eventsOf_append tenant happended.events, happended.tenant, hmiddle]
  split
  · rw [List.length_append, List.length_singleton]
  · rfl

theorem WithEvent.eventAppended {mutation : RunDatabase → RunDatabase → Prop}
    {records : EventRow → Prop} (h : WithEvent P F tenantId mutation records db db')
    (hmutation : ∀ d d', mutation d d' → SameLedger d d') :
    EventAppended P F tenantId db db' := by
  obtain ⟨middle, row, hmiddle, -, happended⟩ := h
  exact ⟨row, middle, hmutation _ _ hmiddle, happended⟩

theorem RunCreated.sameLedger {row : RunRow} (h : RunCreated row db db') : SameLedger db db' := by
  obtain ⟨-, _, -, rfl⟩ := h
  exact ⟨rfl, rfl⟩

theorem RunSaved.sameLedger {runId status document now : Str} {expectedStatus : Option Str}
    (h : RunSaved tenantId runId status document now expectedStatus db db') :
    SameLedger db db' := by
  obtain ⟨-, rfl⟩ := h
  exact ⟨rfl, rfl⟩

theorem SessionCreated.sameLedger {row : SessionRow} (h : SessionCreated row db db') :
    SameLedger db db' := by
  obtain ⟨-, _, -, rfl⟩ := h
  exact ⟨rfl, rfl⟩

theorem SessionRevoked.sameLedger {sessionId revokedAt : Str}
    (h : SessionRevoked tenantId sessionId revokedAt db db') : SameLedger db db' := by
  obtain ⟨-, rfl⟩ := h
  exact ⟨rfl, rfl⟩

/-- A change with an optional event appends the event, or leaves the ledgers alone. -/
theorem WithOptional.ledger {audit : Option (AuditWrite F)}
    {mutation : RunDatabase → RunDatabase → Prop} (h : WithOptional P tenantId audit mutation db db')
    (hmutation : ∀ d d', mutation d d' → SameLedger d d') :
    if audit.isSome then EventAppended P F tenantId db db' else SameLedger db db' := by
  cases audit with
  | none => exact hmutation _ _ h
  | some audit => exact WithEvent.eventAppended h hmutation

/-- A call that does its work appends one event of its tenant when it audits, and leaves the ledgers
alone when it does not. -/
theorem Call.Committed.ledger {call : Call F} (h : call.Committed P db db') :
    if call.audits then EventAppended P F call.tenantId db db' else SameLedger db db' := by
  cases call with
  | appendAudit =>
    exact WithEvent.eventAppended h fun _ _ heq => heq ▸ ⟨rfl, rfl⟩
  | create tenantId run audit =>
    obtain ⟨_, _, -, h⟩ := h
    exact WithOptional.ledger h fun _ _ => RunCreated.sameLedger
  | save tenantId run audit =>
    obtain ⟨_, _, -, h⟩ := h
    exact WithOptional.ledger h fun _ _ => RunSaved.sameLedger
  | createSession =>
    obtain ⟨_, -, -, h⟩ := h
    exact WithEvent.eventAppended h fun _ _ => SessionCreated.sameLedger
  | revokeSession =>
    obtain ⟨_, h⟩ := h
    exact WithEvent.eventAppended h fun _ _ => SessionRevoked.sameLedger
  | verifyAuditChain => exact h ▸ ⟨rfl, rfl⟩

end

/-- One call keeps every ledger intact and counts its event. -/
theorem Call.perform_ledger (call : Call F) (oracle : Oracle outside) {db : RunDatabase}
    (hdb : db.Intact P F) :
    (call.perform P oracle db).2.Intact P F ∧ ∀ tenant,
      (eventsOf (call.perform P oracle db).2 tenant).length =
        (eventsOf db tenant).length +
          if committedFor tenant (call, (call.perform P oracle db).1) then 1 else 0 := by
  have hsettles : call.Outcome P db (call.perform P oracle db).1 (call.perform P oracle db).2 :=
    call.settles oracle db
  generalize call.perform P oracle db = r at hsettles
  obtain ⟨result, db'⟩ := r
  cases result with
  | error e =>
    obtain rfl : db' = db := hsettles
    exact ⟨hdb, fun tenant => by simp [committedFor, Except.toBool]⟩
  | ok a =>
    have hledger := Call.Committed.ledger hsettles
    split at hledger
    · next haudits =>
      exact ⟨hledger.intact hdb, fun tenant => by
        simp [hledger.count tenant, committedFor, haudits, Except.toBool]⟩
    · next haudits =>
      obtain ⟨hevents, hheads⟩ : SameLedger db db' := hledger
      exact ⟨hdb.of_eq hevents hheads, fun tenant => by
        simp [committedFor, haudits, eventsOf, hevents]⟩

/-- A history keeps every ledger intact and counts its events. -/
theorem performAll_ledger (calls : List (Call F × Oracle outside)) {db : RunDatabase}
    (hdb : db.Intact P F) :
    (performAll P calls db).2.Intact P F ∧ ∀ tenant,
      (eventsOf (performAll P calls db).2 tenant).length =
        (eventsOf db tenant).length + (performAll P calls db).1.countP (committedFor tenant) := by
  induction calls generalizing db with
  | nil => exact ⟨hdb, fun _ => rfl⟩
  | cons made calls ih =>
    obtain ⟨call, oracle⟩ := made
    obtain ⟨hintact, hcount⟩ := call.perform_ledger oracle hdb
    obtain ⟨hrest, hrestCount⟩ := ih hintact
    refine ⟨hrest, fun tenant => ?_⟩
    simp only [performAll, List.countP_cons, hrestCount, hcount]
    omega

theorem bindTexts_tenant {tenantId : Str} (h : Py.encodable tenantId = true) :
    bindTexts [tenantId] = .ok () := by
  simp [bindTexts, h]

theorem run_selectEvents {tenantId : Str} (h : Py.encodable tenantId = true) (db : RunDatabase) :
    Section.run P (.selectEvents (F := F) tenantId) db = (.ok (eventsOf db tenantId), db) := by
  simp only [Section.run, bindTexts_tenant h]
  rfl

theorem run_selectHead {tenantId : Str} (h : Py.encodable tenantId = true) (db : RunDatabase) :
    Section.run P (.selectHead (F := F) tenantId) db = (.ok (headOf db.heads tenantId), db) := by
  simp only [Section.run, bindTexts_tenant h]
  rfl

/-- An intact ledger verifies. -/
theorem Intact.verifies {db : RunDatabase} {tenantId : Str} (oracle : Oracle outside)
    (h : Intact P F tenantId (eventsOf db tenantId) (headOf db.heads tenantId))
    (hsha : ∀ b, isHex64 (P.sha256 b) = true) (hblank : Py.strip tenantId ≠ [])
    (hencodable : Py.encodable tenantId = true) :
    (verifyAuditChain P tenantId).Ends (Section.run P (F := F)) oracle db fun x db' =>
      x = .ok (checkpointOf tenantId (eventsOf db tenantId)
        ((headOf db.heads tenantId).elim genesisAuditHash (·.headHash),
          lastId (eventsOf db tenantId) []) (oracle .clock).text) ∧ db' = db := by
  have hempty : tenantId ≠ [] := by
    rintro rfl
    exact hblank rfl
  refine Prog.Ends.ofExcept_ok (requireNonEmpty_ok (u := ()) |>.2 hblank) (Prog.Ends.call ?_)
  rw [run_selectEvents hencodable]
  refine Prog.Ends.ofExcept_ok rfl (Prog.Ends.ofExcept_ok h.chained.checkRows (Prog.Ends.call ?_))
  rw [run_selectHead hencodable]
  refine Prog.Ends.ofExcept_ok rfl (Prog.Ends.ofExcept_ok h.chained.checkHead (Prog.Ends.ask ?_))
  refine Prog.Ends.ofExcept_ok (h.chained.checkpoint hsha hempty
    (oracle .clock).nonempty h.lastId_ne) ?_
  exact ⟨rfl, rfl⟩

/-- After any history of calls on a new store, each of them free to fail at any statement, the ledger
of every tenant that is named by an encodable text verifies and counts the calls that returned and
wrote an event for it; and the next call, whichever it is, either raises and leaves the database as
it was, or returns with its change and its event both stored. -/
theorem audit_ledger_verifies (P : Platform) (F : Floats)
    (hsha : ∀ b, isHex64 (P.sha256 b) = true) (calls : List (Call F × Oracle outside)) :
    (∀ tenantId oracle, Py.strip tenantId ≠ [] → Py.encodable tenantId = true →
      ∃ checkpoint : AuditChainCheckpoint,
        (verifyAuditChain P tenantId).eval (Section.run P (F := F)) oracle
            (performAll P calls .empty).2 = (.ok checkpoint, (performAll P calls .empty).2) ∧
          checkpoint.eventCount = (eventsOf (performAll P calls .empty).2 tenantId).length ∧
          checkpoint.eventCount =
            (performAll P calls .empty).1.countP (committedFor tenantId)) ∧
      ∀ (call : Call F) oracle, call.Outcome P (performAll P calls .empty).2
        (call.perform P oracle (performAll P calls .empty).2).1
        (call.perform P oracle (performAll P calls .empty).2).2 := by
  obtain ⟨hintact, hcount⟩ := performAll_ledger (P := P) calls RunDatabase.intact_empty
  refine ⟨fun tenantId oracle hblank hencodable => ?_, fun call oracle => call.settles oracle _⟩
  obtain ⟨hresult, hdb⟩ :=
    (hintact tenantId).verifies oracle hsha hblank hencodable
  have hempty : (eventsOf RunDatabase.empty tenantId).length = 0 := rfl
  refine ⟨_, Prod.ext hresult hdb, rfl, ?_⟩
  rw [checkpointOf, hcount tenantId, hempty, Nat.zero_add]

namespace Sample

/-- The digest of the one event below, written for tenant `t`. -/
def digest : Str :=
  Py.lit "34ac546c3b9eab5961a9732dc8bf8c24147bbd2dc41c0310480b10b56c7b816a"

def platform : Platform where
  sha256 _ := digest
  loads _ := .decodeError
  fromisoformat _ := none
  urlsplit _ := none
  hmacSha1 _ _ := []

def floats : Floats where
  text _ := Py.lit "NaN"
  isFloatText := isFloatText_nan

def instant : Str := Py.lit "2026-01-01T00:00:00+00:00"

/-- The outside, with no failures. -/
def oracle : Oracle outside
  | .clock => ⟨instant, by decide⟩
  | .reading => ⟨instant, instant, [], []⟩
  | .expiry _ _ => .ok instant
  | .token => []
  | .uuid => []
  | .lookupFault => none

def audit : AuditWrite floats where
  requestId := Py.lit "r"
  action := Py.lit "a"
  resourceType := Py.lit "x"
  resourceId := Py.lit "i"
  actor := Py.lit "u"
  payload := []
  eventId := Py.lit "e"
  checked := rfl

def run : StoredRun floats := ⟨Py.lit "run", Py.lit "queued", .dict []⟩

end Sample

theorem audit_ledger_verifies_one :
    ∃ checkpoint : AuditChainCheckpoint,
      (verifyAuditChain Sample.platform (Py.lit "t")).eval
          (Section.run Sample.platform (F := Sample.floats)) Sample.oracle
          (performAll Sample.platform [(.appendAudit (Py.lit "t") Sample.audit, Sample.oracle)]
            .empty).2 = (.ok checkpoint, (performAll Sample.platform
              [(.appendAudit (Py.lit "t") Sample.audit, Sample.oracle)] .empty).2) ∧
        checkpoint.eventCount = 1 := by
  obtain ⟨checkpoint, heval, -, hcount⟩ := (audit_ledger_verifies Sample.platform Sample.floats
    (fun _ => show isHex64 Sample.digest = true by decide) [(.appendAudit (Py.lit "t") Sample.audit, Sample.oracle)]).1
      (Py.lit "t") Sample.oracle (by decide) (by decide)
  exact ⟨checkpoint, heval, hcount.trans (by decide)⟩

/-- A run can be created with its event for a tenant whose id is a blank, and that ledger never
verifies; nor does the empty ledger of a tenant whose id is a lone surrogate. -/
theorem odd_tenants_raise :
    (performAll Sample.platform [(.create (Py.lit " ") Sample.run (some Sample.audit),
        Sample.oracle)] .empty).1.countP (committedFor (Py.lit " ")) = 1 ∧
      ((verifyAuditChain Sample.platform (Py.lit " ")).eval
          (Section.run Sample.platform (F := Sample.floats)) Sample.oracle
          (performAll Sample.platform [(.create (Py.lit " ") Sample.run (some Sample.audit),
            Sample.oracle)] .empty).2).1 =
        .error (.valueError "tenant_id must not be empty") ∧
      ((verifyAuditChain Sample.platform [0xD800]).eval
          (Section.run Sample.platform (F := Sample.floats)) Sample.oracle .empty).1 =
        .error .unicodeEncodeError :=
  ⟨by decide, rfl, rfl⟩

end Ledger

end AgencyRuntime
