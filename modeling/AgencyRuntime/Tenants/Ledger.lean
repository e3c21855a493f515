import AgencyRuntime.Isolation.Tables
import AgencyRuntime.Ledger.Store

/-!
# The tenants of the run database

Every row of the run database is a tenant's. Runs and heads have the tenant in their key; the ids of
events and sessions and the hashes of session tokens do not, but as they are made none is made for
two tenants, so they tell their tenant (`own`). Then every section of `SQLiteRunStore`
(persistence.py) is an isolated step of the tenant it names (`Section.isolated`).
-/

namespace AgencyRuntime

open Tables

namespace Ledger

/-! ## Owners -/

def runOwner : Ownership runSchema Str where
  owner := RunRow.tenantId
  Valid _ := True
  apart _ _ _ _ h := (Prod.mk.inj (eq_of_beq h)).1

def headOwner : Ownership headSchema Str where
  owner := HeadRow.tenantId
  Valid _ := True
  apart _ _ _ _ h := eq_of_beq h

theorem event_apart {own : Str → Str} (r s : EventRow) (hr : own r.eventId = r.tenantId)
    (hs : own s.eventId = s.tenantId)
    (h : eventSchema.clash (eventSchema.key r) (eventSchema.key s) = true) :
    r.tenantId = s.tenantId := by
  have hid : r.eventId = s.eventId := eq_of_beq h
  rw [← hr, ← hs, hid]

def eventOwner (own : Str → Str) : Ownership eventSchema Str where
  owner r := r.tenantId
  Valid r := own r.eventId = r.tenantId
  apart := event_apart

/-- The id of the session and the hash of its token tell the tenant. -/
def TellsTenant (own : Str → Str) (r : SessionRow) : Prop :=
  own r.sessionId = r.tenantId ∧ own r.sessionTokenHash = r.tenantId

theorem session_apart {own : Str → Str} (r s : SessionRow) (hr : TellsTenant own r)
    (hs : TellsTenant own s)
    (h : sessionSchema.clash (sessionSchema.key r) (sessionSchema.key s) = true) :
    r.tenantId = s.tenantId := by
  rcases Bool.or_eq_true_iff.1 h with h | h
  · have hid : r.sessionId = s.sessionId := eq_of_beq h
    rw [← hr.1, ← hs.1, hid]
  · have hhash : r.sessionTokenHash = s.sessionTokenHash := eq_of_beq h
    rw [← hr.2, ← hs.2, hhash]

def sessionOwner (own : Str → Str) : Ownership sessionSchema Str where
  owner := SessionRow.tenantId
  Valid := TellsTenant own
  apart := session_apart

/-- The rows of a tenant in the run database. -/
@[ext] structure LedgerRows where
  runs : List RunRow
  events : List EventRow
  heads : List HeadRow
  sessions : List SessionRow

/-- Every row tells its tenant. -/
structure Told (own : Str → Str) (db : RunDatabase) : Prop where
  runs : runOwner.Holds db.runs
  events : (eventOwner own).Holds db.events
  heads : headOwner.Holds db.heads
  sessions : (sessionOwner own).Holds db.sessions

/-- The run database of the tenants. -/
def isolation (own : Str → Str) : Isolation RunDatabase Str where
  View := LedgerRows
  view x db := ⟨runOwner.part x db.runs, (eventOwner own).part x db.events,
    headOwner.part x db.heads, (sessionOwner own).part x db.sessions⟩
  Holds := Told own

section
variable {own : Str → Str} {x : Str}

theorem runs_alike {db db' : RunDatabase} (h : (isolation own).Alike x db db') :
    runOwner.isolation.Alike x db.runs db'.runs :=
  ⟨h.left.runs, h.right.runs, congrArg LedgerRows.runs h.view⟩

theorem events_alike {db db' : RunDatabase} (h : (isolation own).Alike x db db') :
    (eventOwner own).isolation.Alike x db.events db'.events :=
  ⟨h.left.events, h.right.events, congrArg LedgerRows.events h.view⟩

theorem heads_alike {db db' : RunDatabase} (h : (isolation own).Alike x db db') :
    headOwner.isolation.Alike x db.heads db'.heads :=
  ⟨h.left.heads, h.right.heads, congrArg LedgerRows.heads h.view⟩

theorem sessions_alike {db db' : RunDatabase} (h : (isolation own).Alike x db db') :
    (sessionOwner own).isolation.Alike x db.sessions db'.sessions :=
  ⟨h.left.sessions, h.right.sessions, congrArg LedgerRows.sessions h.view⟩

def runsPart (own : Str → Str) : Isolation.Part (isolation own) runOwner.isolation where
  get := RunDatabase.runs
  set runs db := { db with runs }
  alike_get := runs_alike
  alike_set h h' := ⟨{ h.left with runs := h'.left }, { h.right with runs := h'.right },
    LedgerRows.ext h'.view (events_alike h).view (heads_alike h).view (sessions_alike h).view⟩
  moves_set h h' := ⟨{ h with runs := h'.holds }, fun y hy =>
    LedgerRows.ext (h'.others y hy) rfl rfl rfl⟩

def eventsPart (own : Str → Str) :
    Isolation.Part (isolation own) (eventOwner own).isolation where
  get := RunDatabase.events
  set events db := { db with events }
  alike_get := events_alike
  alike_set h h' := ⟨{ h.left with events := h'.left }, { h.right with events := h'.right },
    LedgerRows.ext (runs_alike h).view h'.view (heads_alike h).view (sessions_alike h).view⟩
  moves_set h h' := ⟨{ h with events := h'.holds }, fun y hy =>
    LedgerRows.ext rfl (h'.others y hy) rfl rfl⟩

def headsPart (own : Str → Str) : Isolation.Part (isolation own) headOwner.isolation where
  get := RunDatabase.heads
  set heads db := { db with heads }
  alike_get := heads_alike
  alike_set h h' := ⟨{ h.left with heads := h'.left }, { h.right with heads := h'.right },
    LedgerRows.ext (runs_alike h).view (events_alike h).view h'.view (sessions_alike h).view⟩
  moves_set h h' := ⟨{ h with heads := h'.holds }, fun y hy =>
    LedgerRows.ext rfl rfl (h'.others y hy) rfl⟩

def sessionsPart (own : Str → Str) :
    Isolation.Part (isolation own) (sessionOwner own).isolation where
  get := RunDatabase.sessions
  set sessions db := { db with sessions }
  alike_get := sessions_alike
  alike_set h h' := ⟨{ h.left with sessions := h'.left }, { h.right with sessions := h'.right },
    LedgerRows.ext (runs_alike h).view (events_alike h).view (heads_alike h).view h'.view⟩
  moves_set h h' := ⟨{ h with sessions := h'.holds }, fun y hy =>
    LedgerRows.ext rfl rfl rfl (h'.others y hy)⟩

/-! ## Statements -/

variable {db db' : RunDatabase}

theorem same_insertEvent {row : EventRow} (hx : row.tenantId = x) (hown : own row.eventId = x)
    (h : (isolation own).Alike x db db') :
    (isolation own).Same x (fun _ => True) db db' (insertEvent row db) (insertEvent row db') := by
  unfold insertEvent
  cases bindTexts _ with
  | error e => exact .raised e
  | ok u =>
    rcases Ownership.insert_alike (events_alike h) (hown.trans hx.symm) hx with
      ⟨hd, hd'⟩ | ⟨e, e', hd, hd', halike, hmove, hmove'⟩
    · simp only [hd, hd']
      exact .raised _
    · simp only [hd, hd']
      exact (eventsPart own).done h trivial halike hmove hmove'

theorem same_insertRun {row : RunRow} (hx : row.tenantId = x)
    (h : (isolation own).Alike x db db') :
    (isolation own).Same x (fun _ => True) db db' (insertRun row db) (insertRun row db') := by
  unfold insertRun
  cases bindTexts _ with
  | error e => exact .raised e
  | ok u =>
    rcases Ownership.insert_alike (runs_alike h) trivial hx with
      ⟨hd, hd'⟩ | ⟨e, e', hd, hd', halike, hmove, hmove'⟩
    · simp only [hd, hd']
      exact .raised _
    · simp only [hd, hd']
      exact (runsPart own).done h trivial halike hmove hmove'

theorem same_insertSession {row : SessionRow} (hx : row.tenantId = x) (hown : TellsTenant own row)
    (h : (isolation own).Alike x db db') :
    (isolation own).Same x (fun _ => True) db db' (insertSession row db)
      (insertSession row db') := by
  unfold insertSession
  cases bindTexts _ with
  | error e => exact .raised e
  | ok u =>
    rcases Ownership.insert_alike (sessions_alike h) hown hx with
      ⟨hd, hd'⟩ | ⟨e, e', hd, hd', halike, hmove, hmove'⟩
    · simp only [hd, hd']
      exact .raised _
    · simp only [hd, hd']
      exact (sessionsPart own).done h trivial halike hmove hmove'

/-- An update of rows of the tenant, with their number. -/
theorem same_update {α : Type} {S : Schema α} {O : Ownership S Str}
    (p : Isolation.Part (isolation own) O.isolation) {sel : α → Bool} {u : Update S}
    (hu : O.Keeps u) (hsel : ∀ t, O.Holds t → O.Selects x sel t)
    (h : (isolation own).Alike x db db') :
    (isolation own).Same x (fun _ : Nat => True) db db'
      (.ok ((p.get db).count sel, p.set ((p.get db).modify sel u) db) : Except Exn _)
      (.ok ((p.get db').count sel, p.set ((p.get db').modify sel u) db')) := by
  have hget := p.alike_get h
  rw [Ownership.count_alike hget hsel]
  exact p.done h trivial (Ownership.modify_alike hu hget)
    (Ownership.modify_moves hu hget.left (hsel _ hget.left))
    (Ownership.modify_moves hu hget.right (hsel _ hget.right))

theorem same_updateRun {runId status documentJson now : Str} {expectedStatus : Option Str}
    (h : (isolation own).Alike x db db') :
    (isolation own).Same x (fun _ => True) db db'
      (updateRun x runId status documentJson now expectedStatus db)
      (updateRun x runId status documentJson now expectedStatus db') := by
  unfold updateRun
  cases bindTexts _ with
  | error e => exact .raised e
  | ok u =>
    refine same_update (runsPart own) ⟨fun _ _ => trivial, fun _ => rfl⟩ (fun t _ r _ hsel => ?_) h
    simp only [savedRow, Bool.and_eq_true, beq_iff_eq] at hsel
    exact hsel.1.1

theorem same_updateSession {sessionId revokedAt : Str} (h : (isolation own).Alike x db db') :
    (isolation own).Same x (fun _ => True) db db' (updateSession x sessionId revokedAt db)
      (updateSession x sessionId revokedAt db') := by
  unfold updateSession
  cases bindTexts _ with
  | error e => exact .raised e
  | ok u =>
    refine same_update (sessionsPart own) ⟨fun _ hr => hr, fun _ => rfl⟩ (fun t _ r _ hsel => ?_) h
    simp only [activeSession, Bool.and_eq_true, beq_iff_eq] at hsel
    exact hsel.1.1

theorem same_selectRun {runId : Str} (h : (isolation own).Alike x db db') :
    (isolation own).Same x (fun _ => True) db db' (selectRun x runId db) (selectRun x runId db') := by
  unfold selectRun
  cases bindTexts _ with
  | error e => exact .raised e
  | ok u =>
    have hfind := Ownership.find?_alike (p := fun r => r.tenantId == x && r.runId == runId)
      (runs_alike h) fun t _ r _ hsel => eq_of_beq (Bool.and_eq_true_iff.1 hsel).1
    exact .read h (congrArg Except.ok hfind) fun _ _ => trivial

theorem headOf_alike (h : (isolation own).Alike x db db') : headOf db.heads x = headOf db'.heads x :=
  Ownership.find?_alike (heads_alike h) fun _ _ _ _ hsel => eq_of_beq hsel

theorem same_selectHead (h : (isolation own).Alike x db db') :
    (isolation own).Same x (fun _ => True) db db' (selectHead x db) (selectHead x db') := by
  unfold selectHead
  cases bindTexts _ with
  | error e => exact .raised e
  | ok u => exact .read h (congrArg Except.ok (headOf_alike h)) fun _ _ => trivial

theorem keeps_setHead (row : HeadRow) : headOwner.Keeps (setHead row) :=
  ⟨fun _ _ => trivial, fun _ => rfl⟩

theorem selects_head (x : Str) (t : Table headSchema) :
    headOwner.Selects x (fun r => r.tenantId == x) t :=
  fun _ _ hsel => eq_of_beq hsel

theorem upsertHead_alike {row : HeadRow} {t t' : Table headSchema} (hx : row.tenantId = x)
    (h : headOwner.isolation.Alike x t t') :
    headOwner.isolation.Alike x (upsertHead row t) (upsertHead row t') ∧
      headOwner.isolation.Moves x t (upsertHead row t) := by
  subst hx
  unfold upsertHead
  rcases Ownership.insert_alike h trivial rfl with ⟨hd, hd'⟩ | ⟨e, e', hd, hd', halike, hmove, -⟩
  · rw [hd, hd']
    exact ⟨Ownership.modify_alike (keeps_setHead row) h,
      Ownership.modify_moves (keeps_setHead row) h.left (selects_head row.tenantId t)⟩
  · rw [hd, hd']
    exact ⟨halike, hmove⟩

theorem same_writeHead {row : HeadRow} (hx : row.tenantId = x)
    (h : (isolation own).Alike x db db') :
    (isolation own).Same x (fun _ => True) db db' (writeHead row db) (writeHead row db') := by
  obtain ⟨halike, hmove⟩ := upsertHead_alike hx (heads_alike h)
  obtain ⟨-, hmove'⟩ := upsertHead_alike hx (heads_alike h.symm)
  unfold writeHead
  cases check (row.eventCount < 2 ^ 63) Exn.overflowError with
  | error e => exact .raised e
  | ok u =>
    change (isolation own).Same x _ db db' (bindTexts _ >>= _) (bindTexts _ >>= _)
    cases bindTexts _ with
    | error e => exact .raised e
    | ok v => exact (headsPart own).done h trivial halike hmove hmove'

end

/-! ## Transactions -/

section
variable (P : Platform) {F : Floats} {own : Str → Str} {x : Str}

/-- The id that `_append_audit_locked` gives an event. -/
def eventIdOf (audit : AuditWrite F) (reading : Reading) : Str :=
  if audit.eventId = [] then Py.lit "audit-" ++ reading.uuid else audit.eventId

theorem isolated_appendAuditLocked {audit : AuditWrite F} {reading : Reading}
    (hown : own (eventIdOf audit reading) = x) :
    (isolation own).Isolated x (appendAuditLocked P x audit reading) fun _ => True := by
  refine (Isolation.isolated_compute fun _ _ => trivial).bind fun payloadJson _ => ?_
  refine (Isolation.isolated_statement fun _ _ h => same_selectHead h).bind fun head _ => ?_
  refine (Isolation.isolated_compute fun _ _ => trivial).bind fun eventHash _ => ?_
  refine Isolation.Isolated.bind (Q := fun _ => True)
    (Isolation.isolated_statement fun _ _ h => same_insertEvent rfl hown h) fun _ _ => ?_
  exact Isolation.isolated_statement fun _ _ h => same_writeHead rfl h

theorem isolated_appendOptional {audit : Option (AuditWrite F)} {reading : Reading}
    (hown : ∀ a ∈ audit, own (eventIdOf a reading) = x) :
    (isolation own).Isolated x (appendOptional P x audit reading) fun _ => True := by
  cases audit with
  | none => exact Isolation.isolated_pure trivial
  | some audit => exact isolated_appendAuditLocked P (hown audit rfl)

theorem isolated_createLocked {row : RunRow} {audit : Option (AuditWrite F)} {reading : Reading}
    (hown : ∀ a ∈ audit, own (eventIdOf a reading) = row.tenantId) :
    (isolation own).Isolated row.tenantId (createLocked P row audit reading) fun _ => True := by
  refine (Isolation.isolated_statement fun _ _ h => same_insertRun rfl h).bind fun _ _ => ?_
  exact isolated_appendOptional P hown

theorem isolated_saveLocked {runId status documentJson : Str} {expectedStatus : Option Str}
    {audit : Option (AuditWrite F)} {reading : Reading}
    (hown : ∀ a ∈ audit, own (eventIdOf a reading) = x) :
    (isolation own).Isolated x
      (saveLocked P x runId status documentJson expectedStatus audit reading) fun _ => True := by
  refine (Isolation.isolated_statement fun _ _ h => same_updateRun h).bind fun rowcount _ => ?_
  split
  · exact isolated_appendOptional P hown
  · refine (Isolation.isolated_statement fun _ _ h => same_selectRun h).bind fun row _ => ?_
    exact Isolation.isolated_compute fun _ _ => trivial

/-- The event of a session has an id of its own. -/
theorem build_eventId {draft : AuditDraft F} {audit : AuditWrite F} (h : draft.build = .ok audit) :
    audit.eventId = draft.eventId := by
  unfold AuditDraft.build at h
  split at h
  · cases h
    rfl
  · cases h

theorem isolated_createSessionLocked {row : SessionRow}
    {sessionToken csrfToken requestId actor : Str} {reading : Reading}
    (hid : own row.sessionId = row.tenantId)
    (htoken : ∀ hash, P.digest sessionToken = .ok hash → own hash = row.tenantId)
    (hevent : own (Py.lit "audit-" ++ reading.uuid) = row.tenantId) :
    (isolation own).Isolated row.tenantId
      (createSessionLocked P (F := F) row sessionToken csrfToken requestId actor reading)
      fun _ => True := by
  refine (Isolation.isolated_compute (Q := fun hash => own hash = row.tenantId) htoken).bind
    fun sessionTokenHash hhash => ?_
  refine (Isolation.isolated_compute fun _ _ => trivial).bind fun csrfTokenHash _ => ?_
  refine Isolation.Isolated.bind (Q := fun _ => True)
    (Isolation.isolated_statement fun _ _ h => same_insertSession rfl ⟨hid, hhash⟩ h) fun _ _ => ?_
  refine (Isolation.isolated_compute (Q := fun audit => audit.eventId = []) fun audit h =>
    build_eventId h).bind fun audit hempty => isolated_appendAuditLocked P ?_
  rw [eventIdOf, if_pos hempty, hevent]

theorem isolated_revokeSessionLocked {sessionId revokedAt requestId actor : Str}
    {reading : Reading} (hevent : own (Py.lit "audit-" ++ reading.uuid) = x) :
    (isolation own).Isolated x
      (revokeSessionLocked P (F := F) x sessionId revokedAt requestId actor reading)
      fun _ => True := by
  refine (Isolation.isolated_statement fun _ _ h => same_updateSession h).bind fun rowcount _ => ?_
  refine (Isolation.isolated_compute fun _ _ => trivial).bind fun _ _ => ?_
  refine (Isolation.isolated_compute (Q := fun audit => audit.eventId = []) fun audit h =>
    build_eventId h).bind fun audit hempty => isolated_appendAuditLocked P ?_
  rw [eventIdOf, if_pos hempty, hevent]

/-- A section that is issued for the tenant. -/
def Section.IssuedFor (own : Str → Str) (x : Str) : Section F → Prop
  | .appendAudit tenantId audit reading => tenantId = x ∧ own (eventIdOf audit reading) = x
  | .create row audit reading => row.tenantId = x ∧ ∀ a ∈ audit, own (eventIdOf a reading) = x
  | .save tenantId _ _ _ _ audit reading => tenantId = x ∧ ∀ a ∈ audit, own (eventIdOf a reading) = x
  | .createSession row sessionToken _ _ _ reading => row.tenantId = x ∧ own row.sessionId = x ∧
    (∀ hash, P.digest sessionToken = .ok hash → own hash = x) ∧
    own (Py.lit "audit-" ++ reading.uuid) = x
  | .revokeSession tenantId _ _ _ _ reading =>
    tenantId = x ∧ own (Py.lit "audit-" ++ reading.uuid) = x
  | .selectEvent tenantId _ _ | .selectEvents tenantId | .selectHead tenantId => tenantId = x

theorem eventsOf_alike {db db' : RunDatabase} (h : (isolation own).Alike x db db') :
    eventsOf db x = eventsOf db' x := by
  have hsel (t : Table eventSchema) : (eventOwner own).Selects x (fun r => r.tenantId == x) t :=
    fun _ _ hsel => eq_of_beq hsel
  rw [eventsOf, eventsOf, Ownership.filter_part (hsel _), Ownership.filter_part (hsel _)]
  exact congrArg (List.filter _) (events_alike h).view

/-- Every section is an isolated step of the tenant it is issued for. -/
theorem Section.isolated {o : Section F} (h : o.IssuedFor P own x) :
    (isolation own).Step x (o.run P) := by
  cases o with
  | appendAudit tenantId audit reading =>
    obtain ⟨rfl, hown⟩ := h
    exact (isolated_appendAuditLocked P hown).commit reading.faults
  | create row audit reading =>
    obtain ⟨rfl, hown⟩ := h
    exact (isolated_createLocked P hown).commit reading.faults
  | save tenantId runId status documentJson expectedStatus audit reading =>
    obtain ⟨rfl, hown⟩ := h
    exact (isolated_saveLocked P hown).commit reading.faults
  | createSession row sessionToken csrfToken requestId actor reading =>
    obtain ⟨rfl, hid, htoken, hevent⟩ := h
    exact (isolated_createSessionLocked P hid htoken hevent).commit reading.faults
  | revokeSession tenantId sessionId revokedAt requestId actor reading =>
    obtain ⟨rfl, hevent⟩ := h
    exact (isolated_revokeSessionLocked P hevent).commit reading.faults
  | selectEvent tenantId eventId fault =>
    obtain rfl := h
    exact .read fun d d' hd => by rw [eventsOf_alike hd]
  | selectEvents tenantId =>
    obtain rfl := h
    exact .read fun d d' hd => by rw [eventsOf_alike hd]
  | selectHead tenantId =>
    obtain rfl := h
    exact .read fun d d' hd => by rw [headOf_alike hd]

end

end Ledger

end AgencyRuntime
