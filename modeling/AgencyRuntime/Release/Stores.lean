import AgencyRuntime.Media.Store
import AgencyRuntime.Orchestrator.Calls
import AgencyRuntime.Publication.Reauthorize

/-!
# What a release reads and writes

The stores behind the endpoints that publish an approved artifact, revoke its Greenlight and
disconnect its account (api.py). A row of `runtime_runs` stands for the run that its document is
read back as. Other requests decide runs, attach artifacts, store media and complete the OAuth flow
between any two steps; all of them save a run only while it is in production, that is before it is
completed, rejected or failed.
-/

namespace AgencyRuntime

open Effects Tables Py

namespace Release

/-! ## The stores -/

/-- A row of `runtime_runs`. -/
structure RunRecord where
  tenantId : Str
  run : ExecutionRun

/-- `PRIMARY KEY (tenant_id, run_id)` -/
def runSchema : Schema RunRecord := .ofKey fun r => (r.tenantId, r.run.runId)

/-- The stores. -/
structure Stores extends Reauthorize.Stores where
  runs : Table runSchema
  media : Media.MediaTable

/-- The row of a tenant and a run. -/
def RunRecord.isFor (r : RunRecord) (tenantId runId : Str) : Bool :=
  r.tenantId == tenantId && r.run.runId == runId

/-- `SQLiteRunStore.get`; `none` is `KeyError`. -/
def Stores.getRun (w : Stores) (tenantId runId : Str) : Option ExecutionRun :=
  (w.runs.rows.find? (·.isFor tenantId runId)).map (·.run)

/-- The media of a tenant with this ID. -/
def Stores.mediaRow (w : Stores) (tenantId mediaId : Str) : Option MediaRow :=
  w.media.rows.find? fun row => row.record.tenantId == tenantId && row.record.mediaId == mediaId

/-- `SQLitePublicationMediaStore.get_content` -/
def Stores.getContent (w : Stores) (tenantId mediaId : Str) : Except Exn Bytes :=
  match w.mediaRow tenantId mediaId with
  | none => .error (.keyError "publication media not found")
  | some _ => Media.Sqlite.contentFor mediaId w.media

/-- The assignments of a save; the key stays as it is. -/
def setRun (run : ExecutionRun) : Update runSchema where
  apply r := { r with run := { run with runId := r.run.runId } }
  key_apply _ := rfl

/-- The condition of a save: the row of the run, in the status that was expected. -/
def savedRow (tenantId runId : Str) (expected : RunStatus) (r : RunRecord) : Bool :=
  r.isFor tenantId runId && decide (r.run.status = expected)

/-- `SQLiteRunStore.save` with an expected status and an audit event. The transaction is rolled back
when the event cannot be appended (`fault`). -/
def Stores.saveRun (w : Stores) (tenantId : Str) (run : ExecutionRun) (expected : RunStatus)
    (fault : Option Exn) : Except Exn Unit × Stores :=
  if (w.runs.rows.any (savedRow tenantId run.runId expected)) = true then
    match fault with
    | none =>
      (.ok (), { w with runs := w.runs.modify (savedRow tenantId run.runId expected) (setRun run) })
    | some e => (.error e, w)
  else if (w.getRun tenantId run.runId).isNone = true then
    (.error (.keyError ("run not found: " ++ Py.display run.runId)), w)
  else
    (.error (.runStateConflict ("run state changed before persistence: " ++ Py.display run.runId)),
      w)

/-- The transactions. -/
inductive Access
  | account (o : Reauthorize.Access)
  | getRun (tenantId runId : Str)
  | saveRun (tenantId : Str) (run : ExecutionRun) (expected : RunStatus) (fault : Option Exn)
  | getMedia (tenantId mediaId : Str)
  | getContent (tenantId mediaId : Str)

/-- The answers of the transactions. -/
abbrev accesses : Sig where
  Op := Access
  Ans
    | .account o => Reauthorize.accesses.Ans o
    | .getRun _ _ => Option ExecutionRun
    | .saveRun .. => Except Exn Unit
    | .getMedia _ _ => Option PublicationMediaRecord
    | .getContent _ _ => Except Exn Bytes

/-- What the endpoints ask of the outside: what publishing asks, the clock, the clock as the
orchestrator reads it, whether a command was recorded before, the failure that the audit event of a
save meets, and the audit ledger. -/
inductive Question
  | account (o : Reauthorize.Question)
  | utcNow
  | stationClock
  | commandReplay (tenantId idempotencyKey : Str)
  | auditFault
  | recordRevokedIntents (tenantId runId : Str) (revokedIntents : Nat)

/-- The answers from the outside. -/
abbrev questions : Sig where
  Op := Question
  Ans
    | .account o => Reauthorize.questions.Ans o
    | .utcNow => Datetime
    | .stationClock => Nat → Str
    | .commandReplay .. => Except Exn Bool
    | .auditFault => Option Exn
    | .recordRevokedIntents .. => Except Exn Unit

/-- The effect of each transaction. -/
def Access.run (o : Access) (w : Stores) : accesses.Ans o × Stores :=
  match o with
  | .account o => ((o.run w.toStores).1, { w with toStores := (o.run w.toStores).2 })
  | .getRun tenantId runId => (w.getRun tenantId runId, w)
  | .saveRun tenantId run expected fault => w.saveRun tenantId run expected fault
  | .getMedia tenantId mediaId => ((w.mediaRow tenantId mediaId).map (·.record), w)
  | .getContent tenantId mediaId => (w.getContent tenantId mediaId, w)

/-! ## The other requests -/

/-- The statuses a run is saved from by everything but a revocation: the workers expect the status
they read, which is queued or running; decisions and attachments expect that the run awaits its
Greenlight. -/
def inProduction : RunStatus → Bool
  | .queued | .running | .awaitingGreenlight => true
  | _ => false

/-- What the other requests do to the stores. -/
inductive Change
  | createRun (record : RunRecord)
  | saveRun (tenantId : Str) (run : ExecutionRun) (expected : RunStatus)
  | upsertConnection (record : SocialConnectionRecord)
  | media (table : Media.MediaTable)

/-- The effect of a change, when it can take place. -/
def Change.apply (change : Change) (w : Stores) : Option Stores :=
  match change with
  | .createRun record => (w.runs.insert record).map fun runs => { w with runs }
  | .saveRun tenantId run expected =>
    if inProduction expected = true then some (w.saveRun tenantId run expected none).2 else none
  | .upsertConnection record =>
    some { w with toStores := Reauthorize.upsertConnection record w.toStores }
  | .media table => some { w with media := table }

/-- The stores as a service. -/
def service : Service accesses Stores Change where
  run _ o w := some (o.run w)
  crash _ w := w
  env := Change.apply

/-- The signature of the endpoints. -/
abbrev sig : Sig := questions.sum accesses

/-- The programs of the endpoints. -/
abbrev Program (α : Type) := Prog sig Exn α

/-- The logs of their runs. -/
abbrev History := Log sig Change

/-- The event of a transaction that ran. -/
abbrev called (o : Access) (a : accesses.Ans o) : Event sig :=
  @Event.store questions accesses o a

/-- The event of a question. -/
abbrev asked (o : Question) (a : questions.Ans o) : Event sig :=
  @Event.outside questions accesses o a

/-- Ask the outside. -/
abbrev ask (o : Question) : Program (questions.Ans o) :=
  @Prog.ask questions accesses Exn o

/-- Run a transaction. -/
abbrev call (o : Access) : Program (accesses.Ans o) :=
  @Prog.call questions accesses Exn o

/-- An operation on the accounts and the intents. -/
def embedOp : Reauthorize.sig.Op → sig.Op
  | .inl o => .inl (.account o)
  | .inr o => .inr (.account o)

/-- The answer to such an operation. -/
def embedAns : (o : Reauthorize.sig.Op) → sig.Ans (embedOp o) → Reauthorize.sig.Ans o
  | .inl _, a => a
  | .inr _, a => a

/-- Publishing among the stores. -/
def embedding : Embedding Reauthorize.sig sig := ⟨embedOp, embedAns⟩

/-- `ExecutionService.get` -/
def loadRun (tenantId runId : Str) : Program ExecutionRun := do
  let found ← call (.getRun tenantId runId)
  .ofExcept (found.elim (.error (.keyError ("run not found: " ++ Py.display runId))) .ok)

end Release

end AgencyRuntime
