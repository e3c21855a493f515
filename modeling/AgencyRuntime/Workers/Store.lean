import AgencyRuntime.Effects.Parts
import AgencyRuntime.Ledger.Store
import AgencyRuntime.Orchestrator.Stored

/-!
# What the workers share

The SQLite file behind `execute_one_queued_run` (api.py): the tables of the run store and the
memories of the tenants (memory.py), with the statements of the workers on them. `command_lock` of
the SQLite store is a lock of one process, so between the workers of several processes it orders
nothing: a lock is always granted here.
-/

namespace AgencyRuntime

open Effects Tables Orchestrator

namespace Workers

/-- A row of `memories`; the confidence is kept as its `repr`. -/
structure MemoryRow where
  memoryId : Str
  observationId : Str
  content : Str
  provenanceJson : Str
  confidence : Str
  tagsJson : Str
  observedAt : Str
  storedAt : Str
  owner : Str
deriving DecidableEq

/-- A memory has a unique id and a unique observation id. -/
def memorySchema : Schema MemoryRow := .ofPair fun r => (r.memoryId, r.observationId)

/-- `INSERT OR IGNORE INTO memories` -/
def insertOrIgnore (row : MemoryRow) (memories : Table memorySchema) : Table memorySchema :=
  (memories.insert row).getD memories

/-- The file. -/
structure World where
  ledger : Ledger.RunDatabase
  memories : Table memorySchema

/-- A new file. -/
def World.empty : World := ⟨.empty, .empty⟩

/-- What a worker asks of the outside: what the run store asks, the clock, the clock as one advance
reads it, the end of a lease (`(now + timedelta(seconds=run_lease_seconds)).isoformat()`), and the
failure that the next statement meets. -/
inductive Outside
  | ledger (o : Ledger.Outside)
  | clock
  | stationClock
  | leaseExpiry (now : Int)
  | fault
  | memoryFault

/-- The answers from the outside. -/
abbrev outside : Sig where
  Op := Outside
  Ans
    | .ledger o => Ledger.outside.Ans o
    | .clock => Str
    | .stationClock => Nat → Str
    | .leaseExpiry _ => Except Exn Str
    | .fault => Option Exn
    | .memoryFault => Option Failure

/-- The locks, reads and transactions of a worker. -/
inductive Access (F : Floats)
  | lock (lockId : Str)
  | unlock (lockId : Str)
  | executableRuns (limit : Nat) (fault : Option Exn)
  | selectRun (tenantId runId : Str) (fault : Option Exn)
  | ledger (o : Ledger.Section F)
  | insertMemory (row : MemoryRow) (fault : Option Failure)
  | selectMemory (owner memoryId : Str) (fault : Option Failure)

/-- The answers. -/
abbrev accesses (F : Floats) : Sig where
  Op := Access F
  Ans
    | .lock _ => Unit
    | .unlock _ => Unit
    | .executableRuns .. => Except Exn (List (Str × Str))
    | .selectRun .. => Except Exn (Option Str)
    | .ledger o => (Ledger.sections F).Ans o
    | .insertMemory .. => Except Failure Unit
    | .selectMemory .. => Except Failure (Option MemoryRow)

/-- `status IN ('queued', 'running')` -/
def isDue (row : Ledger.RunRow) : Bool :=
  row.status == RunStatus.queued.value || row.status == RunStatus.running.value

/-- The `SELECT` of `executable_runs`, `ORDER BY updated_at ASC, tenant_id ASC, run_id ASC` -/
def dueRuns (limit : Nat) (db : Ledger.RunDatabase) : List (Str × Str) :=
  (((db.runs.rows.filter isDue).insertionSort fun r s =>
    [r.updatedAt, r.tenantId, r.runId] ≤ [s.updatedAt, s.tenantId, s.runId]).take limit).map
      fun row => (row.tenantId, row.runId)

/-- Bind texts to a statement on the memories. -/
def bindMemory (texts : List Str) : Except Failure Unit :=
  asFailure (Ledger.bindTexts texts) (.check rfl)

/-- The statements. -/
def Access.run (P : Platform) {F : Floats} : (o : Access F) → World → (accesses F).Ans o × World
  | .lock _, w => ((), w)
  | .unlock _, w => ((), w)
  | .executableRuns limit fault, w =>
    (do
      fault.elim (.ok ()) .error
      return dueRuns limit w.ledger, w)
  | .selectRun tenantId runId fault, w =>
    (do
      fault.elim (.ok ()) .error
      let (row, _) ← Ledger.selectRun tenantId runId w.ledger
      return row.map (·.documentJson), w)
  | .ledger o, w => ((o.run P w.ledger).1, { w with ledger := (o.run P w.ledger).2 })
  | .insertMemory row fault, w =>
    match (do
      fault.elim (.ok ()) .error
      bindMemory [row.memoryId, row.observationId, row.content, row.provenanceJson, row.tagsJson,
        row.observedAt, row.storedAt, row.owner] : Except Failure Unit) with
    | .ok () => (.ok (), { w with memories := insertOrIgnore row w.memories })
    | .error e => (.error e, w)
  | .selectMemory owner memoryId fault, w =>
    (do
      fault.elim (.ok ()) .error
      bindMemory [owner, memoryId]
      return w.memories.rows.find? fun r => r.owner == owner && r.memoryId == memoryId, w)

/-- What happens to the file beside the workers: the API creates a run
(`create_run(asynchronous=True)`), other tables of the run store change, and other memories are
stored. -/
inductive Change
  | created (tenantId : Str) (request : BriefRequest) (startedAt createdAt : Str)
  | ledgerChanged (ledger : Ledger.RunDatabase)
  | remembered (row : MemoryRow)

/-- The row of a run that is created. -/
def createdRow (P : Platform) (tenantId : Str) (request : BriefRequest) (startedAt createdAt : Str) :
    Except Exn Ledger.RunRow := do
  let brief ← briefOf request
  let runId ← P.stableId "run" [brief.toJson] 16
  let run := newRun runId brief true startedAt
  let document ← storedDocument run
  Ledger.bindTexts [tenantId, runId, run.status.value, document, createdAt, createdAt]
  return {
    tenantId := tenantId, runId := runId, status := run.status.value, documentJson := document
    createdAt := createdAt, updatedAt := createdAt }

/-- A change from elsewhere; a run that exists is not created again. -/
def Change.apply (P : Platform) : Change → World → Option World
  | .created tenantId request startedAt createdAt, w =>
    match createdRow P tenantId request startedAt createdAt with
    | .ok row => (w.ledger.runs.insert row).map fun runs => { w with ledger.runs := runs }
    | .error _ => none
  | .ledgerChanged ledger, w => some { w with ledger := { ledger with runs := w.ledger.runs } }
  | .remembered row, w => some { w with memories := insertOrIgnore row w.memories }

/-- The workers on one file. A crash takes nothing with it but the worker. -/
def service (P : Platform) (F : Floats) : Service (accesses F) World Change where
  run _ o w := some (o.run P w)
  crash _ w := w
  env := Change.apply P

end Workers

end AgencyRuntime
