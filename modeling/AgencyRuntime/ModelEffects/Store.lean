import AgencyRuntime.Effects.Service
import AgencyRuntime.ModelEffects.Gateway
import AgencyRuntime.Publication.Store

/-!
# The model effect store

`SQLiteModelEffectStore` (model_effect_store.py). A method validates its arguments, reads the clock,
runs one transaction and may read the row back in another. `Statement` lists the transactions and
`Statement.run` is their effect on the table; `Outside` lists what the model effect authority asks
of the outside.
-/

namespace AgencyRuntime

open Effects Tables

namespace ModelEffect

/-- What the authority asks of the outside. A request is sent in one step and answered in another. -/
inductive Outside
  | clock
  | send (request : ModelHttpRequest)
  | receive (request : ModelHttpRequest)

/-- The answers from the outside. -/
abbrev outside : Sig where
  Op := Outside
  Ans
    | .clock => Str
    | .send _ => Unit
    | .receive _ => ModelReply

/-- The arguments of `_transition` that the `UPDATE` assigns. An output comes with its digest. -/
structure Change where
  status : ModelEffectStatus
  output : Option (Str × Str) := none
  receipt : Option Obj := none
  failureReason : Str := []
  completed : Bool := false

/-- The assignments of `_transition` on one row. -/
def Change.apply (c : Change) (now : Str) : Update effectSchema where
  apply r :=
    { r with
      status := c.status
      updatedAt := now
      outputText := (c.output.map (·.1)).getD r.outputText
      outputSha256 := (c.output.map (·.2)).getD r.outputSha256
      receipt := c.receipt.getD r.receipt
      failureReason :=
        if c.failureReason ≠ [] ∨ c.status = .succeeded then c.failureReason else r.failureReason
      completedAt := if c.completed then some now else r.completedAt }
  key_apply _ := rfl

/-- The assignments of `reconcile_success`. -/
def reconcileRow (outputText outputSha256 : Str) (receipt : Obj) (now : Str) :
    Update effectSchema where
  apply r :=
    { r with
      status := .succeeded
      outputText := outputText
      outputSha256 := outputSha256
      receipt := receipt
      failureReason := []
      completedAt := some now
      updatedAt := now }
  key_apply _ := rfl

/-- The assignments of `revoke_unused`: the fence moves on. -/
def revokeRow (reason now : Str) : Update effectSchema where
  apply r :=
    { r with
      status := .revoked
      executionFencingToken := r.executionFencingToken + 1
      failureReason := reason
      revokedAt := some now
      updatedAt := now }
  key_apply _ := rfl

/-- The transactions of the store. -/
inductive Statement
  | reserve (intent : ModelEffectIntent)
  | get (tenantId effectId : Str)
  | transition (tenantId effectId : Str) (fence : Int) (change : Change) (now : Str)
  | reconcile (tenantId effectId outputText outputSha256 : Str) (receipt : Obj) (now : Str)
  | revokeUnused (tenantId runId reason now : Str)
  | listForRun (tenantId runId : Str)

/-- The outcome of the transaction of `reserve`: the intent was inserted, or this row has its key or
its binding. -/
inductive Reserved
  | inserted
  | existing (record : ModelEffectIntent)

/-- The outcome of the transaction of `reconcile_success`: the update took place, or this is the
row there is. -/
inductive Reconciled
  | updated
  | found (row : Option ModelEffectIntent)

/-- The answers of the transactions; an error is an exception inside the transaction. -/
abbrev statements : Sig where
  Op := Statement
  Ans
    | .reserve _ => Except Exn Reserved
    | .get _ _ => Option ModelEffectIntent
    | .transition .. => Except Exn Bool
    | .reconcile .. => Reconciled
    | .revokeUnused .. => Nat
    | .listForRun .. => List ModelEffectIntent

/-- The `SELECT` of `reserve`: the row with the idempotency key comes first. -/
def priorIntent (t : EffectTable) (intent : ModelEffectIntent) : Option ModelEffectIntent :=
  (t.rows.find? fun r => r.sameKey intent).or (t.rows.find? fun r => r.sameBinding intent)

/-- The transaction of `reserve`. An exception rolls it back. -/
def reserveIn (intent : ModelEffectIntent) (t : EffectTable) : Except Exn Reserved × EffectTable :=
  match priorIntent t intent with
  | some record =>
    if record.idempotencyDigest = intent.idempotencyDigest ∧
        record.bindingDigest ≠ intent.bindingDigest then
      (.error (.modelEffectConflict
        "model effect idempotency key conflicts with a prior binding"), t)
    else if record.bindingDigest ≠ intent.bindingDigest then
      (.error (.modelEffectConflict "model effect binding conflicts with a prior intent"), t)
    else (.ok (.existing record), t)
  | none =>
    if Publication.fitsInteger intent.executionFencingToken then
      match t.insert intent with
      | some t' => (.ok .inserted, t')
      | none => (.error .integrityError, t)
    else (.error .overflowError, t)

/-- The rows the `UPDATE` of `_transition` selects. -/
def inFlight (tenantId effectId : Str) (fence : Int) (r : ModelEffectIntent) : Bool :=
  r.isFor tenantId effectId && r.status = .pending && r.executionFencingToken == fence

/-- The rows the `UPDATE` of `reconcile_success` selects. -/
def reconcilable (tenantId effectId : Str) (r : ModelEffectIntent) : Bool :=
  r.isFor tenantId effectId && r.status = .unknown

/-- The rows the `UPDATE` of `revoke_unused` selects. -/
def unused (tenantId runId : Str) (r : ModelEffectIntent) : Bool :=
  r.ofRun tenantId runId && r.status = .pending

/-- `ORDER BY created_at ASC, effect_id ASC` -/
def sortedEffects (rows : List ModelEffectIntent) : List ModelEffectIntent :=
  rows.insertionSort fun r s =>
    r.createdAt < s.createdAt ∨ r.createdAt = s.createdAt ∧ r.effectId ≤ s.effectId

/-- The effect of each transaction. A number past 64 bits raises as it is bound. -/
def Statement.run (o : Statement) (t : EffectTable) : statements.Ans o × EffectTable :=
  match o with
  | .reserve intent => reserveIn intent t
  | .get tenantId effectId => (t.rows.find? fun r => r.isFor tenantId effectId, t)
  | .transition tenantId effectId fence change now =>
    if Publication.fitsInteger fence then
      let sel := inFlight tenantId effectId fence
      (.ok (t.count sel = 1), t.modify sel (change.apply now))
    else (.error .overflowError, t)
  | .reconcile tenantId effectId outputText outputSha256 receipt now =>
    let sel := reconcilable tenantId effectId
    if t.count sel = 1 then
      (.updated, t.modify sel (reconcileRow outputText outputSha256 receipt now))
    else (.found (t.rows.find? fun r => r.isFor tenantId effectId), t)
  | .revokeUnused tenantId runId reason now =>
    let sel := unused tenantId runId
    (t.count sel, t.modify sel (revokeRow reason now))
  | .listForRun tenantId runId =>
    (sortedEffects (t.rows.filter fun r => r.ofRun tenantId runId), t)

/-- The model effect service over its table. -/
def service : Service statements EffectTable Empty where
  run _ o t := some (o.run t)
  crash _ t := t
  env x _ := nomatch x

/-- The signature of the model effect programs. -/
abbrev sig : Sig := outside.sum statements

/-- The programs of the model effect service. -/
abbrev Program (α : Type) := Prog sig Exn α

/-- The logs of its runs. -/
abbrev History := Log sig Empty

/-- Ask the outside. -/
abbrev ask (o : Outside) : Program (outside.Ans o) :=
  @Prog.ask outside statements Exn o

/-- Run a transaction. -/
abbrev call (o : Statement) : Program (statements.Ans o) :=
  @Prog.call outside statements Exn o

/-- The event of an answered question. -/
abbrev asked (o : Outside) (a : outside.Ans o) : Event sig :=
  @Event.outside outside statements o a

/-- The event of a transaction that ran. -/
abbrev called (o : Statement) (a : statements.Ans o) : Event sig :=
  @Event.store outside statements o a

/-! ## The methods -/

/-- `self._clock()` -/
def clock : Program Str := ask .clock

/-- `reserve` -/
def reserve (intent : ModelEffectIntent) : Program ModelEffectReservation := do
  .ofExcept (validateIntent intent)
  let answer ← call (.reserve intent)
  let reserved ← .ofExcept answer
  match reserved with
  | .inserted => return ⟨intent, true, false⟩
  | .existing record => return ⟨record, false, record.status = .succeeded⟩

/-- `get` -/
def get (tenantId effectId : Str) : Program ModelEffectIntent := do
  .ofExcept (validateIdentity tenantId effectId)
  let row ← call (.get tenantId effectId)
  match row with
  | some row => return row
  | none => throw (.keyError "model effect intent not found")

/-- The checks of `_transition`. -/
def Change.validate (c : Change) (tenantId effectId : Str) (fence : Int) : Except Exn Unit := do
  validateIdentity tenantId effectId
  check (1 ≤ fence) (.valueError "model effect fence must be positive")
  c.output.elim (.ok ()) fun output => do
    validateOutput output.1
    check (isSha256 output.2) (.valueError "model effect output digest is invalid")
  c.receipt.elim (.ok ()) validateReceipt
  if c.failureReason = [] then .ok () else validateReason c.failureReason

/-- `_transition` -/
def transition (tenantId effectId : Str) (fence : Int) (change : Change) :
    Program ModelEffectIntent := do
  .ofExcept (change.validate tenantId effectId fence)
  let now ← clock
  let answer ← call (.transition tenantId effectId fence change now)
  let updated ← .ofExcept answer
  .raiseIf (updated = false)
    (.modelEffectState "model effect intent is not pending for this fence")
  get tenantId effectId

/-- `complete` -/
def complete (P : Platform) (tenantId effectId : Str) (fence : Int) (outputText : Str)
    (receipt : Obj) : Program ModelEffectIntent := do
  .ofExcept (validateOutput outputText)
  .ofExcept (validateReceipt receipt)
  let outputSha256 ← .ofExcept (P.digest outputText)
  transition tenantId effectId fence
    { status := .succeeded, output := some (outputText, outputSha256), receipt := some receipt
      completed := true }

/-- `mark_unknown` -/
def markUnknown (tenantId effectId : Str) (fence : Int) (reason : Str) :
    Program ModelEffectIntent :=
  transition tenantId effectId fence { status := .unknown, failureReason := reason }

/-- `mark_failed` -/
def markFailed (tenantId effectId : Str) (fence : Int) (reason : Str) :
    Program ModelEffectIntent :=
  transition tenantId effectId fence { status := .failed, failureReason := reason }

/-- `reconcile_success` -/
def reconcileSuccess (P : Platform) (tenantId effectId outputText : Str) (receipt : Obj) :
    Program ModelEffectIntent := do
  .ofExcept (validateIdentity tenantId effectId)
  .ofExcept (validateOutput outputText)
  .ofExcept (validateReceipt receipt)
  let outputSha256 ← .ofExcept (P.digest outputText)
  let now ← clock
  let answer ← call (.reconcile tenantId effectId outputText outputSha256 receipt now)
  match answer with
  | .updated => get tenantId effectId
  | .found (some existing) =>
    if reconciliationMatches existing outputSha256 receipt then return existing
    else throw (.modelEffectState "only an unknown model effect can be reconciled")
  | .found none => throw (.modelEffectState "only an unknown model effect can be reconciled")

/-- `revoke_unused` -/
def revokeUnused (tenantId runId reason : Str) : Program Nat := do
  .ofExcept (validateIdentity tenantId runId)
  .ofExcept (validateReason reason)
  let now ← clock
  call (.revokeUnused tenantId runId reason now)

/-- `list_for_run` -/
def listForRun (tenantId runId : Str) : Program (List ModelEffectIntent) := do
  .ofExcept (validateIdentity tenantId runId)
  call (.listForRun tenantId runId)

end ModelEffect

end AgencyRuntime
