import AgencyRuntime.Chains.Linked
import AgencyRuntime.Python.Value

/-!
# Audit events and their hashes

`audit_event_hash` and `AuditChainCheckpoint` (audit_integrity.py), and what `verify_audit_chain`
(persistence.py) makes of the rows and the head row it has read. A row is `Sealed` when its stored
hash is the hash of its fields; rows that verify are sealed and form a hash chain
(`checkRows_ok`).
-/

namespace AgencyRuntime

open Chains

namespace Ledger

/-- The texts of an audit event that its hash covers. -/
structure EventTexts where
  eventId : Str
  tenantId : Str
  requestId : Str
  occurredAt : Str
  action : Str
  resourceType : Str
  resourceId : Str
  actor : Str
deriving DecidableEq

/-- A row of `audit_events`; the sequence number is the place of the row. -/
structure EventRow extends EventTexts where
  payloadJson : Str
  previousHash : Str
  eventHash : Str
deriving DecidableEq

/-- A row of `audit_chain_heads`. -/
structure HeadRow where
  tenantId : Str
  eventCount : Nat
  headEventId : Str
  headHash : Str
deriving DecidableEq

/-- `[0-9a-f]` -/
def isHexDigit (c : CodePoint) : Bool := Py.inRange '0' '9' c || Py.inRange 'a' 'f' c

/-- `_HEX64` -/
def isHex64 (s : Str) : Bool := s.length == 64 && s.all isHexDigit

/-- `GENESIS_AUDIT_HASH` -/
def genesisAuditHash : Str := List.replicate 64 (ch '0')

theorem isHex64_genesis : isHex64 genesisAuditHash = true := by decide

/-- `AUDIT_CHAIN_SCHEMA` -/
def auditChainSchema : Str := Py.lit "audit-chain.v1"

/-- The document that `audit_event_hash` hashes, with the payload as `to_primitive` made it. -/
def auditDocument (e : EventTexts) (previousHash : Str) (payload : Json) : Json :=
  .arr [.str auditChainSchema, .str e.eventId, .str e.tenantId, .str e.requestId,
    .str e.occurredAt, .str e.action, .str e.resourceType, .str e.resourceId, .str e.actor,
    payload, .str previousHash]

/-- `audit_event_hash`; `none` is a payload with an object that JSON has no form for. -/
def auditEventHash (P : Platform) (e : EventTexts) (payload : Option Json) (previousHash : Str) :
    Except Exn Str := do
  check (isHex64 previousHash = true) (.valueError "previous audit hash is invalid")
  P.digest (← dumps (payload.map (auditDocument e previousHash)))

/-- `AuditChainCheckpoint` -/
structure AuditChainCheckpoint where
  tenantId : Str
  eventCount : Nat
  headEventId : Str
  headHash : Str
  verifiedAt : Str
deriving DecidableEq

/-- `__post_init__`; a count is never negative. -/
def AuditChainCheckpoint.postInit (c : AuditChainCheckpoint) : Except Exn Unit := do
  check (c.tenantId ≠ []) (.valueError "audit checkpoint tenant is required")
  if c.eventCount = 0 then
    check (c.headEventId = []) (.valueError "empty audit checkpoint cannot contain a head event")
    check (c.headHash = genesisAuditHash)
      (.valueError "empty audit checkpoint must use the genesis hash")
  else
    check (c.headEventId ≠ []) (.valueError "audit checkpoint head event is required")
    check (isHex64 c.headHash = true) (.valueError "audit checkpoint head hash is invalid")
  check (c.verifiedAt ≠ []) (.valueError "audit checkpoint verification timestamp is required")

/-- The body of the loop of `verify_audit_chain`, on the previous hash and the last event id. -/
def checkRow (P : Platform) (F : Floats) (tenantId : Str) (seen : Str × Str) (row : EventRow) :
    Except Exn (Str × Str) := do
  let payload ← jsonLoads F row.payloadJson
  check (row.previousHash = seen.1) (.auditIntegrity "audit previous hash linkage is invalid")
  let expected ←
    auditEventHash P { row.toEventTexts with tenantId := tenantId } (some payload) seen.1
  check (row.eventHash = expected) (.auditIntegrity "audit event hash is invalid")
  return (row.eventHash, row.eventId)

/-- The loop of `verify_audit_chain`. -/
def checkRows (P : Platform) (F : Floats) (tenantId : Str) (rows : List EventRow)
    (seen : Str × Str) : Except Exn (Str × Str) :=
  rows.foldlM (checkRow P F tenantId) seen

/-- The comparison of `verify_audit_chain` with the head row. -/
def checkHead (rows : List EventRow) (seen : Str × Str) (head : Option HeadRow) :
    Except Exn Unit :=
  match rows, head with
  | [], some _ => .error (.auditIntegrity "audit chain head exists without events")
  | [], none => .ok ()
  | _ :: _, none => .error (.auditIntegrity "audit chain head does not match events")
  | _ :: _, some head =>
    check (head.eventCount = rows.length ∧ head.headEventId = seen.2 ∧ head.headHash = seen.1)
      (.auditIntegrity "audit chain head does not match events")

/-- The checkpoint of rows that were checked. -/
def checkpointOf (tenantId : Str) (rows : List EventRow) (seen : Str × Str) (now : Str) :
    AuditChainCheckpoint :=
  { tenantId := tenantId, eventCount := rows.length, headEventId := seen.2, headHash := seen.1
    verifiedAt := now }

/-- `verify_audit_chain` on the rows and the head row it has read. -/
def verifyRead (P : Platform) (F : Floats) (tenantId : Str) (rows : List EventRow)
    (head : Option HeadRow) (now : Str) : Except Exn AuditChainCheckpoint := do
  requireNonEmpty tenantId "tenant_id"
  let seen ← checkRows P F tenantId rows (genesisAuditHash, [])
  checkHead rows seen head
  let checkpoint := checkpointOf tenantId rows seen now
  checkpoint.postInit
  return checkpoint

variable {P : Platform} {F : Floats} {tenantId : Str}

/-- The stored hash of the row is the hash of its fields. -/
def Sealed (P : Platform) (F : Floats) (tenantId : Str) (row : EventRow) : Prop :=
  ∃ payload, jsonLoads F row.payloadJson = .ok payload ∧
    auditEventHash P { row.toEventTexts with tenantId := tenantId } (some payload)
      row.previousHash = .ok row.eventHash

/-- The id of the last row, or what was seen before. -/
def lastId (rows : List EventRow) (before : Str) : Str :=
  (rows.getLast?.map (·.eventId)).getD before

@[simp] theorem lastId_nil (before : Str) : lastId [] before = before := rfl

theorem lastId_cons (row : EventRow) (rows : List EventRow) (before : Str) :
    lastId (row :: rows) before = lastId rows row.eventId := by
  cases rows with
  | nil => rfl
  | cons r rs => simp [lastId, List.getLast?_eq_some_getLast]

theorem checkRow_ok {seen seen' : Str × Str} {row : EventRow} :
    checkRow P F tenantId seen row = .ok seen' ↔
      row.previousHash = seen.1 ∧ Sealed P F tenantId row ∧ seen' = (row.eventHash, row.eventId) := by
  constructor
  · intro h
    obtain ⟨payload, hpayload, h⟩ := exceptBind_ok h
    obtain ⟨_, hprev, h⟩ := exceptBind_ok h
    rw [check_ok] at hprev
    obtain ⟨expected, hexpected, h⟩ := exceptBind_ok h
    obtain ⟨_, hhash, h⟩ := exceptBind_ok h
    rw [check_ok] at hhash
    cases h
    refine ⟨hprev, ⟨payload, hpayload, ?_⟩, rfl⟩
    rw [hprev, hexpected, hhash]
  · rintro ⟨hprev, ⟨payload, hpayload, hhash⟩, rfl⟩
    rw [checkRow, hpayload, ← hprev]
    show (check _ _ >>= fun _ => _) = _
    rw [(check_ok (u := ())).2 rfl]
    show (auditEventHash _ _ _ _ >>= fun _ => _) = _
    rw [hhash]
    show (check _ _ >>= fun _ => _) = _
    rw [(check_ok (u := ())).2 rfl]
    rfl

/-- Rows verify exactly when they are sealed and linked. -/
theorem checkRows_ok {rows : List EventRow} {seen seen' : Str × Str} :
    checkRows P F tenantId rows seen = .ok seen' ↔
      Linked EventRow.previousHash EventRow.eventHash seen.1 rows seen'.1 ∧
        (∀ row ∈ rows, Sealed P F tenantId row) ∧ seen'.2 = lastId rows seen.2 := by
  induction rows generalizing seen with
  | nil =>
    rw [checkRows, List.foldlM_nil, linked_nil]
    constructor
    · intro h
      cases h
      exact ⟨rfl, nofun, rfl⟩
    · rintro ⟨h1, -, h2⟩
      exact congrArg Except.ok (Prod.ext h1 h2.symm)
  | cons row rows ih =>
    rw [checkRows, List.foldlM_cons, linked_cons, List.forall_mem_cons, lastId_cons]
    constructor
    · intro h
      obtain ⟨next, hrow, hrows⟩ := exceptBind_ok h
      obtain ⟨hprev, hseal, rfl⟩ := checkRow_ok.1 hrow
      obtain ⟨hlinked, hsealed, hid⟩ := ih.1 hrows
      exact ⟨⟨hprev.symm, hlinked⟩, ⟨hseal, hsealed⟩, hid⟩
    · rintro ⟨⟨hprev, hlinked⟩, ⟨hseal, hsealed⟩, hid⟩
      rw [checkRow_ok.2 ⟨hprev.symm, hseal, rfl⟩]
      exact ih.2 ⟨hlinked, hsealed, hid⟩

end Ledger

end AgencyRuntime
