import AgencyRuntime.Ledger.Startup
import AgencyRuntime.Python.Datetime
import AgencyRuntime.Tables.Dictionary

/-!
# The verifiers of restores and migrations

`_verify_audit_rows` (manage-runtime-backup.py) and the part of `migrate_audit`
(migrate-sqlite-to-postgresql.py) that verifies go through all events of a database once, by tenant,
and keep what they have seen of each (`PassedBy`); then they compare the heads. Both accept exactly
the databases in which the rows of every tenant are `Chained` to its head.
-/

namespace AgencyRuntime

open Effects Tables Chains Py

namespace Ledger

/-! ## The two scripts -/

section
variable (P : Platform) (F : Floats)

/-- `_audit_event_hash` (manage-runtime-backup.py) -/
def restoredEventHash (row : EventRow) (previousHash : Str) : Except Exn Str := do
  let payload ← jsonLoads F row.payloadJson
  match payload with
  | .obj _ => P.digest (← canonicalJson (auditDocument row.toEventTexts previousHash payload))
  | _ => .error (.backup "restored audit payload is not a JSON object")

/-- What the passes keep when they have gone through a row with this hash. -/
def PassedBy.after (seen : PassedBy) (row : EventRow) (eventHash : Str) : PassedBy :=
  setMember seen (row.tenantId,
    ⟨eventHash, (seen.of row.tenantId).eventCount + 1, row.eventId⟩)

/-- The body of the loop of `_verify_audit_rows`. -/
def restoreRow (seen : PassedBy) (row : EventRow) : Except Exn PassedBy := do
  let expectedPrevious := (seen.of row.tenantId).previousHash
  check (row.previousHash = expectedPrevious)
    (.backup "restored SQLite audit previous hash is invalid")
  let expectedEvent ← restoredEventHash P F row expectedPrevious
  check (row.eventHash = expectedEvent) (.backup "restored SQLite audit event hash is invalid")
  return seen.after row expectedEvent

/-- The comparison with the heads: the tenants are the same, and each head counts the events of its
tenant and names the last one. -/
def compareHeads (tenantSet invalid : Exn) (heads : List HeadRow) (seen : PassedBy) :
    Except Exn Unit := do
  check ((∀ head ∈ heads, (seen.lookup head.tenantId).isSome = true) ∧
    ∀ entry ∈ seen, (heads.find? (·.tenantId == entry.1)).isSome = true) tenantSet
  check (∀ entry ∈ seen, heads.find? (·.tenantId == entry.1) = some (entry.2.head entry.1)) invalid

/-- `_verify_audit_rows` of a SQLite database -/
def verifyAuditRows (events : List EventRow) (heads : List HeadRow) : Except Exn Nat := do
  let seen ← events.foldlM (restoreRow P F) []
  compareHeads (.backup "restored SQLite audit head tenant set is invalid")
    (.backup "restored SQLite audit chain head is invalid") heads seen
  return seen.length

/-- `_datetime(text).isoformat()` (postgres.py), of a text that `isoformat` wrote. -/
def datetimeText (text : Str) : Except Exn Str :=
  ((Datetime.fromisoformat text).map (·.isoformat)).elim
    (.error (.valueError "Invalid isoformat string")) .ok

/-- `parsed_json(value, expected=dict)` -/
def parsedObject (text : Str) : Except Exn Json := do
  let parsed ← jsonLoads F text
  match parsed with
  | .obj _ => .ok parsed
  | _ => .error (.valueError "expected dict JSON")

/-- The body of the loop of `migrate_audit`. -/
def migrateRow (seen : PassedBy) (row : EventRow) : Except Exn PassedBy := do
  let previousHash := (seen.of row.tenantId).previousHash
  let payload ← parsedObject F row.payloadJson
  let occurredText ← datetimeText row.occurredAt
  let eventHash ←
    auditEventHash P { row.toEventTexts with occurredAt := occurredText } (some payload) previousHash
  check (row.previousHash = [] ∨ row.previousHash = previousHash)
    (.runtimeError "SQLite audit previous hash failed migration verification")
  check (row.eventHash = [] ∨ row.eventHash = eventHash)
    (.runtimeError "SQLite audit event hash failed migration verification")
  return seen.after row eventHash

/-- What `migrate_audit` verifies before it writes, of a database with chain heads. -/
def migrationCheck (events : List EventRow) (heads : List HeadRow) : Except Exn Unit := do
  let seen ← events.foldlM (migrateRow P F) []
  compareHeads (.runtimeError "SQLite audit chain head tenant set failed migration verification")
    (.runtimeError "SQLite audit chain head failed migration verification") heads seen

end

variable {P : Platform} {F : Floats}

/-! ## One pass -/

/-- The row is sealed, and names the hash that was seen last of its tenant. -/
structure Admits (P : Platform) (F : Floats) (seen : PassedBy) (row : EventRow) : Prop where
  linked : row.previousHash = (seen.of row.tenantId).previousHash
  sealing : Sealed P F row.tenantId row

/-- Every hash that was seen is a digest or the genesis hash. -/
def PassedBy.Hex (seen : PassedBy) : Prop := ∀ t, isHex64 (seen.of t).previousHash = true

theorem PassedBy.hex_nil : PassedBy.Hex [] := fun _ => isHex64_genesis

theorem Admits.hex {seen : PassedBy} {row : EventRow} (h : Admits P F seen row)
    (hsha : ∀ b, isHex64 (P.sha256 b) = true) (hseen : seen.Hex) :
    (seen.after row row.eventHash).Hex := by
  intro t
  rw [PassedBy.after, PassedBy.of_setMember]
  split
  · exact h.sealing.isHex64 hsha
  · exact hseen t

/-- What the passes keep when they have gone through the rows. -/
def PassedBy.afterAll (seen : PassedBy) (rows : List EventRow) : PassedBy :=
  rows.foldl (fun s r => s.after r r.eventHash) seen

/-- What a pass that has gone through the rows keeps of them. -/
structure Counts (rows : List EventRow) (seen seen' : PassedBy) : Prop where
  count : ∀ t, (seen'.of t).eventCount = (seen.of t).eventCount + (rowsOf t rows).length
  last : ∀ t, (seen'.of t).headEventId = lastId (rowsOf t rows) (seen.of t).headEventId
  known : ∀ t, (seen'.lookup t).isSome = ((seen.lookup t).isSome || rows.any (·.tenantId == t))
  names : (seen.map Prod.fst).Nodup → (seen'.map Prod.fst).Nodup
  hash : ∀ t last, Linked EventRow.previousHash EventRow.eventHash (seen.of t).previousHash
    (rowsOf t rows) last → last = (seen'.of t).previousHash

theorem rowsOf_cons (t : Str) (row : EventRow) (rows : List EventRow) :
    rowsOf t (row :: rows) = if row.tenantId = t then row :: rowsOf t rows else rowsOf t rows := by
  by_cases ht : row.tenantId = t <;> simp [rowsOf, ht]

theorem counts_afterAll (rows : List EventRow) (seen : PassedBy) :
    Counts rows seen (seen.afterAll rows) := by
  induction rows generalizing seen with
  | nil =>
    exact ⟨fun _ => rfl, fun _ => rfl, fun _ => by simp [PassedBy.afterAll], id,
      fun _ _ h => (linked_nil.1 h).symm⟩
  | cons row rows ih =>
    obtain ⟨hcount, hlast, hknown, hnames, hhash⟩ := ih (seen.after row row.eventHash)
    rw [PassedBy.afterAll, List.foldl_cons, ← PassedBy.afterAll]
    refine ⟨fun t => ?_, fun t => ?_, fun t => ?_, fun h => hnames (setMember_spec _ h).1,
      fun t last h => hhash t last ?_⟩
    · rw [hcount, PassedBy.after, PassedBy.of_setMember, rowsOf_cons]
      by_cases ht : row.tenantId = t
      · rw [if_pos ht, if_pos ht.symm, List.length_cons, ht]
        exact Nat.add_right_comm _ _ _
      · rw [if_neg ht, if_neg (Ne.symm ht)]
    · rw [hlast, PassedBy.after, PassedBy.of_setMember, rowsOf_cons]
      by_cases ht : row.tenantId = t
      · rw [if_pos ht, if_pos ht.symm, lastId_cons]
      · rw [if_neg ht, if_neg (Ne.symm ht)]
    · rw [hknown, PassedBy.after, lookup_setMember, List.any_cons]
      by_cases ht : row.tenantId = t
      · simp [ht]
      · rw [if_neg (Ne.symm ht), beq_false_of_ne ht, Bool.false_or]
    · rw [rowsOf_cons] at h
      rw [PassedBy.after, PassedBy.of_setMember]
      by_cases ht : row.tenantId = t
      · rw [if_pos ht, linked_cons] at h
        rw [if_pos ht.symm]
        exact h.2
      · rw [if_neg ht] at h
        rwa [if_neg (Ne.symm ht)]

/-- A pass whose turns admit rows goes through exactly the rows that are sealed and, tenant by
tenant, linked from what was seen. -/
theorem foldlM_pass {step : PassedBy → EventRow → Except Exn PassedBy} {rows : List EventRow}
    {seen seen' : PassedBy} (hsha : ∀ b, isHex64 (P.sha256 b) = true) (hseen : seen.Hex)
    (hstep : ∀ row ∈ rows, ∀ seen seen', PassedBy.Hex seen →
      (step seen row = .ok seen' ↔ Admits P F seen row ∧ seen' = seen.after row row.eventHash)) :
    rows.foldlM step seen = .ok seen' ↔
      (∀ t, Linked EventRow.previousHash EventRow.eventHash (seen.of t).previousHash
        (rowsOf t rows) (seen'.of t).previousHash) ∧
      (∀ row ∈ rows, Sealed P F row.tenantId row) ∧
      seen' = seen.afterAll rows := by
  induction rows generalizing seen with
  | nil =>
    rw [List.foldlM_nil]
    constructor
    · intro h
      cases h
      exact ⟨fun t => .nil _, nofun, rfl⟩
    · rintro ⟨-, -, rfl⟩
      rfl
  | cons row rows ih =>
    rw [List.forall_mem_cons] at hstep
    have hlink (t : Str) (last : Str) :
        Linked EventRow.previousHash EventRow.eventHash (seen.of t).previousHash
          (rowsOf t (row :: rows)) last ↔
        (row.tenantId = t → row.previousHash = (seen.of t).previousHash) ∧
          Linked EventRow.previousHash EventRow.eventHash
            ((seen.after row row.eventHash).of t).previousHash (rowsOf t rows) last := by
      rw [PassedBy.after, PassedBy.of_setMember, rowsOf_cons]
      by_cases ht : row.tenantId = t
      · rw [if_pos ht, if_pos ht.symm, linked_cons, eq_comm]
        simp [ht]
      · rw [if_neg ht, if_neg (Ne.symm ht)]
        simp [ht]
    rw [List.foldlM_cons, exceptBind_ok_iff, PassedBy.afterAll, List.foldl_cons, List.forall_mem_cons,
      ← PassedBy.afterAll]
    constructor
    · rintro ⟨middle, hrow, hrows⟩
      obtain ⟨hadmits, rfl⟩ := (hstep.1 seen middle hseen).1 hrow
      obtain ⟨hlinked, hsealed, heq⟩ := (ih (hadmits.hex hsha hseen) hstep.2).1 hrows
      refine ⟨fun t => (hlink t _).2 ⟨?_, hlinked t⟩, ⟨hadmits.sealing, hsealed⟩, heq⟩
      rintro rfl
      exact hadmits.linked
    · rintro ⟨hlinked, ⟨hseal, hsealed⟩, heq⟩
      have hadmits : Admits P F seen row := ⟨((hlink _ _).1 (hlinked row.tenantId)).1 rfl, hseal⟩
      refine ⟨_, (hstep.1 seen _ hseen).2 ⟨hadmits, rfl⟩, ?_⟩
      exact (ih (hadmits.hex hsha hseen) hstep.2).2
        ⟨fun t => ((hlink t _).1 (hlinked t)).2, hsealed, heq⟩

/-! ## The turns -/

/-- The rows of a ledger as the runtime writes it: the payload is a JSON object, the time is the
`isoformat` of a UTC time and both hashes are filled. -/
structure Written (F : Floats) (row : EventRow) : Prop where
  payload : ∃ members, jsonLoads F row.payloadJson = .ok (.obj members)
  occurredAt : ∃ t : Datetime, row.occurredAt = t.isoformat
  hashed : row.previousHash ≠ [] ∧ row.eventHash ≠ []

/-- A row with this payload is sealed where its hash is that of the payload. -/
theorem sealed_iff {row : EventRow} {payload : Json} (h : jsonLoads F row.payloadJson = .ok payload) :
    Sealed P F row.tenantId row ↔
      auditEventHash P row.toEventTexts (some payload) row.previousHash = .ok row.eventHash := by
  constructor
  · rintro ⟨payload', hpayload, hhash⟩
    obtain rfl : payload = payload' := Except.ok.inj (h.symm.trans hpayload)
    exact hhash
  · intro hhash
    exact ⟨payload, h, hhash⟩

/-- The two encoders of the document agree. -/
theorem restoredEventHash_eq {row : EventRow} {members : List (Str × Json)} {previousHash : Str}
    (h : jsonLoads F row.payloadJson = .ok (.obj members)) (hhex : isHex64 previousHash = true) :
    restoredEventHash P F row previousHash =
      auditEventHash P row.toEventTexts (some (.obj members)) previousHash := by
  rw [restoredEventHash, h, auditEventHash, (check_ok (u := ())).2 hhex]
  rfl

/-- A turn of the restore check admits the row. -/
theorem restoreRow_ok {seen seen' : PassedBy} {row : EventRow} (hrow : Written F row)
    (hseen : seen.Hex) :
    restoreRow P F seen row = .ok seen' ↔
      Admits P F seen row ∧ seen' = seen.after row row.eventHash := by
  obtain ⟨members, hpayload⟩ := hrow.payload
  constructor
  · intro h
    obtain ⟨_, hprevious, h⟩ := exceptBind_ok h
    obtain ⟨expected, hexpected, h⟩ := exceptBind_ok h
    obtain ⟨_, hhash, h⟩ := exceptBind_ok h
    rw [check_ok] at hprevious hhash
    rw [restoredEventHash_eq hpayload (hseen _), ← hhash, ← hprevious] at hexpected
    cases h
    exact ⟨⟨hprevious, (sealed_iff hpayload).2 hexpected⟩, by rw [hhash]⟩
  · rintro ⟨⟨hprevious, hsealed⟩, rfl⟩
    rw [sealed_iff hpayload, hprevious, ← restoredEventHash_eq hpayload (hseen _)] at hsealed
    rw [restoreRow, (check_ok (u := ())).2 hprevious]
    show (restoredEventHash _ _ _ _ >>= fun _ => _) = _
    rw [hsealed]
    show (check _ _ >>= fun _ => _) = _
    rw [(check_ok (u := ())).2 rfl]
    rfl

theorem datetimeText_isoformat (t : Datetime) : datetimeText t.isoformat = .ok t.isoformat := by
  rw [datetimeText, Datetime.fromisoformat_isoformat]
  rfl

/-- A turn of the migration check admits the row. -/
theorem migrateRow_ok {seen seen' : PassedBy} {row : EventRow} (hrow : Written F row) :
    migrateRow P F seen row = .ok seen' ↔
      Admits P F seen row ∧ seen' = seen.after row row.eventHash := by
  obtain ⟨members, hpayload⟩ := hrow.payload
  obtain ⟨t, htime⟩ := hrow.occurredAt
  have hobject : parsedObject F row.payloadJson = .ok (.obj members) := by
    rw [parsedObject, hpayload]
    rfl
  have htext : datetimeText row.occurredAt = .ok row.occurredAt := by
    rw [htime]
    exact datetimeText_isoformat t
  have hstep : migrateRow P F seen row =
      (auditEventHash P row.toEventTexts (some (.obj members)) (seen.of row.tenantId).previousHash
        >>= fun eventHash => do
          check (row.previousHash = [] ∨ row.previousHash = (seen.of row.tenantId).previousHash)
            (.runtimeError "SQLite audit previous hash failed migration verification")
          check (row.eventHash = [] ∨ row.eventHash = eventHash)
            (.runtimeError "SQLite audit event hash failed migration verification")
          return seen.after row eventHash) := by
    rw [migrateRow, hobject]
    show (datetimeText _ >>= fun _ => _) = _
    rw [htext]
    rfl
  rw [hstep]
  constructor
  · intro h
    obtain ⟨expected, hexpected, h⟩ := exceptBind_ok h
    obtain ⟨_, hprevious, h⟩ := exceptBind_ok h
    obtain ⟨_, hhash, h⟩ := exceptBind_ok h
    rw [check_ok] at hprevious hhash
    have hprevious := hprevious.resolve_left hrow.hashed.1
    have hhash := hhash.resolve_left hrow.hashed.2
    rw [← hprevious, ← hhash] at hexpected
    cases h
    exact ⟨⟨hprevious, (sealed_iff hpayload).2 hexpected⟩, by rw [hhash]⟩
  · rintro ⟨⟨hprevious, hsealed⟩, rfl⟩
    rw [sealed_iff hpayload, hprevious] at hsealed
    rw [hsealed]
    show (check _ _ >>= fun _ => _) = _
    rw [(check_ok (u := ())).2 (.inr hprevious)]
    show (check _ _ >>= fun _ => _) = _
    rw [(check_ok (u := ())).2 (.inr rfl)]
    rfl

/-! ## All turns and the heads -/

theorem compareHeads_ok {tenantSet invalid : Exn} {heads : List HeadRow} {seen : PassedBy} {u : Unit} :
    compareHeads tenantSet invalid heads seen = .ok u ↔
      (∀ head ∈ heads, (seen.lookup head.tenantId).isSome = true) ∧
        ∀ entry ∈ seen, heads.find? (·.tenantId == entry.1) = some (entry.2.head entry.1) := by
  constructor
  · intro h
    obtain ⟨_, htenants, h⟩ := exceptBind_ok h
    rw [check_ok] at htenants h
    exact ⟨htenants.1, h⟩
  · rintro ⟨hknown, hheads⟩
    rw [compareHeads, (check_ok (u := ())).2 ⟨hknown, fun entry he => by rw [hheads entry he]; rfl⟩]
    exact check_ok.2 hheads

/-- A pass over all rows whose turns admit them accepts the heads exactly when every ledger of the
database is chained. -/
theorem pass_accepts_iff {db : RunDatabase} {step : PassedBy → EventRow → Except Exn PassedBy}
    {tenantSet invalid : Exn} (hsha : ∀ b, isHex64 (P.sha256 b) = true)
    (hstep : ∀ row ∈ db.events.rows, ∀ seen seen', PassedBy.Hex seen →
      (step seen row = .ok seen' ↔ Admits P F seen row ∧ seen' = seen.after row row.eventHash)) :
    (∃ seen, (byTenant db.events.rows).foldlM step [] = .ok seen ∧
      compareHeads tenantSet invalid db.heads.rows seen = .ok ()) ↔
      ∀ t, Chained P F t (eventsOf db t) (headOf db.heads t) := by
  have hmem (r : EventRow) : r ∈ byTenant db.events.rows ↔ r ∈ db.events.rows :=
    (byTenant_perm _).mem_iff
  have hof (t : Str) : rowsOf t (byTenant db.events.rows) = eventsOf db t := rowsOf_byTenant t _
  have hpass (seen : PassedBy) := @foldlM_pass _ _ _ (byTenant db.events.rows) [] seen hsha
    PassedBy.hex_nil fun row hrow => hstep row ((hmem row).1 hrow)
  have hcounts := counts_afterAll (byTenant db.events.rows) []
  generalize PassedBy.afterAll [] (byTenant db.events.rows) = seen at hpass hcounts
  have hknown (t : Str) : (seen.lookup t).isSome = true ↔ eventsOf db t ≠ [] := by
    rw [hcounts.known, ← hof, rowsOf, Ne, List.filter_eq_nil_iff]
    simp
  have hentry (e : Str × Passed) (he : e ∈ seen) : seen.of e.1 = e.2 := by
    rw [PassedBy.of, (lookup_eq_some (hcounts.names List.nodup_nil)).2 he, Option.getD_some]
  have hhead (t : Str) : (seen.of t).head t =
      ⟨t, (eventsOf db t).length, lastId (eventsOf db t) [], (seen.of t).previousHash⟩ := by
    rw [Passed.head, hcounts.count, hcounts.last, hof]
    congr 1
    exact Nat.zero_add _
  constructor
  · rintro ⟨seen', hrows, hheads⟩
    obtain ⟨hlinked, hsealed, rfl⟩ := (hpass seen').1 hrows
    rw [compareHeads_ok] at hheads
    intro t
    have hsealed : ∀ row ∈ eventsOf db t, Sealed P F t row := by
      intro row hrow
      obtain ⟨hrow, ht⟩ := List.mem_filter.1 hrow
      rw [beq_iff_eq] at ht
      exact ht ▸ hsealed row ((hmem row).2 hrow)
    have hlinked := hlinked t
    rw [hof] at hlinked
    by_cases hempty : eventsOf db t = []
    · have hnone : headOf db.heads t = none := by
        rw [headOf, List.find?_eq_none]
        intro head hmem heq
        rw [beq_iff_eq] at heq
        exact (hknown t).1 (heq ▸ hheads.1 head hmem) hempty
      rw [hempty, hnone]
      exact ⟨.nil _, by rintro _ ⟨⟩, rfl⟩
    · obtain ⟨passed, hpassed⟩ := Option.isSome_iff_exists.1 ((hknown t).2 hempty)
      have hstored := hheads.2 _ (mem_of_lookup hpassed)
      rw [← hentry _ (mem_of_lookup hpassed), hhead] at hstored
      rw [show headOf db.heads t = _ from hstored]
      refine ⟨hlinked, hsealed, ?_⟩
      obtain ⟨row, hlast⟩ : ∃ row, (eventsOf db t).getLast? = some row :=
        Option.isSome_iff_exists.1 (by simp [hempty])
      rw [hlast, lastId_of_getLast? hlast]
      rfl
  · intro hchained
    have hlinked (t : Str) : Linked EventRow.previousHash EventRow.eventHash genesisAuditHash
        (eventsOf db t) (seen.of t).previousHash := by
      have h := (hchained t).linked
      rw [← hof] at h ⊢
      rw [← hcounts.hash t _ h]
      exact h
    refine ⟨seen, (hpass seen).2 ⟨fun t => ?_, fun row hrow => ?_, rfl⟩,
      compareHeads_ok.2 ⟨fun head hhead => ?_, fun e he => ?_⟩⟩
    · rw [hof]
      exact hlinked t
    · exact (hchained row.tenantId).sealing row
        (List.mem_filter.2 ⟨(hmem row).1 hrow, beq_self_eq_true _⟩)
    · obtain ⟨stored, hstored⟩ : ∃ stored, headOf db.heads head.tenantId = some stored :=
        Option.isSome_iff_exists.1 (List.find?_isSome.2 ⟨head, hhead, beq_self_eq_true _⟩)
      rw [hknown]
      intro hempty
      have hc := (hchained head.tenantId).counted
      rw [hstored, hempty] at hc
      cases hc
    · have hne : eventsOf db e.1 ≠ [] :=
        (hknown e.1).1 (List.lookup_isSome_iff.2 ⟨e, he, beq_self_eq_true _⟩)
      obtain ⟨row, hlast⟩ : ∃ row, (eventsOf db e.1).getLast? = some row :=
        Option.isSome_iff_exists.1 (by simp [hne])
      obtain ⟨stored, hstored, -⟩ := Option.map_eq_some_iff.1 ((hchained e.1).counted.trans
        (by rw [hlast]; rfl))
      have hchain := hchained e.1
      rw [hstored] at hchain
      rw [← hentry e he, hhead, ← hchain.head_eq (headOf_tenant hstored) (hlinked e.1)]
      exact hstored

/-! ## The three verifiers -/

/-- `verify_sqlite_audit_chains` on the rows of a database that has all the columns. -/
def verifySqliteAuditChains (P : Platform) (F : Floats) (db : RunDatabase) : Except Exn Nat :=
  verifyAuditRows P F (byTenant db.events.rows) db.heads.rows

/-- What `migrate_audit` verifies of a database that has all the columns. -/
def verifyMigration (P : Platform) (F : Floats) (db : RunDatabase) : Except Exn Unit :=
  migrationCheck P F (byTenant db.events.rows) db.heads.rows

/-- The tenant has events or a head. -/
def RunDatabase.Holds (db : RunDatabase) (tenantId : Str) : Prop :=
  eventsOf db tenantId ≠ [] ∨ headOf db.heads tenantId ≠ none

theorem verifyAuditRows_ok {events : List EventRow} {heads : List HeadRow} :
    (∃ n, verifyAuditRows P F events heads = .ok n) ↔
      ∃ seen, events.foldlM (restoreRow P F) [] = .ok seen ∧
        compareHeads (.backup "restored SQLite audit head tenant set is invalid")
          (.backup "restored SQLite audit chain head is invalid") heads seen = .ok () := by
  constructor
  · rintro ⟨n, h⟩
    obtain ⟨seen, hrows, h⟩ := exceptBind_ok h
    obtain ⟨_, hheads, -⟩ := exceptBind_ok h
    exact ⟨seen, hrows, hheads⟩
  · rintro ⟨seen, hrows, hheads⟩
    refine ⟨seen.length, ?_⟩
    rw [verifyAuditRows, hrows]
    show (compareHeads _ _ _ _ >>= fun _ => _) = _
    rw [hheads]
    rfl

theorem migrationCheck_ok {events : List EventRow} {heads : List HeadRow} :
    migrationCheck P F events heads = .ok () ↔
      ∃ seen, events.foldlM (migrateRow P F) [] = .ok seen ∧
        compareHeads (.runtimeError "SQLite audit chain head tenant set failed migration verification")
          (.runtimeError "SQLite audit chain head failed migration verification") heads seen =
            .ok () := by
  rw [migrationCheck, exceptBind_ok_iff]

/-- A tenant whose ledger verifies has a name that can be a parameter. -/
theorem Verifies.encodable {db : RunDatabase} {oracle : Oracle outside}
    (h : Verifies P F db tenantId oracle) : Py.encodable tenantId = true := by
  by_contra hnot
  have hbind : bindTexts [tenantId] = .error .unicodeEncodeError := by simp [bindTexts, hnot]
  have hends : (verifyAuditChain P tenantId).Ends (Section.run P (F := F)) oracle db
      fun x _ => ∃ e, x = .error e := by
    refine Prog.Ends.ofExcept (fun e _ => ⟨e, rfl⟩) fun _ _ => Prog.Ends.call ?_
    simp only [Section.run, hbind]
    exact Prog.Ends.ofExcept (fun e _ => ⟨e, rfl⟩) fun _ h => by cases h
  obtain ⟨c, hc⟩ := h
  obtain ⟨e, he⟩ := hends
  rw [hc] at he
  cases he

/-- The ledgers that hold something verify exactly when all ledgers are chained, where the verifier
can take the tenants' names and the last ids. -/
theorem verifies_all_iff {db : RunDatabase} {oracles : Str → Oracle outside}
    (hsha : ∀ b, isHex64 (P.sha256 b) = true)
    (htenants : ∀ t, db.Holds t → Py.strip t ≠ [])
    (hnamed : ∀ t, eventsOf db t ≠ [] → lastId (eventsOf db t) [] ≠ []) :
    (∀ t, db.Holds t → Verifies P F db t (oracles t)) ↔
      ∀ t, Chained P F t (eventsOf db t) (headOf db.heads t) := by
  constructor
  · intro h t
    by_cases hholds : db.Holds t
    · have hverifies := h t hholds
      exact ((verifies_iff hsha hverifies.encodable).1 hverifies).2.1
    · obtain ⟨hrows, hhead⟩ := not_or.1 hholds
      rw [not_not.1 hrows, not_not.1 hhead]
      exact ⟨.nil _, by rintro _ ⟨⟩, rfl⟩
  · intro h t hholds
    have hrows : eventsOf db t ≠ [] := by
      rcases hholds with hrows | hhead
      · exact hrows
      · intro hempty
        have hc := (h t).counted
        rw [hempty, List.getLast?_nil, Option.map_none, Option.map_eq_none_iff] at hc
        exact hhead hc
    obtain ⟨row, hrow⟩ := List.exists_mem_of_ne_nil _ hrows
    have hencodable := ((h t).sealing row hrow).encodable.1
    exact (verifies_iff hsha hencodable).2 ⟨htenants t hholds, h t, hnamed t⟩

namespace Sample

/-- The ledger of the sample event. -/
def restored : RunDatabase := ledger (row "\x7b\x7d") [head] (List.pairwise_singleton _ _)

/-- The event without an id, with its hashes. -/
def unnamedSealed : EventRow :=
  { unnamed with previousHash := genesisAuditHash, eventHash := unnamedPlatform.sha256 [] }

/-- The ledger of the event without an id. -/
def unnamedRestored : RunDatabase :=
  ledger unnamedSealed [⟨Py.lit "t", 1, [], unnamedPlatform.sha256 []⟩] (List.pairwise_singleton _ _)

theorem instant_isoformat : ∃ t : Datetime, instant = t.isoformat :=
  ⟨⟨63902822400000000, by decide⟩, by decide⟩

theorem restored_written : ∀ row ∈ restored.events.rows, Written floats row := by
  intro r hr
  rw [List.mem_singleton.1 hr]
  exact ⟨⟨[], rfl⟩, instant_isoformat, by decide, by decide⟩

theorem unnamed_written : ∀ row ∈ unnamedRestored.events.rows, Written floats row := by
  intro r hr
  rw [List.mem_singleton.1 hr]
  exact ⟨⟨[], rfl⟩, instant_isoformat, by decide, by decide⟩

/-- A ledger of one event and its head is held by the tenant of both. -/
theorem ledger_holds {row : EventRow} {head : HeadRow} {t : Str}
    (h : (ledger row [head] (List.pairwise_singleton _ _)).Holds t) :
    row.tenantId = t ∨ head.tenantId = t := by
  rcases h with hrows | hhead
  · obtain ⟨r, hr⟩ := List.exists_mem_of_ne_nil _ hrows
    obtain ⟨hr, ht⟩ := List.mem_filter.1 hr
    rw [List.mem_singleton.1 hr, beq_iff_eq] at ht
    exact .inl ht
  · obtain ⟨stored, hstored⟩ := Option.ne_none_iff_exists'.1 hhead
    have ht := headOf_tenant hstored
    rw [List.mem_singleton.1 (List.mem_of_find?_eq_some hstored)] at ht
    exact .inr ht

end Sample

end Ledger

end AgencyRuntime
