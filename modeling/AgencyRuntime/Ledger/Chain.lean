import AgencyRuntime.Ledger.Database

/-!
# What the transactions keep

`Appended` says what `_append_audit_locked` does where it is not interrupted: one sealed event is
linked to the head of its tenant, and the head follows it. `Intact` is the invariant of a tenant's
ledger; intact ledgers are what `verify_audit_chain` accepts (`Intact.verifyRead`), and an appended
event keeps them (`Appended.intact`).
-/

namespace AgencyRuntime

open Tables Chains

namespace Ledger

variable {P : Platform} {F : Floats} {tenantId : Str}

/-! ## Heads -/

/-- The head of a tenant after the upsert of a head. -/
theorem headOf_upsertHead {heads : Table headSchema} {row : HeadRow} (tenantId : Str) :
    headOf (upsertHead row heads) tenantId =
      if row.tenantId = tenantId then some row else headOf heads tenantId := by
  have hclash (r s : HeadRow) : headSchema.clash (headSchema.key r) (headSchema.key s) = true ↔
      r.tenantId = s.tenantId := beq_iff_eq
  unfold headOf upsertHead
  cases hins : heads.insert row with
  | some heads' =>
    obtain ⟨hfresh, hrows⟩ := Table.insert_eq_some.1 hins
    rw [Option.getD_some, hrows, List.find?_append, List.find?_singleton]
    by_cases heq : row.tenantId = tenantId
    · have hnone : heads.rows.find? (·.tenantId == tenantId) = none := by
        rw [List.find?_eq_none]
        intro r hr hrt
        rw [beq_iff_eq] at hrt
        exact absurd ((hclash r row).2 (hrt.trans heq.symm)) (by simp [hfresh r hr])
      simp [hnone, heq]
    · simp [heq]
  | none =>
    have hkey : ((fun r : HeadRow => r.tenantId == tenantId) ∘ fun r =>
        if r.tenantId == row.tenantId then (setHead row).apply r else r) =
        fun r => r.tenantId == tenantId := by
      funext r
      simp only [Function.comp_apply]
      split <;> rfl
    rw [Option.getD_none]
    simp only [Table.modify, List.find?_map, hkey]
    cases hfind : heads.rows.find? (·.tenantId == tenantId) with
    | none =>
      rw [if_neg]
      · rfl
      · intro heq
        rw [List.find?_eq_none] at hfind
        refine Table.insert_eq_none.1 hins fun r hr => Bool.eq_false_iff.2 fun hc => ?_
        exact hfind r hr (beq_iff_eq.2 (((hclash r row).1 hc).trans heq))
    | some s =>
      have hs := List.find?_some hfind
      rw [beq_iff_eq] at hs
      rw [Option.map_some]
      by_cases heq : row.tenantId = tenantId
      · rw [if_pos heq, if_pos (beq_iff_eq.2 (hs.trans heq.symm))]
        simp [setHead, hs, ← heq]
      · rw [if_neg heq, if_neg fun h => heq ((beq_iff_eq.1 h).symm.trans hs)]

/-! ## One appended event -/

/-- The row records the audit event. -/
structure Records (row : EventRow) (tenantId : Str) (audit : AuditDraft F) : Prop where
  tenant : row.tenantId = tenantId
  requestId : row.requestId = audit.requestId
  action : row.action = audit.action
  resourceType : row.resourceType = audit.resourceType
  resourceId : row.resourceId = audit.resourceId
  actor : row.actor = audit.actor
  payload : (Value.dict audit.payload).canonicalJson = .ok row.payloadJson
  eventId : audit.eventId ≠ [] → row.eventId = audit.eventId

/-- One event was appended to the ledger of the tenant, and nothing else changed. -/
structure Appended (P : Platform) (F : Floats) (tenantId : Str) (row : EventRow)
    (db db' : RunDatabase) : Prop where
  events : db'.events.rows = db.events.rows ++ [row]
  heads : db'.heads = upsertHead
    { tenantId := tenantId, eventCount := (headOf db.heads tenantId).elim 0 (·.eventCount) + 1
      headEventId := row.eventId, headHash := row.eventHash } db.heads
  runs : db'.runs = db.runs
  sessions : db'.sessions = db.sessions
  tenant : row.tenantId = tenantId
  linked : row.previousHash = (headOf db.heads tenantId).elim genesisAuditHash (·.headHash)
  sealing : Sealed P F tenantId row
  named : row.eventId ≠ []

/-- The hash of an event does not depend on the order of the members of its payload. -/
theorem auditEventHash_normal {e : EventTexts} {payload : Json} {previousHash : Str}
    (h : payload.WellFormed F) :
    auditEventHash P e (some payload.normal) previousHash =
      auditEventHash P e (some payload) previousHash := by
  have hdoc (j : Json) (hj : j.WellFormed F) :
      (auditDocument e previousHash j).WellFormed F := by
    refine .arr ?_
    simp only [List.mem_cons, List.not_mem_nil, or_false]
    rintro x (rfl | rfl | rfl | rfl | rfl | rfl | rfl | rfl | rfl | rfl | rfl)
    all_goals first | exact hj | exact .str _
  have htext : canonicalText (auditDocument e previousHash payload.normal) =
      canonicalText (auditDocument e previousHash payload) := by
    simp only [auditDocument, canonicalText_arr, List.map_cons, canonicalText_normal h]
  simp only [auditEventHash, Option.map_some, dumps,
    canonicalJson_wellFormed (hdoc _ h.normal), canonicalJson_wellFormed (hdoc _ h), htext]

/-- What `_append_audit_locked` does. -/
theorem appendAuditLocked_does (audit : AuditWrite F) (reading : Reading) :
    (appendAuditLocked P tenantId audit reading).Does fun db _ db' =>
      ∃ row, Records row tenantId audit.toAuditDraft ∧ Appended P F tenantId row db db' := by
  refine Transaction.Does.mono ((Transaction.does_compute _).bind fun payloadJson =>
    (Transaction.does_statement _).bind fun head => (Transaction.does_compute _).bind fun hash =>
      (Transaction.does_statement _).bind fun _ => Transaction.does_statement _) ?_
  rintro db _ db' ⟨payloadJson, _, ⟨hpayload, rfl⟩, head, _, hselect, hash, _, ⟨hhash, rfl⟩, _,
    middle, hinsert, hwrite⟩
  obtain ⟨_, -, hselect⟩ := exceptBind_ok hselect
  obtain ⟨rfl, rfl⟩ := Prod.ext_iff.1 (Except.ok.inj hselect)
  obtain ⟨_, -, hinsert⟩ := exceptBind_ok hinsert
  obtain ⟨_, -, hwrite⟩ := exceptBind_ok hwrite
  obtain ⟨_, -, hwrite⟩ := exceptBind_ok hwrite
  obtain ⟨j, hj, hwell, htext⟩ := dumps_ok hpayload
  split at hinsert
  · next events hevents =>
    cases hinsert
    cases hwrite
    refine ⟨_, ⟨rfl, rfl, rfl, rfl, rfl, rfl, ?_, fun h => if_neg h⟩,
      (Table.insert_eq_some.1 hevents).2, rfl, rfl, rfl, rfl, rfl, ⟨j.normal, ?_, ?_⟩, ?_⟩
    · exact hpayload
    · rw [← htext]
      exact jsonLoads_canonicalText hwell
    · rw [auditEventHash_normal hwell, ← hj]
      exact hhash
    · show (if audit.eventId = [] then Py.lit "audit-" ++ reading.uuid else audit.eventId) ≠ []
      split
      · simp [Py.lit]
      · assumption
  · cases hinsert

/-- What an operation's audit event does. -/
theorem appendOptional_does (audit : Option (AuditWrite F)) (reading : Reading) :
    (appendOptional P tenantId audit reading).Does fun db _ db' =>
      audit.elim (db' = db) fun audit =>
        ∃ row, Records row tenantId audit.toAuditDraft ∧ Appended P F tenantId row db db' := by
  cases audit with
  | none => exact (Transaction.does_pure ()).mono fun _ _ _ h => h.2
  | some audit => exact appendAuditLocked_does audit reading

/-! ## Intact ledgers -/

/-- The ledger of a tenant: its events form a chain from the genesis hash to the head, each is
sealed and has an id, and the head counts and names the last one. -/
structure Intact (P : Platform) (F : Floats) (tenantId : Str) (rows : List EventRow)
    (head : Option HeadRow) : Prop where
  linked : Linked EventRow.previousHash EventRow.eventHash genesisAuditHash rows
    (head.elim genesisAuditHash (·.headHash))
  sealing : ∀ row ∈ rows, Sealed P F tenantId row
  named : ∀ row ∈ rows, row.eventId ≠ []
  counted : head.map (fun h => (h.eventCount, h.headEventId)) =
    rows.getLast?.map fun r => (rows.length, r.eventId)

theorem intact_nil : Intact P F tenantId [] none := ⟨.nil _, nofun, nofun, rfl⟩

/-- The head of an intact ledger counts its events. -/
theorem Intact.count {rows : List EventRow} {head : Option HeadRow}
    (h : Intact P F tenantId rows head) : head.elim 0 (·.eventCount) = rows.length := by
  have hc := h.counted
  cases head with
  | none =>
    rw [Option.map_none, eq_comm, Option.map_eq_none_iff, List.getLast?_eq_none_iff] at hc
    rw [hc]
    rfl
  | some head =>
    cases hlast : rows.getLast? with
    | none => rw [hlast] at hc; cases hc
    | some r =>
      rw [hlast] at hc
      exact (Prod.ext_iff.1 (Option.some.inj hc)).1

theorem eventsOf_append {db db' : RunDatabase} {row : EventRow} (tenant : Str)
    (h : db'.events.rows = db.events.rows ++ [row]) :
    eventsOf db' tenant =
      if row.tenantId = tenant then eventsOf db tenant ++ [row] else eventsOf db tenant := by
  rw [eventsOf, h, List.filter_append]
  split
  · next heq => simp [heq, eventsOf]
  · next hne => simp [hne, eventsOf]

/-- Every ledger of the database is intact. -/
def RunDatabase.Intact (P : Platform) (F : Floats) (db : RunDatabase) : Prop :=
  ∀ tenantId, Ledger.Intact P F tenantId (eventsOf db tenantId) (headOf db.heads tenantId)

theorem RunDatabase.intact_empty : RunDatabase.empty.Intact P F := fun _ => intact_nil

/-- The ledgers stay intact where neither events nor heads change. -/
theorem RunDatabase.Intact.of_eq {db db' : RunDatabase} (h : db.Intact P F)
    (hevents : db'.events = db.events) (hheads : db'.heads = db.heads) : db'.Intact P F := by
  intro tenant
  rw [eventsOf, hevents, hheads]
  exact h tenant

/-- An appended event keeps every ledger intact. -/
theorem Appended.intact {db db' : RunDatabase} {row : EventRow}
    (h : Appended P F tenantId row db db') (hdb : db.Intact P F) : db'.Intact P F := by
  intro tenant
  rw [eventsOf_append tenant h.events, h.heads, headOf_upsertHead, h.tenant]
  split
  · next heq =>
    obtain rfl : tenantId = tenant := heq
    have hold := hdb tenantId
    refine ⟨linked_snoc.2 ⟨?_, rfl⟩, ?_, ?_, ?_⟩
    · rw [h.linked]
      exact hold.linked
    · rw [List.forall_mem_append]
      exact ⟨hold.sealing, by simpa using h.sealing⟩
    · rw [List.forall_mem_append]
      exact ⟨hold.named, by simpa using h.named⟩
    · simp [hold.count]
  · exact hdb tenant

/-- The stored hash of a sealed row is a digest. -/
theorem Sealed.isHex64 {row : EventRow} (h : Sealed P F tenantId row)
    (hsha : ∀ b, isHex64 (P.sha256 b) = true) : isHex64 row.eventHash = true := by
  obtain ⟨_, -, hhash⟩ := h
  obtain ⟨_, -, hhash⟩ := exceptBind_ok hhash
  obtain ⟨_, -, hhash⟩ := exceptBind_ok hhash
  obtain ⟨_, -, hhash⟩ := exceptBind_ok hhash
  rw [← Except.ok.inj hhash]
  exact hsha _

/-! ## Chained ledgers -/

/-- The rows of a tenant form a chain from the genesis hash to its head, which counts them and names
the last one. -/
structure Chained (P : Platform) (F : Floats) (tenantId : Str) (rows : List EventRow)
    (head : Option HeadRow) : Prop where
  linked : Linked EventRow.previousHash EventRow.eventHash genesisAuditHash rows
    (head.elim genesisAuditHash (·.headHash))
  sealing : ∀ row ∈ rows, Sealed P F tenantId row
  counted : head.map (fun h => (h.eventCount, h.headEventId)) =
    rows.getLast?.map fun r => (rows.length, r.eventId)

theorem Intact.chained {rows : List EventRow} {head : Option HeadRow}
    (h : Intact P F tenantId rows head) : Chained P F tenantId rows head :=
  ⟨h.linked, h.sealing, h.counted⟩

theorem lastId_of_getLast? {rows : List EventRow} {row : EventRow} (h : rows.getLast? = some row)
    (before : Str) : lastId rows before = row.eventId := by
  simp [lastId, h]

/-- The last event of an intact ledger has an id. -/
theorem Intact.lastId_ne {rows : List EventRow} {head : Option HeadRow}
    (h : Intact P F tenantId rows head) (hne : rows ≠ []) : lastId rows [] ≠ [] := by
  obtain ⟨row, hlast⟩ : ∃ row, rows.getLast? = some row :=
    Option.isSome_iff_exists.1 (by simp [hne])
  rw [lastId_of_getLast? hlast]
  exact h.named row (List.mem_of_getLast? hlast)

/-- The loop of the verification accepts chained rows. -/
theorem Chained.checkRows {rows : List EventRow} {head : Option HeadRow}
    (h : Chained P F tenantId rows head) :
    checkRows P F tenantId rows (genesisAuditHash, []) =
      .ok (head.elim genesisAuditHash (·.headHash), lastId rows []) :=
  checkRows_ok.2 ⟨h.linked, h.sealing, rfl⟩

theorem checkHead_ok {rows : List EventRow} {seen : Str × Str} {head : Option HeadRow} {u : Unit} :
    checkHead rows seen head = .ok u ↔
      head.map (fun h => (h.eventCount, h.headEventId, h.headHash)) =
        rows.getLast?.map fun _ => (rows.length, seen.2, seen.1) := by
  cases rows with
  | nil => cases head <;> simp [checkHead]
  | cons r rs =>
    have hlast : (r :: rs).getLast? = some ((r :: rs).getLast (by simp)) :=
      List.getLast?_eq_some_getLast _
    rw [hlast]
    cases head with
    | none => simp [checkHead]
    | some head => simp [checkHead, check_ok]

/-- The head of chained rows passes the comparison of the verification. -/
theorem Chained.checkHead {rows : List EventRow} {head : Option HeadRow}
    (h : Chained P F tenantId rows head) :
    checkHead rows (head.elim genesisAuditHash (·.headHash), lastId rows []) head = .ok () := by
  rw [checkHead_ok]
  have hc := h.counted
  cases hlast : rows.getLast? with
  | none =>
    rw [hlast, Option.map_none, Option.map_eq_none_iff] at hc
    rw [hc]
    rfl
  | some row =>
    rw [hlast, Option.map_some, Option.map_eq_some_iff] at hc
    obtain ⟨head, rfl, hc⟩ := hc
    obtain ⟨hcount, hid⟩ : head.eventCount = rows.length ∧ head.headEventId = row.eventId :=
      Prod.ext_iff.1 hc
    simp only [Option.map_some, Option.elim_some, hcount, hid, lastId_of_getLast? hlast]

/-- Chained rows of which the last has an id have a checkpoint. -/
theorem Chained.checkpoint {rows : List EventRow} {head : Option HeadRow} {now : Str}
    (h : Chained P F tenantId rows head) (hsha : ∀ b, isHex64 (P.sha256 b) = true)
    (htenant : tenantId ≠ []) (hnow : now ≠ []) (hnamed : rows ≠ [] → lastId rows [] ≠ []) :
    (checkpointOf tenantId rows (head.elim genesisAuditHash (·.headHash), lastId rows []) now).postInit
      = .ok () := by
  have hc := h.counted
  cases rows with
  | nil =>
    obtain rfl : head = none := by simpa using hc
    simp [AuditChainCheckpoint.postInit, checkpointOf, check, htenant, hnow]
    rfl
  | cons r rs =>
    obtain ⟨row, hlast⟩ : ∃ row, (r :: rs).getLast? = some row :=
      Option.isSome_iff_exists.1 (by simp)
    have hid := hnamed (List.cons_ne_nil r rs)
    have hhex : isHex64 (head.elim genesisAuditHash (·.headHash)) = true := by
      have hlinked := h.linked
      rw [← List.dropLast_append_getLast? _ hlast, linked_snoc] at hlinked
      rw [← hlinked.2]
      exact (h.sealing row (List.mem_of_getLast? hlast)).isHex64 hsha
    simp [AuditChainCheckpoint.postInit, checkpointOf, check, htenant, hnow, hid, hhex]
    rfl

end Ledger

end AgencyRuntime
