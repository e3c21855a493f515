import AgencyRuntime.Ledger.Chain
import AgencyRuntime.Python.Records
import Mathlib.Data.List.Sort

/-!
# The audit backfill at startup

`_ensure_audit_chain_locked` (persistence.py) as one transaction on the run database. It walks all
events, by tenant and in the order of each tenant's sequence, writes the hashes of the rows that
have none, compares the others, and then inserts or compares the heads. `Backfilled` says what it
does where it is not interrupted.
-/

namespace AgencyRuntime

open Tables Chains

namespace Ledger

/-! ## The pass -/

/-- What the pass keeps of a tenant: its entries in `previous_by_tenant`, `count_by_tenant` and
`head_event_by_tenant`, which are always set together. -/
structure Passed where
  previousHash : Str
  eventCount : Nat
  headEventId : Str
deriving DecidableEq

/-- The three dictionaries. -/
abbrev PassedBy := List (Str × Passed)

/-- The entries of a tenant, or the defaults of the lookups. -/
def PassedBy.of (seen : PassedBy) (tenantId : Str) : Passed :=
  (seen.lookup tenantId).getD ⟨genesisAuditHash, 0, []⟩

/-- `ORDER BY tenant_id ASC, sequence ASC`, of rows in the order of their sequence numbers. -/
def byTenant (rows : List EventRow) : List EventRow :=
  rows.insertionSort fun a b => a.tenantId ≤ b.tenantId

/-- `SELECT * FROM audit_events ORDER BY tenant_id ASC, sequence ASC` -/
def selectAllEvents (db : RunDatabase) : Except Exn (List EventRow × RunDatabase) :=
  .ok (byTenant db.events.rows, db)

/-- `SELECT * FROM audit_chain_heads` -/
def selectHeads (db : RunDatabase) : Except Exn (List HeadRow × RunDatabase) :=
  .ok (db.heads.rows, db)

/-- The assignments of the `UPDATE` of a row without hashes. -/
def setHashes (previousHash eventHash : Str) : Update eventSchema where
  apply r := { r with previousHash := previousHash, eventHash := eventHash }
  key_apply _ := rfl

/-- The `UPDATE` of a row without hashes. It selects the row by its sequence number, which is to say
the one row with its event id. -/
def updateHashes (eventId previousHash eventHash : Str) (db : RunDatabase) :
    Except Exn (Unit × RunDatabase) := do
  bindTexts [previousHash, eventHash]
  return ((), { db with
    events := db.events.modify (·.eventId == eventId) (setHashes previousHash eventHash) })

/-- `INSERT INTO audit_chain_heads` -/
def insertHead (row : HeadRow) (db : RunDatabase) : Except Exn (Unit × RunDatabase) := do
  check (row.eventCount < 2 ^ 63) .overflowError
  bindTexts [row.tenantId, row.headEventId, row.headHash]
  match db.heads.insert row with
  | some heads => return ((), { db with heads := heads })
  | none => throw .integrityError

/-- Write the hashes of a row that has none, or compare the hashes it has. -/
def sealRow (row : EventRow) (previousHash expected : Str) : Transaction RunDatabase Exn Unit :=
  if row.previousHash = [] ∧ row.eventHash = [] then
    .statement (updateHashes row.eventId previousHash expected)
  else
    .compute (check (row.previousHash = previousHash ∧ row.eventHash = expected)
      (.auditIntegrity "stored SQLite audit chain failed verification"))

/-- The body of the loop over the rows. -/
def backfillRow (P : Platform) (F : Floats) (seen : PassedBy) (row : EventRow) :
    Transaction RunDatabase Exn PassedBy := do
  let before := seen.of row.tenantId
  let payload ← .compute (jsonLoads F row.payloadJson)
  let expected ← .compute (auditEventHash P row.toEventTexts (some payload) before.previousHash)
  sealRow row before.previousHash expected
  return setMember seen (row.tenantId, ⟨expected, before.eventCount + 1, row.eventId⟩)

/-- The head of what was seen of a tenant. -/
def Passed.head (tenantId : Str) (seen : Passed) : HeadRow :=
  { tenantId := tenantId, eventCount := seen.eventCount, headEventId := seen.headEventId
    headHash := seen.previousHash }

/-- Insert the head of a tenant, or compare the one that is stored. -/
def ensureHead (stored : List HeadRow) (entry : Str × Passed) : Transaction RunDatabase Exn Unit :=
  let head := entry.2.head entry.1
  match stored.find? (·.tenantId == entry.1) with
  | none => .statement (insertHead head)
  | some row =>
    .compute (check (row.eventCount = head.eventCount ∧ row.headEventId = head.headEventId ∧
      row.headHash = head.headHash) (.auditIntegrity "SQLite audit chain head is invalid"))

/-- The loop over the heads. -/
def ensureHeads (stored : List HeadRow) : PassedBy → Transaction RunDatabase Exn Unit
  | [] => pure ()
  | entry :: rest => do
    ensureHead stored entry
    ensureHeads stored rest

/-- `_ensure_audit_chain_locked`, on a table that has both columns: a column it adds is blank in
every row. -/
def ensureAuditChainLocked (P : Platform) (F : Floats) : Transaction RunDatabase Exn Unit := do
  let rows ← .statement selectAllEvents
  let seen ← rows.foldlM (backfillRow P F) []
  let storedHeads ← .statement selectHeads
  .compute (check (∀ head ∈ storedHeads, (seen.lookup head.tenantId).isSome = true)
    (.auditIntegrity "SQLite audit chain head has no events"))
  ensureHeads storedHeads seen

/-- The backfill in the transaction of `_initialize_schema`; its statements may fail. -/
def ensureAuditChain (P : Platform) (F : Floats) (faults : List (Option Exn)) (db : RunDatabase) :
    Except Exn Unit × RunDatabase :=
  (ensureAuditChainLocked P F).commit ⟨db, faults⟩

variable {P : Platform} {F : Floats}

/-! ## What was seen -/

@[simp] theorem PassedBy.of_setMember (seen : PassedBy) (m : Str × Passed) (tenantId : Str) :
    PassedBy.of (setMember seen m) tenantId = if tenantId = m.1 then m.2 else seen.of tenantId := by
  unfold PassedBy.of
  rw [lookup_setMember]
  split <;> rfl

/-! ## The rows -/

/-- The row, with hashes written where it had none. -/
structure Filled (row row' : EventRow) : Prop where
  texts : row'.toEventTexts = row.toEventTexts
  payloadJson : row'.payloadJson = row.payloadJson
  hashes : row' = row ∨ row.previousHash = [] ∧ row.eventHash = []

theorem Filled.refl (row : EventRow) : Filled row row := ⟨rfl, rfl, .inl rfl⟩

/-- The rows of a tenant. -/
def rowsOf (tenantId : Str) (rows : List EventRow) : List EventRow :=
  rows.filter (·.tenantId == tenantId)

/-- The pass went through the rows, from what it had seen and the database before to those after.
Each of the rows is now `f` of it, and the rows of a tenant are linked from the hash it had seen last
of that tenant. -/
structure Walked (P : Platform) (F : Floats) (rows : List EventRow) (seen : PassedBy)
    (db : RunDatabase) (seen' : PassedBy) (db' : RunDatabase) (f : EventRow → EventRow) : Prop where
  others : ∀ r, r ∉ rows → f r = r
  filled : ∀ r ∈ rows, Filled r (f r)
  sealing : ∀ r ∈ rows, Sealed P F r.tenantId (f r)
  linked : ∀ tenantId, Linked EventRow.previousHash EventRow.eventHash
    (seen.of tenantId).previousHash ((rowsOf tenantId rows).map f) (seen'.of tenantId).previousHash
  count : ∀ tenantId, (seen'.of tenantId).eventCount =
    (seen.of tenantId).eventCount + (rowsOf tenantId rows).length
  last : ∀ tenantId, (seen'.of tenantId).headEventId =
    lastId (rowsOf tenantId rows) (seen.of tenantId).headEventId
  known : ∀ tenantId, (seen'.lookup tenantId).isSome =
    ((seen.lookup tenantId).isSome || rows.any (·.tenantId == tenantId))
  names : (seen.map Prod.fst).Nodup → (seen'.map Prod.fst).Nodup
  events : db'.events.rows = db.events.rows.map f
  heads : db'.heads = db.heads
  runs : db'.runs = db.runs
  sessions : db'.sessions = db.sessions

theorem Walked.nil (seen : PassedBy) (db : RunDatabase) : Walked P F [] seen db seen db id where
  others _ _ := rfl
  filled := nofun
  sealing := nofun
  linked _ := .nil _
  count _ := rfl
  last _ := rfl
  known _ := by simp
  names := id
  events := by simp
  heads := rfl
  runs := rfl
  sessions := rfl

theorem lastId_append (rows rows' : List EventRow) (before : Str) :
    lastId (rows ++ rows') before = lastId rows' (lastId rows before) := by
  induction rows generalizing before with
  | nil => rfl
  | cons r rows ih => rw [List.cons_append, lastId_cons, lastId_cons, ih]

/-- Going through rows and then through others is going through both, when no id is in both. -/
theorem Walked.append {rows rows' : List EventRow} {seen seen' seen'' : PassedBy}
    {db db' db'' : RunDatabase} {f g : EventRow → EventRow}
    (h : Walked P F rows seen db seen' db' f) (h' : Walked P F rows' seen' db' seen'' db'' g)
    (hids : ∀ r ∈ rows, ∀ r' ∈ rows', r.eventId ≠ r'.eventId) :
    Walked P F (rows ++ rows') seen db seen'' db'' (g ∘ f) := by
  have hfirst : ∀ r ∈ rows, g (f r) = f r := by
    intro r hr
    refine h'.others _ fun hmem => hids r hr _ hmem ?_
    exact (congrArg EventTexts.eventId (h.filled r hr).texts).symm
  have hsecond : ∀ r ∈ rows', f r = r := by
    intro r hr
    exact h.others _ fun hmem => hids r hmem r hr rfl
  refine ⟨?_, ?_, ?_, fun t => ?_, fun t => ?_, fun t => ?_, fun t => ?_, h'.names ∘ h.names, ?_,
    h'.heads.trans h.heads, h'.runs.trans h.runs, h'.sessions.trans h.sessions⟩
  · intro r hr
    rw [List.mem_append, not_or] at hr
    rw [Function.comp_apply, h.others r hr.1, h'.others r hr.2]
  · intro r hr
    rw [Function.comp_apply]
    rcases List.mem_append.1 hr with hr | hr
    · rw [hfirst r hr]
      exact h.filled r hr
    · rw [hsecond r hr]
      exact h'.filled r hr
  · intro r hr
    rw [Function.comp_apply]
    rcases List.mem_append.1 hr with hr | hr
    · rw [hfirst r hr]
      exact h.sealing r hr
    · rw [hsecond r hr]
      exact h'.sealing r hr
  · have hmap : (rowsOf t (rows ++ rows')).map (g ∘ f) =
        (rowsOf t rows).map f ++ (rowsOf t rows').map g := by
      rw [rowsOf, List.filter_append, List.map_append]
      congr 1
      · exact List.map_congr_left fun r hr => hfirst r (List.mem_filter.1 hr).1
      · refine List.map_congr_left fun r hr => ?_
        rw [Function.comp_apply, hsecond r (List.mem_filter.1 hr).1]
    rw [hmap]
    exact (h.linked t).append (h'.linked t)
  · rw [h'.count, h.count, rowsOf, rowsOf, rowsOf, List.filter_append, List.length_append]
    omega
  · rw [h'.last, h.last, rowsOf, rowsOf, rowsOf, List.filter_append, lastId_append]
  · rw [h'.known, h.known, List.any_append, Bool.or_assoc]
  · rw [h'.events, h.events, List.map_map]

/-- What the two ways of treating a row come to. -/
theorem sealRow_does (row : EventRow) (previousHash expected : Str) :
    (sealRow row previousHash expected).Does fun db _ db' => row ∈ db.events.rows →
      ∃ row', Filled row row' ∧ row'.previousHash = previousHash ∧ row'.eventHash = expected ∧
        db'.events.rows = db.events.rows.map (fun r => if r = row then row' else r) ∧
        db'.heads = db.heads ∧ db'.runs = db.runs ∧ db'.sessions = db.sessions := by
  unfold sealRow
  split
  · next hblank =>
    refine (Transaction.does_statement _).mono fun db _ db' h hmem => ?_
    obtain ⟨_, -, h⟩ := exceptBind_ok h
    cases h
    refine ⟨{ row with previousHash := previousHash, eventHash := expected },
      ⟨rfl, rfl, .inr hblank⟩, rfl, rfl, ?_, rfl, rfl, rfl⟩
    refine List.map_congr_left fun r hr => ?_
    by_cases heq : r = row
    · subst heq
      simp [setHashes]
    · have hid : r.eventId ≠ row.eventId := fun hid => heq (Table.eq_of_clash hr hmem (by
        simp [eventSchema, Schema.ofKey, hid]))
      simp [heq, hid]
  · refine (Transaction.does_compute _).mono fun db _ db' h hmem => ?_
    obtain ⟨h, rfl⟩ := h
    rw [check_ok] at h
    refine ⟨row, .refl row, h.1, h.2, ?_, rfl, rfl, rfl⟩
    refine (List.map_id _).symm.trans (List.map_congr_left fun r _ => ?_)
    split
    · assumption
    · rfl

/-- What one turn of the loop does. -/
theorem backfillRow_does (seen : PassedBy) (row : EventRow) :
    (backfillRow P F seen row).Does fun db seen' db' => row ∈ db.events.rows →
      ∃ f, Walked P F [row] seen db seen' db' f := by
  refine Transaction.Does.mono ((Transaction.does_compute _).bind fun payload =>
    (Transaction.does_compute _).bind fun expected => (sealRow_does _ _ _).bind fun _ =>
      Transaction.does_pure _) ?_
  rintro db seen' db' ⟨payload, _, ⟨hpayload, rfl⟩, expected, _, ⟨hexpected, rfl⟩, _, _, hrow, rfl,
    rfl⟩ hmem
  obtain ⟨row', hfilled, hprev, hhash, hevents, hrest⟩ := hrow hmem
  have hone (t : Str) : rowsOf t [row] = if row.tenantId = t then [row] else [] := by
    by_cases ht : row.tenantId = t <;> simp [rowsOf, ht]
  refine ⟨fun r => if r = row then row' else r, ⟨?_, ?_, ?_, fun t => ?_, fun t => ?_, fun t => ?_,
    fun t => ?_, fun h => (setMember_spec _ h).1, hevents, hrest.1, hrest.2.1, hrest.2.2⟩⟩
  · intro r hr
    exact if_neg fun h => hr (List.mem_singleton.2 h)
  · intro r hr
    rw [List.mem_singleton.1 hr, if_pos rfl]
    exact hfilled
  · intro r hr
    rw [List.mem_singleton.1 hr, if_pos rfl]
    refine ⟨payload, hfilled.payloadJson ▸ hpayload, ?_⟩
    rw [hfilled.texts, hprev, hhash]
    exact hexpected
  · rw [hone, PassedBy.of_setMember]
    by_cases ht : row.tenantId = t
    · subst ht
      rw [if_pos rfl, if_pos rfl, List.map_singleton, if_pos rfl, linked_cons, linked_nil]
      exact ⟨hprev.symm, hhash⟩
    · rw [if_neg ht, if_neg (Ne.symm ht)]
      exact .nil _
  · rw [hone, PassedBy.of_setMember]
    by_cases ht : row.tenantId = t
    · subst ht
      simp
    · simp [ht, Ne.symm ht]
  · rw [hone, PassedBy.of_setMember]
    by_cases ht : row.tenantId = t
    · subst ht
      simp [lastId]
    · simp [ht, Ne.symm ht]
  · rw [lookup_setMember]
    by_cases ht : row.tenantId = t
    · simp [ht]
    · simp [ht, Ne.symm ht]

/-- What the loop over rows of the table does. -/
theorem backfillRows_does (rows : List EventRow) (seen : PassedBy) :
    (rows.foldlM (backfillRow P F) seen).Does fun db seen' db' =>
      rows.Pairwise (fun r s => r.eventId ≠ s.eventId) → (∀ r ∈ rows, r ∈ db.events.rows) →
        ∃ f, Walked P F rows seen db seen' db' f := by
  induction rows generalizing seen with
  | nil =>
    refine (Transaction.does_pure seen).mono fun db seen' db' h _ _ => ?_
    obtain ⟨rfl, rfl⟩ := h
    exact ⟨id, .nil _ _⟩
  | cons row rows ih =>
    rw [List.foldlM_cons]
    refine ((backfillRow_does seen row).bind fun _ => ih _).mono fun db seen' db' h hids hmem => ?_
    obtain ⟨middle, db₁, hrow, hrows⟩ := h
    obtain ⟨hids, hrest⟩ := List.pairwise_cons.1 hids
    rw [List.forall_mem_cons] at hmem
    obtain ⟨f, hf⟩ := hrow hmem.1
    -- the first turn leaves the other rows as they are, so they are still in the table
    have hkept : ∀ r ∈ rows, r ∈ db₁.events.rows := by
      intro r hr
      rw [hf.events, List.mem_map]
      refine ⟨r, hmem.2 r hr, hf.others r fun h => ?_⟩
      exact hids r hr (by rw [List.mem_singleton.1 h])
    obtain ⟨g, hg⟩ := hrows hrest hkept
    refine ⟨g ∘ f, hf.append hg fun r hr r' hr' => ?_⟩
    rw [List.mem_singleton.1 hr]
    exact hids r' hr'

/-! ## The heads -/

/-- Heads that are added keep those that were there. -/
theorem headOf_kept {heads heads' : Table headSchema} (h : heads.rows <+: heads'.rows)
    {tenantId : Str} {head : HeadRow} (hhead : headOf heads tenantId = some head) :
    headOf heads' tenantId = some head := by
  obtain ⟨added, h⟩ := h
  rw [headOf, ← h, List.find?_append, ← headOf, hhead, Option.some_or]

/-- The heads of the entries were compared or inserted, and nothing else changed. -/
structure Ensured (stored : List HeadRow) (entries : PassedBy) (db db' : RunDatabase) : Prop where
  kept : db.heads.rows <+: db'.heads.rows
  heads : ∀ e ∈ entries, headOf db'.heads e.1 = some (e.2.head e.1)
  others : ∀ tenantId, tenantId ∉ entries.map Prod.fst →
    headOf db'.heads tenantId = headOf db.heads tenantId
  fits : ∀ e ∈ entries, stored.find? (·.tenantId == e.1) = none → e.2.eventCount < 2 ^ 63
  same : (∀ e ∈ entries, (stored.find? (·.tenantId == e.1)).isSome = true) → db' = db
  events : db'.events = db.events
  runs : db'.runs = db.runs
  sessions : db'.sessions = db.sessions

/-- The stored heads are heads of the database. -/
def AreHeads (stored : List HeadRow) (db : RunDatabase) : Prop :=
  ∀ tenantId head, stored.find? (·.tenantId == tenantId) = some head →
    headOf db.heads tenantId = some head

theorem fresh_iff {heads : Table headSchema} {row : HeadRow} :
    heads.Fresh row ↔ headOf heads row.tenantId = none := by
  rw [headOf, List.find?_eq_none]
  refine forall₂_congr fun r _ => ?_
  rw [Bool.not_eq_true]
  exact Iff.rfl

/-- A head that was inserted is the head of a tenant that had none. -/
theorem insertHead_ok {row : HeadRow} {db db' : RunDatabase} {u : Unit}
    (h : insertHead row db = .ok (u, db')) :
    row.eventCount < 2 ^ 63 ∧ headOf db.heads row.tenantId = none ∧
      db'.heads.rows = db.heads.rows ++ [row] ∧ db'.events = db.events ∧ db'.runs = db.runs ∧
      db'.sessions = db.sessions := by
  obtain ⟨_, hfits, h⟩ := exceptBind_ok h
  obtain ⟨_, -, h⟩ := exceptBind_ok h
  rw [check_ok] at hfits
  split at h
  · next heads hheads =>
    cases h
    obtain ⟨hnew, hrows⟩ := Table.insert_eq_some.1 hheads
    exact ⟨hfits, fresh_iff.1 hnew, hrows, rfl, rfl, rfl⟩
  · cases h

/-- The head of a tenant that has none can be inserted. -/
theorem insertHead_free {row : HeadRow} {db : RunDatabase} (hfits : row.eventCount < 2 ^ 63)
    (htexts : [row.tenantId, row.headEventId, row.headHash].all Py.encodable = true)
    (hnone : headOf db.heads row.tenantId = none) :
    ∃ heads : Table headSchema, heads.rows = db.heads.rows ++ [row] ∧
      insertHead row db = .ok ((), { db with heads := heads }) := by
  unfold insertHead
  rw [(check_ok (u := ())).2 hfits, bindTexts, (check_ok (u := ())).2 htexts]
  cases hinsert : db.heads.insert row with
  | none => exact absurd (fresh_iff.2 hnone) (Table.insert_eq_none.1 hinsert)
  | some heads => exact ⟨heads, (Table.insert_eq_some.1 hinsert).2, rfl⟩

theorem headOf_snoc {heads heads' : Table headSchema} {row : HeadRow}
    (h : heads'.rows = heads.rows ++ [row]) (tenantId : Str) :
    headOf heads' tenantId = (headOf heads tenantId).or
      (if row.tenantId = tenantId then some row else none) := by
  rw [headOf, h, List.find?_append, List.find?_singleton]
  simp only [headOf, beq_iff_eq]

/-- What is done about one head. -/
theorem ensureHead_does (stored : List HeadRow) (entry : Str × Passed) :
    (ensureHead stored entry).Does fun db _ db' => AreHeads stored db →
      Ensured stored [entry] db db' := by
  unfold ensureHead
  split
  · next hnone =>
    refine (Transaction.does_statement _).mono fun db _ db' h _ => ?_
    obtain ⟨hfits, hfresh, hrows, hevents, hruns, hsessions⟩ := insertHead_ok h
    refine ⟨⟨_, hrows.symm⟩, ?_, ?_, ?_, ?_, hevents, hruns, hsessions⟩
    · intro e he
      rw [List.mem_singleton.1 he, headOf_snoc hrows]
      rw [show headOf db.heads entry.1 = none from hfresh]
      exact if_pos rfl
    · intro tenantId hother
      rw [headOf_snoc hrows, if_neg, Option.or_none]
      exact fun h => hother (by rw [← h]; exact List.mem_singleton_self _)
    · intro e he _
      rw [List.mem_singleton.1 he]
      exact hfits
    · intro hall
      have := hall entry (List.mem_singleton_self _)
      rw [hnone] at this
      cases this
  · next row hrow =>
    refine (Transaction.does_compute _).mono fun db _ db' h hstored => ?_
    obtain ⟨h, rfl⟩ := h
    obtain ⟨hcount, hid, hhash⟩ := check_ok.1 h
    refine ⟨List.prefix_rfl, ?_, fun _ _ => rfl, ?_, fun _ => rfl, rfl, rfl, rfl⟩
    · intro e he
      rw [List.mem_singleton.1 he, hstored _ _ hrow]
      have htenant := List.find?_some hrow
      rw [beq_iff_eq] at htenant
      obtain ⟨tenantId, eventCount, headEventId, headHash⟩ := row
      obtain rfl : tenantId = entry.1 := htenant
      exact congrArg some (by rw [Passed.head]; exact congr (congr (congrArg _ hcount) hid) hhash)
    · intro e he hnone
      rw [List.mem_singleton.1 he, hrow] at hnone
      cases hnone

/-- What the loop over heads does. -/
theorem ensureHeads_does (stored : List HeadRow) (entries : PassedBy) :
    (ensureHeads stored entries).Does fun db _ db' => AreHeads stored db →
      Ensured stored entries db db' := by
  induction entries with
  | nil =>
    refine (Transaction.does_pure ()).mono fun db _ db' h _ => ?_
    obtain ⟨-, rfl⟩ := h
    exact ⟨List.prefix_rfl, nofun, fun _ _ => rfl, nofun, fun _ => rfl, rfl, rfl, rfl⟩
  | cons entry entries ih =>
    refine ((ensureHead_does stored entry).bind fun _ => ih).mono fun db _ db' h hstored => ?_
    obtain ⟨_, db₁, hone, hrest⟩ := h
    have h1 := hone hstored
    have h2 := hrest fun tenantId head hfind => headOf_kept h1.kept (hstored _ _ hfind)
    refine ⟨h1.kept.trans h2.kept, ?_, ?_, ?_, ?_, h2.events.trans h1.events, h2.runs.trans h1.runs,
      h2.sessions.trans h1.sessions⟩
    · intro e he
      rcases List.mem_cons.1 he with rfl | he
      · exact headOf_kept h2.kept (h1.heads _ (List.mem_singleton_self _))
      · exact h2.heads e he
    · intro tenantId hother
      rw [List.map_cons, List.mem_cons, not_or] at hother
      rw [h2.others tenantId hother.2, h1.others tenantId (by simpa using hother.1)]
    · intro e he
      rcases List.mem_cons.1 he with rfl | he
      · exact h1.fits _ (List.mem_singleton_self _)
      · exact h2.fits e he
    · intro hall
      rw [List.forall_mem_cons] at hall
      rw [h2.same hall.2, h1.same (by simpa using hall.1)]

/-! ## The whole pass -/

/-- What the backfill did: it wrote hashes where there were none and heads where there were none,
and every tenant's rows are chained. -/
structure Backfilled (P : Platform) (F : Floats) (db db' : RunDatabase) : Prop where
  events : List.Forall₂ Filled db.events.rows db'.events.rows
  heads : db.heads.rows <+: db'.heads.rows
  runs : db'.runs = db.runs
  sessions : db'.sessions = db.sessions
  chained : ∀ tenantId, Chained P F tenantId (eventsOf db' tenantId) (headOf db'.heads tenantId)
  fits : ∀ row ∈ db.events.rows, headOf db.heads row.tenantId = none →
    (eventsOf db row.tenantId).length < 2 ^ 63
  same : (∀ row ∈ db.events.rows, (headOf db.heads row.tenantId).isSome = true) →
    db'.heads = db.heads

theorem byTenant_perm (rows : List EventRow) : (byTenant rows).Perm rows :=
  List.perm_insertionSort _ rows

/-- The order by tenants keeps the order of each tenant's rows. -/
theorem rowsOf_byTenant (tenantId : Str) (rows : List EventRow) :
    rowsOf tenantId (byTenant rows) = rowsOf tenantId rows := by
  have hall : ∀ r ∈ rowsOf tenantId rows, r.tenantId = tenantId := fun r hr =>
    beq_iff_eq.1 (List.mem_filter.1 hr).2
  have hsub : (rowsOf tenantId rows).Sublist (byTenant rows) := by
    refine List.sublist_insertionSort ?_ List.filter_sublist
    refine List.pairwise_of_forall_mem_list fun a ha b hb => ?_
    rw [hall a ha, hall b hb]
  have hkeep := hsub.filter (·.tenantId == tenantId)
  rw [show (rowsOf tenantId rows).filter (·.tenantId == tenantId) = rowsOf tenantId rows by
    simp [rowsOf, List.filter_filter]] at hkeep
  refine (hkeep.eq_of_length ?_).symm
  exact ((byTenant_perm rows).filter _).length_eq.symm

/-- No id is twice in the table. -/
theorem byTenant_ids (db : RunDatabase) :
    (byTenant db.events.rows).Pairwise fun r s => r.eventId ≠ s.eventId := by
  rw [(byTenant_perm _).pairwise_iff fun {a b} h => Ne.symm h]
  refine db.events.distinct.imp fun {r s} h heq => ?_
  simp [eventSchema, Schema.ofKey, heq] at h

section
variable {seen : PassedBy} {db db₁ : RunDatabase} {f : EventRow → EventRow}

/-- The pass over all rows has an entry for each tenant with rows. -/
theorem Walked.known_iff (h : Walked P F (byTenant db.events.rows) [] db seen db₁ f) (t : Str) :
    (seen.lookup t).isSome = true ↔ eventsOf db t ≠ [] := by
  have hof : rowsOf t (byTenant db.events.rows) = eventsOf db t := rowsOf_byTenant t _
  rw [h.known, ← hof, rowsOf, Ne, List.filter_eq_nil_iff]
  simp

/-- An entry of the pass over all rows is of a tenant with rows, counts them and names the last. -/
theorem Walked.entry (h : Walked P F (byTenant db.events.rows) [] db seen db₁ f)
    {e : Str × Passed} (he : e ∈ seen) :
    eventsOf db e.1 ≠ [] ∧ e.2.eventCount = (eventsOf db e.1).length ∧
      e.2.headEventId = lastId (eventsOf db e.1) [] ∧
      Linked EventRow.previousHash EventRow.eventHash genesisAuditHash
        ((eventsOf db e.1).map f) e.2.previousHash := by
  have hlookup := (lookup_eq_some (h.names List.nodup_nil)).2 he
  have hentry : seen.of e.1 = e.2 := by rw [PassedBy.of, hlookup, Option.getD_some]
  have hof : rowsOf e.1 (byTenant db.events.rows) = eventsOf db e.1 := rowsOf_byTenant e.1 _
  have hcount := h.count e.1
  have hlast := h.last e.1
  have hlinked := h.linked e.1
  rw [hentry, hof] at hcount hlast hlinked
  refine ⟨(h.known_iff e.1).1 (by rw [hlookup]; rfl), ?_, hlast, hlinked⟩
  rw [hcount]
  exact Nat.zero_add _

end

/-- What the pass did to the rows and then to the heads. -/
theorem Walked.backfilled {seen : PassedBy} {db db₁ db' : RunDatabase} {f : EventRow → EventRow}
    (h : Walked P F (byTenant db.events.rows) [] db seen db₁ f)
    (hheads : Ensured db₁.heads.rows seen db₁ db')
    (hnone : ∀ head ∈ db₁.heads.rows, (seen.lookup head.tenantId).isSome = true) :
    Backfilled P F db db' := by
  have hmem (r : EventRow) : r ∈ byTenant db.events.rows ↔ r ∈ db.events.rows :=
    (byTenant_perm _).mem_iff
  have hfilled : ∀ r ∈ db.events.rows, Filled r (f r) := fun r hr => h.filled r ((hmem r).2 hr)
  have hevents (t : Str) : eventsOf db' t = (eventsOf db t).map f := by
    rw [eventsOf, hheads.events, h.events, List.filter_map]
    congr 1
    refine List.filter_congr fun r hr => ?_
    rw [Function.comp_apply, congrArg EventTexts.tenantId (hfilled r hr).texts]
  have hentry (t : Str) (hne : eventsOf db t ≠ []) : ∃ entry, (t, entry) ∈ seen := by
    obtain ⟨entry, hentry⟩ := Option.isSome_iff_exists.1 ((h.known_iff t).2 hne)
    obtain ⟨l₁, l₂, hsplit, -⟩ := List.lookup_eq_some_iff.1 hentry
    exact ⟨entry, by rw [hsplit]; simp⟩
  refine ⟨?_, ?_, hheads.runs.trans h.runs, hheads.sessions.trans h.sessions, fun t => ?_, ?_, ?_⟩
  · rw [hheads.events, h.events, List.forall₂_map_right_iff]
    exact List.forall₂_same.2 hfilled
  · rw [← h.heads]
    exact hheads.kept
  · have hsealed : ∀ row ∈ eventsOf db' t, Sealed P F t row := by
      intro row hrow
      rw [hevents] at hrow
      obtain ⟨r, hr, rfl⟩ := List.mem_map.1 hrow
      obtain ⟨hr, ht⟩ := List.mem_filter.1 hr
      rw [beq_iff_eq] at ht
      exact ht ▸ h.sealing r ((hmem r).2 hr)
    by_cases hempty : eventsOf db t = []
    · have hlookup : ¬ (seen.lookup t).isSome = true := by
        rw [h.known_iff]
        exact not_not.2 hempty
      have hhead : headOf db'.heads t = none := by
        rw [hheads.others t, headOf, List.find?_eq_none]
        · intro head hhead heq
          rw [beq_iff_eq] at heq
          exact hlookup (heq ▸ hnone head hhead)
        · intro hkey
          obtain ⟨entry, hmem, rfl⟩ := List.mem_map.1 hkey
          exact hlookup (List.lookup_isSome_iff.2 ⟨entry, hmem, beq_self_eq_true _⟩)
      rw [hhead, hevents, hempty]
      exact ⟨.nil _, by rintro _ ⟨⟩, rfl⟩
    · obtain ⟨entry, hseen⟩ := hentry t hempty
      obtain ⟨-, hcount, hid, hlinked⟩ := h.entry hseen
      rw [← hevents] at hlinked
      rw [show headOf db'.heads t = some (entry.head t) from hheads.heads _ hseen]
      refine ⟨hlinked, hsealed, ?_⟩
      obtain ⟨row, hlast⟩ : ∃ row, (eventsOf db t).getLast? = some row :=
        Option.isSome_iff_exists.1 (by simp [hempty])
      have hkept : (f row).eventId = row.eventId := congrArg EventTexts.eventId
        (hfilled row (List.mem_filter.1 (List.mem_of_getLast? hlast)).1).texts
      rw [lastId_of_getLast? hlast] at hid
      rw [hevents, List.getLast?_map, hlast, List.length_map]
      simp only [Option.map_some, Passed.head, hkept]
      exact congrArg some (Prod.ext hcount hid)
  · intro row hrow hnohead
    have hne : eventsOf db row.tenantId ≠ [] :=
      List.ne_nil_of_mem (List.mem_filter.2 ⟨hrow, beq_self_eq_true _⟩)
    obtain ⟨entry, hseen⟩ := hentry _ hne
    have hfits := hheads.fits _ hseen (by rw [h.heads]; exact hnohead)
    rwa [(h.entry hseen).2.1] at hfits
  · intro hall
    rw [hheads.same, h.heads]
    intro e he
    obtain ⟨row, hrow⟩ := List.exists_mem_of_ne_nil _ (h.entry he).1
    obtain ⟨hrow, htenant⟩ := List.mem_filter.1 hrow
    rw [beq_iff_eq] at htenant
    have := hall row hrow
    rwa [htenant, ← h.heads] at this

/-- What the backfill does. -/
theorem ensureAuditChainLocked_does :
    (ensureAuditChainLocked P F).Does fun db _ db' => Backfilled P F db db' ∧
      ((∀ row ∈ db.events.rows, ¬ (row.previousHash = [] ∧ row.eventHash = [])) →
        db'.events = db.events) := by
  refine Transaction.Does.mono ((Transaction.does_statement _).bind fun rows =>
    (backfillRows_does rows []).bind fun seen => (Transaction.does_statement _).bind fun stored =>
      (Transaction.does_compute _).bind fun _ => ensureHeads_does stored seen) ?_
  rintro db _ db' ⟨rows, _, hselect, seen, db₁, hrows, stored, _, hheads, _, _, ⟨hcheck, rfl⟩,
    hensured⟩
  obtain ⟨rfl, rfl⟩ := Prod.ext_iff.1 (Except.ok.inj hselect)
  obtain ⟨rfl, rfl⟩ := Prod.ext_iff.1 (Except.ok.inj hheads)
  rw [check_ok] at hcheck
  have hperm := byTenant_perm db.events.rows
  obtain ⟨f, hf⟩ := hrows (byTenant_ids db) fun r hr => hperm.mem_iff.1 hr
  have h := hensured fun _ _ hfind => hfind
  have hdone := hf.backfilled h hcheck
  refine ⟨hdone, fun hhashes => ?_⟩
  have hevents : db'.events.rows = db.events.rows := by
    rw [h.events, hf.events]
    refine (List.map_congr_left fun r hr => ?_).trans (List.map_id _)
    exact (hf.filled r (hperm.mem_iff.2 hr)).hashes.resolve_right (hhashes r hr)
  obtain ⟨runs, ⟨rows, _⟩, heads, sessions⟩ := db
  obtain ⟨runs', ⟨rows', _⟩, heads', sessions'⟩ := db'
  obtain rfl : rows' = rows := hevents
  rfl

end Ledger

end AgencyRuntime
