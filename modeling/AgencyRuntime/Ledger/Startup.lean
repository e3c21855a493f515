import AgencyRuntime.Ledger.Backfill
import AgencyRuntime.Ledger.Tamper

/-!
# Startup and the verifier

`verify_audit_chain` succeeds for a tenant exactly when its rows are `Chained` to its head and the
last of them has an id (`verifyRead_ok_iff`), and the backfill succeeds on rows that all have their
hashes exactly when every tenant's rows are chained, or would be to a head that is missing
(`Repairable`).
-/

namespace AgencyRuntime

open Effects Tables Chains

namespace Ledger

variable {P : Platform} {F : Floats} {tenantId : Str}

/-! ## Texts of sealed rows -/

theorem mem_join_of_mem {sep part : Str} {parts : List Str} {c : CodePoint} (hpart : part ∈ parts)
    (hc : c ∈ part) : c ∈ Py.join sep parts := by
  induction parts with
  | nil => cases hpart
  | cons p parts ih =>
    cases parts with
    | nil =>
      rw [List.mem_singleton.1 hpart] at hc
      simpa [Py.join] using hc
    | cons q parts =>
      rw [join_cons_cons, List.mem_append, List.mem_append]
      rcases List.mem_cons.1 hpart with rfl | hpart
      · exact .inl hc
      · exact .inr (.inr (ih hpart))

/-- A surrogate is written as it is. -/
theorem mem_jsonString {s : Str} {c : CodePoint} (hc : c ∈ s) (hsur : Py.isSurrogate c = true) :
    c ∈ jsonString s := by
  have hescape : jsonEscape c = [c] := by
    simp only [Py.isSurrogate, Bool.and_eq_true, decide_eq_true_eq] at hsur
    unfold jsonEscape
    repeat rw [if_neg (by omega)]
  rw [jsonString, List.mem_append, List.mem_append, List.mem_flatMap]
  exact .inl (.inr ⟨c, hc, by rw [hescape]; exact List.mem_singleton_self c⟩)

/-- A list whose text can be encoded holds texts that can be encoded. -/
theorem encodable_of_mem {items : List Json} {s : Str}
    (h : Py.encodable (canonicalText (.arr items)) = true) (hs : .str s ∈ items) :
    Py.encodable s = true := by
  rw [Py.encodable, List.all_eq_true] at h ⊢
  intro c hc
  cases hsur : Py.isSurrogate c with
  | false => rfl
  | true =>
    have hmem : c ∈ canonicalText (.arr items) := by
      rw [canonicalText_arr]
      refine List.mem_cons_of_mem _ (List.mem_append_left _ ?_)
      refine mem_join_of_mem (List.mem_map_of_mem hs) ?_
      rw [canonicalText]
      exact mem_jsonString hc hsur
    simpa [hsur] using h c hmem

/-- The ids of a sealed row can be encoded. -/
theorem Sealed.encodable {row : EventRow} (h : Sealed P F tenantId row) :
    Py.encodable tenantId = true ∧ Py.encodable row.eventId = true := by
  obtain ⟨payload, hpayload, hhash⟩ := h
  obtain ⟨_, -, hhash⟩ := exceptBind_ok hhash
  obtain ⟨text, htext, hhash⟩ := exceptBind_ok hhash
  obtain ⟨bytes, hbytes, -⟩ := exceptBind_ok hhash
  obtain ⟨hencodable, -⟩ := Py.encode_ok.1 hbytes
  rw [Option.map_some, dumps, canonicalJson] at htext
  split at htext
  · rw [← Except.ok.inj htext, auditDocument] at hencodable
    exact ⟨encodable_of_mem hencodable (by simp), encodable_of_mem hencodable (by simp)⟩
  · cases htext

theorem encodable_of_isHex64 {s : Str} (h : isHex64 s = true) : Py.encodable s = true := by
  refine Py.encodable_of_isascii ?_
  simp only [isHex64, Bool.and_eq_true, List.all_eq_true] at h
  rw [Py.isascii, List.all_eq_true]
  intro c hc
  have := h.2 c hc
  simp only [isHexDigit, Py.inRange, Bool.or_eq_true, Bool.and_eq_true, decide_eq_true_eq] at this ⊢
  have hbounds : ('9' : Char).toNat = 57 ∧ ('f' : Char).toNat = 102 := by decide
  omega

/-! ## What the verifier accepts -/

/-- The verification of a tenant reads its rows and its head and changes nothing. -/
theorem verifyAuditChain_ends (oracle : Oracle outside) (db : RunDatabase)
    (hencodable : Py.encodable tenantId = true) :
    (verifyAuditChain P tenantId).Ends (Section.run P (F := F)) oracle db fun x db' =>
      x = verifyRead P F tenantId (eventsOf db tenantId) (headOf db.heads tenantId)
        (oracle .clock).text ∧ db' = db := by
  refine Prog.Ends.ofExcept (fun e h => ?_) fun _ h => Prog.Ends.call ?_
  · exact ⟨by rw [verifyRead, h]; rfl, rfl⟩
  rw [run_selectEvents hencodable]
  refine Prog.Ends.ofExcept_ok rfl (Prog.Ends.ofExcept (fun e hseen => ?_) fun seen hseen =>
    Prog.Ends.call ?_)
  · exact ⟨by rw [verifyRead, h, hseen]; rfl, rfl⟩
  rw [run_selectHead hencodable]
  refine Prog.Ends.ofExcept_ok rfl (Prog.Ends.ofExcept (fun e hhead => ?_) fun _ hhead =>
    Prog.Ends.ask ?_)
  · exact ⟨by simp only [verifyRead, h, hseen, hhead, bind, Except.bind], rfl⟩
  refine Prog.Ends.ofExcept (fun e hpost => ?_) fun _ hpost => ?_
  · exact ⟨by simp only [verifyRead, h, hseen, hhead, hpost, bind, Except.bind], rfl⟩
  · refine ⟨?_, rfl⟩
    simp only [verifyRead, h, hseen, hhead, hpost, bind, Except.bind]
    rfl

/-- The verifier accepts the rows and the head of a tenant exactly when the tenant's name is not
blank, the rows are chained to the head and the last of them has an id. -/
theorem verifyRead_ok_iff {rows : List EventRow} {head : Option HeadRow} {now : Str}
    (hsha : ∀ b, isHex64 (P.sha256 b) = true) (hnow : now ≠ []) :
    (∃ c, verifyRead P F tenantId rows head now = .ok c) ↔
      Py.strip tenantId ≠ [] ∧ Chained P F tenantId rows head ∧
        (rows ≠ [] → lastId rows [] ≠ []) := by
  constructor
  · rintro ⟨c, h⟩
    obtain ⟨_, htenant, h⟩ := exceptBind_ok h
    obtain ⟨seen, hseen, h⟩ := exceptBind_ok h
    obtain ⟨_, hhead, h⟩ := exceptBind_ok h
    obtain ⟨_, hpost, -⟩ := exceptBind_ok h
    obtain ⟨hlinked, hsealed, hid⟩ := checkRows_ok.1 hseen
    rw [requireNonEmpty_ok] at htenant
    rw [checkHead_ok] at hhead
    cases hlast : rows.getLast? with
    | none =>
      rw [List.getLast?_eq_none_iff] at hlast
      subst hlast
      obtain rfl : head = none := by simpa using hhead
      exact ⟨htenant, ⟨.nil _, nofun, rfl⟩, fun h => absurd rfl h⟩
    | some row =>
      rw [hlast, Option.map_some, Option.map_eq_some_iff] at hhead
      obtain ⟨head, rfl, hhead⟩ := hhead
      obtain ⟨hcount, hhead⟩ := Prod.ext_iff.1 hhead
      obtain ⟨hname, hhash⟩ := Prod.ext_iff.1 hhead
      have hcount : head.eventCount = rows.length := hcount
      have hname : head.headEventId = lastId rows [] := Eq.trans hname hid
      have hhash : head.headHash = seen.1 := hhash
      refine ⟨htenant, ⟨?_, hsealed, ?_⟩, fun hne hblank => ?_⟩
      · rw [Option.elim_some, hhash]
        exact hlinked
      · rw [hlast, Option.map_some, Option.map_some, hcount, hname, lastId_of_getLast? hlast]
      · have hlength : rows.length ≠ 0 := by simpa using hne
        obtain ⟨_, -, hpost⟩ := exceptBind_ok hpost
        rw [if_neg (show (checkpointOf tenantId rows seen now).eventCount ≠ 0 from hlength)] at hpost
        obtain ⟨_, hnamed, -⟩ := exceptBind_ok hpost
        rw [check_ok] at hnamed
        exact hnamed (hid.trans hblank)
  · rintro ⟨htenant, hchained, hnamed⟩
    have hempty : tenantId ≠ [] := by
      rintro rfl
      exact htenant rfl
    refine ⟨checkpointOf tenantId rows
      (head.elim genesisAuditHash (·.headHash), lastId rows []) now, ?_⟩
    rw [verifyRead, (requireNonEmpty_ok (u := ())).2 htenant]
    show (checkRows _ _ _ _ _ >>= fun _ => _) = _
    rw [hchained.checkRows]
    show (checkHead _ _ _ >>= fun _ => _) = _
    rw [hchained.checkHead]
    show (AuditChainCheckpoint.postInit _ >>= fun _ => _) = _
    rw [hchained.checkpoint hsha hempty hnow hnamed]
    rfl

/-! ## What startup accepts -/

/-- The rows of a tenant are chained to its head, or its head is missing and they would be to the
one that the backfill inserts. -/
def Repairable (P : Platform) (F : Floats) (tenantId : Str) (rows : List EventRow)
    (head : Option HeadRow) : Prop :=
  Chained P F tenantId rows head ∨ head = none ∧ rows.length < 2 ^ 63 ∧
    ∃ last, Chained P F tenantId rows (some ⟨tenantId, rows.length, lastId rows [], last⟩)

/-- Every event has a hash. -/
def Hashed (db : RunDatabase) : Prop :=
  ∀ row ∈ db.events.rows, row.previousHash ≠ [] ∧ row.eventHash ≠ []

/-- The loop over rows with hashes that are sealed and linked to what was seen writes nothing. -/
theorem backfillRows_succeeds {rows : List EventRow} {seen : PassedBy} (db : RunDatabase)
    (hhashed : ∀ row ∈ rows, row.previousHash ≠ [] ∧ row.eventHash ≠ [])
    (hlinked : ∀ t, ∃ last, Linked EventRow.previousHash EventRow.eventHash
      (seen.of t).previousHash (rowsOf t rows) last)
    (hsealed : ∀ row ∈ rows, Sealed P F row.tenantId row) :
    (rows.foldlM (backfillRow P F) seen).Succeeds db fun _ db' => db' = db := by
  induction rows generalizing seen with
  | nil => exact Transaction.succeeds_pure rfl
  | cons row rows ih =>
    rw [List.forall_mem_cons] at hhashed hsealed
    have hown : rowsOf row.tenantId (row :: rows) = row :: rowsOf row.tenantId rows := by
      simp [rowsOf]
    obtain ⟨last, hrow⟩ := hlinked row.tenantId
    rw [hown, linked_cons] at hrow
    obtain ⟨payload, hpayload, hhash⟩ := hsealed.1
    rw [List.foldlM_cons]
    have hone : (backfillRow P F seen row).Succeeds db fun seen' db' =>
        seen' = setMember seen
          (row.tenantId, ⟨row.eventHash, (seen.of row.tenantId).eventCount + 1, row.eventId⟩) ∧
          db' = db := by
      have hexpected : auditEventHash P row.toEventTexts (some payload)
          (seen.of row.tenantId).previousHash = .ok row.eventHash := by
        rw [hrow.1]
        exact hhash
      refine .compute hpayload (.compute hexpected ?_)
      have hseal : (sealRow row (seen.of row.tenantId).previousHash row.eventHash).Succeeds db
          fun _ db' => db' = db := by
        rw [sealRow, if_neg fun h => hhashed.1.1 h.1]
        exact Transaction.succeeds_compute ((check_ok (u := ())).2 ⟨hrow.1.symm, rfl⟩) rfl
      exact hseal.bind fun _ _ h => Transaction.succeeds_pure ⟨rfl, h⟩
    refine hone.bind ?_
    rintro _ _ ⟨rfl, rfl⟩
    refine ih hhashed.2 (fun t => ?_) hsealed.2
    rw [PassedBy.of_setMember]
    by_cases ht : t = row.tenantId
    · subst ht
      rw [if_pos rfl]
      exact ⟨last, hrow.2⟩
    · obtain ⟨last', hother⟩ := hlinked t
      rw [if_neg ht]
      refine ⟨last', ?_⟩
      rwa [rowsOf, List.filter_cons_of_neg (by simpa using Ne.symm ht)] at hother

/-- The head of the entry is stored, or it is missing and can be inserted. -/
def Insertable (stored : List HeadRow) (e : Str × Passed) : Prop :=
  stored.find? (·.tenantId == e.1) = some (e.2.head e.1) ∨
    stored.find? (·.tenantId == e.1) = none ∧ e.2.eventCount < 2 ^ 63 ∧
      [e.1, e.2.headEventId, e.2.previousHash].all Py.encodable = true

/-- The loop over heads inserts what is missing. -/
theorem ensureHeads_succeeds {stored : List HeadRow} {entries : PassedBy} {db : RunDatabase}
    (hnames : (entries.map Prod.fst).Nodup) (hall : ∀ e ∈ entries, Insertable stored e)
    (hfree : ∀ e ∈ entries, stored.find? (·.tenantId == e.1) = none →
      headOf db.heads e.1 = none) :
    (ensureHeads stored entries).Succeeds db fun _ _ => True := by
  induction entries generalizing db with
  | nil => exact Transaction.succeeds_pure trivial
  | cons e entries ih =>
    rw [List.map_cons, List.nodup_cons] at hnames
    rw [List.forall_mem_cons] at hall hfree
    have hone : (ensureHead stored e).Succeeds db fun _ db' =>
        ∀ t, t ≠ e.1 → headOf db'.heads t = headOf db.heads t := by
      unfold ensureHead
      rcases hall.1 with hfind | ⟨hfind, hfits, htexts⟩
      · simp only [hfind]
        exact Transaction.succeeds_compute ((check_ok (u := ())).2 (by simp)) fun _ _ => rfl
      · simp only [hfind]
        obtain ⟨heads, hrows, hinsert⟩ :=
          @insertHead_free (e.2.head e.1) db hfits htexts (hfree.1 hfind)
        refine Transaction.succeeds_statement hinsert fun t ht => ?_
        rw [headOf_snoc hrows, if_neg (show ¬ (e.2.head e.1).tenantId = t from Ne.symm ht),
          Option.or_none]
    refine hone.bind fun _ db' hkept => ih hnames.2 hall.2 fun e' he' hfind => ?_
    rw [hkept e'.1 fun h => hnames.1 (h ▸ List.mem_map_of_mem he')]
    exact hfree.2 e' he' hfind

/-- The rows of a repairable ledger are sealed and linked from the genesis hash. -/
theorem Repairable.rows {rows : List EventRow} {head : Option HeadRow}
    (h : Repairable P F tenantId rows head) :
    (∃ last, Linked EventRow.previousHash EventRow.eventHash genesisAuditHash rows last) ∧
      ∀ row ∈ rows, Sealed P F tenantId row := by
  rcases h with h | ⟨-, -, last, h⟩
  · exact ⟨⟨_, h.linked⟩, h.sealing⟩
  · exact ⟨⟨_, h.linked⟩, h.sealing⟩

/-- Chained rows have the head that their last hash makes. -/
theorem Chained.head_eq {rows : List EventRow} {head : HeadRow} {last : Str}
    (h : Chained P F tenantId rows (some head)) (htenant : head.tenantId = tenantId)
    (hlast : Linked EventRow.previousHash EventRow.eventHash genesisAuditHash rows last) :
    head = ⟨tenantId, rows.length, lastId rows [], last⟩ := by
  have hc := h.counted
  have hhash : head.headHash = last := h.linked.last_unique hlast
  cases hrow : rows.getLast? with
  | none => rw [hrow] at hc; cases hc
  | some row =>
    rw [hrow, Option.map_some, Option.map_some] at hc
    obtain ⟨hcount, hid⟩ : head.eventCount = rows.length ∧ head.headEventId = row.eventId :=
      Prod.ext_iff.1 (Option.some.inj hc)
    obtain ⟨tenant, eventCount, headEventId, headHash⟩ := head
    obtain ⟨rfl, rfl, rfl, rfl⟩ : tenant = tenantId ∧ eventCount = rows.length ∧
        headEventId = row.eventId ∧ headHash = last := ⟨htenant, hcount, hid, hhash⟩
    rw [lastId_of_getLast? hrow]

theorem headOf_tenant {heads : Table headSchema} {head : HeadRow}
    (h : headOf heads tenantId = some head) : head.tenantId = tenantId := by
  have := List.find?_some h
  rwa [beq_iff_eq] at this

/-- Startup succeeds on a database whose events all have hashes and whose ledgers are repairable. -/
theorem ensureAuditChain_succeeds {db : RunDatabase} (hsha : ∀ b, isHex64 (P.sha256 b) = true)
    (hhashed : Hashed db)
    (h : ∀ t, Repairable P F t (eventsOf db t) (headOf db.heads t)) :
    ∃ db', ensureAuditChain P F [] db = (.ok (), db') := by
  have hmem (r : EventRow) : r ∈ byTenant db.events.rows ↔ r ∈ db.events.rows :=
    (byTenant_perm _).mem_iff
  have hrows : ((byTenant db.events.rows).foldlM (backfillRow P F) []).Succeeds db
      fun _ db' => db' = db := by
    refine backfillRows_succeeds db (fun r hr => hhashed r ((hmem r).1 hr)) (fun t => ?_)
      fun r hr => ?_
    · rw [rowsOf_byTenant]
      exact (h t).rows.1
    · exact (h r.tenantId).rows.2 r (List.mem_filter.2 ⟨(hmem r).1 hr, beq_self_eq_true _⟩)
  have hall : (ensureAuditChainLocked P F).Succeeds db fun _ _ => True := by
    refine .statement rfl ((hrows.does (backfillRows_does _ [])).bind ?_)
    rintro seen db₁ ⟨hdb, hwalked⟩
    subst hdb
    obtain ⟨f, hf⟩ := hwalked (byTenant_ids db₁) fun r hr => (hmem r).1 hr
    have hkept (t : Str) : (eventsOf db₁ t).map f = eventsOf db₁ t := by
      refine (List.map_congr_left fun r hr => ?_).trans (List.map_id _)
      have hr := (List.mem_filter.1 hr).1
      exact (hf.filled r ((hmem r).2 hr)).hashes.resolve_right fun hb => (hhashed r hr).1 hb.1
    refine .statement rfl (.compute ((check_ok (u := ())).2 fun head hhead => ?_) ?_)
    · -- a head that is stored is the head of chained rows, so there are rows
      rw [hf.known_iff]
      obtain ⟨stored, hstored⟩ : ∃ stored, headOf db₁.heads head.tenantId = some stored :=
        Option.isSome_iff_exists.1 (List.find?_isSome.2 ⟨head, hhead, beq_self_eq_true _⟩)
      have hrep := h head.tenantId
      rw [hstored] at hrep
      rcases hrep with hchained | ⟨hnone, -⟩
      · intro hempty
        have hc := hchained.counted
        rw [hempty] at hc
        cases hc
      · cases hnone
    · refine ensureHeads_succeeds (hf.names List.nodup_nil) (fun e he => ?_) fun _ _ hfind => hfind
      obtain ⟨hne, hcount, hid, hlinked⟩ := hf.entry he
      rw [hkept] at hlinked
      have hhead : e.2.head e.1 =
          ⟨e.1, (eventsOf db₁ e.1).length, lastId (eventsOf db₁ e.1) [], e.2.previousHash⟩ := by
        rw [Passed.head, hcount, hid]
      rcases h e.1 with hchained | ⟨hnone, hfits, -⟩
      · refine .inl ?_
        change headOf db₁.heads e.1 = _
        cases hstored : headOf db₁.heads e.1 with
        | none =>
          have hc := hchained.counted
          rw [hstored, Option.map_none, eq_comm, Option.map_eq_none_iff,
            List.getLast?_eq_none_iff] at hc
          exact absurd hc hne
        | some head =>
          rw [hstored] at hchained
          rw [hhead, ← hchained.head_eq (headOf_tenant hstored) hlinked]
      · refine .inr ⟨hnone, by rw [hcount]; exact hfits, ?_⟩
        obtain ⟨row, hlast⟩ : ∃ row, (eventsOf db₁ e.1).getLast? = some row :=
          Option.isSome_iff_exists.1 (by simp [hne])
        have hsealed := (h e.1).rows.2 row (List.mem_of_getLast? hlast)
        rw [← List.dropLast_append_getLast? _ hlast, linked_snoc] at hlinked
        rw [hid, lastId_of_getLast? hlast, ← hlinked.2]
        simp [hsealed.encodable.1, hsealed.encodable.2,
          encodable_of_isHex64 (hsealed.isHex64 hsha)]
  obtain ⟨_, db', hcommit, -⟩ := hall.commit
  exact ⟨db', hcommit⟩

/-! ## What startup does -/

/-- Startup leaves the database as it was, or it backfills it. -/
theorem ensureAuditChain_cases (faults : List (Option Exn)) (db : RunDatabase) :
    (∃ e, ensureAuditChain P F faults db = (.error e, db)) ∨
      ∃ db', ensureAuditChain P F faults db = (.ok (), db') ∧ Backfilled P F db db' ∧
        (Hashed db → db'.events = db.events) := by
  rcases Transaction.commit_cases ensureAuditChainLocked_does ⟨db, faults⟩ with
    ⟨e, h⟩ | ⟨_, db', h, hdone, hevents⟩
  · exact .inl ⟨e, h⟩
  · refine .inr ⟨db', h, hdone, fun hhashed => hevents fun row hrow hblank => ?_⟩
    exact (hhashed row hrow).1 hblank.1

theorem Backfilled.texts {db db' : RunDatabase} (h : Backfilled P F db db') :
    db'.events.rows.map (·.toEventTexts) = db.events.rows.map (·.toEventTexts) := by
  have hevents := h.events
  generalize db.events.rows = rows at hevents
  generalize db'.events.rows = rows' at hevents
  induction hevents with
  | nil => rfl
  | cons hrow _ ih => rw [List.map_cons, List.map_cons, hrow.texts, ih]

/-- The backfill keeps the ids of a tenant's events. -/
theorem Backfilled.lastId {db db' : RunDatabase} (h : Backfilled P F db db') (t : Str) :
    lastId (eventsOf db' t) [] = lastId (eventsOf db t) [] := by
  have hids (db : RunDatabase) : Ledger.lastId (eventsOf db t) [] =
      ((((db.events.rows.map (·.toEventTexts)).filter (·.tenantId == t)).getLast?).map
        (·.eventId)).getD [] := by
    rw [List.filter_map, List.getLast?_map, Option.map_map]
    rfl
  rw [hids, hids, h.texts]

/-- After the backfill every event has its hashes: each is a digest, or the genesis hash. -/
theorem Backfilled.hashed {db db' : RunDatabase} (h : Backfilled P F db db')
    (hsha : ∀ b, isHex64 (P.sha256 b) = true) : Hashed db' := by
  have hne {s : Str} (hs : isHex64 s = true) : s ≠ [] := by
    rintro rfl
    cases hs
  intro row hrow
  have hmem : row ∈ eventsOf db' row.tenantId := List.mem_filter.2 ⟨hrow, beq_self_eq_true _⟩
  have hsealed := (h.chained row.tenantId).sealing row hmem
  refine ⟨hne ?_, hne (hsealed.isHex64 hsha)⟩
  obtain ⟨_, -, hhash⟩ := hsealed
  obtain ⟨_, hprevious, -⟩ := exceptBind_ok hhash
  exact check_ok.1 hprevious

/-- What has been backfilled is left as it is by another startup. -/
theorem Backfilled.again {db db' : RunDatabase} (h : Backfilled P F db db')
    (hsha : ∀ b, isHex64 (P.sha256 b) = true) (faults : List (Option Exn)) :
    (ensureAuditChain P F faults db').2 = db' := by
  rcases ensureAuditChain_cases (P := P) (F := F) faults db' with
    ⟨e, heq⟩ | ⟨db'', heq, hagain, hevents⟩
  · rw [heq]
  · rw [heq]
    have hheads : db''.heads = db'.heads := by
      refine hagain.same fun row hrow => ?_
      have hc := (h.chained row.tenantId).counted
      have hmem : row ∈ eventsOf db' row.tenantId :=
        List.mem_filter.2 ⟨hrow, beq_self_eq_true _⟩
      obtain ⟨last, hlast⟩ : ∃ last, (eventsOf db' row.tenantId).getLast? = some last :=
        Option.isSome_iff_exists.1 (by simp [List.ne_nil_of_mem hmem])
      rw [hlast, Option.map_some, Option.map_eq_some_iff] at hc
      obtain ⟨head, hhead, -⟩ := hc
      rw [hhead]
      rfl
    obtain ⟨runs, events, heads, sessions⟩ := db''
    obtain ⟨rfl, rfl, rfl, rfl⟩ : runs = db'.runs ∧ events = db'.events ∧ heads = db'.heads ∧
        sessions = db'.sessions :=
      ⟨hagain.runs, hevents (h.hashed hsha), hheads, hagain.sessions⟩
    rfl

/-- The tenant's ledger verifies. -/
def Verifies (P : Platform) (F : Floats) (db : RunDatabase) (tenantId : Str)
    (oracle : Oracle outside) : Prop :=
  ∃ checkpoint : AuditChainCheckpoint, (verifyAuditChain P tenantId).eval
    (Section.run P (F := F)) oracle db = (.ok checkpoint, db)

/-- Chained rows verify, when the last has an id. -/
theorem verifies_iff {db : RunDatabase} {oracle : Oracle outside}
    (hsha : ∀ b, isHex64 (P.sha256 b) = true) (hencodable : Py.encodable tenantId = true) :
    Verifies P F db tenantId oracle ↔ Py.strip tenantId ≠ [] ∧
      Chained P F tenantId (eventsOf db tenantId) (headOf db.heads tenantId) ∧
        (eventsOf db tenantId ≠ [] → lastId (eventsOf db tenantId) [] ≠ []) := by
  rw [← verifyRead_ok_iff hsha (oracle .clock).nonempty]
  obtain ⟨hresult, hdb⟩ := verifyAuditChain_ends (P := P) (F := F) oracle db hencodable
  refine exists_congr fun c => ?_
  constructor
  · intro h
    rw [h] at hresult
    exact hresult.symm
  · intro h
    exact Prod.ext (hresult.trans h) hdb

/-- The chain of a tenant's events ends in exactly this head. -/
def EndsIn (rows : List EventRow) (head : HeadRow) : Prop :=
  Linked EventRow.previousHash EventRow.eventHash genesisAuditHash rows head.headHash ∧
    head.eventCount = rows.length ∧ head.headEventId = lastId rows []

/-- Startup on any database, with any of its statements free to fail: it raises and leaves the
database as it was, or it writes hashes only where there were none, keeps every head that was there
as the end of its chain, leaves nothing for another startup to do, and makes the ledger verify of
every tenant whose last event has an id. -/
theorem startup_backfills (P : Platform) (F : Floats) (hsha : ∀ b, isHex64 (P.sha256 b) = true)
    (faults : List (Option Exn)) (db : RunDatabase) :
    (∃ e, ensureAuditChain P F faults db = (.error e, db)) ∨
      ∃ db', ensureAuditChain P F faults db = (.ok (), db') ∧
        List.Forall₂ Filled db.events.rows db'.events.rows ∧
        db'.runs = db.runs ∧ db'.sessions = db.sessions ∧
        ensureAuditChain P F [] db' = (.ok (), db') ∧
        (∀ faults', (ensureAuditChain P F faults' db').2 = db') ∧
        (∀ tenantId head, headOf db.heads tenantId = some head →
          headOf db'.heads tenantId = some head ∧ EndsIn (eventsOf db' tenantId) head) ∧
        ∀ tenantId oracle, Py.strip tenantId ≠ [] → Py.encodable tenantId = true →
          (eventsOf db tenantId ≠ [] → lastId (eventsOf db tenantId) [] ≠ []) →
            Verifies P F db' tenantId oracle := by
  rcases ensureAuditChain_cases (P := P) (F := F) faults db with h | ⟨db', h, hdone, -⟩
  · exact .inl h
  · have hagain : ensureAuditChain P F [] db' = (.ok (), db') := by
      obtain ⟨db'', hok⟩ :=
        ensureAuditChain_succeeds hsha (hdone.hashed hsha) fun t => .inl (hdone.chained t)
      have hsame := hdone.again hsha []
      rw [hok] at hsame ⊢
      rw [show db'' = db' from hsame]
    refine .inr ⟨db', h, hdone.events, hdone.runs, hdone.sessions, hagain, hdone.again hsha,
      fun t head hhead => ?_, fun t oracle hblank hencodable hnamed => ?_⟩
    · have hkept := headOf_kept hdone.heads hhead
      have hchained := hdone.chained t
      rw [hkept] at hchained
      have hlinked := hchained.linked
      rw [Option.elim_some] at hlinked
      refine ⟨hkept, hlinked, ?_⟩
      have heq := hchained.head_eq (headOf_tenant hkept) hlinked
      exact ⟨congrArg HeadRow.eventCount heq, congrArg HeadRow.headEventId heq⟩
    · refine (verifies_iff hsha hencodable).2 ⟨hblank, hdone.chained t, fun hne => ?_⟩
      rw [hdone.lastId]
      refine hnamed fun hempty => hne ?_
      have := congrArg (List.filter (·.tenantId == t)) hdone.texts
      rw [List.filter_map, List.filter_map] at this
      have hmap : (eventsOf db' t).map (·.toEventTexts) = (eventsOf db t).map (·.toEventTexts) :=
        this
      rw [hempty, List.map_nil, List.map_eq_nil_iff] at hmap
      exact hmap

namespace Sample

/-- A database of one event and these heads. -/
def ledger (row : EventRow) (heads : List HeadRow)
    (h : heads.Pairwise fun r s => headSchema.clash (headSchema.key r) (headSchema.key s) = false) :
    RunDatabase :=
  { RunDatabase.empty with events := ⟨[row], List.pairwise_singleton _ _⟩, heads := ⟨heads, h⟩ }

/-- The sample event as it was before there were hashes. -/
def legacy : EventRow := { row "\x7b\x7d" with previousHash := [], eventHash := [] }

/-- The legacy event without an id, and a SHA-256 that has its digest. -/
def unnamed : EventRow := { legacy with eventId := [] }

def unnamedPlatform : Platform where
  sha256 _ := Py.lit "8c03d345bde1825eebbfe4799397f8ac5bf83231ac7d1418b7f9a4f0e23c3a4d"
  loads _ := .decodeError
  fromisoformat _ := none
  urlsplit _ := none
  hmacSha1 _ _ := []

end Sample

theorem startup_backfills_one : ∃ db',
    ensureAuditChain Sample.platform Sample.floats [] (Sample.ledger Sample.legacy [] .nil) =
      (.ok (), db') ∧
      Verifies Sample.platform Sample.floats db' (Py.lit "t") Sample.oracle := by
  rcases startup_backfills Sample.platform Sample.floats
    (fun _ => show isHex64 Sample.digest = true by decide) []
    (Sample.ledger Sample.legacy [] .nil) with ⟨e, h⟩ | ⟨db', h, -, -, -, -, -, -, hverifies⟩
  · have hok : (ensureAuditChain Sample.platform Sample.floats []
        (Sample.ledger Sample.legacy [] .nil)).1 = .ok () := by decide
    rw [h] at hok
    cases hok
  · exact ⟨db', h, hverifies (Py.lit "t") Sample.oracle (by decide) (by decide)
      fun _ => by decide⟩

/-- Startup gives an event without an id its hashes and a head, and that ledger does not verify. -/
theorem unnamed_event_raises :
    (ensureAuditChain Sample.unnamedPlatform Sample.floats []
        (Sample.ledger Sample.unnamed [] .nil)).1 = .ok () ∧
      ((verifyAuditChain Sample.unnamedPlatform (Py.lit "t")).eval
        (Section.run Sample.unnamedPlatform (F := Sample.floats)) Sample.oracle
        (ensureAuditChain Sample.unnamedPlatform Sample.floats []
          (Sample.ledger Sample.unnamed [] .nil)).2).1 =
        .error (.valueError "audit checkpoint head event is required") :=
  ⟨by decide, rfl⟩

/-- Something is wrong with a ledger that startup does not put right: its hashes do not chain, or
the head that it has is not the end of the chain. -/
def Damaged (P : Platform) (F : Floats) (db : RunDatabase) : Prop :=
  ∃ tenantId, ¬ Repairable P F tenantId (eventsOf db tenantId) (headOf db.heads tenantId)

/-- A ledger that startup accepted was repairable. -/
theorem Backfilled.repairable {db db' : RunDatabase} (h : Backfilled P F db db')
    (hevents : db'.events = db.events) (t : Str) :
    Repairable P F t (eventsOf db t) (headOf db.heads t) := by
  have hrows : eventsOf db' t = eventsOf db t := by rw [eventsOf, hevents, eventsOf]
  have hchained := h.chained t
  rw [hrows] at hchained
  cases hhead : headOf db.heads t with
  | some head =>
    rw [headOf_kept h.heads hhead] at hchained
    exact .inl hchained
  | none =>
    cases hhead' : headOf db'.heads t with
    | none =>
      rw [hhead'] at hchained
      exact .inl hchained
    | some head =>
      rw [hhead'] at hchained
      refine .inr ⟨rfl, ?_, head.headHash, ?_⟩
      · cases hempty : eventsOf db t with
        | nil => exact Nat.two_pow_pos 63
        | cons row rows =>
          have hrow : row ∈ eventsOf db t := by
            rw [hempty]
            exact List.mem_cons_self
          obtain ⟨hrow, htenant⟩ := List.mem_filter.1 hrow
          rw [beq_iff_eq] at htenant
          rw [← hempty, ← htenant]
          exact h.fits row hrow (htenant ▸ hhead)
      · have hlinked := hchained.linked
        rw [Option.elim_some] at hlinked
        rw [← hchained.head_eq (headOf_tenant hhead') hlinked]
        exact hchained

/-- The head that a tenant with events has is the one that startup leaves it with. -/
theorem Backfilled.head_eq {db db' : RunDatabase} (h : Backfilled P F db db')
    (hevents : db'.events = db.events) {t : Str}
    (hhead : eventsOf db t ≠ [] → (headOf db.heads t).isSome = true) :
    headOf db'.heads t = headOf db.heads t := by
  cases hold : headOf db.heads t with
  | some head => exact headOf_kept h.heads hold
  | none =>
    rw [hold] at hhead
    have hempty : eventsOf db t = [] := by
      by_contra hne
      cases hhead hne
    have hc := (h.chained t).counted
    rw [eventsOf, hevents, ← eventsOf, hempty] at hc
    simpa using hc

/-- Where every event has its hashes, startup refuses each database of which some ledger does not
verify, if and only if a ledger is damaged by more than a missing head, or every tenant with events
has its head row and an id in its last event. -/
theorem startup_refuses_iff (P : Platform) (F : Floats) (hsha : ∀ b, isHex64 (P.sha256 b) = true)
    (oracle : Oracle outside) (db : RunDatabase) (hhashed : Hashed db) :
    ((∃ tenantId, Py.strip tenantId ≠ [] ∧ Py.encodable tenantId = true ∧
        ¬ Verifies P F db tenantId oracle) →
      ∀ faults, ∃ e, ensureAuditChain P F faults db = (.error e, db)) ↔
    Damaged P F db ∨ ∀ row ∈ db.events.rows, Py.strip row.tenantId ≠ [] →
      (headOf db.heads row.tenantId).isSome = true ∧
        lastId (eventsOf db row.tenantId) [] ≠ [] := by
  constructor
  · intro hrefuses
    by_contra hnot
    rw [not_or] at hnot
    obtain ⟨hsound, hnot⟩ := hnot
    have hrep : ∀ t, Repairable P F t (eventsOf db t) (headOf db.heads t) := fun t => by
      by_contra h
      exact hsound ⟨t, h⟩
    refine hnot fun row hrow hblank => ?_
    have hmem : row ∈ eventsOf db row.tenantId := List.mem_filter.2 ⟨hrow, beq_self_eq_true _⟩
    have hencodable := ((hrep row.tenantId).rows.2 row hmem).encodable.1
    by_contra hbad
    have hraises : ¬ Verifies P F db row.tenantId oracle := by
      intro hverifies
      obtain ⟨-, hchained, hnamed⟩ := (verifies_iff hsha hencodable).1 hverifies
      refine hbad ⟨?_, hnamed (List.ne_nil_of_mem hmem)⟩
      obtain ⟨last, hlast⟩ : ∃ last, (eventsOf db row.tenantId).getLast? = some last :=
        Option.isSome_iff_exists.1 (by simp [List.ne_nil_of_mem hmem])
      have hc := hchained.counted
      rw [hlast, Option.map_some, Option.map_eq_some_iff] at hc
      obtain ⟨head, hhead, -⟩ := hc
      rw [hhead, Option.isSome_some]
    obtain ⟨db', hok⟩ := ensureAuditChain_succeeds hsha hhashed hrep
    obtain ⟨e, herr⟩ := hrefuses ⟨row.tenantId, hblank, hencodable, hraises⟩ []
    rw [hok] at herr
    cases herr
  · rintro hcond ⟨t, hblank, hencodable, hraises⟩ faults
    rcases ensureAuditChain_cases (P := P) (F := F) faults db with
      h | ⟨db', -, hdone, hevents⟩
    · exact h
    · have hevents := hevents hhashed
      exfalso
      rcases hcond with ⟨t', hdamaged⟩ | hheads
      · exact hdamaged (hdone.repairable hevents t')
      · have hrow (hne : eventsOf db t ≠ []) :
            (headOf db.heads t).isSome = true ∧ lastId (eventsOf db t) [] ≠ [] := by
          obtain ⟨row, hmem⟩ := List.exists_mem_of_ne_nil _ hne
          obtain ⟨hmem, htenant⟩ := List.mem_filter.1 hmem
          rw [beq_iff_eq] at htenant
          exact htenant ▸ hheads row hmem (htenant ▸ hblank)
        have hchained := hdone.chained t
        rw [eventsOf, hevents, ← eventsOf, hdone.head_eq hevents fun hne => (hrow hne).1] at hchained
        exact hraises ((verifies_iff hsha hencodable).2 ⟨hblank, hchained, fun hne => (hrow hne).2⟩)

namespace Sample

/-- The sample ledger with these heads. -/
def sealed (heads : List HeadRow)
    (h : heads.Pairwise fun r s => headSchema.clash (headSchema.key r) (headSchema.key s) = false) :
    RunDatabase :=
  ledger (row "\x7b\x7d") heads h

/-- The sample ledger after the removal of a second event. -/
def truncated : RunDatabase := sealed [{ head with eventCount := 2 }] (List.pairwise_singleton _ _)

end Sample

theorem startup_refuses_truncated :
    ∃ e, ensureAuditChain Sample.platform Sample.floats [] Sample.truncated =
      (.error e, Sample.truncated) := by
  have hsha (b : Bytes) : isHex64 (Sample.platform.sha256 b) = true :=
    show isHex64 Sample.digest = true by decide
  have hencodable : Py.encodable (Py.lit "t") = true := by decide
  have hchained : ¬ Chained Sample.platform Sample.floats (Py.lit "t")
      (eventsOf Sample.truncated (Py.lit "t")) (headOf Sample.truncated.heads (Py.lit "t")) :=
    fun h => absurd h.counted (by decide)
  refine (startup_refuses_iff Sample.platform Sample.floats hsha Sample.oracle Sample.truncated
    (List.forall_mem_singleton.2 (by decide))).2 (.inl ⟨Py.lit "t", ?_⟩)
    ⟨Py.lit "t", by decide, hencodable, fun h => ?_⟩ []
  · rintro (h | ⟨hnone, -⟩)
    · exact hchained h
    · exact absurd hnone (by decide)
  · exact hchained ((verifies_iff hsha hencodable).1 h).2.1

/-- Startup inserts the head that was removed, and then the ledger verifies. -/
theorem removed_head_restored :
    Hashed (Sample.sealed [] .nil) ∧
      ((verifyAuditChain Sample.platform (Py.lit "t")).eval
        (Section.run Sample.platform (F := Sample.floats)) Sample.oracle (Sample.sealed [] .nil)).1 =
        .error (.auditIntegrity "audit chain head does not match events") ∧
      (ensureAuditChain Sample.platform Sample.floats [] (Sample.sealed [] .nil)).1 = .ok () ∧
      ((verifyAuditChain Sample.platform (Py.lit "t")).eval
        (Section.run Sample.platform (F := Sample.floats)) Sample.oracle
        (ensureAuditChain Sample.platform Sample.floats [] (Sample.sealed [] .nil)).2).1 =
        .ok Sample.checkpoint :=
  ⟨List.forall_mem_singleton.2 (by decide), rfl, by decide, rfl⟩

end Ledger

end AgencyRuntime
