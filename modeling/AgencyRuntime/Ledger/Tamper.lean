import AgencyRuntime.Ledger.Atomic

/-!
# Tamper evidence

A verification that succeeds has read sealed, linked rows (`verifyAuditChain_spec`). The bytes that
a row hashes determine its fields (`rowBytes_inj`), so where SHA-256 does not collide on the rows of
two ledgers and never yields the genesis hash on them, the head hash determines the ledger.
-/

namespace AgencyRuntime

open Effects Chains

namespace Ledger

variable {P : Platform} {F : Floats} {tenantId : Str}

/-- What a verification has done when it returned: it has read rows, a head and the clock. -/
def verifyTrace (tenantId : Str) (rows : List EventRow) (head : Option HeadRow) (now : Instant) :
    Trace (outside.sum (sections F)) :=
  [.store (.selectEvents tenantId) (.ok rows), .store (.selectHead tenantId) (.ok head),
    .outside .clock now]

/-- A verification that returns has verified what it read. -/
theorem verifyAuditChain_spec :
    (verifyAuditChain P (F := F) tenantId).Spec (fun _ _ => True) (fun t r => ∀ c, r = .ok c →
      ∃ rows head now, t = verifyTrace tenantId rows head now ∧
        verifyRead P F tenantId rows head now.text = .ok c) [] := by
  refine (Prog.Spec_ofExcept_bind _ _ _).2 ⟨nofun, fun _ htenant => ?_⟩
  refine (Prog.Spec_call_bind _ _).2 ⟨trivial, fun rows => ?_⟩
  refine (Prog.Spec_ofExcept_bind _ _ _).2 ⟨nofun, fun rows hrows => ?_⟩
  refine (Prog.Spec_ofExcept_bind _ _ _).2 ⟨nofun, fun seen hseen => ?_⟩
  refine (Prog.Spec_call_bind _ _).2 ⟨trivial, fun head => ?_⟩
  refine (Prog.Spec_ofExcept_bind _ _ _).2 ⟨nofun, fun head hhead => ?_⟩
  refine (Prog.Spec_ofExcept_bind _ _ _).2 ⟨nofun, fun _ hcheck => ?_⟩
  refine (Prog.Spec_ask_bind _ _).2 ⟨trivial, fun now => ?_⟩
  refine (Prog.Spec_ofExcept_bind _ _ _).2 ⟨nofun, fun _ hpost => ?_⟩
  intro c hc
  cases hc
  subst hrows hhead
  refine ⟨rows, head, now, rfl, ?_⟩
  simp only [verifyRead, htenant, hseen, hcheck, hpost, bind, Except.bind, pure, Except.pure]

/-- The texts of a row that are hashed. -/
def hashedTexts (tenantId : Str) (row : EventRow) : EventTexts :=
  { row.toEventTexts with tenantId := tenantId }

/-- The bytes a verification hashes for a row. -/
def rowBytes (F : Floats) (tenantId : Str) (row : EventRow) : Bytes :=
  match jsonLoads F row.payloadJson with
  | .ok payload =>
    Py.utf8 (canonicalText (auditDocument (hashedTexts tenantId row) row.previousHash payload))
  | .error _ => []

/-- Two rows agree on every field that is hashed, and on the payload as a JSON value. -/
structure Agree (F : Floats) (tenantId : Str) (row row' : EventRow) : Prop where
  texts : hashedTexts tenantId row = hashedTexts tenantId row'
  previousHash : row.previousHash = row'.previousHash
  payload : ∃ j j', jsonLoads F row.payloadJson = .ok j ∧ jsonLoads F row'.payloadJson = .ok j' ∧
    j.normal = j'.normal

theorem auditDocument_wellFormed {e : EventTexts} {previousHash : Str} {payload : Json}
    (h : payload.WellFormed F) : (auditDocument e previousHash payload).WellFormed F := by
  refine .arr ?_
  simp only [List.mem_cons, List.not_mem_nil, or_false]
  rintro x (rfl | rfl | rfl | rfl | rfl | rfl | rfl | rfl | rfl | rfl | rfl)
  all_goals first | exact h | exact .str _

/-- The hash of a sealed row is the digest of its bytes. -/
theorem Sealed.digest {row : EventRow} (h : Sealed P F tenantId row) :
    P.sha256 (rowBytes F tenantId row) = row.eventHash := by
  obtain ⟨payload, hpayload, hhash⟩ := h
  obtain ⟨_, -, hhash⟩ := exceptBind_ok hhash
  obtain ⟨text, htext, hhash⟩ := exceptBind_ok hhash
  obtain ⟨bytes, hbytes, hhash⟩ := exceptBind_ok hhash
  rw [Option.map_some, dumps,
    canonicalJson_wellFormed (auditDocument_wellFormed (jsonLoads_wellFormed hpayload))] at htext
  obtain ⟨-, rfl⟩ := Py.encode_ok.1 hbytes
  rw [← Except.ok.inj hhash, rowBytes, hpayload, ← Except.ok.inj htext, hashedTexts]

/-- The bytes of sealed rows determine their fields. -/
theorem rowBytes_inj {row row' : EventRow} (h : Sealed P F tenantId row)
    (h' : Sealed P F tenantId row') (hbytes : rowBytes F tenantId row = rowBytes F tenantId row') :
    Agree F tenantId row row' := by
  obtain ⟨j, hj, -⟩ := h
  obtain ⟨j', hj', -⟩ := h'
  rw [rowBytes, rowBytes, hj, hj'] at hbytes
  have hnormal := normal_eq_of_canonicalText
    (auditDocument_wellFormed (jsonLoads_wellFormed hj))
    (auditDocument_wellFormed (jsonLoads_wellFormed hj')) (Py.utf8_inj hbytes)
  simp only [auditDocument, Json.normal, normalItems, Json.arr.injEq, List.cons.injEq,
    Json.str.injEq, true_and, and_true] at hnormal
  obtain ⟨hid, -, hrequest, htime, haction, htype, hresource, hactor, hpayload, hprev⟩ := hnormal
  refine ⟨?_, hprev, j, j', hj, hj', hpayload⟩
  simp only [hashedTexts] at hid hrequest htime haction htype hresource hactor ⊢
  rw [hid, hrequest, htime, haction, htype, hresource, hactor]

/-- What a verification that succeeded says of the rows. -/
theorem verifyRead_ok {rows : List EventRow} {head : Option HeadRow} {now : Str}
    {c : AuditChainCheckpoint} (h : verifyRead P F tenantId rows head now = .ok c) :
    c.eventCount = rows.length ∧ (∀ row ∈ rows, Sealed P F tenantId row) ∧
      Linked EventRow.previousHash EventRow.eventHash genesisAuditHash rows c.headHash := by
  obtain ⟨_, -, h⟩ := exceptBind_ok h
  obtain ⟨seen, hseen, h⟩ := exceptBind_ok h
  obtain ⟨_, -, h⟩ := exceptBind_ok h
  obtain ⟨_, -, h⟩ := exceptBind_ok h
  cases h
  obtain ⟨hlinked, hsealed, -⟩ := checkRows_ok.1 hseen
  exact ⟨rfl, hsealed, hlinked⟩

/-- A verification that returned has verified the rows it read. -/
theorem verifyAuditChain_path {t : Trace (outside.sum (sections F))} {c : AuditChainCheckpoint}
    {rows : List EventRow} (h : Prog.Path (verifyAuditChain P tenantId) t (.ret c))
    (hrows : .store (.selectEvents tenantId) (.ok rows) ∈ t) :
    ∃ head now, verifyRead P F tenantId rows head now = .ok c := by
  obtain ⟨read, head, now, ht, hverify⟩ := verifyAuditChain_spec.path h c rfl
  rw [List.nil_append] at ht
  subst ht
  refine ⟨head, now.text, ?_⟩
  simp only [verifyTrace, List.mem_cons, List.not_mem_nil, or_false] at hrows
  rcases hrows with heq | heq | heq
  · cases heq
    exact hverify
  · cases heq
  · cases heq

/-- Two ledgers of a tenant, of any rows, that were read and verified with the same head hash have
the same number of events and agree event by event, provided that SHA-256 does not collide on their
rows and yields the genesis hash on none of them. -/
theorem head_hash_determines_ledger {t t' : Trace (outside.sum (sections F))}
    {c c' : AuditChainCheckpoint} {rows rows' : List EventRow}
    (h : Prog.Path (verifyAuditChain P tenantId) t (.ret c))
    (h' : Prog.Path (verifyAuditChain P tenantId) t' (.ret c'))
    (hrows : .store (.selectEvents tenantId) (.ok rows) ∈ t)
    (hrows' : .store (.selectEvents tenantId) (.ok rows') ∈ t')
    (hinjective : ∀ row ∈ rows, ∀ row' ∈ rows',
      P.sha256 (rowBytes F tenantId row) = P.sha256 (rowBytes F tenantId row') →
        rowBytes F tenantId row = rowBytes F tenantId row')
    (hgenesis : ∀ row ∈ rows ++ rows', P.sha256 (rowBytes F tenantId row) ≠ genesisAuditHash)
    (hhead : c.headHash = c'.headHash) :
    c.eventCount = c'.eventCount ∧ List.Forall₂ (Agree F tenantId) rows rows' := by
  obtain ⟨head, now, hverify⟩ := verifyAuditChain_path h hrows
  obtain ⟨head', now', hverify'⟩ := verifyAuditChain_path h' hrows'
  obtain ⟨hcount, hsealed, hlinked⟩ := verifyRead_ok hverify
  obtain ⟨hcount', hsealed', hlinked'⟩ := verifyRead_ok hverify'
  rw [List.forall_mem_append] at hgenesis
  rw [← hhead] at hlinked'
  have hagree : List.Forall₂ (Agree F tenantId) rows rows' := by
    refine hlinked.unique hlinked' (fun row hrow row' hrow' heq => ?_)
      (fun row hrow => ?_) fun row' hrow' => ?_
    · rw [← (hsealed row hrow).digest, ← (hsealed' row' hrow').digest] at heq
      have := rowBytes_inj (hsealed row hrow) (hsealed' row' hrow')
        (hinjective row hrow row' hrow' heq)
      exact ⟨this, this.previousHash⟩
    · rw [← (hsealed row hrow).digest]
      exact hgenesis.1 row hrow
    · rw [← (hsealed' row' hrow').digest]
      exact hgenesis.2 row' hrow'
  exact ⟨by rw [hcount, hcount', hagree.length_eq], hagree⟩

/-- What verifies is what a verification returns with. -/
theorem verifyRead_path {rows : List EventRow} {head : Option HeadRow} (now : Instant)
    {c : AuditChainCheckpoint} (h : verifyRead P F tenantId rows head now.text = .ok c) :
    Prog.Path (verifyAuditChain (F := F) P tenantId) (verifyTrace tenantId rows head now)
      (.ret c) := by
  obtain ⟨_, htenant, h⟩ := exceptBind_ok h
  obtain ⟨seen, hseen, h⟩ := exceptBind_ok h
  obtain ⟨_, hcheck, h⟩ := exceptBind_ok h
  obtain ⟨_, hpost, h⟩ := exceptBind_ok h
  cases h
  simp only [verifyAuditChain, Prog.bind_eq, htenant, Prog.ofExcept_ok, Prog.ret_bind]
  refine .cons ?_
  simp only [Prog.ret_bind, Prog.ofExcept_ok, hseen]
  refine .cons ?_
  simp only [Prog.ret_bind, Prog.ofExcept_ok, hcheck]
  refine .cons ?_
  simp only [Prog.ret_bind, Prog.ofExcept_ok, hpost]
  exact .nil

namespace Sample

/-- The event of the sample audit, with a payload that holds blanks. -/
def row (payloadJson : String) : EventRow where
  eventId := Py.lit "e"
  tenantId := Py.lit "t"
  requestId := Py.lit "r"
  occurredAt := instant
  action := Py.lit "a"
  resourceType := Py.lit "x"
  resourceId := Py.lit "i"
  actor := Py.lit "u"
  payloadJson := Py.lit payloadJson
  previousHash := genesisAuditHash
  eventHash := digest

def head : HeadRow := ⟨Py.lit "t", 1, Py.lit "e", digest⟩

def checkpoint : AuditChainCheckpoint := ⟨Py.lit "t", 1, Py.lit "e", digest, instant⟩

end Sample

theorem head_hash_determines_ledger_one :
    List.Forall₂ (Agree Sample.floats (Py.lit "t"))
      [Sample.row "\x7b\x7d"] [Sample.row "\x7b \x7d"] := by
  have h : verifyRead Sample.platform Sample.floats (Py.lit "t") [Sample.row "\x7b\x7d"]
      (some Sample.head) Sample.instant = .ok Sample.checkpoint := rfl
  have h' : verifyRead Sample.platform Sample.floats (Py.lit "t") [Sample.row "\x7b \x7d"]
      (some Sample.head) Sample.instant = .ok Sample.checkpoint := rfl
  refine (head_hash_determines_ledger (verifyRead_path (Sample.oracle .clock) h)
    (verifyRead_path (Sample.oracle .clock) h') (.head _) (.head _) ?_ ?_ rfl).2
  · decide
  · decide

end Ledger

end AgencyRuntime
