import AgencyRuntime.Ledger.Atomic

/-!
# Verification next to appends

A run interleaves the locked sections of any number of calls, one for each thread. A section
appends one event of a tenant or leaves every ledger alone (`Section.run_ledger`), so every ledger
is intact at every instant. `verify_audit_chain` reads the events in one section and the head in
another: it finds them of one instant exactly when no event of the tenant was appended in between.
-/

namespace AgencyRuntime

open Effects Tables Chains

namespace Ledger

variable {P : Platform} {F : Floats}

/-! ## Sections -/

/-- The section appended an event of the tenant. -/
def Section.appends (tenantId : Str) : (o : Section F) → (sections F).Ans o → Bool
  | .appendAudit tenant _ _, answer => tenant == tenantId && answer.toBool
  | .create row audit _, answer => audit.isSome && row.tenantId == tenantId && answer.toBool
  | .save tenant _ _ _ _ audit _, answer => audit.isSome && tenant == tenantId && answer.toBool
  | .createSession row .., answer => row.tenantId == tenantId && answer.toBool
  | .revokeSession tenant .., answer => tenant == tenantId && answer.toBool
  | .selectEvent .., _ | .selectEvents _, _ | .selectHead _, _ => false

/-- What a section does to the ledgers: it appends one event of a tenant, or nothing changes. -/
def Section.Effect (P : Platform) (o : Section F) (answer : (sections F).Ans o)
    (db db' : RunDatabase) : Prop :=
  (∃ tenant, (∀ tenantId, o.appends tenantId answer = (tenant == tenantId)) ∧
    EventAppended P F tenant db db') ∨
    (∀ tenantId, o.appends tenantId answer = false) ∧ SameLedger db db'

theorem SameLedger.rfl {db : RunDatabase} : SameLedger db db := ⟨.refl _, .refl _⟩

theorem Section.run_ledger (o : Section F) (db : RunDatabase) :
    o.Effect P (o.run P db).1 db (o.run P db).2 := by
  cases o with
  | appendAudit tenantId audit reading =>
    simp only [Section.run]
    refine Transaction.commit_elim (appendAuditLocked_does audit _) _ (fun _ => ?_) ?_
    · exact .inr ⟨fun _ => by simp [Section.appends, Except.toBool], .rfl⟩
    · rintro _ _ ⟨row, -, happended⟩
      exact .inl ⟨tenantId, fun _ => by simp [Section.appends, Except.toBool],
        row, db, .rfl, happended⟩
  | create row audit reading =>
    simp only [Section.run]
    refine Transaction.commit_elim (createLocked_does row audit _) _ (fun _ => ?_) ?_
    · exact .inr ⟨fun _ => by simp [Section.appends, Except.toBool], .rfl⟩
    · intro _ _ h
      have hledger := WithOptional.ledger h fun _ _ => RunCreated.sameLedger
      split at hledger
      · next haudit =>
        exact .inl ⟨row.tenantId, fun _ => by simp [Section.appends, Except.toBool, haudit], hledger⟩
      · next haudit =>
        exact .inr ⟨fun _ => by simp [Section.appends, haudit], hledger⟩
  | save tenantId runId status documentJson expectedStatus audit reading =>
    simp only [Section.run]
    refine Transaction.commit_elim (saveLocked_does tenantId runId status documentJson
      expectedStatus audit _) _ (fun _ => ?_) ?_
    · exact .inr ⟨fun _ => by simp [Section.appends, Except.toBool], .rfl⟩
    · intro _ _ h
      have hledger := WithOptional.ledger h fun _ _ => RunSaved.sameLedger
      split at hledger
      · next haudit =>
        exact .inl ⟨tenantId, fun _ => by simp [Section.appends, Except.toBool, haudit], hledger⟩
      · next haudit =>
        exact .inr ⟨fun _ => by simp [Section.appends, haudit], hledger⟩
  | createSession row sessionToken csrfToken requestId actor reading =>
    simp only [Section.run]
    refine Transaction.commit_elim (createSessionLocked_does _ _ _ _ _ _) _ (fun _ => ?_) ?_
    · exact .inr ⟨fun _ => by simp [Section.appends, Except.toBool], .rfl⟩
    · rintro _ _ ⟨_, _, -, -, h⟩
      exact .inl ⟨row.tenantId, fun _ => by simp [Section.appends, Except.toBool],
        WithEvent.eventAppended h fun _ _ => SessionCreated.sameLedger⟩
  | revokeSession tenantId sessionId revokedAt requestId actor reading =>
    simp only [Section.run]
    refine Transaction.commit_elim (revokeSessionLocked_does _ _ _ _ _ _) _ (fun _ => ?_) ?_
    · exact .inr ⟨fun _ => by simp [Section.appends, Except.toBool], .rfl⟩
    · intro _ _ h
      exact .inl ⟨tenantId, fun _ => by simp [Section.appends, Except.toBool],
        WithEvent.eventAppended h fun _ _ => SessionRevoked.sameLedger⟩
  | selectEvent | selectEvents | selectHead => exact .inr ⟨fun _ => rfl, .rfl⟩

section
variable {o : Section F} {answer : (sections F).Ans o} {db db' : RunDatabase} {tenantId : Str}

theorem Section.Effect.intact (h : o.Effect P answer db db') (hdb : db.Intact P F) :
    db'.Intact P F := by
  rcases h with ⟨_, -, happended⟩ | ⟨-, hsame⟩
  · exact happended.intact hdb
  · exact hdb.of_eq hsame.1 hsame.2

theorem Section.Effect.count (h : o.Effect P answer db db') :
    (eventsOf db' tenantId).length =
      (eventsOf db tenantId).length + if o.appends tenantId answer then 1 else 0 := by
  rcases h with ⟨tenant, happends, happended⟩ | ⟨happends, hsame⟩
  · simp [happended.count tenantId, happends]
  · simp [eventsOf, hsame.1, happends]

/-- A section that appends no event of the tenant leaves its events and its head alone. -/
theorem Section.Effect.unchanged (h : o.Effect P answer db db')
    (hquiet : o.appends tenantId answer = false) :
    eventsOf db' tenantId = eventsOf db tenantId ∧
      headOf db'.heads tenantId = headOf db.heads tenantId := by
  rcases h with ⟨tenant, happends, row, middle, hsame, happended⟩ | ⟨-, hsame⟩
  · rw [happends, beq_eq_false_iff_ne] at hquiet
    rw [eventsOf_append tenantId happended.events, happended.tenant, if_neg hquiet, happended.heads,
      headOf_upsertHead, if_neg hquiet, eventsOf, hsame.1, hsame.2]
    exact ⟨rfl, rfl⟩
  · rw [eventsOf, hsame.1, hsame.2]
    exact ⟨rfl, rfl⟩

end

/-! ## Runs -/

/-- The store as a service: a crash leaves the database as it is. -/
def service (P : Platform) (F : Floats) : Service (sections F) RunDatabase Empty where
  run _ o db := some (o.run P db)
  crash _ db := db
  env x _ := x.elim

/-- A log of the store. -/
abbrev History (F : Floats) := Log (outside.sum (sections F)) Empty

/-- The state of a run. -/
abbrev State (F : Floats) := Config (outside.sum (sections F)) Exn CallResult RunDatabase

/-- Steps of the store. -/
abbrev Moves (P : Platform) (F : Floats) (c : State F) (L : History F) (c' : State F) : Prop :=
  Steps ((service P F).machine outside) c L c'

/-- A run of the calls, one for each thread, from a database. -/
def Run (P : Platform) (calls : Nat → Call F) (start : RunDatabase) (L : History F) (c : State F) :
    Prop :=
  Moves P F (.start start fun i => (calls i).program P) L c

/-- The entry appended an event of the tenant. -/
def Appends (tenantId : Str) : Entry (outside.sum (sections F)) Empty → Bool
  | .act _ ⟨.inr o, answer⟩ => Section.appends tenantId o answer
  | _ => false

section
variable {c c' : State F} {L : History F}

theorem step_ledger (tenantId : Str) {e : Entry (outside.sum (sections F)) Empty}
    (h : Step ((service P F).machine outside) c e c') (hdb : c.world.Intact P F) :
    c'.world.Intact P F ∧
      (eventsOf c'.world tenantId).length =
        (eventsOf c.world tenantId).length + (if Appends tenantId e then 1 else 0) ∧
      (Appends tenantId e = false → eventsOf c'.world tenantId = eventsOf c.world tenantId ∧
        headOf c'.world.heads tenantId = headOf c.world.heads tenantId) := by
  cases h with
  | @act i o k oracle a db _ _ hexec =>
    cases o with
    | inl o =>
      cases hexec
      exact ⟨hdb, by simp [Appends], fun _ => ⟨rfl, rfl⟩⟩
    | inr o =>
      obtain ⟨rfl, rfl⟩ := Prod.ext_iff.1 (Option.some.inj hexec)
      have hledger := Section.run_ledger (P := P) o c.world
      exact ⟨hledger.intact hdb, hledger.count, hledger.unchanged⟩
  | crash => exact ⟨hdb, rfl, fun _ => ⟨rfl, rfl⟩⟩
  | @env x => exact x.elim

/-- Over a run the ledgers stay intact, and the events of a tenant are counted by the entries that
append one. -/
theorem Moves.ledger (tenantId : Str) (h : Moves P F c L c') (hdb : c.world.Intact P F) :
    c'.world.Intact P F ∧
      (eventsOf c'.world tenantId).length =
        (eventsOf c.world tenantId).length + L.countP (Appends tenantId) ∧
      (L.countP (Appends tenantId) = 0 → eventsOf c'.world tenantId = eventsOf c.world tenantId ∧
        headOf c'.world.heads tenantId = headOf c.world.heads tenantId) := by
  induction h with
  | refl => exact ⟨hdb, rfl, fun _ => ⟨rfl, rfl⟩⟩
  | @snoc d d' L e _ hstep ih =>
    obtain ⟨hmiddle, hcount, hsame⟩ := ih
    obtain ⟨hintact, hone, hquiet⟩ := step_ledger tenantId hstep hmiddle
    rw [List.countP_append, List.countP_singleton]
    refine ⟨hintact, by omega, fun hzero => ?_⟩
    obtain ⟨hbefore, hlast⟩ : _ = 0 ∧ _ = 0 := Nat.add_eq_zero_iff.1 hzero
    have hlast : Appends tenantId e = false := by
      rw [Bool.eq_false_iff]
      intro hc
      simp [hc] at hlast
    exact ⟨(hquiet hlast).1.trans (hsame hbefore).1, (hquiet hlast).2.trans (hsame hbefore).2⟩

/-- The step of a run that ran a section. -/
theorem step_section {i : Nat} {o : Section F} {answer : (sections F).Ans o}
    (h : Step ((service P F).machine outside) c (.act i (.store o answer)) c') :
    o.run P c.world = (answer, c'.world) := by
  cases h with
  | act _ _ hexec => exact Option.some.inj hexec

end

/-! ## The verification -/

/-- What `verify_audit_chain` does with the head it has read. -/
def verifyHead (tenantId : Str) (rows : List EventRow) (seen : Str × Str)
    (head : Option HeadRow) : Program F AuditChainCheckpoint := do
  .ofExcept (checkHead rows seen head)
  let verifiedAt ← ask .clock
  let checkpoint := checkpointOf tenantId rows seen verifiedAt.text
  .ofExcept checkpoint.postInit
  return checkpoint

/-- What `verify_audit_chain` does with the answer to its first read. -/
def verifyRows (P : Platform) (tenantId : Str) (rows : Except Exn (List EventRow)) :
    Program F AuditChainCheckpoint := do
  let rows ← .ofExcept rows
  let seen ← .ofExcept (checkRows P F tenantId rows (genesisAuditHash, []))
  let head ← call (.selectHead tenantId)
  let head ← Prog.ofExcept head
  verifyHead tenantId rows seen head

theorem verifyAuditChain_eq (P : Platform) (tenantId : Str) :
    verifyAuditChain (F := F) P tenantId =
      (Prog.ofExcept (requireNonEmpty tenantId "tenant_id")).bind fun _ =>
        (call (.selectEvents tenantId)).bind (verifyRows P tenantId) := rfl

/-- The call of a verification, as a program. -/
def checkpointed (p : Program F AuditChainCheckpoint) : Program F CallResult :=
  p.bind fun c => .ret (.checkpoint c)

section
variable {calls : Nat → Call F} {start : RunDatabase} {L : History F} {c : State F} {v : Nat}
  {tenantId : Str}

/-- The verification of a tenant that is named by an encodable text has read its events, which pass
all checks, and then its head. -/
theorem verification_reads (hstart : start.Intact P F) (hrun : Run P calls start L c)
    (hv : calls v = .verifyAuditChain tenantId) (hdone : (c.thread v).Done)
    (hblank : Py.strip tenantId ≠ []) (hencodable : Py.encodable tenantId = true) :
    ∃ (L₁ L₂ L₃ : History F) (d₁ d₁' d₂ d₂' : State F),
      L = L₁ ++ .act v (.store (.selectEvents tenantId) (.ok (eventsOf d₁.world tenantId))) ::
        (L₂ ++ .act v (.store (.selectHead tenantId) (.ok (headOf d₂.world.heads tenantId))) ::
          L₃) ∧
      Log.trace L₁ v = [] ∧ Log.trace L₂ v = [] ∧ d₁'.world = d₁.world ∧ d₂'.world = d₂.world ∧
      Run P calls start L₁ d₁ ∧
      Step ((service P F).machine outside) d₁
        (.act v (.store (.selectEvents tenantId) (.ok (eventsOf d₁.world tenantId)))) d₁' ∧
      Moves P F d₁' L₂ d₂ ∧
      Step ((service P F).machine outside) d₂
        (.act v (.store (.selectHead tenantId) (.ok (headOf d₂.world.heads tenantId)))) d₂' ∧
      Moves P F d₂' L₃ c ∧
      d₂'.thread v = checkpointed (verifyHead tenantId (eventsOf d₁.world tenantId)
        ((headOf d₁.world.heads tenantId).elim genesisAuditHash (·.headHash),
          lastId (eventsOf d₁.world tenantId) []) (headOf d₂.world.heads tenantId)) := by
  have hprog : (calls v).program P = (call (.selectEvents tenantId)).bind fun rows =>
      checkpointed (verifyRows P tenantId rows) := by
    rw [hv, Call.program, verifyAuditChain_eq, (requireNonEmpty_ok (u := ())).2 hblank]
    rfl
  obtain ⟨L₁, answer, M, d₁, d₁', rfl, hL₁, hrun₁, hstep₁, hafter, hthread⟩ :=
    Steps.first_op hrun hprog hdone
  obtain ⟨rfl, hworld⟩ := Prod.ext_iff.1
    ((run_selectEvents hencodable d₁.world).symm.trans (step_section hstep₁))
  have hintact : d₁.world.Intact P F := (Moves.ledger tenantId hrun₁ hstart).1
  have hrest : d₁'.thread v = (call (.selectHead tenantId)).bind fun head =>
      checkpointed ((Prog.ofExcept head).bind (verifyHead tenantId (eventsOf d₁.world tenantId)
        ((headOf d₁.world.heads tenantId).elim genesisAuditHash (·.headHash),
          lastId (eventsOf d₁.world tenantId) []))) := by
    refine hthread.trans ?_
    simp only [verifyRows, Prog.bind_eq, Prog.ofExcept_ok, Prog.ret_bind,
      (hintact tenantId).chained.checkRows]
    rfl
  obtain ⟨L₂, answer, L₃, d₂, d₂', rfl, hL₂, hmoves, hstep₂, hend, hthread⟩ :=
    Steps.first_op hafter hrest hdone
  obtain ⟨rfl, hworld'⟩ := Prod.ext_iff.1
    ((run_selectHead hencodable d₂.world).symm.trans (step_section hstep₂))
  exact ⟨L₁, L₂, L₃, d₁, d₁', d₂, d₂', rfl, hL₁, hL₂, hworld.symm, hworld'.symm, hrun₁, hstep₁,
    hmoves, hstep₂, hend, hthread⟩

/-- A verification that found an intact ledger and its head returns the checkpoint of it. -/
theorem verifyHead_ends {d : State F} {rows : List EventRow} {head : Option HeadRow}
    (hsha : ∀ b, isHex64 (P.sha256 b) = true) (hintact : Intact P F tenantId rows head)
    (hblank : Py.strip tenantId ≠ []) (hmoves : Moves P F d L c) (hdone : (c.thread v).Done)
    (hthread : d.thread v = checkpointed (verifyHead tenantId rows
      (head.elim genesisAuditHash (·.headHash), lastId rows []) head)) :
    ∃ now, c.thread v = .ret (.checkpoint (checkpointOf tenantId rows
      (head.elim genesisAuditHash (·.headHash), lastId rows []) now)) := by
  have hempty : tenantId ≠ [] := by
    rintro rfl
    exact hblank rfl
  have hask : d.thread v = (ask .clock).bind fun now => checkpointed
      ((Prog.ofExcept (checkpointOf tenantId rows (head.elim genesisAuditHash (·.headHash),
        lastId rows []) now.text).postInit).bind fun _ => .ret (checkpointOf tenantId rows
          (head.elim genesisAuditHash (·.headHash), lastId rows []) now.text)) := by
    rw [hthread, verifyHead, hintact.chained.checkHead]
    rfl
  obtain ⟨_, now, _, _, d', -, -, -, -, hend, hthread⟩ := Steps.first_op hmoves hask hdone
  have hret : d'.thread v = .ofExcept (.ok (.checkpoint (checkpointOf tenantId rows
      (head.elim genesisAuditHash (·.headHash), lastId rows []) now.text))) := by
    refine hthread.trans ?_
    simp only [Prog.ret_bind, hintact.chained.checkpoint hsha hempty now.nonempty hintact.lastId_ne]
    rfl
  exact ⟨now.text, (hend.over hret).2⟩

/-- A head that counts more events than were read fails the verification. -/
theorem verifyHead_raises {d : State F} {rows : List EventRow} {seen : Str × Str}
    {head : Option HeadRow} (hcount : rows.length < head.elim 0 (·.eventCount))
    (hmoves : Moves P F d L c)
    (hthread : d.thread v = checkpointed (verifyHead tenantId rows seen head)) :
    ∃ message, c.thread v = .raise (.auditIntegrity message) := by
  obtain ⟨message, hcheck⟩ : ∃ message,
      checkHead rows seen head = .error (.auditIntegrity message) := by
    cases head with
    | none => exact absurd hcount (Nat.not_lt_zero _)
    | some head =>
      cases rows with
      | nil => exact ⟨_, rfl⟩
      | cons row rows =>
        have hne : ¬ (head.eventCount = (row :: rows).length ∧ head.headEventId = seen.2 ∧
            head.headHash = seen.1) := by
          rintro ⟨heq, -⟩
          exact absurd hcount (heq ▸ Nat.lt_irrefl _)
        exact ⟨_, check_error.2 ⟨hne, rfl⟩⟩
  have hraise : d.thread v = .ofExcept (.error (.auditIntegrity message)) := by
    rw [hthread, verifyHead, hcheck]
    rfl
  exact ⟨message, (hmoves.over hraise).2⟩

/-- A verification of a tenant whose id is blank or cannot be encoded raises something else. -/
theorem verification_invalid (hrun : Run P calls start L c)
    (hv : calls v = .verifyAuditChain tenantId) (hdone : (c.thread v).Done)
    (hinvalid : ¬ (Py.strip tenantId ≠ [] ∧ Py.encodable tenantId = true)) :
    ∃ e, c.thread v = .raise e := by
  by_cases hblank : Py.strip tenantId = []
  · have hraise : (calls v).program P = .ofExcept (.error (.valueError "tenant_id must not be empty"))
        := by
      have hcheck : requireNonEmpty tenantId "tenant_id" =
          .error (.valueError "tenant_id must not be empty") :=
        check_error.2 ⟨fun h => h.2 hblank, rfl⟩
      rw [hv, Call.program, verifyAuditChain_eq, hcheck]
      rfl
    exact ⟨_, (Steps.over hrun hraise).2⟩
  · have hencodable : Py.encodable tenantId = false :=
      Bool.eq_false_iff.2 fun h => hinvalid ⟨hblank, h⟩
    have hprog : (calls v).program P = (call (.selectEvents tenantId)).bind fun rows =>
        checkpointed (verifyRows P tenantId rows) := by
      rw [hv, Call.program, verifyAuditChain_eq, (requireNonEmpty_ok (u := ())).2 hblank]
      rfl
    obtain ⟨_, answer, _, d, d', -, -, -, hstep, hend, hthread⟩ := Steps.first_op hrun hprog hdone
    have hread : Section.run P (.selectEvents (F := F) tenantId) d.world =
        (.error .unicodeEncodeError, d.world) := by
      simp only [Section.run, bindTexts, check, hencodable, List.all_cons, Bool.false_and]
      rfl
    obtain ⟨rfl, -⟩ := Prod.ext_iff.1 (hread.symm.trans (step_section hstep))
    have hraise : d'.thread v = .ofExcept (.error .unicodeEncodeError) := hthread
    exact ⟨_, (hend.over hraise).2⟩

/-- No event of the tenant was appended between the first two operations of the thread, which are
the two reads of a verification. -/
def Undisturbed (tenantId : Str) (v : Nat) (L : History F) : Prop :=
  (L.between v).countP (Appends tenantId) = 0

/-- The verification returned the number of events and the head hash that the tenant had at some
instant of the call. -/
def Snapshot (P : Platform) (calls : Nat → Call F) (start : RunDatabase) (tenantId : Str) (v : Nat)
    (L : History F) (c : State F) : Prop :=
  ∃ checkpoint, c.thread v = .ret (.checkpoint checkpoint) ∧
    ∃ (L₁ L₂ : History F) (d : State F), L = L₁ ++ L₂ ∧ L₁.trace v ≠ [] ∧ L₂.trace v ≠ [] ∧
      Run P calls start L₁ d ∧ Moves P F d L₂ c ∧
      checkpoint.eventCount = (eventsOf d.world tenantId).length ∧
      checkpoint.headHash = (headOf d.world.heads tenantId).elim genesisAuditHash (·.headHash)

/-- In every run over intact ledgers, a verification that came to its end returned a true count and
head hash exactly when the tenant is named by an encodable text and no event of the tenant was
appended between its two reads. -/
theorem verification_is_snapshot (hsha : ∀ b, isHex64 (P.sha256 b) = true)
    (hstart : start.Intact P F) (hrun : Run P calls start L c)
    (hv : calls v = .verifyAuditChain tenantId) (hdone : (c.thread v).Done) :
    Snapshot P calls start tenantId v L c ↔
      Py.strip tenantId ≠ [] ∧ Py.encodable tenantId = true ∧ Undisturbed tenantId v L := by
  by_cases hvalid : Py.strip tenantId ≠ [] ∧ Py.encodable tenantId = true
  · obtain ⟨hblank, hencodable⟩ := hvalid
    obtain ⟨L₁, L₂, L₃, d₁, d₁', d₂, d₂', rfl, hL₁, hL₂, hworld₁, hworld₂, hrun₁, hstep₁, hmoves,
      hstep₂, hend, hthread⟩ := verification_reads hstart hrun hv hdone hblank hencodable
    have hintact₁ := (Moves.ledger tenantId hrun₁ hstart).1
    obtain ⟨hintact₂, hcount, hsame⟩ := Moves.ledger tenantId hmoves (hworld₁ ▸ hintact₁)
    rw [hworld₁] at hcount hsame
    have hbetween : Undisturbed tenantId v (L₁ ++ .act v (.store (.selectEvents tenantId)
        (.ok (eventsOf d₁.world tenantId))) :: (L₂ ++ .act v (.store (.selectHead tenantId)
          (.ok (headOf d₂.world.heads tenantId))) :: L₃)) ↔ L₂.countP (Appends tenantId) = 0 := by
      rw [Undisturbed, Log.between_eq hL₁ hL₂]
    rw [hbetween]
    constructor
    · rintro ⟨checkpoint, hret, -⟩
      refine ⟨hblank, hencodable, ?_⟩
      by_contra hne
      have hmore : (eventsOf d₁.world tenantId).length <
          (headOf d₂.world.heads tenantId).elim 0 (·.eventCount) := by
        rw [(hintact₂ tenantId).count, hcount]
        omega
      obtain ⟨message, hraise⟩ := verifyHead_raises hmore hend hthread
      rw [hret] at hraise
      cases hraise
    · rintro ⟨-, -, hquiet⟩
      rw [(hsame hquiet).2] at hthread
      obtain ⟨now, hret⟩ :=
        verifyHead_ends hsha (hintact₁ tenantId) hblank hend hdone hthread
      refine ⟨_, hret, L₁ ++ [.act v (.store (.selectEvents tenantId)
        (.ok (eventsOf d₁.world tenantId)))], _, d₁', (List.append_cons ..), ?_, ?_,
        hrun₁.snoc hstep₁, hmoves.trans ?_, ?_, ?_⟩
      · simp
      · simp [Log.trace]
      · exact (Steps.single hstep₂).trans hend
      · rw [hworld₁]
        rfl
      · rw [hworld₁]
        rfl
  · obtain ⟨e, hraise⟩ := verification_invalid hrun hv hdone hvalid
    constructor
    · rintro ⟨checkpoint, hret, -⟩
      rw [hret] at hraise
      cases hraise
    · rintro ⟨hblank, hencodable, -⟩
      exact absurd ⟨hblank, hencodable⟩ hvalid

end

namespace Sample

/-- Thread 0 verifies the ledger to which the others append. -/
def calls : Nat → Call floats
  | 0 => .verifyAuditChain (Py.lit "t")
  | _ => .appendAudit (Py.lit "t") audit

/-- A thread takes some steps. -/
def steps (i n : Nat) : List (Choice (Oracle outside) Empty) := List.replicate n (.act i oracle)

/-- A schedule that can be followed is a run, with an outcome that is tested. -/
theorem run_of_schedule {schedule : List (Choice (Oracle outside) Empty)}
    {test : History floats → State floats → Prop} [∀ L c, Decidable (test L c)]
    (h : ((((service platform floats).machine outside).simulate schedule
      (.start .empty fun i => (calls i).program platform)).map fun r => decide (test r.1 r.2)) =
        some true) :
    ∃ L c, Run platform calls .empty L c ∧ test L c :=
  Machine.exists_run h

end Sample

/-- The verification returns a snapshot when an append comes before it. -/
theorem verification_is_snapshot_after_append :
    ∃ L c, Run Sample.platform Sample.calls .empty L c ∧
      Snapshot Sample.platform Sample.calls .empty (Py.lit "t") 0 L c := by
  obtain ⟨L, c, hrun, hdone, hquiet⟩ := @Sample.run_of_schedule
    (Sample.steps 1 2 ++ Sample.steps 0 3)
    (fun L c => (c.thread 0).Done ∧ (L.between 0).countP (Appends (Py.lit "t")) = 0)
    inferInstance (by decide)
  refine ⟨L, c, hrun, (verification_is_snapshot (fun _ => ?_) RunDatabase.intact_empty hrun rfl
    hdone).2 ⟨by decide, by decide, hquiet⟩⟩
  show isHex64 Sample.digest = true
  decide

/-- An append between the two reads of a verification makes it raise an integrity error. -/
theorem append_between_reads_raises :
    ∃ L c, Run Sample.platform Sample.calls .empty L c ∧
      c.thread 0 = .raise (.auditIntegrity "audit chain head exists without events") := by
  obtain ⟨L, c, hrun, hraise⟩ := @Sample.run_of_schedule
    (Sample.steps 0 1 ++ Sample.steps 1 2 ++ Sample.steps 0 1)
    (fun _ c => (match c.thread 0 with
      | .raise e => decide (e = .auditIntegrity "audit chain head exists without events")
      | _ => false) = true) inferInstance (by decide)
  refine ⟨L, c, hrun, ?_⟩
  split at hraise
  · next e he => rw [he, of_decide_eq_true hraise]
  · cases hraise

end Ledger

end AgencyRuntime
