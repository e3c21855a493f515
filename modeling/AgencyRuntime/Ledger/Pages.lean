import AgencyRuntime.Chains.Paging
import AgencyRuntime.Ledger.Snapshot

/-!
# Pages of the audit ledger

`audit_events` of both stores and the endpoint that pages through it (api.py), and what the stores
append between two pages. A sequence number of PostgreSQL is drawn inside a transaction and shows
when the transaction is committed, but the transaction holds the lock of the tenant's chain from
before the draw to its end: the events of a tenant show in the order of their numbers.
-/

namespace AgencyRuntime

open Chains

namespace Ledger

/-- A row of `audit_events` with its sequence number. -/
structure NumberedEvent where
  sequence : Nat
  event : EventRow
deriving DecidableEq

/-- The events of a tenant. -/
def tenantEvents (tenantId : Str) (rows : List NumberedEvent) : List NumberedEvent :=
  rows.filter (·.event.tenantId == tenantId)

theorem mem_tenantEvents {tenantId : Str} {rows : List NumberedEvent} {r : NumberedEvent} :
    r ∈ tenantEvents tenantId rows ↔ r ∈ rows ∧ r.event.tenantId = tenantId := by
  rw [tenantEvents, List.mem_filter, beq_iff_eq]

/-- `audit_events` of both stores, on the rows that are committed:
`WHERE tenant_id = ? AND sequence > ? ORDER BY sequence ASC LIMIT ?` -/
def auditEvents (rows : List NumberedEvent) (tenantId : Str) (afterSequence limit : Int) :
    Except Exn (List NumberedEvent) := do
  check (0 ≤ afterSequence) (.valueError "after_sequence must not be negative")
  check (1 ≤ limit ∧ limit ≤ 1000) (.valueError "limit must be between 1 and 1000")
  return ((rows.filter fun r =>
      r.event.tenantId == tenantId && decide (afterSequence < r.sequence)).insertionSort
    fun a b => a.sequence ≤ b.sequence).take limit.toNat

/-- `limit: int = Query(default=100, ge=1, le=200)` -/
structure PageLimit where
  value : Nat
  pos : 0 < value
  le : value ≤ 200

/-- The body of a page. -/
structure AuditPage where
  events : List NumberedEvent
  nextAfterSequence : Nat
  hasMore : Bool

/-- `list_audit_events` -/
def listAuditEvents (rows : List NumberedEvent) (tenantId : Str) (afterSequence : Nat)
    (limit : PageLimit) : Except Exn AuditPage := do
  let events ← auditEvents rows tenantId afterSequence (limit.value + 1)
  let page := events.take limit.value
  return {
    events := page
    nextAfterSequence := (page.getLast?.map (·.sequence)).getD afterSequence
    hasMore := decide (limit.value < events.length) }

/-! ## One page -/

section
variable {rows : List NumberedEvent} {tenantId : Str} {afterSequence : Nat} {limit : PageLimit}
  {page : AuditPage}

/-- A page is a page of the tenant's rows. -/
theorem listAuditEvents_eq : listAuditEvents rows tenantId afterSequence limit =
    .ok {
      events := (rowsAfter NumberedEvent.sequence (tenantEvents tenantId rows) afterSequence).take
        limit.value
      nextAfterSequence := nextCursor NumberedEvent.sequence afterSequence
        ((rowsAfter NumberedEvent.sequence (tenantEvents tenantId rows) afterSequence).take limit.value)
      hasMore := decide (limit.value <
        (rowsAfter NumberedEvent.sequence (tenantEvents tenantId rows) afterSequence).length) } := by
  have hlimit := limit.le
  have hfilter : (rows.filter fun r : NumberedEvent =>
      r.event.tenantId == tenantId && decide ((afterSequence : Int) < r.sequence)) =
      (tenantEvents tenantId rows).filter fun r => decide (afterSequence < r.sequence) := by
    rw [tenantEvents, List.filter_filter]
    refine List.filter_congr fun r _ => ?_
    rw [Bool.and_comm]
    simp only [Int.ofNat_lt]
  have hevents : auditEvents rows tenantId afterSequence (limit.value + 1) =
      .ok ((rowsAfter NumberedEvent.sequence (tenantEvents tenantId rows) afterSequence).take
        (limit.value + 1)) := by
    rw [auditEvents, check, if_pos (by omega), check, if_pos (by omega), hfilter]
    rfl
  rw [listAuditEvents, hevents]
  have hpage (xs : List NumberedEvent) : (xs.take (limit.value + 1)).take limit.value =
      xs.take limit.value := by
    rw [List.take_take, Nat.min_eq_left (Nat.le_succ _)]
  have hmore (xs : List NumberedEvent) : decide (limit.value < (xs.take (limit.value + 1)).length) =
      decide (limit.value < xs.length) := by
    rw [List.length_take]
    exact decide_eq_decide.2 (by omega)
  show Except.ok _ = _
  rw [hpage, hmore]
  rfl

end

/-! ## Following the pages -/

/-- Requests of a tenant's pages, each with a limit of its own, while a store takes steps: from this
state and cursor, what the pages give until one says that there is no more, and the state at that
last request. -/
inductive Walk {σ : Type} (step : σ → σ → Prop) (rows : σ → List NumberedEvent) (tenantId : Str) :
    σ → Nat → List NumberedEvent → σ → Prop
  | last {s s' : σ} {cursor : Nat} {limit : PageLimit} {page : AuditPage} :
      Relation.ReflTransGen step s s' →
      listAuditEvents (rows s') tenantId cursor limit = .ok page → page.hasMore = false →
      Walk step rows tenantId s cursor page.events s'
  | more {s s' s'' : σ} {cursor : Nat} {limit : PageLimit} {page : AuditPage}
      {rest : List NumberedEvent} :
      Relation.ReflTransGen step s s' →
      listAuditEvents (rows s') tenantId cursor limit = .ok page → page.hasMore = true →
      Walk step rows tenantId s' page.nextAfterSequence rest s'' →
      Walk step rows tenantId s cursor (page.events ++ rest) s''

/-- Every event of the tenant and no other, once and in the order of the sequence numbers. -/
structure Complete (tenantId : Str) (rows out : List NumberedEvent) : Prop where
  sorted : out.Pairwise fun a b => a.sequence < b.sequence
  mem_iff : ∀ r, r ∈ out ↔ r ∈ rows ∧ r.event.tenantId = tenantId

/-- The sequence numbers of each tenant are positive and distinct. -/
def Numbered (rows : List NumberedEvent) : Prop :=
  ∀ tenantId, (tenantEvents tenantId rows).Pairwise (fun a b => a.sequence ≠ b.sequence) ∧
    ∀ r ∈ tenantEvents tenantId rows, 0 < r.sequence

/-- The ledger of each tenant grew at its end. -/
def Grew (rows rows' : List NumberedEvent) : Prop :=
  ∀ tenantId, Extends NumberedEvent.sequence (tenantEvents tenantId rows)
    (tenantEvents tenantId rows')

theorem Grew.refl (rows : List NumberedEvent) : Grew rows rows := fun _ => .refl _

/-- Rows that are added at the end. -/
theorem grew_append {rows new : List NumberedEvent}
    (h : ∀ r ∈ new, ∀ r' ∈ rows, r'.event.tenantId = r.event.tenantId → r'.sequence < r.sequence) :
    Grew rows (rows ++ new) := by
  intro tenantId
  rw [tenantEvents, tenantEvents, List.filter_append]
  refine extends_append fun r hr r' hr' => ?_
  rw [List.mem_filter, beq_iff_eq] at hr hr'
  exact h r hr.1 r' hr'.1 (hr'.2.trans hr.2.symm)

section
variable {σ : Type} {step : σ → σ → Prop} {rows : σ → List NumberedEvent} {inv : σ → Prop}
  {tenantId : Str} {s s' : σ} {cursor : Nat} {before out : List NumberedEvent}

theorem steps_grew (hstep : ∀ s s', inv s → step s s' → inv s' ∧ Grew (rows s) (rows s'))
    (h : Relation.ReflTransGen step s s') (hs : inv s) : inv s' ∧ Grew (rows s) (rows s') := by
  induction h with
  | refl => exact ⟨hs, .refl _⟩
  | tail _ hlast ih =>
    obtain ⟨hinv, hgrew⟩ := hstep _ _ ih.1 hlast
    exact ⟨hinv, fun tenantId => (ih.2 tenantId).trans (hgrew tenantId)⟩

/-- On a store whose ledgers grow at their ends, the pages give the ledger of the last request. -/
theorem Walk.complete (hstep : ∀ s s', inv s → step s s' → inv s' ∧ Grew (rows s) (rows s'))
    (hnumbered : ∀ s, inv s → Numbered (rows s)) (h : Walk step rows tenantId s cursor out s')
    (hs : inv s)
    (hbefore : Yielded NumberedEvent.sequence (tenantEvents tenantId (rows s)) cursor before) :
    Complete tenantId (rows s') (before ++ out) := by
  induction h generalizing before with
  | last hsteps hpage hlast =>
    obtain ⟨hinv, hgrew⟩ := steps_grew hstep hsteps hs
    obtain ⟨hdistinct, hpos⟩ := hnumbered _ hinv tenantId
    have hyielded := hbefore.extends (hgrew tenantId) hpos
    rw [listAuditEvents_eq] at hpage
    cases hpage
    refine ⟨(hyielded.page hdistinct (PageLimit.pos _)).sorted, fun r => ?_⟩
    rw [← mem_tenantEvents]
    exact hyielded.all (Nat.le_of_not_lt (of_decide_eq_false hlast)) r
  | more hsteps hpage _ _ ih =>
    obtain ⟨hinv, hgrew⟩ := steps_grew hstep hsteps hs
    obtain ⟨hdistinct, hpos⟩ := hnumbered _ hinv tenantId
    have hyielded := hbefore.extends (hgrew tenantId) hpos
    rw [listAuditEvents_eq] at hpage
    cases hpage
    rw [← List.append_assoc]
    exact ih hinv (hyielded.page hdistinct (PageLimit.pos _))

/-- So they do from the beginning. -/
theorem Walk.complete_zero (inv : σ → Prop) (hstep : ∀ s s', inv s → step s s' → inv s' ∧ Grew (rows s) (rows s'))
    (hnumbered : ∀ s, inv s → Numbered (rows s)) (h : Walk step rows tenantId s 0 out s')
    (hs : inv s) : Complete tenantId (rows s') out :=
  h.complete hstep hnumbered hs (.nil (hnumbered s hs tenantId).2)

end

/-! ## SQLite -/

/-- The rows with the numbers that `AUTOINCREMENT` gave them. -/
def numberedEvents (db : RunDatabase) : List NumberedEvent :=
  (db.events.rows.zipIdx 1).map fun entry => ⟨entry.2, entry.1⟩

/-- A locked section of any call. -/
def SqliteStep (P : Platform) (F : Floats) (db db' : RunDatabase) : Prop :=
  ∃ o : Section F, db' = (o.run P db).2

section
variable {P : Platform} {F : Floats} {db db' : RunDatabase}

theorem numberedEvents_append {row : EventRow} (h : db'.events.rows = db.events.rows ++ [row]) :
    numberedEvents db' = numberedEvents db ++ [⟨1 + db.events.rows.length, row⟩] := by
  rw [numberedEvents, h, List.zipIdx_append, List.map_append]
  rfl

theorem sequence_bounds {r : NumberedEvent} (h : r ∈ numberedEvents db) :
    0 < r.sequence ∧ r.sequence < 1 + db.events.rows.length := by
  obtain ⟨entry, hentry, rfl⟩ := List.mem_map.1 h
  obtain ⟨h1, h2, -⟩ := List.mem_zipIdx hentry
  exact ⟨h1, h2⟩

theorem numberedEvents_numbered (db : RunDatabase) : Numbered (numberedEvents db) := by
  have hnodup : (numberedEvents db).Pairwise fun a b => a.sequence ≠ b.sequence := by
    rw [numberedEvents, List.pairwise_map]
    have hseq : ((db.events.rows.zipIdx 1).map Prod.snd).Nodup := by
      rw [List.zipIdx_map_snd]
      exact List.nodup_range'
    exact List.pairwise_map.1 hseq
  intro tenantId
  refine ⟨hnodup.filter _, fun r hr => ?_⟩
  exact (sequence_bounds (mem_tenantEvents.1 hr).1).1

theorem SqliteStep.grew (h : SqliteStep P F db db') : Grew (numberedEvents db) (numberedEvents db') := by
  obtain ⟨o, rfl⟩ := h
  rcases o.run_ledger (P := P) db with ⟨tenant, -, row, middle, ⟨hsame, -⟩, happended⟩ | ⟨-, hsame, -⟩
  · have hrows := happended.events
    rw [hsame] at hrows
    rw [numberedEvents_append hrows]
    refine grew_append fun r hr r' hr' _ => ?_
    rw [List.mem_singleton.1 hr]
    exact (sequence_bounds hr').2
  · rw [numberedEvents, numberedEvents, hsame]
    exact .refl _

end

/-! ## PostgreSQL -/

namespace Postgres

/-- A transaction in progress: the locks of the chains that it holds, and the rows that it has
inserted, which show when it is committed. -/
structure AuditTransaction where
  locks : List Str
  pending : List NumberedEvent

/-- The events that are committed, the transactions, and the last number that was drawn. -/
structure AuditDatabase where
  committed : List NumberedEvent
  transactions : Nat → Option AuditTransaction
  lastValue : Nat

namespace AuditDatabase

def set (s : AuditDatabase) (i : Nat) (transaction : Option AuditTransaction) : AuditDatabase :=
  { s with transactions := Function.update s.transactions i transaction }

/-- No other transaction holds the lock of the tenant's chain. -/
def Unlocked (s : AuditDatabase) (i : Nat) (tenantId : Str) : Prop :=
  ∀ j transaction, j ≠ i → s.transactions j = some transaction → tenantId ∉ transaction.locks

end AuditDatabase

/-- A step of a transaction that calls `_append_audit`, any number of times and for any tenants. -/
inductive AuditStep : AuditDatabase → AuditDatabase → Prop
  | begin {s : AuditDatabase} {i : Nat} : s.transactions i = none →
      AuditStep s (s.set i (some ⟨[], []⟩))
  /-- `SELECT pg_advisory_xact_lock(…)` -/
  | lock {s : AuditDatabase} {i : Nat} {t : AuditTransaction} {tenantId : Str} :
      s.transactions i = some t → s.Unlocked i tenantId →
      AuditStep s (s.set i (some { t with locks := tenantId :: t.locks }))
  /-- `INSERT INTO audit_events`, which draws a number. -/
  | insert {s : AuditDatabase} {i : Nat} {t : AuditTransaction} {event : EventRow} :
      s.transactions i = some t → event.tenantId ∈ t.locks →
      AuditStep s { s.set i (some { t with pending := t.pending ++ [⟨s.lastValue + 1, event⟩] }) with
        lastValue := s.lastValue + 1 }
  /-- An `INSERT` that fails has drawn its number, and ends the transaction. -/
  | fail {s : AuditDatabase} {i : Nat} {t : AuditTransaction} :
      s.transactions i = some t →
      AuditStep s { s.set i none with lastValue := s.lastValue + 1 }
  | commit {s : AuditDatabase} {i : Nat} {t : AuditTransaction} :
      s.transactions i = some t →
      AuditStep s { s.set i none with committed := s.committed ++ t.pending }
  | rollback {s : AuditDatabase} {i : Nat} {t : AuditTransaction} :
      s.transactions i = some t → AuditStep s (s.set i none)

/-- Numbers are drawn in order, and the locks keep the chains of a tenant's writers apart. -/
structure AuditInvariant (s : AuditDatabase) : Prop where
  positive : ∀ r ∈ s.committed, 0 < r.sequence
  drawn : ∀ r ∈ s.committed, r.sequence ≤ s.lastValue
  ordered : s.committed.Pairwise fun a b =>
    a.event.tenantId = b.event.tenantId → a.sequence < b.sequence
  exclusive : ∀ i j t u, i ≠ j → s.transactions i = some t → s.transactions j = some u →
    ∀ tenantId ∈ t.locks, tenantId ∉ u.locks
  locked : ∀ i t, s.transactions i = some t → ∀ r ∈ t.pending, r.event.tenantId ∈ t.locks
  pendingDrawn : ∀ i t, s.transactions i = some t → ∀ r ∈ t.pending,
    0 < r.sequence ∧ r.sequence ≤ s.lastValue
  pendingOrdered : ∀ i t, s.transactions i = some t →
    t.pending.Pairwise fun a b => a.sequence < b.sequence
  later : ∀ i t, s.transactions i = some t → ∀ r ∈ t.pending, ∀ r' ∈ s.committed,
    r'.event.tenantId = r.event.tenantId → r'.sequence < r.sequence

/-- A database without transactions, whose rows have numbers that were drawn in order. -/
structure AuditDatabase.Quiet (s : AuditDatabase) : Prop where
  positive : ∀ r ∈ s.committed, 0 < r.sequence
  drawn : ∀ r ∈ s.committed, r.sequence ≤ s.lastValue
  sorted : s.committed.Pairwise fun a b => a.sequence < b.sequence
  idle : ∀ i, s.transactions i = none

section
variable {s s' : AuditDatabase} {i : Nat} {t u : AuditTransaction}

theorem AuditDatabase.Quiet.invariant (h : s.Quiet) : AuditInvariant s where
  positive := h.positive
  drawn := h.drawn
  ordered := by
    refine h.sorted.imp ?_
    intro a b hlt _
    exact hlt
  exclusive i _ _ _ _ hi := by rw [h.idle i] at hi; cases hi
  locked i _ hi := by rw [h.idle i] at hi; cases hi
  pendingDrawn i _ hi := by rw [h.idle i] at hi; cases hi
  pendingOrdered i _ hi := by rw [h.idle i] at hi; cases hi
  later i _ hi := by rw [h.idle i] at hi; cases hi

theorem set_eq_some {transaction : Option AuditTransaction} {j : Nat}
    (h : (s.set i transaction).transactions j = some u) :
    j = i ∧ transaction = some u ∨ j ≠ i ∧ s.transactions j = some u := by
  change Function.update s.transactions i transaction j = some u at h
  rw [Function.update_apply] at h
  split at h
  · next heq => exact .inl ⟨heq, h⟩
  · next hne => exact .inr ⟨hne, h⟩

theorem AuditInvariant.unlocked (h : AuditInvariant s) (hi : s.transactions i = some t) :
    ∀ tenantId ∈ t.locks, s.Unlocked i tenantId := by
  intro tenantId hmem j u hne hj
  exact h.exclusive i j t u hne.symm hi hj tenantId hmem

/-- A transaction ends, and leaves its rows or nothing. -/
theorem AuditInvariant.finish (h : AuditInvariant s) {committed : List NumberedEvent}
    {lastValue : Nat} (hi : s.transactions i = some t)
    (hcommitted : committed = s.committed ∨ committed = s.committed ++ t.pending)
    (hvalue : s.lastValue ≤ lastValue) :
    AuditInvariant { s.set i none with committed := committed, lastValue := lastValue } := by
  have hmem : ∀ r ∈ committed, r ∈ s.committed ∨ r ∈ t.pending := by
    rcases hcommitted with rfl | rfl
    · exact fun r hr => .inl hr
    · exact fun r hr => List.mem_append.1 hr
  have hold {j : Nat} {u : AuditTransaction}
      (hj : (s.set i none).transactions j = some u) : j ≠ i ∧ s.transactions j = some u := by
    rcases set_eq_some hj with ⟨-, hu⟩ | hj
    · cases hu
    · exact hj
  exact {
    positive := fun r hr => (hmem r hr).elim (h.positive r) fun hr => (h.pendingDrawn i t hi r hr).1
    drawn := fun r hr => le_trans
      ((hmem r hr).elim (h.drawn r) fun hr => (h.pendingDrawn i t hi r hr).2) hvalue
    ordered := by
      rcases hcommitted with rfl | rfl
      · exact h.ordered
      · refine List.pairwise_append.2 ⟨h.ordered, (h.pendingOrdered i t hi).imp ?_, ?_⟩
        · intro a b hlt _
          exact hlt
        · intro r' hr' r hr htenant
          exact h.later i t hi r hr r' hr' htenant
    exclusive := fun j k u v hne hj hk => h.exclusive j k u v hne (hold hj).2 (hold hk).2
    locked := fun j u hj => h.locked j u (hold hj).2
    pendingDrawn := fun j u hj r hr =>
      ⟨(h.pendingDrawn j u (hold hj).2 r hr).1, le_trans (h.pendingDrawn j u (hold hj).2 r hr).2 hvalue⟩
    pendingOrdered := fun j u hj => h.pendingOrdered j u (hold hj).2
    later := by
      intro j u hj r hr r' hr' htenant
      rcases hmem r' hr' with hr' | hr'
      · exact h.later j u (hold hj).2 r hr r' hr' htenant
      · -- The two transactions would hold one lock.
        have h1 := h.locked i t hi r' hr'
        have h2 := h.locked j u (hold hj).2 r hr
        exact absurd (htenant ▸ h2) (h.exclusive i j t u (hold hj).1.symm hi (hold hj).2 _ h1) }

/-- A transaction goes on: it holds only locks that no other holds, and its rows are in order. -/
theorem AuditInvariant.set (h : AuditInvariant s) {lastValue : Nat}
    (hlocks : ∀ tenantId ∈ t.locks, s.Unlocked i tenantId)
    (hlocked : ∀ r ∈ t.pending, r.event.tenantId ∈ t.locks)
    (hdrawn : ∀ r ∈ t.pending, 0 < r.sequence ∧ r.sequence ≤ lastValue)
    (hordered : t.pending.Pairwise fun a b => a.sequence < b.sequence)
    (hlater : ∀ r ∈ t.pending, ∀ r' ∈ s.committed, r'.event.tenantId = r.event.tenantId →
      r'.sequence < r.sequence)
    (hvalue : s.lastValue ≤ lastValue) :
    AuditInvariant { s.set i (some t) with lastValue := lastValue } where
  positive := h.positive
  drawn r hr := le_trans (h.drawn r hr) hvalue
  ordered := h.ordered
  exclusive j k u v hne hj hk := by
    intro tenantId hu hv
    rcases set_eq_some hj with ⟨hji, htu⟩ | ⟨hji, hsj⟩
    · cases htu
      rcases set_eq_some hk with ⟨hki, -⟩ | ⟨hki, hsk⟩
      · exact hne (hji.trans hki.symm)
      · exact hlocks tenantId hu k v hki hsk hv
    · rcases set_eq_some hk with ⟨-, htv⟩ | ⟨-, hsk⟩
      · cases htv
        exact hlocks tenantId hv j u hji hsj hu
      · exact h.exclusive j k u v hne hsj hsk tenantId hu hv
  locked j u hj := by
    rcases set_eq_some hj with ⟨-, htu⟩ | ⟨-, hsj⟩
    · cases htu
      exact hlocked
    · exact h.locked j u hsj
  pendingDrawn j u hj r hr := by
    rcases set_eq_some hj with ⟨-, htu⟩ | ⟨-, hsj⟩
    · cases htu
      exact hdrawn r hr
    · obtain ⟨hpos, hle⟩ := h.pendingDrawn j u hsj r hr
      exact ⟨hpos, le_trans hle hvalue⟩
  pendingOrdered j u hj := by
    rcases set_eq_some hj with ⟨-, htu⟩ | ⟨-, hsj⟩
    · cases htu
      exact hordered
    · exact h.pendingOrdered j u hsj
  later j u hj := by
    rcases set_eq_some hj with ⟨-, htu⟩ | ⟨-, hsj⟩
    · cases htu
      exact hlater
    · exact h.later j u hsj

/-- The number of an `INSERT` is greater than those before it. -/
theorem AuditInvariant.insert (h : AuditInvariant s) (hi : s.transactions i = some t)
    {event : EventRow} (hlock : event.tenantId ∈ t.locks) :
    AuditInvariant { s.set i (some { t with pending := t.pending ++ [⟨s.lastValue + 1, event⟩] }) with
      lastValue := s.lastValue + 1 } := by
  have hdrawn := h.pendingDrawn i t hi
  have hlocks := h.unlocked hi
  refine h.set hlocks ?_ ?_ ?_ ?_ (Nat.le_succ _)
  · intro r hr
    rcases List.mem_append.1 hr with hr | hr
    · exact h.locked i t hi r hr
    · rw [List.mem_singleton.1 hr]
      exact hlock
  · intro r hr
    rcases List.mem_append.1 hr with hr | hr
    · have := hdrawn r hr
      omega
    · rw [List.mem_singleton.1 hr]
      exact ⟨Nat.succ_pos _, le_refl _⟩
  · refine List.pairwise_append.2 ⟨h.pendingOrdered i t hi, List.pairwise_singleton .., ?_⟩
    intro r hr r' hr'
    rw [List.mem_singleton.1 hr']
    exact Nat.lt_succ_of_le (hdrawn r hr).2
  · intro r hr r' hr' htenant
    rcases List.mem_append.1 hr with hr | hr
    · exact h.later i t hi r hr r' hr' htenant
    · rw [List.mem_singleton.1 hr]
      exact Nat.lt_succ_of_le (h.drawn r' hr')

theorem AuditInvariant.step (h : AuditInvariant s) (hstep : AuditStep s s') : AuditInvariant s' := by
  cases hstep with
  | begin hi =>
    exact h.set (fun _ hmem => by cases hmem) (fun _ hmem => by cases hmem)
      (fun _ hmem => by cases hmem) .nil (fun _ hmem => by cases hmem) (le_refl _)
  | @lock i t tenantId hi hfree =>
    refine h.set ?_ ?_ (h.pendingDrawn i t hi) (h.pendingOrdered i t hi) (h.later i t hi) (le_refl _)
    · exact List.forall_mem_cons.2 ⟨hfree, h.unlocked hi⟩
    · exact fun r hr => List.mem_cons_of_mem _ (h.locked i t hi r hr)
  | insert hi hlock => exact h.insert hi hlock
  | fail hi => exact h.finish hi (.inl rfl) (Nat.le_succ _)
  | commit hi => exact h.finish hi (.inr rfl) (le_refl _)
  | rollback hi => exact h.finish hi (.inl rfl) (le_refl _)

/-- Only a commit shows rows, and they come after those of their tenants. -/
theorem AuditInvariant.grew (h : AuditInvariant s) (hstep : AuditStep s s') :
    Grew s.committed s'.committed := by
  cases hstep with
  | @commit i t hi => exact grew_append (h.later i t hi)
  | begin | lock | insert | fail | rollback => exact .refl _

theorem AuditInvariant.numbered (h : AuditInvariant s) : Numbered s.committed := by
  intro tenantId
  refine ⟨?_, fun r hr => h.positive r (mem_tenantEvents.1 hr).1⟩
  refine (List.pairwise_filter.2 (h.ordered.imp ?_))
  intro a b hlt ha hb
  exact Nat.ne_of_lt (hlt ((beq_iff_eq.1 ha).trans (beq_iff_eq.1 hb).symm))

end

end Postgres

namespace PagesSample

def event (tenantId : String) : EventRow where
  eventId := Py.lit "e"
  tenantId := Py.lit tenantId
  requestId := Py.lit "q"
  occurredAt := Py.lit "2026-01-01T00:00:00+00:00"
  action := Py.lit "a"
  resourceType := Py.lit "r"
  resourceId := Py.lit "i"
  actor := Py.lit "u"
  payloadJson := Py.lit "\x7b\x7d"
  previousHash := []
  eventHash := []

def start : Postgres.AuditDatabase := ⟨[], fun _ => none, 0⟩

theorem start_quiet : start.Quiet where
  positive _ hr := by cases hr
  drawn _ hr := by cases hr
  sorted := .nil
  idle _ := rfl

/-- The transaction of `a` has drawn the first number, and is not committed. -/
def drawn : Postgres.AuditDatabase where
  committed := []
  transactions := Function.update (fun _ => none) 0 (some ⟨[Py.lit "a"], [⟨1, event "a"⟩]⟩)
  lastValue := 1

theorem start_drawn : Relation.ReflTransGen Postgres.AuditStep start drawn := by
  have h := Relation.ReflTransGen.single (@Postgres.AuditStep.begin start 0 rfl)
  have h := h.tail (@Postgres.AuditStep.lock _ 0 ⟨[], []⟩ (Py.lit "a") rfl fun j u hne hj => by
    rcases Postgres.set_eq_some hj with ⟨heq, -⟩ | ⟨-, hj⟩
    · exact absurd heq hne
    · cases hj)
  have h := h.tail (@Postgres.AuditStep.insert _ 0 ⟨[Py.lit "a"], []⟩ (event "a") rfl
    List.mem_cons_self)
  simpa [Postgres.AuditDatabase.set, start, drawn] using h

/-- The transaction of `b` draws the second number, and is committed first. -/
theorem second_first : ∃ s, Relation.ReflTransGen Postgres.AuditStep start s ∧
    s.committed = [⟨2, event "b"⟩] := by
  have h := start_drawn.tail (@Postgres.AuditStep.begin drawn 1 rfl)
  have h := h.tail (@Postgres.AuditStep.lock _ 1 ⟨[], []⟩ (Py.lit "b") rfl fun j u hne hj => by
    rcases Postgres.set_eq_some hj with ⟨heq, -⟩ | ⟨-, hj⟩
    · exact absurd heq hne
    · change Function.update (fun _ => none) 0 _ j = some u at hj
      rw [Function.update_apply] at hj
      split at hj
      · cases hj
        decide
      · cases hj)
  have h := h.tail (@Postgres.AuditStep.insert _ 1 ⟨[Py.lit "b"], []⟩ (event "b") rfl
    List.mem_cons_self)
  exact ⟨_, h.tail (@Postgres.AuditStep.commit _ 1 ⟨[Py.lit "b"], [⟨2, event "b"⟩]⟩ rfl), rfl⟩

end PagesSample

end Ledger

end AgencyRuntime
