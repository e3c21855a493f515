import AgencyRuntime.Social.ConcurrentStates

/-!
# Live OAuth states

A state is live until it is consumed or replaced. In SQLite a tenant, session and channel has at most
one. In PostgreSQL the `DELETE` of a `create_state` does not see the state of another one that is not
committed yet, and no lock or index keeps the two apart: each commits its state. The states are one
as long as no `create_state` commits over a live state that was committed since its own `DELETE`.
-/

namespace AgencyRuntime

namespace Social

open Py Tables

/-- No two of the rows are live states of one tenant, session and channel. -/
def OneLive {α τ : Type} (state : α → SocialOAuthState τ) (rows : List α) : Prop :=
  ∀ r ∈ rows, ∀ r' ∈ rows, (state r).SameOwner (state r') → (state r).consumedAt = none →
    (state r').consumedAt = none → r = r'

/-- Where the second of two splits of a list lies in the first. -/
theorem split_cases {α : Type} {A B A' B' : List α} {x x' : α} (h : A ++ x :: B = A' ++ x' :: B') :
    (A = A' ∧ x = x' ∧ B = B') ∨ x' ∈ B ∨ x' ∈ A ∧ x ∈ B' := by
  rcases List.append_eq_append_iff.1 h with ⟨C, rfl, hC⟩ | ⟨C, rfl, hC⟩
  · cases C with
    | nil =>
      obtain ⟨rfl, rfl⟩ := List.cons.inj hC
      exact .inl ⟨(List.append_nil A).symm, rfl, rfl⟩
    | cons y C =>
      obtain ⟨rfl, rfl⟩ := List.cons.inj hC
      exact .inr (.inl (List.mem_append_right C List.mem_cons_self))
  · cases C with
    | nil =>
      obtain ⟨rfl, rfl⟩ := List.cons.inj hC
      exact .inl ⟨List.append_nil A', rfl, rfl⟩
    | cons y C =>
      obtain ⟨rfl, rfl⟩ := List.cons.inj hC
      exact .inr (.inr ⟨List.mem_append_right A' List.mem_cons_self,
        List.mem_append_right C List.mem_cons_self⟩)

theorem SocialOAuthState.SameOwner.symm {τ σ : Type} {r : SocialOAuthState τ}
    {r' : SocialOAuthState σ} (h : r.SameOwner r') : r'.SameOwner r :=
  ⟨h.1.symm, h.2.1.symm, h.2.2.symm⟩

theorem SocialOAuthState.SameOwner.trans {τ σ ρ : Type} {r : SocialOAuthState τ}
    {r' : SocialOAuthState σ} {r'' : SocialOAuthState ρ} (h : r.SameOwner r')
    (h' : r'.SameOwner r'') : r.SameOwner r'' :=
  ⟨h.1.trans h'.1, h.2.1.trans h'.2.1, h.2.2.trans h'.2.2⟩

/-! ## SQLite -/

/-- A live row is the last state of its tenant, session and channel, so there is one. -/
theorem Sqlite.StateInvariant.oneLive {log : List (StateEvent Unit Str)} {t : StateTable}
    (h : Sqlite.StateInvariant log t) : OneLive id t.rows := by
  intro r hr r' hr' howner hlive hlive'
  obtain ⟨A, record, B, hlog, hrecord, hlast⟩ := h.pending r hr hlive
  obtain ⟨A', record', B', hlog', hrecord', hlast'⟩ := h.pending r' hr' hlive'
  have howner : record.SameOwner record' := by
    rw [id_eq, id_eq, hrecord, hrecord'] at howner
    exact howner
  rcases split_cases (hlog.symm.trans hlog') with ⟨-, hsame, -⟩ | hmem | ⟨-, hmem⟩
  · cases hsame
    rw [hrecord, hrecord']
  · exact absurd ⟨record', hmem, howner.symm⟩ hlast
  · exact absurd ⟨record, hmem, howner⟩ hlast'

/-! ## PostgreSQL -/

namespace Postgres

/-- The state that a transaction creates. -/
def Session.creates : Session → Option SocialOAuthStateRecord
  | .replacing record _ _ | .inserted record _ => some record
  | .looking .. | .taken .. => none

/-- A live state of the record's tenant, session and channel was committed since the call read the
states that it replaces. -/
def Overtaken (log : List (StateEvent Nat Datetime)) (s : Database) (call : Nat)
    (record : SocialOAuthStateRecord) : Prop :=
  ∃ A B row, log = A ++ .replacing call record :: B ∧ .created row.xmin row.state ∈ B ∧
    row ∈ s.table.rows ∧ row.state.consumedAt = none ∧ row.state.SameOwner record

/-- No `create_state` that the step commits is overtaken. -/
def InTime (log : List (StateEvent Nat Datetime)) (s : Database)
    (events : List (StateEvent Nat Datetime)) : Prop :=
  ∀ call record, .created call record ∈ events → ¬ Overtaken log s call record

/-- The runs in which no `create_state` is overtaken. -/
inductive InTimeRun : List (StateEvent Nat Datetime) → Database → Prop
  | empty : InTimeRun [] .empty
  | step {log events : List (StateEvent Nat Datetime)} {s s' : Database} :
      InTimeRun log s → Step s events s' → InTime log s events → InTimeRun (log ++ events) s'

/-- The one place of a log where the call read the states that it replaces, which were committed. -/
def Began (log : List (StateEvent Nat Datetime)) (call : Nat) (record : SocialOAuthStateRecord)
    (replaced : List StateRow) : Prop :=
  ∃ A B, log = A ++ .replacing call record :: B ∧
    (∀ record', .replacing call record' ∉ A ∧ .replacing call record' ∉ B) ∧
    ∀ row ∈ replaced, .created row.xmin row.state ∈ A

/-- Every `create_state` in progress has its place in the log. -/
def Underway (log : List (StateEvent Nat Datetime)) (s : Database) : Prop :=
  ∀ call session record, s.sessions call = some session → session.creates = some record →
    Began log call record session.replaces

section
variable {log events : List (StateEvent Nat Datetime)} {s s' : Database} {call : Nat}
  {record : SocialOAuthStateRecord} {session session' : Session} {replaced : List StateRow}

theorem InTimeRun.reachable (h : InTimeRun log s) : Reachable log s := by
  induction h with
  | empty => exact .empty
  | step _ hstep _ ih => exact ih.step hstep

theorem Began.append (h : Began log call record replaced)
    (hevents : ∀ record', .replacing call record' ∉ events) :
    Began (log ++ events) call record replaced := by
  obtain ⟨A, B, rfl, hone, hreplaced⟩ := h
  refine ⟨A, B ++ events, by simp, ?_, hreplaced⟩
  intro record'
  refine ⟨(hone record').1, fun hmem => ?_⟩
  exact (List.mem_append.1 hmem).elim (hone record').2 (hevents record')

theorem Began.mono (h : Began log call record replaced) {kept : List StateRow}
    (hkept : ∀ row ∈ kept, row ∈ replaced) : Began log call record kept := by
  obtain ⟨A, B, hlog, hone, hreplaced⟩ := h
  exact ⟨A, B, hlog, hone, fun row hrow => hreplaced row (hkept row hrow)⟩

/-- A transaction that goes on creates what it did and replaces no more, or creates nothing. -/
theorem Underway.set (h : Underway log s) (hcall : s.sessions call = some session)
    (hgoes : session'.creates = none ∨ session'.creates = session.creates ∧
      ∀ row ∈ session'.replaces, row ∈ session.replaces) :
    Underway log (s.set call session') := by
  intro other session'' record hsession hcreates
  rcases Database.set_eq_some hsession with ⟨rfl, rfl⟩ | ⟨-, hsession⟩
  · rcases hgoes with hnone | ⟨hsame, hkept⟩
    · rw [hnone] at hcreates
      cases hcreates
    · exact (h other session record hcall (hsame ▸ hcreates)).mono hkept
  · exact h other session'' record hsession hcreates

theorem Underway.finish (h : Underway log s) (table : StateTable)
    (hevents : ∀ call record, .replacing call record ∉ events) :
    Underway (log ++ events) (s.finish call table) := by
  intro other session record hsession hcreates
  exact (h other session record (Database.finish_eq_some hsession).2 hcreates).append (hevents other)

theorem Underway.step (h : Underway log s) (hinv : Invariant log s) (hstep : Step s events s') :
    Underway (log ++ events) s' := by
  cases hstep with
  | @replace record hvalid =>
    intro other session record' hsession hcreates
    rcases Database.set_eq_some hsession with ⟨rfl, rfl⟩ | ⟨hne, hsession⟩
    · cases hcreates
      refine ⟨log, [], rfl, fun record' => ⟨fun hmem => ?_, List.not_mem_nil⟩, fun row hrow => ?_⟩
      · exact Nat.lt_irrefl _ (hinv.named _ hmem)
      · -- What the `DELETE` finds was committed.
        rw [Session.replaces, List.append_nil, List.mem_filter,
          SocialOAuthState.isPending_iff] at hrow
        obtain ⟨A, B, rfl, -⟩ := hinv.pending row hrow.1 hrow.2.2
        exact List.mem_append_right A List.mem_cons_self
    · refine (h other session record' hsession hcreates).append fun record'' hmem => ?_
      cases List.mem_singleton.1 hmem
      exact hne rfl
  | lock hcall hfound =>
    rw [List.append_nil]
    refine h.set hcall (.inr ⟨rfl, fun r hr => ?_⟩)
    rcases List.mem_append.1 hr with hr | hr
    · exact List.mem_append_left _ (List.mem_of_mem_erase hr)
    · rcases List.mem_cons.1 hr with rfl | hr
      · exact List.mem_append_left _ hfound
      · exact List.mem_append_right _ hr
  | skip hcall =>
    rw [List.append_nil]
    refine h.set hcall (.inr ⟨rfl, fun r hr => ?_⟩)
    rcases List.mem_append.1 hr with hr | hr
    · exact List.mem_append_left _ (List.mem_of_mem_erase hr)
    · exact List.mem_append_right _ hr
  | insert hcall =>
    rw [List.append_nil]
    exact h.set hcall (.inr ⟨rfl, fun r hr => hr⟩)
  | take hcall =>
    rw [List.append_nil]
    exact h.set hcall (.inl rfl)
  | look =>
    rw [List.append_nil]
    intro other session record hsession hcreates
    rcases Database.set_eq_some hsession with ⟨-, rfl⟩ | ⟨-, hsession⟩
    · cases hcreates
    · exact h other session record hsession hcreates
  | refuse =>
    intro other session record hsession hcreates
    refine (h other session record hsession hcreates).append fun record' hmem => ?_
    cases List.mem_singleton.1 hmem
  | rollback => exact h.finish _ fun _ _ hmem => by cases hmem
  | commitCreate | missed | commitConsume =>
    exact h.finish _ fun _ _ hmem => by cases List.mem_singleton.1 hmem

theorem Reachable.underway (h : Reachable log s) : Underway log s := by
  induction h with
  | empty =>
    intro _ _ _ hsession
    cases hsession
  | step hreach hstep ih => exact ih.step hreach.invariant hstep

/-- A live row of the owner that a `create_state` does not replace was committed since its `DELETE`,
which overtakes it. -/
theorem Invariant.overtaken (h : Invariant log s) (hunderway : Underway log s)
    (hcall : s.sessions call = some session) (hcreates : session.creates = some record)
    {row : StateRow} (hrow : row ∈ s.table.rows) (hlive : row.state.consumedAt = none)
    (howner : row.state.SameOwner record) (hkept : row ∉ session.replaces) :
    Overtaken log s call record := by
  obtain ⟨A, B, hlog, hone, -⟩ := hunderway call session record hcall hcreates
  obtain ⟨A', B', hlog', hafter⟩ := h.pending row hrow hlive
  refine ⟨A, B, row, hlog, ?_, hrow, hlive, howner⟩
  rcases split_cases (hlog.symm.trans hlog') with ⟨-, hsame, -⟩ | hmem | ⟨-, hmem⟩
  · cases hsame
  · exact hmem
  · exact absurd ((hafter call record hmem howner.symm).2 session hcall) hkept

/-- A commit that is not overtaken leaves one live state of each owner. -/
theorem oneLive_created (hlive : OneLive StateRow.state s.table.rows) (h : Invariant log s)
    (hunderway : Underway log s) {deleted : List StateRow} {table : StateTable}
    (hcall : s.sessions call = some (.inserted record deleted))
    (hinsert : (s.table.delete fun r => decide (r ∈ deleted)).insert ⟨call, record⟩ = some table)
    (htime : ¬ Overtaken log s call record) : OneLive StateRow.state table.rows := by
  have hold : ∀ r ∈ (s.table.delete fun r => decide (r ∈ deleted)).rows,
      r.state.consumedAt = none → ¬ r.state.SameOwner record := by
    intro r hr hnone howner
    rw [Table.mem_delete, decide_eq_false_iff_not] at hr
    exact htime (h.overtaken hunderway hcall rfl hr.1 hnone howner hr.2)
  intro r hr r' hr' howner hnone hnone'
  rcases (Table.mem_insert hinsert).1 hr with hr | rfl
  · rcases (Table.mem_insert hinsert).1 hr' with hr' | rfl
    · exact hlive r (Table.mem_delete.1 hr).1 r' (Table.mem_delete.1 hr').1 howner hnone hnone'
    · exact absurd howner (hold r hr hnone)
  · rcases (Table.mem_insert hinsert).1 hr' with hr' | rfl
    · exact absurd howner.symm (hold r' hr' hnone')
    · rfl

/-- Consuming a row makes none live. -/
theorem oneLive_modify {selected : StateRow → Bool} {now : Datetime} {table : StateTable}
    (h : OneLive StateRow.state table.rows) :
    OneLive StateRow.state (table.modify selected (consumeRow now)).rows := by
  have hold : ∀ r ∈ (table.modify selected (consumeRow now)).rows, r.state.consumedAt = none →
      r ∈ table.rows := by
    intro r hr hnone
    obtain ⟨old, hold, rfl⟩ := Table.mem_modify.1 hr
    split at hnone
    · cases hnone
    · next hsel =>
      rw [if_neg hsel]
      exact hold
  intro r hr r' hr' howner hnone hnone'
  exact h r (hold r hr hnone) r' (hold r' hr' hnone') howner hnone hnone'

theorem oneLive_step (hlive : OneLive StateRow.state s.table.rows) (h : Invariant log s)
    (hunderway : Underway log s) (hstep : Step s events s') (htime : InTime log s events) :
    OneLive StateRow.state s'.table.rows := by
  cases hstep with
  | commitCreate hcall hinsert =>
    exact oneLive_created hlive h hunderway hcall hinsert (htime _ _ List.mem_cons_self)
  | commitConsume => exact oneLive_modify hlive
  | replace | lock | skip | insert | rollback | look | refuse | take | missed => exact hlive

theorem InTimeRun.oneLive (h : InTimeRun log s) : OneLive StateRow.state s.table.rows := by
  induction h with
  | empty =>
    intro r hr
    cases hr
  | step hrun hstep htime ih =>
    exact oneLive_step ih hrun.reachable.invariant hrun.reachable.underway hstep htime

/-- A call commits one state, so what a `create_state` replaces was not committed since. -/
theorem Reachable.overtaken_kept (h : Reachable log s) (hcall : s.sessions call = some session)
    (hcreates : session.creates = some record) (hover : Overtaken log s call record) :
    ∃ row ∈ s.table.rows, row.state.consumedAt = none ∧ row.state.SameOwner record ∧
      row ∉ session.replaces := by
  obtain ⟨A, B, row, hlog, hmem, hrow, hlive, howner⟩ := hover
  obtain ⟨A', B', hlog', hone, hreplaced⟩ := h.underway call session record hcall hcreates
  refine ⟨row, hrow, hlive, howner, fun hreplaces => ?_⟩
  have hbefore := hreplaced row hreplaces
  rcases split_cases (hlog'.symm.trans hlog) with ⟨rfl, -, rfl⟩ | hagain | ⟨hagain, -⟩
  · have honce := h.endsOnce.once
    rw [hlog, List.filterMap_append, List.filterMap_cons_none rfl] at honce
    refine (List.nodup_append.1 honce).2.2 row.xmin ?_ row.xmin ?_ rfl
    · exact List.mem_filterMap.2 ⟨_, hbefore, rfl⟩
    · exact List.mem_filterMap.2 ⟨_, hmem, rfl⟩
  · exact (hone record).2 hagain
  · exact (hone record).1 hagain

/-- A `create_state` that is committed though it is overtaken leaves two live states. -/
theorem Reachable.not_oneLive (h : Reachable log s) (hstep : Step s events s')
    (htime : ¬ InTime log s events) : ¬ OneLive StateRow.state s'.table.rows := by
  intro hlive
  refine htime fun call record hmem hover => ?_
  cases hstep with
  | @commitCreate _ _ deleted _ hcall hinsert =>
    cases List.mem_singleton.1 hmem
    obtain ⟨row, hrow, hnone, howner, hkept⟩ := h.overtaken_kept hcall rfl hover
    have hold : row ∈ (s.table.delete fun r => decide (r ∈ deleted)).rows :=
      Table.mem_delete.2 ⟨hrow, decide_eq_false_iff_not.2 hkept⟩
    have hsame : row = ⟨call, record⟩ :=
      hlive row ((Table.mem_insert hinsert).2 (.inl hold)) _ ((Table.mem_insert hinsert).2 (.inr rfl))
        howner hnone (h.invariant.holds _ _ hcall).2
    have hfresh := (Table.insert_eq_some.1 hinsert).1 row hold
    rw [hsame] at hfresh
    simp [stateSchema, Schema.ofPair] at hfresh
  | lock | skip | insert | rollback | look | take => cases hmem
  | replace | refuse | missed | commitConsume => cases List.mem_singleton.1 hmem

end

end Postgres

/-- In SQLite a tenant, session and channel has at most one live state after any calls. In
PostgreSQL it has at most one in every state of a run in which no `create_state` is committed over a
live state that was committed since its own `DELETE`, and two after any commit that is. -/
theorem one_live_state (calls : List (Sqlite.StateCall × List (Option Exn)))
    (log : List (StateEvent Nat Datetime)) (s : Postgres.Database) :
    OneLive id (Sqlite.runStates calls Table.empty).2.rows ∧
    (Postgres.InTimeRun log s → OneLive Postgres.StateRow.state s.table.rows) ∧
    ∀ events s', Postgres.Reachable log s → Postgres.Step s events s' →
      ¬ Postgres.InTime log s events → ¬ OneLive Postgres.StateRow.state s'.table.rows := by
  refine ⟨?_, ?_, ?_⟩
  · exact (Sqlite.StateInvariant.empty.run calls).oneLive
  · intro h
    exact h.oneLive
  · intro events s' h hstep htime
    exact h.not_oneLive hstep htime

namespace LiveSample

theorem start_inRange : 0 < 3652059 * dayMicros := by decide

theorem end_inRange : 600000000 < 3652059 * dayMicros := by decide

/-- Two states of one tenant, session and channel. -/
def record (name : String) (digit : Nat) : SocialOAuthStateRecord where
  stateId := lit name
  tenantId := lit "t"
  sessionId := lit "s"
  channelId := lit "x"
  stateDigest := List.replicate 64 (Fin.ofNat _ (0x30 + digit))
  providerTokenDigest := none
  ciphertext := lit "c"
  keyId := lit "k"
  createdAt := ⟨0, start_inRange⟩
  expiresAt := ⟨600000000, end_inRange⟩
  consumedAt := none

theorem first_valid : validateState (record "first" 1) = .ok () := by decide

theorem second_valid : validateState (record "second" 2) = .ok () := by decide

end LiveSample

/-- Two `create_state` that overlap are both completed, and leave two live states. -/
theorem overlapping_creates_both_live :
    ¬ ∀ log s, Postgres.Reachable log s → (∀ call, s.sessions call = none) →
      OneLive Postgres.StateRow.state s.table.rows := by
  intro h
  obtain ⟨s, hreach, hrows, hdone⟩ := Postgres.overlapping_creates LiveSample.first_valid
    LiveSample.second_valid (by decide) (by decide)
  have hlive := h _ s hreach hdone
  rw [hrows] at hlive
  have hsame := hlive _ List.mem_cons_self _ (List.mem_cons_of_mem _ List.mem_cons_self)
    ⟨rfl, rfl, rfl⟩ rfl rfl
  cases congrArg Postgres.StateRow.xmin hsame

namespace Postgres

/-- A step that commits no `create_state` is in time. -/
theorem inTime_of_none {log events : List (StateEvent Nat Datetime)} {s : Database}
    (h : ∀ call record, .created call record ∉ events) : InTime log s events := by
  intro call record hmem
  exact absurd hmem (h call record)

/-- A `create_state` that is committed before another call does anything is in time. -/
theorem inTime_of_last {before log : List (StateEvent Nat Datetime)} {s : Database} {call : Nat}
    {record : SocialOAuthStateRecord} (hlog : log = before ++ [.replacing call record])
    (hnew : ∀ e ∈ before, callOf e ≠ call) : InTime log s [.created call record] := by
  intro call' record' hmem hover
  cases List.mem_singleton.1 hmem
  obtain ⟨A, B, row, hsplit, hcreated, -⟩ := hover
  rcases split_cases (hlog.symm.trans hsplit) with ⟨-, -, rfl⟩ | hagain | ⟨hagain, -⟩
  · cases hcreated
  · cases hagain
  · exact hnew _ hagain rfl

end Postgres

/-- A `create_state` that overlaps one which fails leaves one live state. -/
theorem one_live_state_overlapping :
    ∃ s, Postgres.InTimeRun [.replacing 0 (LiveSample.record "first" 1),
        .replacing 1 (LiveSample.record "second" 2), .created 1 (LiveSample.record "second" 2)] s ∧
      s.table.rows = [⟨1, LiveSample.record "second" 2⟩] ∧
      OneLive Postgres.StateRow.state s.table.rows := by
  have hfresh : ((Table.empty : Postgres.StateTable).delete fun r => decide (r ∈ [])).Fresh
      ⟨1, LiveSample.record "second" 2⟩ := by
    intro r hr
    cases hr
  have hinsert : ((Table.empty : Postgres.StateTable).delete fun r => decide (r ∈ [])).insert
      ⟨1, LiveSample.record "second" 2⟩ =
        some ⟨[⟨1, LiveSample.record "second" 2⟩], List.pairwise_singleton ..⟩ :=
    Table.insert_eq_some.2 ⟨hfresh, rfl⟩
  have hrun := (Postgres.InTimeRun.empty.step (.replace LiveSample.first_valid)
    (Postgres.inTime_of_none fun _ _ hmem => by cases List.mem_singleton.1 hmem)).step
    (.replace LiveSample.second_valid)
    (Postgres.inTime_of_none fun _ _ hmem => by cases List.mem_singleton.1 hmem)
  have hrun := (hrun.step (@Postgres.Step.rollback _ 0 _ rfl)
    (Postgres.inTime_of_none fun _ _ hmem => by cases hmem)).step
    (@Postgres.Step.insert _ 1 (LiveSample.record "second" 2) [] rfl hfresh)
    (Postgres.inTime_of_none fun _ _ hmem => by cases hmem)
  have hnew : ∀ e ∈ [(.replacing 0 (LiveSample.record "first" 1) : StateEvent Nat Datetime)],
      Postgres.callOf e ≠ 1 := by
    intro e he
    cases List.mem_singleton.1 he
    exact Nat.zero_ne_one
  have hrun := hrun.step
    (@Postgres.Step.commitCreate _ 1 (LiveSample.record "second" 2) [] _ rfl hinsert)
    (Postgres.inTime_of_last rfl hnew)
  exact ⟨_, hrun, rfl, (one_live_state [] _ _).2.1 hrun⟩

end Social

end AgencyRuntime
