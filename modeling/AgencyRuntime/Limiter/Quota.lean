import AgencyRuntime.Limiter.Stores
import AgencyRuntime.Python.Datetime

/-!
# The quota of authenticated requests

`consume_authenticated_request_quota` of both run stores. Each bucket has one row: a window and the
requests counted in it. The SQLite store (persistence.py) keeps the start of the window as text and
compares texts, the PostgreSQL store (postgres.py) keeps a timestamp in a table whose
`request_count` has four bytes. What the two do is written once over the columns of a store, and
proved against a quota that is a function from buckets to windows.
-/

namespace AgencyRuntime

namespace Limiter

open Py

/-- A row of `authenticated_request_rate_limits`, less its key. -/
structure QuotaRow (τ : Type) where
  windowStartedAt : τ
  requestCount : Int
deriving DecidableEq

/-- `authenticated_request_rate_limits`, whose primary key is `bucket_hash`. -/
structure QuotaTable (τ : Type) where
  rows : List (Str × QuotaRow τ)
  distinct : (rows.map Prod.fst).Nodup
deriving DecidableEq

namespace QuotaTable

variable {τ : Type}

def empty : QuotaTable τ := ⟨[], List.nodup_nil⟩

/-- `SELECT … WHERE bucket_hash = …` -/
def select (table : QuotaTable τ) (bucketHash : Str) : Option (QuotaRow τ) :=
  table.rows.lookup bucketHash

/-- `DELETE FROM authenticated_request_rate_limits WHERE …` -/
def delete (table : QuotaTable τ) (where' : QuotaRow τ → Bool) : QuotaTable τ where
  rows := table.rows.filter fun row => !where' row.2
  distinct := (List.filter_sublist.map Prod.fst).nodup table.distinct

/-- `INSERT INTO … ON CONFLICT(bucket_hash) DO UPDATE SET …` -/
def upsert (table : QuotaTable τ) (row : Str × QuotaRow τ) : QuotaTable τ where
  rows := setMember table.rows row
  distinct := (setMember_spec row table.distinct).1

theorem select_empty (bucketHash : Str) : (empty : QuotaTable τ).select bucketHash = none := rfl

theorem select_upsert (table : QuotaTable τ) (row : Str × QuotaRow τ) (bucketHash : Str) :
    (table.upsert row).select bucketHash =
      if bucketHash = row.1 then some row.2 else table.select bucketHash :=
  lookup_setMember table.rows row bucketHash

theorem select_delete (table : QuotaTable τ) (where' : QuotaRow τ → Bool) (bucketHash : Str) :
    (table.delete where').select bucketHash =
      (table.select bucketHash).filter fun row => !where' row := by
  obtain ⟨rows, hd⟩ := table
  simp only [select, delete]
  induction rows with
  | nil => rfl
  | cons row rows ih =>
    rw [List.map_cons, List.nodup_cons] at hd
    have ih := ih hd.2
    by_cases hb : bucketHash = row.1
    · have hnone : (rows.filter fun row => !where' row.2).lookup bucketHash = none := by
        rw [List.lookup_eq_none_iff]
        intro e he
        rw [bne_iff_ne]
        rintro heq
        exact hd.1 (hb ▸ heq ▸ List.mem_map_of_mem (List.mem_of_mem_filter he))
      rw [List.filter_cons]
      cases hw : where' row.2 with
      | true =>
        simp only [Bool.not_true, Bool.false_eq_true, if_false]
        rw [hnone, lookup_cons_eq, if_pos hb]
        simp [Option.filter, hw]
      | false => simp [lookup_cons_eq, hb, hw, Option.filter]
    · rw [List.filter_cons, lookup_cons_eq, if_neg hb, ← ih]
      split
      · rw [lookup_cons_eq, if_neg hb]
      · rfl

end QuotaTable

/-- How a store keeps the columns: how it writes an instant and reads it back, how it compares one
with a cutoff, and which counts it can store. -/
structure QuotaColumns (τ : Type) where
  write : Datetime → τ
  read : τ → Except Exn Datetime
  isBefore : τ → Datetime → Bool
  checkCount : Int → Except Exn Unit

/-- A call, at the time its clock gives. -/
structure QuotaCall where
  bucketLimits : BucketLimits
  now : Datetime

/-- The checks at the start of both methods. -/
def checkQuotaArguments (bucketLimits : BucketLimits) (windowSeconds : Int) : Except Exn Unit := do
  check (bucketLimits ≠ [])
    (.valueError "at least one authenticated request bucket is required")
  check (∀ p ∈ bucketLimits, p.1 ≠ [])
    (.valueError "authenticated request bucket hash is required")
  check (bucketLimits.map Prod.fst).Nodup
    (.valueError "authenticated request bucket hashes must be unique")
  check (∀ p ∈ bucketLimits, ¬ p.2 < 1)
    (.valueError "max authenticated requests must be positive")
  check (¬ windowSeconds < 1) (.valueError "authenticated request window must be positive")

/-- `AuthenticatedRequestRateLimitError`, with the seconds until `retryAt`. -/
def quotaError (retryAt now : Datetime) : Exn :=
  .authenticatedRequestRateLimit
    (max 1 (((retryAt.micros : Int) - now.micros).tdiv 1000000 + 1))

section
variable {τ : Type} (C : QuotaColumns τ)

/-- The body of the loop over the buckets: the row to write, or the refusal. -/
def planBucket (windowSeconds : Int) (now : Datetime) (table : QuotaTable τ) (p : Str × Int) :
    Except Exn (Str × QuotaRow τ) :=
  match table.select p.1 with
  | none => .ok (p.1, ⟨C.write now, 1⟩)
  | some row => do
    let windowStarted ← C.read row.windowStartedAt
    let retryAt ← windowStarted.add (timedelta windowSeconds)
    if retryAt ≤ now then return (p.1, ⟨C.write now, 1⟩)
    else if p.2 ≤ row.requestCount then throw (quotaError retryAt now)
    else return (p.1, ⟨row.windowStartedAt, row.requestCount + 1⟩)

/-- The loop over the buckets. -/
def planBuckets (windowSeconds : Int) (now : Datetime) (table : QuotaTable τ) :
    BucketLimits → Except Exn (List (Str × QuotaRow τ))
  | [] => .ok []
  | p :: rest => do
    let update ← planBucket C windowSeconds now table p
    let updates ← planBuckets windowSeconds now table rest
    return update :: updates

/-- The statements that write the rows. -/
def writeUpdates : List (Str × QuotaRow τ) → QuotaTable τ → Except Exn (QuotaTable τ)
  | [], table => .ok table
  | update :: rest, table => do
    C.checkCount update.2.requestCount
    writeUpdates rest (table.upsert update)

/-- `consume_authenticated_request_quota` over the columns of a store. -/
def consumeQuota (windowSeconds : Int) (call : QuotaCall) (table : QuotaTable τ) :
    Except Exn Unit × QuotaTable τ :=
  commit table do
    checkQuotaArguments call.bucketLimits windowSeconds
    let cutoff ← call.now.add (-timedelta windowSeconds)
    let kept := table.delete fun row => C.isBefore row.windowStartedAt cutoff
    let updates ← planBuckets C windowSeconds call.now kept (sortedBuckets call.bucketLimits)
    writeUpdates C updates kept

end

/-- The columns in SQLite: texts, compared as texts, and counts of eight bytes. -/
def Sqlite.quotaColumns : QuotaColumns Str where
  write t := t.isoformat
  read s := orValueError (Datetime.fromisoformat s) "Invalid isoformat string"
  isBefore s cutoff := decide (s < cutoff.isoformat)
  checkCount n := check (-(2 ^ 63) ≤ n ∧ n < 2 ^ 63) .overflowError

/-- The columns in PostgreSQL: timestamps, and counts of four bytes. -/
def Postgres.quotaColumns : QuotaColumns Datetime where
  write t := t
  read t := .ok t
  isBefore t cutoff := decide (t < cutoff)
  checkCount n := check (-(2 ^ 31) ≤ n ∧ n < 2 ^ 31) (.databaseError "integer out of range")

/-- `SQLiteRunStore.consume_authenticated_request_quota` -/
def Sqlite.consumeAuthenticatedRequestQuota (windowSeconds : Int) (call : QuotaCall)
    (table : QuotaTable Str) : Except Exn Unit × QuotaTable Str :=
  consumeQuota quotaColumns windowSeconds call table

/-- `PostgresRunStore.consume_authenticated_request_quota` -/
def Postgres.consumeAuthenticatedRequestQuota (windowSeconds : Int) (call : QuotaCall)
    (table : QuotaTable Datetime) : Except Exn Unit × QuotaTable Datetime :=
  consumeQuota quotaColumns windowSeconds call table

/-! ## The quota as a function of the buckets -/

/-- The window of each bucket: when it started, and the requests counted in it. -/
abbrev Windows := Str → Option (Datetime × Int)

/-- Without the windows that started before the cutoff. -/
def Windows.expire (V : Windows) (cutoff : Datetime) : Windows :=
  fun b => (V b).filter fun w => !decide (w.1 < cutoff)

/-- The window of a bucket after a request, or the refusal. -/
def nextWindow (windowSeconds : Int) (now : Datetime) (limit : Int) :
    Option (Datetime × Int) → Except Exn (Datetime × Int)
  | none => .ok (now, 1)
  | some w => do
    let retryAt ← w.1.add (timedelta windowSeconds)
    if retryAt ≤ now then return (now, 1)
    else if limit ≤ w.2 then throw (quotaError retryAt now)
    else return (w.1, w.2 + 1)

/-- The windows of the buckets of a request. -/
def Windows.plan (windowSeconds : Int) (now : Datetime) (V : Windows) :
    BucketLimits → Except Exn (List (Str × (Datetime × Int)))
  | [] => .ok []
  | p :: rest => do
    let w ← nextWindow windowSeconds now p.2 (V p.1)
    let ws ← V.plan windowSeconds now rest
    return (p.1, w) :: ws

def Windows.write (V : Windows) : List (Str × (Datetime × Int)) → Windows
  | [] => V
  | w :: rest => Windows.write (Function.update V w.1 (some w.2)) rest

/-- A request: the windows after it, or the refusal. -/
def Windows.consume (windowSeconds : Int) (call : QuotaCall) (V : Windows) : Except Exn Windows := do
  checkQuotaArguments call.bucketLimits windowSeconds
  let cutoff ← call.now.add (-timedelta windowSeconds)
  let kept := V.expire cutoff
  let updates ← kept.plan windowSeconds call.now (sortedBuckets call.bucketLimits)
  return kept.write updates

/-- What the columns of a store have to be. -/
structure QuotaColumns.Lawful {τ : Type} (C : QuotaColumns τ) : Prop where
  read_write (t : Datetime) : C.read (C.write t) = .ok t
  isBefore_write (t cutoff : Datetime) : C.isBefore (C.write t) cutoff = decide (t < cutoff)

theorem Sqlite.quotaColumns_lawful : Sqlite.quotaColumns.Lawful where
  read_write t := by simp [Sqlite.quotaColumns, Datetime.fromisoformat_isoformat, orValueError]
  isBefore_write t cutoff := by simp [Sqlite.quotaColumns, Datetime.isoformat_lt]

theorem Postgres.quotaColumns_lawful : Postgres.quotaColumns.Lawful where
  read_write _ := rfl
  isBefore_write _ _ := rfl

theorem Sqlite.checkCount_ok {n : Int} (h₀ : 0 ≤ n) (h : n < 2 ^ 63) :
    quotaColumns.checkCount n = .ok () :=
  check_ok.2 ⟨by omega, h⟩

theorem Postgres.checkCount_ok {n : Int} (h₀ : 0 ≤ n) :
    quotaColumns.checkCount n = .ok () ↔ n < 2 ^ 31 :=
  check_ok.trans ⟨And.right, fun h => ⟨by omega, h⟩⟩

/-- The table stores the windows. -/
def QuotaTable.Stores {τ : Type} (C : QuotaColumns τ) (table : QuotaTable τ) (V : Windows) : Prop :=
  ∀ b, table.select b = (V b).map fun w => ⟨C.write w.1, w.2⟩

section
variable {τ : Type} {C : QuotaColumns τ} {table : QuotaTable τ} {V : Windows}

/-- A row of windows as a row of the table. -/
def QuotaColumns.row (C : QuotaColumns τ) (w : Str × (Datetime × Int)) : Str × QuotaRow τ :=
  (w.1, ⟨C.write w.2.1, w.2.2⟩)

theorem QuotaTable.Stores.delete (hC : C.Lawful) (h : table.Stores C V) (cutoff : Datetime) :
    (table.delete fun row => C.isBefore row.windowStartedAt cutoff).Stores C (V.expire cutoff) := by
  intro b
  rw [QuotaTable.select_delete, h b, Windows.expire]
  cases V b with
  | none => rfl
  | some w =>
    simp only [Option.map_some, Option.filter_some, hC.isBefore_write]
    split <;> rfl

theorem QuotaTable.Stores.upsert (h : table.Stores C V) (w : Str × (Datetime × Int)) :
    (table.upsert (C.row w)).Stores C (Function.update V w.1 (some w.2)) := by
  intro b
  rw [QuotaTable.select_upsert, h b, Function.update_apply, QuotaColumns.row]
  split <;> rfl

theorem planBucket_eq (hC : C.Lawful) (h : table.Stores C V) (windowSeconds : Int) (now : Datetime)
    (p : Str × Int) : planBucket C windowSeconds now table p =
      (nextWindow windowSeconds now p.2 (V p.1)).map fun w => C.row (p.1, w) := by
  rw [planBucket, h p.1]
  cases V p.1 with
  | none => rfl
  | some w =>
    simp only [Option.map_some, hC.read_write, nextWindow, bind, Except.bind]
    cases w.1.add (timedelta windowSeconds) with
    | error e => rfl
    | ok retryAt =>
      simp only
      split
      · rfl
      · split <;> rfl

theorem planBuckets_eq (hC : C.Lawful) (h : table.Stores C V) (windowSeconds : Int) (now : Datetime)
    (bucketLimits : BucketLimits) : planBuckets C windowSeconds now table bucketLimits =
      (V.plan windowSeconds now bucketLimits).map (List.map C.row) := by
  induction bucketLimits with
  | nil => rfl
  | cons p rest ih =>
    rw [planBuckets, Windows.plan, planBucket_eq hC h, ih]
    cases nextWindow windowSeconds now p.2 (V p.1) with
    | error e => rfl
    | ok w => cases V.plan windowSeconds now rest <;> rfl

/-- The rows are written where the store can hold their counts. -/
theorem writeUpdates_ok {updates : List (Str × (Datetime × Int))} (h : table.Stores C V)
    (hcounts : ∀ w ∈ updates, C.checkCount w.2.2 = .ok ()) :
    ∃ table', writeUpdates C (updates.map C.row) table = .ok table' ∧
      table'.Stores C (V.write updates) := by
  induction updates generalizing table V with
  | nil => exact ⟨table, rfl, h⟩
  | cons w rest ih =>
    rw [List.forall_mem_cons] at hcounts
    obtain ⟨table', hwrite, hstores⟩ := ih (h.upsert w) hcounts.2
    refine ⟨table', ?_, hstores⟩
    rw [List.map_cons, writeUpdates]
    simp only [QuotaColumns.row] at hwrite hcounts ⊢
    rw [hcounts.1]
    exact hwrite

/-- Rows that were written are the planned ones. -/
theorem writeUpdates_stores {updates : List (Str × (Datetime × Int))} {table' : QuotaTable τ}
    (h : table.Stores C V) (hwrite : writeUpdates C (updates.map C.row) table = .ok table') :
    table'.Stores C (V.write updates) := by
  induction updates generalizing table V with
  | nil =>
    cases hwrite
    exact h
  | cons w rest ih =>
    rw [List.map_cons, writeUpdates] at hwrite
    obtain ⟨_, -, hwrite⟩ := exceptBind_ok hwrite
    exact ih (h.upsert w) hwrite

/-- What a request plans: one window for each bucket, the next one of that bucket. -/
theorem Windows.plan_ok {windowSeconds : Int} {now : Datetime} {bucketLimits : BucketLimits}
    {updates : List (Str × (Datetime × Int))}
    (h : V.plan windowSeconds now bucketLimits = .ok updates) :
    updates.map Prod.fst = bucketLimits.map Prod.fst ∧
      (∀ u ∈ updates, ∃ p ∈ bucketLimits, p.1 = u.1 ∧
        nextWindow windowSeconds now p.2 (V p.1) = .ok u.2) ∧
      ∀ p ∈ bucketLimits, ∃ w, (p.1, w) ∈ updates ∧
        nextWindow windowSeconds now p.2 (V p.1) = .ok w := by
  induction bucketLimits generalizing updates with
  | nil =>
    cases h
    exact ⟨rfl, nofun, nofun⟩
  | cons p rest ih =>
    obtain ⟨w, hw, h⟩ := exceptBind_ok h
    obtain ⟨ws, hws, h⟩ := exceptBind_ok h
    cases h
    obtain ⟨h1, h2, h3⟩ := ih hws
    refine ⟨by simp [h1], ?_, ?_⟩
    · intro u hu
      rcases List.mem_cons.1 hu with rfl | hu
      · exact ⟨p, List.mem_cons_self, rfl, hw⟩
      · obtain ⟨q, hq, hqu⟩ := h2 u hu
        exact ⟨q, List.mem_cons_of_mem p hq, hqu⟩
    · intro q hq
      rcases List.mem_cons.1 hq with rfl | hq
      · exact ⟨w, List.mem_cons_self, hw⟩
      · obtain ⟨w', hw', hnext⟩ := h3 q hq
        exact ⟨w', List.mem_cons_of_mem _ hw', hnext⟩

theorem Windows.write_of_not_mem {updates : List (Str × (Datetime × Int))} {b : Str}
    (h : b ∉ updates.map Prod.fst) : V.write updates b = V b := by
  induction updates generalizing V with
  | nil => rfl
  | cons u rest ih =>
    rw [List.map_cons, List.mem_cons, not_or] at h
    rw [Windows.write, ih h.2, Function.update_of_ne h.1]

theorem Windows.write_of_mem {updates : List (Str × (Datetime × Int))} {u : Str × (Datetime × Int)}
    (hd : (updates.map Prod.fst).Nodup) (h : u ∈ updates) : V.write updates u.1 = some u.2 := by
  induction updates generalizing V with
  | nil => cases h
  | cons w rest ih =>
    rw [List.map_cons, List.nodup_cons] at hd
    rcases List.mem_cons.1 h with rfl | h
    · rw [Windows.write, Windows.write_of_not_mem hd.1, Function.update_self]
    · exact ih hd.2 h

/-- What the checks of the arguments establish. -/
theorem checkQuotaArguments_ok {bucketLimits : BucketLimits} {windowSeconds : Int}
    (h : checkQuotaArguments bucketLimits windowSeconds = .ok ()) :
    (bucketLimits.map Prod.fst).Nodup ∧ (∀ p ∈ bucketLimits, 1 ≤ p.2) ∧ 1 ≤ windowSeconds := by
  obtain ⟨_, -, h⟩ := exceptBind_ok h
  obtain ⟨_, -, h⟩ := exceptBind_ok h
  obtain ⟨_, hnodup, h⟩ := exceptBind_ok h
  obtain ⟨_, hmax, hwindow⟩ := exceptBind_ok h
  rw [check_ok] at hnodup hmax hwindow
  refine ⟨hnodup, fun p hp => ?_, by omega⟩
  have := hmax p hp
  omega

/-- What an admitted request does: each of its buckets gets its next window, and the other buckets
keep theirs unless it is over. -/
structure Windows.Admitted (windowSeconds : Int) (call : QuotaCall) (V V' : Windows) : Prop where
  window : 1 ≤ windowSeconds
  limits : ∀ p ∈ call.bucketLimits, 1 ≤ p.2
  nodup : (call.bucketLimits.map Prod.fst).Nodup
  rest : ∃ cutoff, call.now.add (-timedelta windowSeconds) = .ok cutoff ∧
    (∀ p ∈ call.bucketLimits, ∃ w, V' p.1 = some w ∧
      nextWindow windowSeconds call.now p.2 (V.expire cutoff p.1) = .ok w) ∧
    ∀ b, b ∉ call.bucketLimits.map Prod.fst → V' b = V.expire cutoff b

theorem Windows.consume_ok {windowSeconds : Int} {call : QuotaCall} {V' : Windows}
    (h : V.consume windowSeconds call = .ok V') : V.Admitted windowSeconds call V' := by
  obtain ⟨_, hargs, h⟩ := exceptBind_ok h
  obtain ⟨cutoff, hcutoff, h⟩ := exceptBind_ok h
  obtain ⟨updates, hplan, h⟩ := exceptBind_ok h
  cases h
  obtain ⟨hnodup, hlimits, hwindow⟩ := checkQuotaArguments_ok hargs
  have hperm := sortedBuckets_perm call.bucketLimits
  obtain ⟨hkeys, -, hplanned⟩ := plan_ok hplan
  have hdistinct : (updates.map Prod.fst).Nodup := by
    rw [hkeys]
    exact (hperm.map Prod.fst).nodup_iff.2 hnodup
  refine ⟨hwindow, hlimits, hnodup, cutoff, hcutoff, fun p hp => ?_, fun b hb => ?_⟩
  · obtain ⟨w, hw, hnext⟩ := hplanned p (hperm.mem_iff.2 hp)
    exact ⟨w, write_of_mem hdistinct hw, hnext⟩
  · refine write_of_not_mem ?_
    rw [hkeys]
    exact fun h => hb ((hperm.map Prod.fst).mem_iff.1 h)

/-- A request that is admitted by a store is admitted by its windows, and the store has them. -/
theorem consumeQuota_ok (hC : C.Lawful) (h : table.Stores C V) {windowSeconds : Int}
    {call : QuotaCall} {table' : QuotaTable τ}
    (hok : consumeQuota C windowSeconds call table = (.ok (), table')) :
    ∃ V', V.consume windowSeconds call = .ok V' ∧ table'.Stores C V' := by
  unfold consumeQuota commit at hok
  split at hok
  · next new hnew =>
    obtain rfl : new = table' := (Prod.mk.inj hok).2
    obtain ⟨_, hargs, hnew⟩ := exceptBind_ok hnew
    obtain ⟨cutoff, hcutoff, hnew⟩ := exceptBind_ok hnew
    obtain ⟨updates, hplan, hwrite⟩ := exceptBind_ok hnew
    have hkept := h.delete hC cutoff
    rw [planBuckets_eq hC hkept] at hplan
    cases hplan' : (V.expire cutoff).plan windowSeconds call.now
        (sortedBuckets call.bucketLimits) with
    | error e =>
      rw [hplan'] at hplan
      cases hplan
    | ok planned =>
      rw [hplan'] at hplan
      cases hplan
      refine ⟨(V.expire cutoff).write planned, ?_, writeUpdates_stores hkept hwrite⟩
      simp only [Windows.consume, hargs, hcutoff, hplan', bind, Except.bind, pure, Except.pure]
  · cases (Prod.mk.inj hok).1

/-- A refused request is rolled back. -/
theorem consumeQuota_error {windowSeconds : Int} {call : QuotaCall} {table' : QuotaTable τ}
    {e : Exn} (h : consumeQuota C windowSeconds call table = (.error e, table')) :
    table' = table := by
  unfold consumeQuota commit at h
  split at h
  · cases (Prod.mk.inj h).1
  · exact (Prod.mk.inj h).2.symm

/-- A store that can hold the counts decides as its windows do. -/
theorem consumeQuota_fst (hC : C.Lawful) (h : table.Stores C V) {windowSeconds : Int}
    {call : QuotaCall} (hcounts : checkQuotaArguments call.bucketLimits windowSeconds = .ok () →
      ∀ cutoff, call.now.add (-timedelta windowSeconds) = .ok cutoff → ∀ p ∈ call.bucketLimits, ∀ w,
      nextWindow windowSeconds call.now p.2 (V.expire cutoff p.1) = .ok w →
        C.checkCount w.2 = .ok ()) :
    (consumeQuota C windowSeconds call table).1 =
      (V.consume windowSeconds call).map fun _ => () := by
  unfold consumeQuota Windows.consume
  simp only [bind, Except.bind, pure, Except.pure]
  cases hargs : checkQuotaArguments call.bucketLimits windowSeconds with
  | error e => rfl
  | ok _ =>
    cases hcutoff : call.now.add (-timedelta windowSeconds) with
    | error e => rfl
    | ok cutoff =>
      have hkept := h.delete hC cutoff
      simp only [planBuckets_eq hC hkept]
      cases hplan : (V.expire cutoff).plan windowSeconds call.now
          (sortedBuckets call.bucketLimits) with
      | error e => rfl
      | ok planned =>
        obtain ⟨-, hnext, -⟩ := Windows.plan_ok hplan
        obtain ⟨table', hwrite, -⟩ := writeUpdates_ok hkept fun u hu => by
          obtain ⟨p, hp, -, hw⟩ := hnext u hu
          exact hcounts hargs cutoff hcutoff p ((sortedBuckets_perm _).mem_iff.1 hp) u.2 hw
        simp only [Except.map, hwrite, commit]

end

end Limiter

end AgencyRuntime
