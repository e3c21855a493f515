import AgencyRuntime.Python.Canonical

/-!
# The login limiters

`enforce_authentication_rate_limit` and `record_authentication_failure` of both run stores. The
SQLite store (persistence.py) keeps a log of failures and looks back one window from each call; the
PostgreSQL store (postgres.py) keeps one row for each bucket, a window that starts with a failure and
the failures counted in it. Instants are in microseconds. A call that raises is rolled back.
-/

namespace AgencyRuntime

namespace Limiter

/-- The buckets of a call with their limits. -/
abbrev BucketLimits := List (Str × Int)

/-- The checks at the start of each method. -/
def checkArguments (bucketLimits : BucketLimits) (windowSeconds : Int) : Except Exn Unit := do
  check (bucketLimits ≠ []) (.valueError "at least one authentication bucket is required")
  check (∀ p ∈ bucketLimits, ¬ p.2 < 1) (.valueError "max_failures must be positive")
  check (¬ windowSeconds < 1) (.valueError "window_seconds must be positive")

/-- `sorted(bucket_limits)` -/
def sortedBuckets (bucketLimits : BucketLimits) : BucketLimits :=
  bucketLimits.insertionSort fun p q => p.1 < q.1 ∨ p.1 = q.1 ∧ p.2 ≤ q.2

/-- `timedelta(seconds=window_seconds)` -/
def timedelta (windowSeconds : Int) : Int := windowSeconds * 1000000

/-- `AuthenticationRateLimitError`, with the seconds until a window that starts at `start` is over. -/
def rateLimitError (start window now : Int) : Exn :=
  .authenticationRateLimit (max 1 ((start + window - now).tdiv 1000000 + 1))

/-- What a transaction leaves: the new content, or the old one when something was raised. -/
def commit {S : Type} (old : S) : Except Exn S → Except Exn Unit × S
  | .ok new => (.ok (), new)
  | .error e => (.error e, old)

/-! ## SQLite -/

/-- A row of `authentication_failures`. -/
structure FailureRow where
  bucketHash : Str
  occurredAt : Int
deriving DecidableEq

/-- The rows, in the order in which they were inserted. -/
abbrev FailureLog := List FailureRow

/-- `DELETE FROM authentication_failures WHERE occurred_at < ?` -/
def deleteBefore (cutoff : Int) (log : FailureLog) : FailureLog :=
  log.filter fun r => !decide (r.occurredAt < cutoff)

/-- `SELECT occurred_at … WHERE bucket_hash = ? AND occurred_at >= ? ORDER BY occurred_at ASC` -/
def failuresSince (bucketHash : Str) (cutoff : Int) (log : FailureLog) : List Int :=
  ((log.filter fun r => r.bucketHash == bucketHash && decide (cutoff ≤ r.occurredAt)).map
    (·.occurredAt)).insertionSort (· ≤ ·)

/-- The body of the loop over the buckets. -/
def checkBucket (log : FailureLog) (window now : Int) (p : Str × Int) : Except Exn Unit :=
  let rows := failuresSince p.1 (now - window) log
  if p.2 ≤ rows.length then
    match rows with
    | [] => .error .indexError
    | earliest :: _ => .error (rateLimitError earliest window now)
  else .ok ()

/-- The loop over the buckets. -/
def checkBuckets (log : FailureLog) (window now : Int) : BucketLimits → Except Exn Unit
  | [] => .ok ()
  | p :: rest => do
    checkBucket log window now p
    checkBuckets log window now rest

/-- `SQLiteRunStore.enforce_authentication_rate_limit` -/
def Sqlite.enforce (bucketLimits : BucketLimits) (windowSeconds now : Int) (log : FailureLog) :
    Except Exn Unit × FailureLog :=
  commit log do
    checkArguments bucketLimits windowSeconds
    let window := timedelta windowSeconds
    let kept := deleteBefore (now - window) log
    checkBuckets kept window now bucketLimits
    return kept

/-- `SQLiteRunStore.record_authentication_failure` -/
def Sqlite.record (bucketLimits : BucketLimits) (windowSeconds now : Int) (log : FailureLog) :
    Except Exn Unit × FailureLog :=
  commit log do
    checkArguments bucketLimits windowSeconds
    let window := timedelta windowSeconds
    let kept := deleteBefore (now - window) log
    checkBuckets kept window now (sortedBuckets bucketLimits)
    return kept ++ (sortedBuckets bucketLimits).map fun p => ⟨p.1, now⟩

/-! ## PostgreSQL -/

/-- A row of `authentication_rate_limits`, less its key. -/
structure WindowRow where
  windowStartedAt : Int
  failureCount : Int
deriving DecidableEq

/-- The rows by their key `bucket_hash`. -/
abbrev WindowTable := List (Str × WindowRow)

/-- `DELETE FROM authentication_rate_limits WHERE bucket_hash = %s` -/
def WindowTable.delete (table : WindowTable) (bucketHash : Str) : WindowTable :=
  table.filter fun row => !(row.1 == bucketHash)

/-- The body of the loop of `enforce_authentication_rate_limit`. -/
def enforceBucket (window now : Int) (table : WindowTable) (p : Str × Int) :
    Except Exn WindowTable :=
  match table.lookup p.1 with
  | none => .ok table
  | some row =>
    if row.windowStartedAt + window ≤ now then .ok (table.delete p.1)
    else if p.2 ≤ row.failureCount then .error (rateLimitError row.windowStartedAt window now)
    else .ok table

/-- The body of the loop of `record_authentication_failure`. -/
def recordBucket (window now : Int) (table : WindowTable) (p : Str × Int) :
    Except Exn WindowTable :=
  match table.lookup p.1 with
  | none => .ok (setMember table (p.1, ⟨now, 1⟩))
  | some row =>
    if row.windowStartedAt + window ≤ now then .ok (setMember table (p.1, ⟨now, 1⟩))
    else if p.2 ≤ row.failureCount then .error (rateLimitError row.windowStartedAt window now)
    else .ok (setMember table (p.1, { row with failureCount := row.failureCount + 1 }))

/-- `PostgresRunStore.enforce_authentication_rate_limit` -/
def Postgres.enforce (bucketLimits : BucketLimits) (windowSeconds now : Int) (table : WindowTable) :
    Except Exn Unit × WindowTable :=
  commit table do
    checkArguments bucketLimits windowSeconds
    (sortedBuckets bucketLimits).foldlM (enforceBucket (timedelta windowSeconds) now) table

/-- `PostgresRunStore.record_authentication_failure` -/
def Postgres.record (bucketLimits : BucketLimits) (windowSeconds now : Int) (table : WindowTable) :
    Except Exn Unit × WindowTable :=
  commit table do
    checkArguments bucketLimits windowSeconds
    (sortedBuckets bucketLimits).foldlM (recordBucket (timedelta windowSeconds) now) table

/-! ## Calls -/

inductive Operation
  | enforce
  | record
deriving DecidableEq

/-- A call, at the time its clock gives. -/
structure Call where
  operation : Operation
  bucketLimits : BucketLimits
  now : Int

def Sqlite.perform (windowSeconds : Int) (call : Call) (log : FailureLog) :
    Except Exn Unit × FailureLog :=
  match call.operation with
  | .enforce => enforce call.bucketLimits windowSeconds call.now log
  | .record => record call.bucketLimits windowSeconds call.now log

def Postgres.perform (windowSeconds : Int) (call : Call) (table : WindowTable) :
    Except Exn Unit × WindowTable :=
  match call.operation with
  | .enforce => enforce call.bucketLimits windowSeconds call.now table
  | .record => record call.bucketLimits windowSeconds call.now table

/-- The results of calls one after the other, and what they leave. -/
def performAll {S : Type} (perform : Call → S → Except Exn Unit × S) :
    List Call → S → List (Except Exn Unit) × S
  | [], s => ([], s)
  | call :: rest, s =>
    let (result, s') := perform call s
    let (results, s'') := performAll perform rest s'
    (result :: results, s'')

/-! ## What a call does -/

/-- The arguments pass the checks. -/
def Call.Valid (windowSeconds : Int) (call : Call) : Prop :=
  checkArguments call.bucketLimits windowSeconds = .ok ()

theorem Call.valid_iff {windowSeconds : Int} {call : Call} :
    call.Valid windowSeconds ↔ call.bucketLimits ≠ [] ∧ (∀ p ∈ call.bucketLimits, 1 ≤ p.2) ∧
      1 ≤ windowSeconds := by
  unfold Call.Valid checkArguments
  constructor
  · intro h
    obtain ⟨_, hne, h⟩ := exceptBind_ok h
    obtain ⟨_, hmax, hwindow⟩ := exceptBind_ok h
    rw [check_ok] at hne hmax hwindow
    refine ⟨hne, fun p hp => ?_, by omega⟩
    have := hmax p hp
    omega
  · rintro ⟨hne, hmax, hwindow⟩
    rw [(check_ok (u := ())).2 hne, (check_ok (u := ())).2 fun p hp => by
      have := hmax p hp
      omega]
    exact check_ok.2 (by omega)

/-- The buckets of a call. -/
def Call.buckets (call : Call) : List Str := call.bucketLimits.map Prod.fst

theorem sortedBuckets_perm (bucketLimits : BucketLimits) :
    (sortedBuckets bucketLimits).Perm bucketLimits :=
  List.perm_insertionSort _ _

/-- How many of the times are not before `cutoff`. -/
def countSince (cutoff : Int) (times : List Int) : Nat := times.countP fun t => cutoff ≤ t

/-- The times of a bucket's failures. -/
def timesOf (bucketHash : Str) (log : FailureLog) : List Int :=
  (log.filter (·.bucketHash == bucketHash)).map (·.occurredAt)

theorem length_failuresSince (bucketHash : Str) (cutoff : Int) (log : FailureLog) :
    (failuresSince bucketHash cutoff log).length = countSince cutoff (timesOf bucketHash log) := by
  rw [failuresSince, List.length_insertionSort, List.length_map, countSince, timesOf,
    List.countP_map, List.countP_filter, List.countP_eq_length_filter]
  congr 1
  refine List.filter_congr fun r _ => ?_
  rw [Function.comp_apply, Bool.and_comm]

theorem timesOf_deleteBefore (bucketHash : Str) (cutoff : Int) (log : FailureLog) :
    timesOf bucketHash (deleteBefore cutoff log) =
      (timesOf bucketHash log).filter fun t => cutoff ≤ t := by
  rw [timesOf, deleteBefore, timesOf, List.filter_map, List.filter_filter, List.filter_filter]
  congr 1
  refine List.filter_congr fun r _ => ?_
  rw [Function.comp_apply, Bool.and_comm]
  simp only [← decide_not, Int.not_lt]

/-- The SQLite store has fewer failures of the bucket in the last window than its limit. -/
def Sqlite.Admits (log : FailureLog) (window now : Int) (p : Str × Int) : Prop :=
  countSince (now - window) (timesOf p.1 log) < p.2

theorem countSince_filter {c cutoff : Int} (h : cutoff ≤ c) (times : List Int) :
    countSince c (times.filter fun t => cutoff ≤ t) = countSince c times := by
  rw [countSince, List.countP_filter, countSince]
  refine List.countP_congr fun t _ => ?_
  simp only [Bool.and_eq_true, decide_eq_true_eq]
  omega

theorem checkBucket_ok {log : FailureLog} {window now : Int} {p : Str × Int} (hp : 1 ≤ p.2) :
    checkBucket (deleteBefore (now - window) log) window now p = .ok () ↔
      Sqlite.Admits log window now p := by
  have hlength : (failuresSince p.1 (now - window) (deleteBefore (now - window) log)).length =
      countSince (now - window) (timesOf p.1 log) := by
    rw [length_failuresSince, timesOf_deleteBefore, countSince_filter (Int.le_refl _)]
  unfold checkBucket Sqlite.Admits
  rw [← hlength]
  cases failuresSince p.1 (now - window) (deleteBefore (now - window) log) with
  | nil =>
    have hpos : ((0 : Nat) : Int) < p.2 := by omega
    simp only [List.length_nil, if_neg (Int.not_le.2 hpos), hpos]
  | cons earliest rows =>
    dsimp only
    split
    · next h => simp only [reduceCtorEq, false_iff]; omega
    · next h => simp only [true_iff]; omega

theorem checkBuckets_ok {log : FailureLog} {window now : Int} {bucketLimits : BucketLimits} :
    checkBuckets log window now bucketLimits = .ok () ↔
      ∀ p ∈ bucketLimits, checkBucket log window now p = .ok () := by
  induction bucketLimits with
  | nil => exact ⟨fun _ => nofun, fun _ => rfl⟩
  | cons p rest ih =>
    rw [List.forall_mem_cons, ← ih, checkBuckets]
    constructor
    · intro h
      obtain ⟨_, hp, hrest⟩ := exceptBind_ok h
      exact ⟨hp, hrest⟩
    · rintro ⟨hp, hrest⟩
      rw [hp]
      exact hrest

/-- The failure that a call adds to a bucket when it is accepted. -/
def Call.adds (call : Call) (bucketHash : Str) : List Int :=
  if call.operation = .record ∧ bucketHash ∈ call.buckets then [call.now] else []

/-- The SQLite store accepts the call. -/
def Sqlite.Accepts (windowSeconds : Int) (log : FailureLog) (call : Call) : Prop :=
  call.Valid windowSeconds ∧
    ∀ p ∈ call.bucketLimits, Admits log (timedelta windowSeconds) call.now p

theorem timesOf_append (bucketHash : Str) (log log' : FailureLog) :
    timesOf bucketHash (log ++ log') = timesOf bucketHash log ++ timesOf bucketHash log' := by
  rw [timesOf, List.filter_append, List.map_append, timesOf, timesOf]

/-- The rows inserted for distinct buckets hold one failure of each. -/
theorem timesOf_inserted {bucketLimits : BucketLimits} (h : (bucketLimits.map Prod.fst).Nodup)
    (now : Int) (bucketHash : Str) :
    timesOf bucketHash ((sortedBuckets bucketLimits).map fun p => ⟨p.1, now⟩) =
      if bucketHash ∈ bucketLimits.map Prod.fst then [now] else [] := by
  have hperm := (sortedBuckets_perm bucketLimits).map Prod.fst
  have hsorted : ((sortedBuckets bucketLimits).map Prod.fst).Nodup := hperm.nodup_iff.2 h
  simp only [← hperm.mem_iff (a := bucketHash)]
  generalize sortedBuckets bucketLimits = buckets at hsorted
  induction buckets with
  | nil => rfl
  | cons p rest ih =>
    rw [List.map_cons, List.nodup_cons] at hsorted
    have hrest := ih hsorted.2
    rw [timesOf] at hrest ⊢
    by_cases hp : p.1 = bucketHash
    · have hnot : bucketHash ∉ rest.map Prod.fst := hp ▸ hsorted.1
      rw [if_neg hnot] at hrest
      rw [List.map_cons, List.filter_cons_of_pos (by simpa using hp), List.map_cons, hrest,
        if_pos (by simp [hp])]
    · rw [List.map_cons, List.filter_cons_of_neg (by simpa using hp), hrest]
      simp only [List.map_cons, List.mem_cons, Ne.symm hp, false_or]

/-- What a call comes to at the SQLite store. -/
theorem Sqlite.perform_cases (windowSeconds : Int) (call : Call) (log : FailureLog)
    (hdistinct : call.buckets.Nodup) :
    (Accepts windowSeconds log call ∧ ∃ log', perform windowSeconds call log = (.ok (), log') ∧
      ∀ b, timesOf b log' =
        ((timesOf b log).filter fun t => call.now - timedelta windowSeconds ≤ t) ++ call.adds b) ∨
    (¬ Accepts windowSeconds log call ∧ ∃ e, perform windowSeconds call log = (.error e, log)) := by
  unfold perform Accepts Call.Valid
  cases hvalid : checkArguments call.bucketLimits windowSeconds with
  | error e =>
    refine .inr ⟨fun h => (nomatch h.1), e, ?_⟩
    cases call.operation
    · rw [enforce, hvalid]
      rfl
    · rw [record, hvalid]
      rfl
  | ok u =>
    have hpositive : ∀ p ∈ call.bucketLimits, 1 ≤ p.2 := (Call.valid_iff.1 hvalid).2.1
    have hchecks (buckets : BucketLimits) (hperm : buckets.Perm call.bucketLimits) :
        checkBuckets (deleteBefore (call.now - timedelta windowSeconds) log)
          (timedelta windowSeconds) call.now buckets = .ok () ↔
            ∀ p ∈ call.bucketLimits, Admits log (timedelta windowSeconds) call.now p := by
      rw [checkBuckets_ok]
      constructor
      · intro h p hp
        exact (checkBucket_ok (hpositive p hp)).1 (h p (hperm.mem_iff.2 hp))
      · intro h p hp
        have hp := hperm.mem_iff.1 hp
        exact (checkBucket_ok (hpositive p hp)).2 (h p hp)
    cases hop : call.operation with
    | enforce =>
      have hiff := hchecks call.bucketLimits (List.Perm.refl _)
      cases hcheck : checkBuckets (deleteBefore (call.now - timedelta windowSeconds) log)
          (timedelta windowSeconds) call.now call.bucketLimits with
      | ok _ =>
        refine .inl ⟨⟨rfl, hiff.1 hcheck⟩,
          deleteBefore (call.now - timedelta windowSeconds) log, ?_, fun b => ?_⟩
        · simp only [enforce, hvalid]
          change commit log (checkBuckets _ _ _ _ >>= fun _ => _) = _
          rw [hcheck]
          rfl
        · rw [timesOf_deleteBefore, Call.adds, hop, if_neg (by simp), List.append_nil]
      | error e =>
        refine .inr ⟨fun h => ?_, e, ?_⟩
        · rw [hiff.2 h.2] at hcheck
          cases hcheck
        · simp only [enforce, hvalid]
          change commit log (checkBuckets _ _ _ _ >>= fun _ => _) = _
          rw [hcheck]
          rfl
    | record =>
      have hiff := hchecks (sortedBuckets call.bucketLimits) (sortedBuckets_perm _)
      cases hcheck : checkBuckets (deleteBefore (call.now - timedelta windowSeconds) log)
          (timedelta windowSeconds) call.now (sortedBuckets call.bucketLimits) with
      | ok _ =>
        refine .inl ⟨⟨rfl, hiff.1 hcheck⟩,
          deleteBefore (call.now - timedelta windowSeconds) log ++
            (sortedBuckets call.bucketLimits).map fun p => ⟨p.1, call.now⟩, ?_, fun b => ?_⟩
        · simp only [record, hvalid]
          change commit log (checkBuckets _ _ _ _ >>= fun _ => _) = _
          rw [hcheck]
          rfl
        · rw [timesOf_append, timesOf_deleteBefore, timesOf_inserted hdistinct, Call.adds, hop]
          simp only [Call.buckets, true_and]
      | error e =>
        refine .inr ⟨fun h => ?_, e, ?_⟩
        · rw [hiff.2 h.2] at hcheck
          cases hcheck
        · simp only [record, hvalid]
          change commit log (checkBuckets _ _ _ _ >>= fun _ => _) = _
          rw [hcheck]
          rfl

/-! ### The PostgreSQL store -/

/-- The window of the bucket is over, or it holds fewer failures than the limit. -/
def Postgres.Admits (row : Option WindowRow) (window now : Int) (p : Str × Int) : Prop :=
  ∀ r, row = some r → r.windowStartedAt + window ≤ now ∨ r.failureCount < p.2

/-- The row of a window that is not over. -/
def running (window now : Int) (row : Option WindowRow) : Option WindowRow :=
  row.filter fun r => !decide (r.windowStartedAt + window ≤ now)

/-- The row of a bucket after a call that names it. -/
def nextRow (operation : Operation) (window now : Int) (row : Option WindowRow) :
    Option WindowRow :=
  match operation, running window now row with
  | .enforce, row => row
  | .record, none => some ⟨now, 1⟩
  | .record, some row => some { row with failureCount := row.failureCount + 1 }

section
variable {window now : Int} {row : WindowRow}

theorem running_over (h : row.windowStartedAt + window ≤ now) :
    running window now (some row) = none := by
  simp [running, h]

theorem running_of_not (h : ¬ row.windowStartedAt + window ≤ now) :
    running window now (some row) = some row := by
  simp [running, h]

/-- A window that is over is no window. -/
theorem nextRow_over (operation : Operation) (h : row.windowStartedAt + window ≤ now) :
    nextRow operation window now (some row) = nextRow operation window now none := by
  simp only [nextRow, running_over h]
  rfl

theorem nextRow_enforce (h : ¬ row.windowStartedAt + window ≤ now) :
    nextRow .enforce window now (some row) = some row := by
  simp only [nextRow, running_of_not h]

theorem nextRow_record (h : ¬ row.windowStartedAt + window ≤ now) :
    nextRow .record window now (some row) =
      some { row with failureCount := row.failureCount + 1 } := by
  simp only [nextRow, running_of_not h]

end

theorem lookup_delete (table : WindowTable) (bucketHash b : Str) :
    (table.delete bucketHash).lookup b = if b = bucketHash then none else table.lookup b := by
  induction table with
  | nil => simp [WindowTable.delete]
  | cons row table ih =>
    rw [WindowTable.delete] at ih ⊢
    by_cases hrow : row.1 = bucketHash
    · rw [List.filter_cons_of_neg (by simpa using hrow), ih, lookup_cons_eq]
      by_cases hb : b = bucketHash
      · rw [if_pos hb, if_pos hb]
      · rw [if_neg hb, if_neg hb, if_neg fun h => hb (h.trans hrow)]
    · rw [List.filter_cons_of_pos (by simpa using hrow), lookup_cons_eq, lookup_cons_eq, ih]
      by_cases hb : b = bucketHash
      · rw [if_pos hb, if_pos hb, if_neg fun h => hrow (h.symm.trans hb)]
      · rw [if_neg hb, if_neg hb]

/-- The body of the loop for an operation. -/
def Operation.bucket : Operation → Int → Int → WindowTable → Str × Int → Except Exn WindowTable
  | .enforce => enforceBucket
  | .record => recordBucket

/-- What is done about one bucket. -/
theorem Operation.bucket_cases (operation : Operation) (window now : Int) (table : WindowTable)
    (p : Str × Int) :
    (Postgres.Admits (table.lookup p.1) window now p ∧
      ∃ table', operation.bucket window now table p = .ok table' ∧ ∀ b, table'.lookup b =
        if b = p.1 then nextRow operation window now (table.lookup b) else table.lookup b) ∨
    (¬ Postgres.Admits (table.lookup p.1) window now p ∧
      ∃ e, operation.bucket window now table p = .error e) := by
  cases hlookup : table.lookup p.1 with
  | none =>
    refine .inl ⟨nofun, ?_⟩
    cases operation with
    | enforce =>
      refine ⟨table, by simp only [bucket, enforceBucket, hlookup], fun b => ?_⟩
      split
      · next hb => rw [hb, hlookup]; rfl
      · rfl
    | record =>
      refine ⟨setMember table (p.1, ⟨now, 1⟩), by simp only [bucket, recordBucket, hlookup],
        fun b => ?_⟩
      rw [lookup_setMember]
      split
      · next hb => rw [hb, hlookup]; rfl
      · rfl
  | some row =>
    by_cases hover : row.windowStartedAt + window ≤ now
    · refine .inl ⟨fun r hr => .inl (by cases hr; exact hover), ?_⟩
      cases operation with
      | enforce =>
        refine ⟨table.delete p.1, by simp only [bucket, enforceBucket, hlookup, if_pos hover],
          fun b => ?_⟩
        rw [lookup_delete]
        split
        · next hb => rw [hb, hlookup, nextRow_over _ hover]; rfl
        · rfl
      | record =>
        refine ⟨setMember table (p.1, ⟨now, 1⟩),
          by simp only [bucket, recordBucket, hlookup, if_pos hover], fun b => ?_⟩
        rw [lookup_setMember]
        split
        · next hb => rw [hb, hlookup, nextRow_over _ hover]; rfl
        · rfl
    · by_cases hfull : p.2 ≤ row.failureCount
      · refine .inr ⟨fun h => ?_, rateLimitError row.windowStartedAt window now, ?_⟩
        · rcases h row rfl with h | h
          · exact hover h
          · omega
        · cases operation
          · simp only [bucket, enforceBucket, hlookup, if_neg hover, if_pos hfull]
          · simp only [bucket, recordBucket, hlookup, if_neg hover, if_pos hfull]
      · refine .inl ⟨fun r hr => .inr (by cases hr; omega), ?_⟩
        cases operation with
        | enforce =>
          refine ⟨table, by simp only [bucket, enforceBucket, hlookup, if_neg hover, if_neg hfull],
            fun b => ?_⟩
          split
          · next hb => rw [hb, hlookup, nextRow_enforce hover]
          · rfl
        | record =>
          refine ⟨setMember table (p.1, { row with failureCount := row.failureCount + 1 }),
            by simp only [bucket, recordBucket, hlookup, if_neg hover, if_neg hfull], fun b => ?_⟩
          rw [lookup_setMember]
          split
          · next hb => rw [hb, hlookup, nextRow_record hover]
          · rfl

/-- The loop over distinct buckets: each is treated on the row it had before the loop. -/
theorem Operation.buckets_cases (operation : Operation) (window now : Int) (table : WindowTable)
    (buckets : BucketLimits) (hdistinct : (buckets.map Prod.fst).Nodup) :
    ((∀ p ∈ buckets, Postgres.Admits (table.lookup p.1) window now p) ∧
      ∃ table', buckets.foldlM (operation.bucket window now) table = .ok table' ∧
        ∀ b, table'.lookup b = if b ∈ buckets.map Prod.fst then
          nextRow operation window now (table.lookup b) else table.lookup b) ∨
    (¬ (∀ p ∈ buckets, Postgres.Admits (table.lookup p.1) window now p) ∧
      ∃ e, buckets.foldlM (operation.bucket window now) table = .error e) := by
  induction buckets generalizing table with
  | nil => exact .inl ⟨nofun, table, rfl, fun _ => rfl⟩
  | cons p rest ih =>
    rw [List.map_cons, List.nodup_cons] at hdistinct
    rw [List.foldlM_cons, List.forall_mem_cons]
    rcases operation.bucket_cases window now table p with
      ⟨hadmits, table₁, hfirst, hlookup⟩ | ⟨hrefused, e, hfirst⟩
    · have hsame : ∀ q ∈ rest, table₁.lookup q.1 = table.lookup q.1 := by
        intro q hq
        rw [hlookup, if_neg]
        rintro heq
        exact hdistinct.1 (heq ▸ List.mem_map_of_mem hq)
      have hrest : (∀ q ∈ rest, Postgres.Admits (table₁.lookup q.1) window now q) ↔
          ∀ q ∈ rest, Postgres.Admits (table.lookup q.1) window now q :=
        forall₂_congr fun q hq => by rw [hsame q hq]
      rw [hfirst]
      rcases ih table₁ hdistinct.2 with ⟨hall, table', hfold, htable⟩ | ⟨hnot, e, hfold⟩
      · refine .inl ⟨⟨hadmits, hrest.1 hall⟩, table', hfold, fun b => ?_⟩
        rw [htable, hlookup]
        simp only [List.map_cons, List.mem_cons]
        by_cases hb : b = p.1
        · subst hb
          simp only [if_neg hdistinct.1, true_or, if_true]
        · simp only [hb, false_or, if_false]
      · exact .inr ⟨fun h => hnot (hrest.2 h.2), e, hfold⟩
    · rw [hfirst]
      exact .inr ⟨fun h => hrefused h.1, e, rfl⟩

/-- The PostgreSQL store accepts the call. -/
def Postgres.Accepts (windowSeconds : Int) (table : WindowTable) (call : Call) : Prop :=
  call.Valid windowSeconds ∧ ∀ p ∈ call.bucketLimits,
    Admits (table.lookup p.1) (timedelta windowSeconds) call.now p

/-- What a call comes to at the PostgreSQL store. -/
theorem Postgres.perform_cases (windowSeconds : Int) (call : Call) (table : WindowTable)
    (hdistinct : call.buckets.Nodup) :
    (Accepts windowSeconds table call ∧ ∃ table', perform windowSeconds call table = (.ok (), table') ∧
      ∀ b, table'.lookup b = if b ∈ call.buckets then
        nextRow call.operation (timedelta windowSeconds) call.now (table.lookup b)
        else table.lookup b) ∨
    (¬ Accepts windowSeconds table call ∧
      ∃ e, perform windowSeconds call table = (.error e, table)) := by
  have hperform : perform windowSeconds call table = commit table (do
      checkArguments call.bucketLimits windowSeconds
      (sortedBuckets call.bucketLimits).foldlM
        (call.operation.bucket (timedelta windowSeconds) call.now) table) := by
    unfold perform
    cases call.operation <;> rfl
  rw [hperform]
  unfold Accepts Call.Valid
  cases hvalid : checkArguments call.bucketLimits windowSeconds with
  | error e => exact .inr ⟨fun h => (nomatch h.1), e, rfl⟩
  | ok u =>
    have hperm := sortedBuckets_perm call.bucketLimits
    have hbuckets := (hperm.map Prod.fst)
    have hall : (∀ p ∈ sortedBuckets call.bucketLimits,
        Admits (table.lookup p.1) (timedelta windowSeconds) call.now p) ↔
          ∀ p ∈ call.bucketLimits, Admits (table.lookup p.1) (timedelta windowSeconds) call.now p :=
      forall_congr' fun p => by rw [hperm.mem_iff]
    rcases call.operation.buckets_cases (timedelta windowSeconds) call.now table
        (sortedBuckets call.bucketLimits) (hbuckets.nodup_iff.2 hdistinct) with
      ⟨hadmits, table', hfold, htable⟩ | ⟨hnot, e, hfold⟩
    · refine .inl ⟨⟨rfl, hall.1 hadmits⟩, table', ?_, fun b => ?_⟩
      · change commit table (List.foldlM _ _ _) = _
        rw [hfold]
        rfl
      · rw [htable]
        by_cases hb : b ∈ call.buckets
        · rw [if_pos hb, if_pos (hbuckets.mem_iff.2 hb)]
        · rw [if_neg hb, if_neg fun h => hb (hbuckets.mem_iff.1 h)]
    · refine .inr ⟨fun h => hnot (hall.2 h.2), e, ?_⟩
      change commit table (List.foldlM _ _ _) = _
      rw [hfold]
      rfl

end Limiter

end AgencyRuntime
