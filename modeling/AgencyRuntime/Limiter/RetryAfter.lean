import AgencyRuntime.Limiter.QuotaRuns

/-!
# What a refused caller is told

A limiter that refuses a call names the seconds after which the window of the first full bucket it
finds is over. The SQLite stores check the buckets in turn and stop at that bucket, so the same call
may be refused again then: another bucket may be full for longer, and a login bucket may hold more
failures than its limit.
-/

namespace AgencyRuntime

namespace Limiter

open Py

/-- The first instant after `t` that is a whole number of seconds after `now`. -/
def wholeSecondAfter (now t : Int) : Int := now + ((t - now) / 1000000 + 1) * 1000000

/-- The seconds that an error names lead to that instant. -/
theorem add_seconds {now t : Int} (h : now ≤ t) :
    now + max 1 ((t - now).tdiv 1000000 + 1) * 1000000 = wholeSecondAfter now t := by
  have hpos : 0 ≤ (t - now) / 1000000 := Int.ediv_nonneg (by omega) (by omega)
  rw [wholeSecondAfter, Int.tdiv_eq_ediv_of_nonneg (by omega), Int.max_eq_right (by omega)]

theorem lt_wholeSecondAfter (now t : Int) : t < wholeSecondAfter now t := by
  unfold wholeSecondAfter
  omega

/-! ## The login limiter -/

/-- The buckets of a call in the order in which its method checks them. -/
def Call.checked (call : Call) : BucketLimits :=
  match call.operation with
  | .enforce => call.bucketLimits
  | .record => sortedBuckets call.bucketLimits

theorem Call.mem_checked {call : Call} {p : Str × Int} :
    p ∈ call.checked ↔ p ∈ call.bucketLimits := by
  unfold Call.checked
  cases call.operation with
  | enforce => rfl
  | record => exact (sortedBuckets_perm _).mem_iff

/-- The earliest failure that counts in a bucket, when the bucket is full. -/
def fullSince (log : FailureLog) (window now : Int) (p : Str × Int) : Option Int :=
  let rows := failuresSince p.1 (now - window) log
  if p.2 ≤ rows.length then rows.head? else none

/-- The earliest failure that counts in the first full bucket. -/
def firstFull (log : FailureLog) (window now : Int) (buckets : BucketLimits) : Option Int :=
  buckets.findSome? (fullSince log window now)

theorem failuresSince_deleteBefore (bucketHash : Str) (cutoff : Int) (log : FailureLog) :
    failuresSince bucketHash cutoff (deleteBefore cutoff log) =
      failuresSince bucketHash cutoff log := by
  rw [failuresSince, deleteBefore, List.filter_filter, failuresSince]
  congr 2
  refine List.filter_congr fun r _ => ?_
  simp only [← decide_not, Int.not_lt, Bool.and_assoc, Bool.and_self]

theorem le_of_mem_failuresSince {bucketHash : Str} {cutoff t : Int} {log : FailureLog}
    (h : t ∈ failuresSince bucketHash cutoff log) : cutoff ≤ t := by
  rw [failuresSince, List.mem_insertionSort] at h
  obtain ⟨r, hr, rfl⟩ := List.mem_map.1 h
  simpa using (Bool.and_eq_true_iff.1 (List.mem_filter.1 hr).2).2

/-- What the check of one bucket raises. -/
theorem checkBucket_error {log : FailureLog} {window now : Int} {p : Str × Int} {e : Exn}
    (hp : 1 ≤ p.2) (h : checkBucket (deleteBefore (now - window) log) window now p = .error e) :
    ∃ earliest, fullSince log window now p = some earliest ∧ now ≤ earliest + window ∧
      e = rateLimitError earliest window now := by
  unfold checkBucket at h
  rw [failuresSince_deleteBefore] at h
  unfold fullSince
  generalize hrows : failuresSince p.1 (now - window) log = rows at h
  dsimp only at h ⊢
  split at h
  · next hfull =>
    rw [if_pos hfull]
    cases rows with
    | nil =>
      rw [List.length_nil] at hfull
      omega
    | cons earliest rest =>
      have hmem : earliest ∈ failuresSince p.1 (now - window) log := by
        rw [hrows]
        exact List.mem_cons_self
      have := le_of_mem_failuresSince hmem
      cases h
      exact ⟨earliest, rfl, by omega, rfl⟩
  · cases h

theorem fullSince_of_ok {log : FailureLog} {window now : Int} {p : Str × Int} (hp : 1 ≤ p.2)
    (h : checkBucket (deleteBefore (now - window) log) window now p = .ok ()) :
    fullSince log window now p = none := by
  have hadmits := (checkBucket_ok hp).1 h
  rw [Sqlite.Admits, ← length_failuresSince] at hadmits
  unfold fullSince
  rw [if_neg (by omega)]

/-- What the loop over the buckets raises: it stops at the first full one. -/
theorem checkBuckets_error {log : FailureLog} {window now : Int} {buckets : BucketLimits} {e : Exn}
    (hp : ∀ p ∈ buckets, 1 ≤ p.2)
    (h : checkBuckets (deleteBefore (now - window) log) window now buckets = .error e) :
    ∃ earliest, firstFull log window now buckets = some earliest ∧ now ≤ earliest + window ∧
      e = rateLimitError earliest window now := by
  induction buckets with
  | nil => cases h
  | cons p rest ih =>
    rw [List.forall_mem_cons] at hp
    rw [checkBuckets] at h
    rw [firstFull, List.findSome?_cons]
    cases hfirst : checkBucket (deleteBefore (now - window) log) window now p with
    | error e' =>
      rw [hfirst] at h
      cases h
      obtain ⟨earliest, hfull, hle, he⟩ := checkBucket_error hp.1 hfirst
      rw [hfull]
      exact ⟨earliest, rfl, hle, he⟩
    | ok u =>
      rw [hfirst] at h
      rw [fullSince_of_ok hp.1 hfirst]
      exact ih hp.2 h

/-- A call is its checks and what it leaves. -/
theorem Sqlite.perform_eq (windowSeconds : Int) (call : Call) (log : FailureLog) :
    ∃ kept : FailureLog, perform windowSeconds call log = commit log (do
      checkArguments call.bucketLimits windowSeconds
      checkBuckets (deleteBefore (call.now - timedelta windowSeconds) log)
        (timedelta windowSeconds) call.now call.checked
      return kept) := by
  unfold perform Call.checked
  cases call.operation with
  | enforce => exact ⟨deleteBefore (call.now - timedelta windowSeconds) log, rfl⟩
  | record =>
    exact ⟨deleteBefore (call.now - timedelta windowSeconds) log ++
      (sortedBuckets call.bucketLimits).map fun p => ⟨p.1, call.now⟩, rfl⟩

/-- A call is admitted when its arguments are valid and every bucket has room. -/
theorem Sqlite.perform_ok_iff {windowSeconds : Int} {call : Call} {log : FailureLog} :
    (perform windowSeconds call log).1 = .ok () ↔ Accepts windowSeconds log call := by
  obtain ⟨kept, hperform⟩ := perform_eq windowSeconds call log
  rw [hperform, Accepts, Call.Valid]
  cases hvalid : checkArguments call.bucketLimits windowSeconds with
  | error e =>
    constructor
    · intro h
      cases h
    · intro h
      cases h.1
  | ok u =>
    have hpositive := (Call.valid_iff.1 hvalid).2.1
    have hchecks : checkBuckets (deleteBefore (call.now - timedelta windowSeconds) log)
        (timedelta windowSeconds) call.now call.checked = .ok () ↔
          ∀ p ∈ call.bucketLimits, Admits log (timedelta windowSeconds) call.now p := by
      rw [checkBuckets_ok]
      constructor
      · intro h p hp
        exact (checkBucket_ok (hpositive p hp)).1 (h p (Call.mem_checked.2 hp))
      · intro h p hp
        have hp := Call.mem_checked.1 hp
        exact (checkBucket_ok (hpositive p hp)).2 (h p hp)
    rw [← hchecks]
    cases hcheck : checkBuckets (deleteBefore (call.now - timedelta windowSeconds) log)
        (timedelta windowSeconds) call.now call.checked with
    | error e =>
      constructor
      · intro h
        cases h
      · intro h
        cases h.2
    | ok u' => exact ⟨fun _ => ⟨rfl, rfl⟩, fun _ => rfl⟩

/-- What a refused call raises, and what it leaves. -/
theorem Sqlite.perform_refused {windowSeconds r : Int} {call : Call} {log log' : FailureLog}
    (h : perform windowSeconds call log = (.error (.authenticationRateLimit r), log')) :
    log' = log ∧ call.Valid windowSeconds ∧ ∃ earliest,
      firstFull log (timedelta windowSeconds) call.now call.checked = some earliest ∧
      call.now ≤ earliest + timedelta windowSeconds ∧
      Exn.authenticationRateLimit r = rateLimitError earliest (timedelta windowSeconds) call.now := by
  obtain ⟨kept, hperform⟩ := perform_eq windowSeconds call log
  rw [hperform] at h
  unfold Call.Valid
  cases hvalid : checkArguments call.bucketLimits windowSeconds with
  | error e =>
    rw [hvalid] at h
    obtain rfl : e = .authenticationRateLimit r := Except.error.inj (Prod.mk.inj h).1
    have hraises : RaisesOnly (fun e => ∃ m, e = .valueError m)
        (checkArguments call.bucketLimits windowSeconds) :=
      .bind (.check ⟨_, rfl⟩) fun _ => .bind (.check ⟨_, rfl⟩) fun _ => .check ⟨_, rfl⟩
    obtain ⟨m, hm⟩ := hraises _ hvalid
    cases hm
  | ok u =>
    have hpositive := (Call.valid_iff.1 hvalid).2.1
    rw [hvalid] at h
    cases hcheck : checkBuckets (deleteBefore (call.now - timedelta windowSeconds) log)
        (timedelta windowSeconds) call.now call.checked with
    | ok u' =>
      rw [hcheck] at h
      cases (Prod.mk.inj h).1
    | error e =>
      rw [hcheck] at h
      obtain ⟨he, hlog⟩ := Prod.mk.inj h
      obtain rfl : e = .authenticationRateLimit r := Except.error.inj he
      obtain ⟨earliest, hfull, hle, he⟩ :=
        checkBuckets_error (fun p hp => hpositive p (Call.mem_checked.1 hp)) hcheck
      exact ⟨hlog.symm, rfl, earliest, hfull, hle, he⟩

/-- Every bucket of the call has room again at the first whole second at which the earliest failure
of the first full bucket no longer counts. -/
def Call.Reopens (windowSeconds : Int) (log : FailureLog) (call : Call) : Prop :=
  ∀ earliest, firstFull log (timedelta windowSeconds) call.now call.checked = some earliest →
    ∀ p ∈ call.bucketLimits, Sqlite.Admits log (timedelta windowSeconds)
      (wholeSecondAfter call.now (earliest + timedelta windowSeconds)) p

theorem Sqlite.retry_iff {windowSeconds r : Int} {call : Call} {log log' : FailureLog}
    (h : perform windowSeconds call log = (.error (.authenticationRateLimit r), log')) :
    (perform windowSeconds { call with now := call.now + r * 1000000 } log').1 = .ok () ↔
      call.Reopens windowSeconds log := by
  obtain ⟨rfl, hvalid, earliest, hfull, hle, he⟩ := perform_refused h
  obtain rfl := Exn.authenticationRateLimit.inj he
  rw [add_seconds hle, perform_ok_iff]
  constructor
  · intro haccepts earliest' hfull'
    rw [hfull] at hfull'
    obtain rfl := Option.some.inj hfull'
    exact haccepts.2
  · intro hreopens
    exact ⟨hvalid, hreopens earliest hfull⟩

/-! ## The quota of authenticated requests -/

/-- When the window of a bucket started, when the bucket is full. -/
def fullWindow (windowSeconds : Int) (now : Datetime) (limit : Int) :
    Option (Datetime × Int) → Option Datetime
  | none => none
  | some w =>
    if (now.micros : Int) < w.1.micros + timedelta windowSeconds ∧ limit ≤ w.2 then some w.1
    else none

/-- When the window of the first full bucket started. -/
def Windows.firstFull (windowSeconds : Int) (now : Datetime) (V : Windows) (buckets : BucketLimits) :
    Option Datetime :=
  buckets.findSome? fun p => fullWindow windowSeconds now p.2 (V p.1)

section
variable {windowSeconds limit : Int} {now cutoff : Datetime} {V : Windows}

theorem nextWindow_refused {r : Int} {window : Option (Datetime × Int)}
    (h : nextWindow windowSeconds now limit window = .error (.authenticatedRequestRateLimit r)) :
    ∃ start, fullWindow windowSeconds now limit window = some start ∧
      (now.micros : Int) ≤ start.micros + timedelta windowSeconds ∧
      r = max 1 ((start.micros + timedelta windowSeconds - now.micros).tdiv 1000000 + 1) := by
  cases window with
  | none => cases h
  | some w =>
    rw [nextWindow] at h
    cases hretry : w.1.add (timedelta windowSeconds) with
    | error e =>
      rw [hretry] at h
      obtain rfl := Datetime.add_error hretry
      cases h
    | ok retryAt =>
      rw [hretry] at h
      have hmicros := Datetime.add_ok hretry
      change (if retryAt ≤ now then _ else _) = _ at h
      split at h
      · cases h
      · next hover =>
        rw [Datetime.le_def] at hover
        split at h
        · next hfull =>
          obtain rfl := Exn.authenticatedRequestRateLimit.inj (Except.error.inj h)
          refine ⟨w.1, ?_, by omega, by rw [hmicros]⟩
          rw [fullWindow, if_pos ⟨by omega, hfull⟩]
        · cases h

theorem fullWindow_of_ok {window : Option (Datetime × Int)} {w : Datetime × Int}
    (h : nextWindow windowSeconds now limit window = .ok w) :
    fullWindow windowSeconds now limit window = none := by
  cases window with
  | none => rfl
  | some old =>
    rw [fullWindow, if_neg]
    rintro ⟨hrunning, hfull⟩
    rcases nextWindow_ok h with ⟨-, hover⟩ | ⟨_, hold, -, hspace, -⟩
    · have := hover old rfl
      omega
    · cases hold
      omega

/-- A window that is deleted is not full. -/
theorem fullWindow_expire (hcutoff : now.add (-timedelta windowSeconds) = .ok cutoff) (b : Str) :
    fullWindow windowSeconds now limit (V.expire cutoff b) =
      fullWindow windowSeconds now limit (V b) := by
  have hmicros := Datetime.add_ok hcutoff
  unfold Windows.expire
  cases V b with
  | none => rfl
  | some w =>
    rw [Option.filter_some]
    split
    · rfl
    · next hdeleted =>
      have hbefore : w.1 < cutoff := by simpa using hdeleted
      rw [Datetime.lt_def] at hbefore
      rw [fullWindow, fullWindow, if_neg]
      omega

/-- What the loop over the buckets raises: it stops at the first full one. -/
theorem Windows.plan_refused {r : Int} {buckets : BucketLimits}
    (h : V.plan windowSeconds now buckets = .error (.authenticatedRequestRateLimit r)) :
    ∃ start, V.firstFull windowSeconds now buckets = some start ∧
      (now.micros : Int) ≤ start.micros + timedelta windowSeconds ∧
      r = max 1 ((start.micros + timedelta windowSeconds - now.micros).tdiv 1000000 + 1) := by
  induction buckets with
  | nil => cases h
  | cons p rest ih =>
    rw [plan] at h
    rw [firstFull, List.findSome?_cons]
    cases hnext : nextWindow windowSeconds now p.2 (V p.1) with
    | error e =>
      rw [hnext] at h
      obtain rfl : e = .authenticatedRequestRateLimit r := Except.error.inj h
      obtain ⟨start, hfull, hle, hr⟩ := nextWindow_refused hnext
      rw [hfull]
      exact ⟨start, rfl, hle, hr⟩
    | ok w =>
      rw [hnext] at h
      rw [fullWindow_of_ok hnext]
      cases hrest : V.plan windowSeconds now rest with
      | ok ws =>
        rw [hrest] at h
        cases h
      | error e =>
        rw [hrest] at h
        obtain rfl : e = .authenticatedRequestRateLimit r := Except.error.inj h
        exact ih hrest

/-- The plan exists when every bucket has a next window. -/
theorem Windows.exists_plan {buckets : BucketLimits}
    (h : ∀ p ∈ buckets, ∃ w, nextWindow windowSeconds now p.2 (V p.1) = .ok w) :
    ∃ updates, V.plan windowSeconds now buckets = .ok updates := by
  induction buckets with
  | nil => exact ⟨[], rfl⟩
  | cons p rest ih =>
    rw [List.forall_mem_cons] at h
    obtain ⟨w, hw⟩ := h.1
    obtain ⟨ws, hws⟩ := ih h.2
    refine ⟨(p.1, w) :: ws, ?_⟩
    rw [plan, hw, hws]
    rfl

end

section
variable {τ : Type} {C : QuotaColumns τ} {table : QuotaTable τ} {V : Windows}

/-- The windows that a table stores, as far as its rows can be read. -/
def QuotaTable.windows (C : QuotaColumns τ) (table : QuotaTable τ) : Windows := fun b =>
  match table.select b with
  | none => none
  | some row =>
    match C.read row.windowStartedAt with
    | .ok start => some (start, row.requestCount)
    | .error _ => none

theorem QuotaTable.Stores.windows (hC : C.Lawful) (h : table.Stores C V) : table.windows C = V := by
  funext b
  rw [QuotaTable.windows, h b]
  cases V b with
  | none => rfl
  | some w => simp only [Option.map_some, hC.read_write]

/-- Rows are written only when the store can hold their counts. -/
theorem writeUpdates_counts {updates : List (Str × (Datetime × Int))} {table table' : QuotaTable τ}
    (h : writeUpdates C (updates.map C.row) table = .ok table') :
    ∀ u ∈ updates, C.checkCount u.2.2 = .ok () := by
  induction updates generalizing table with
  | nil => exact nofun
  | cons u rest ih =>
    rw [List.map_cons, writeUpdates] at h
    obtain ⟨_, hcount, h⟩ := exceptBind_ok h
    rw [List.forall_mem_cons]
    exact ⟨hcount, ih h⟩

/-- A request is admitted when its arguments are valid and every bucket has a next window whose
count the store can hold. -/
theorem consumeQuota_ok_iff (hC : C.Lawful) (h : table.Stores C V) {windowSeconds : Int}
    {call : QuotaCall} : (consumeQuota C windowSeconds call table).1 = .ok () ↔
      checkQuotaArguments call.bucketLimits windowSeconds = .ok () ∧
        ∃ cutoff, call.now.add (-timedelta windowSeconds) = .ok cutoff ∧
          ∀ p ∈ call.bucketLimits, ∃ w,
            nextWindow windowSeconds call.now p.2 (V.expire cutoff p.1) = .ok w ∧
              C.checkCount w.2 = .ok () := by
  have hperm := sortedBuckets_perm call.bucketLimits
  unfold consumeQuota
  cases hargs : checkQuotaArguments call.bucketLimits windowSeconds with
  | error e =>
    constructor
    · intro h
      cases h
    · intro h
      cases h.1
  | ok u =>
    cases hcutoff : call.now.add (-timedelta windowSeconds) with
    | error e =>
      constructor
      · intro h
        cases h
      · rintro ⟨-, cutoff, hno, -⟩
        cases hno
    | ok cutoff =>
      have hkept := h.delete hC cutoff
      simp only [bind, Except.bind, planBuckets_eq hC hkept]
      constructor
      · intro hok
        refine ⟨trivial, cutoff, rfl, fun p hp => ?_⟩
        cases hplan : (V.expire cutoff).plan windowSeconds call.now
            (sortedBuckets call.bucketLimits) with
        | error e =>
          rw [hplan] at hok
          cases hok
        | ok updates =>
          rw [hplan] at hok
          simp only [Except.map] at hok
          obtain ⟨-, -, hnext⟩ := Windows.plan_ok hplan
          obtain ⟨w, hw, hwindow⟩ := hnext p (hperm.mem_iff.2 hp)
          refine ⟨w, hwindow, ?_⟩
          cases hwrite : writeUpdates C (updates.map C.row)
              (table.delete fun row => C.isBefore row.windowStartedAt cutoff) with
          | error e =>
            rw [hwrite] at hok
            cases hok
          | ok table' => exact writeUpdates_counts hwrite _ hw
      · rintro ⟨-, cutoff', hsame, hnext⟩
        obtain rfl := Except.ok.inj hsame
        have hwindows : ∀ p ∈ sortedBuckets call.bucketLimits,
            ∃ w, nextWindow windowSeconds call.now p.2 (V.expire cutoff p.1) = .ok w := by
          intro p hp
          obtain ⟨w, hw, -⟩ := hnext p (hperm.mem_iff.1 hp)
          exact ⟨w, hw⟩
        obtain ⟨updates, hplan⟩ := Windows.exists_plan hwindows
        obtain ⟨-, hfrom, -⟩ := Windows.plan_ok hplan
        obtain ⟨table', hwrite, -⟩ := writeUpdates_ok hkept fun u hu => by
          obtain ⟨p, hp, -, hw⟩ := hfrom u hu
          obtain ⟨w, hw', hcount⟩ := hnext p (hperm.mem_iff.1 hp)
          rw [hw] at hw'
          rwa [Except.ok.inj hw']
        rw [hplan]
        simp only [Except.map, hwrite, commit]

end

/-- The tables that calls with any windows lead to. -/
inductive Sqlite.QuotaReached : QuotaTable Str → Prop
  | empty : QuotaReached .empty
  | call {table : QuotaTable Str} (windowSeconds : Int) (call : QuotaCall) :
      QuotaReached table →
      QuotaReached (consumeAuthenticatedRequestQuota windowSeconds call table).2

theorem Sqlite.QuotaReached.stores {table : QuotaTable Str} (h : QuotaReached table) :
    ∃ V, table.Stores quotaColumns V := by
  induction h with
  | empty => exact ⟨Windows.empty, QuotaTable.stores_empty⟩
  | @call table windowSeconds call _ ih =>
    obtain ⟨V, hV⟩ := ih
    cases hresult : consumeAuthenticatedRequestQuota windowSeconds call table with
    | mk result table' =>
      cases result with
      | ok u =>
        obtain ⟨V', -, hV'⟩ := consumeQuota_ok quotaColumns_lawful hV hresult
        exact ⟨V', hV'⟩
      | error e =>
        rw [consumeQuota_error hresult]
        exact ⟨V, hV⟩

section
variable {windowSeconds : Int} {table table' : QuotaTable Str} {V : Windows} {call : QuotaCall}

/-- What a refused request raises. -/
theorem Sqlite.consume_refused {r : Int} (h : table.Stores quotaColumns V)
    (hrefused : consumeAuthenticatedRequestQuota windowSeconds call table =
      (.error (.authenticatedRequestRateLimit r), table')) :
    table' = table ∧ checkQuotaArguments call.bucketLimits windowSeconds = .ok () ∧
      (∃ cutoff, call.now.add (-timedelta windowSeconds) = .ok cutoff) ∧
      ∃ start, V.firstFull windowSeconds call.now (sortedBuckets call.bucketLimits) = some start ∧
        (call.now.micros : Int) ≤ start.micros + timedelta windowSeconds ∧
        r = max 1
          ((start.micros + timedelta windowSeconds - call.now.micros).tdiv 1000000 + 1) := by
  have hkept := consumeQuota_error hrefused
  unfold consumeAuthenticatedRequestQuota consumeQuota at hrefused
  have hresult := (Prod.mk.inj hrefused).1
  cases hargs : checkQuotaArguments call.bucketLimits windowSeconds with
  | error e =>
    rw [hargs] at hresult
    obtain rfl : e = .authenticatedRequestRateLimit r := Except.error.inj hresult
    have hraises : RaisesOnly (fun e => ∃ m, e = .valueError m)
        (checkQuotaArguments call.bucketLimits windowSeconds) :=
      .bind (.check ⟨_, rfl⟩) fun _ => .bind (.check ⟨_, rfl⟩) fun _ =>
        .bind (.check ⟨_, rfl⟩) fun _ => .bind (.check ⟨_, rfl⟩) fun _ => .check ⟨_, rfl⟩
    obtain ⟨m, hm⟩ := hraises _ hargs
    cases hm
  | ok u =>
    rw [hargs] at hresult
    cases hcutoff : call.now.add (-timedelta windowSeconds) with
    | error e =>
      rw [hcutoff] at hresult
      obtain rfl : e = .authenticatedRequestRateLimit r := Except.error.inj hresult
      cases Datetime.add_error hcutoff
    | ok cutoff =>
      rw [hcutoff] at hresult
      have hdeleted := h.delete quotaColumns_lawful cutoff
      simp only [bind, Except.bind, planBuckets_eq quotaColumns_lawful hdeleted] at hresult
      cases hplan : (V.expire cutoff).plan windowSeconds call.now
          (sortedBuckets call.bucketLimits) with
      | error e =>
        rw [hplan] at hresult
        obtain rfl : e = .authenticatedRequestRateLimit r := Except.error.inj hresult
        obtain ⟨start, hfull, hle, hr⟩ := Windows.plan_refused hplan
        refine ⟨hkept, rfl, ⟨cutoff, rfl⟩, start, ?_, hle, hr⟩
        rw [← hfull]
        unfold Windows.firstFull
        congr 1
        funext p
        exact (fullWindow_expire hcutoff p.1).symm
      | ok updates =>
        rw [hplan] at hresult
        simp only [Except.map] at hresult
        have hraises : ∀ (updates : List (Str × QuotaRow Str)) (table : QuotaTable Str),
            RaisesOnly (· = .overflowError) (writeUpdates quotaColumns updates table) := by
          intro updates
          induction updates with
          | nil => exact fun _ => .ok _
          | cons u rest ih => exact fun table => .bind (.check rfl) fun _ => ih _
        cases hwrite : writeUpdates quotaColumns (updates.map quotaColumns.row)
            (table.delete fun row => quotaColumns.isBefore row.windowStartedAt cutoff) with
        | error e =>
          rw [hwrite] at hresult
          obtain rfl : e = .authenticatedRequestRateLimit r := Except.error.inj hresult
          cases hraises _ _ _ hwrite
        | ok new =>
          rw [hwrite] at hresult
          cases hresult

/-- The bucket has no window, or its window is over at that time, or it is not full and its next
count can be stored. -/
def HasRoom (windowSeconds later limit : Int) (window : Option (Datetime × Int)) : Prop :=
  ∀ w, window = some w → ∃ retryAt, w.1.add (timedelta windowSeconds) = .ok retryAt ∧
    ((retryAt.micros : Int) ≤ later ∨
      w.2 < limit ∧ Sqlite.quotaColumns.checkCount (w.2 + 1) = .ok ())

/-- A bucket has room exactly when a request is counted in it. -/
theorem hasRoom_iff {limit : Int} {later cutoff : Datetime} (hwindow : 1 ≤ windowSeconds)
    (hcutoff : later.add (-timedelta windowSeconds) = .ok cutoff) (b : Str) :
    (∃ w, nextWindow windowSeconds later limit (V.expire cutoff b) = .ok w ∧
        Sqlite.quotaColumns.checkCount w.2 = .ok ()) ↔
      HasRoom windowSeconds later.micros limit (V b) := by
  have hpos := timedelta_pos hwindow
  have hmicros := Datetime.add_ok hcutoff
  have hone : Sqlite.quotaColumns.checkCount 1 = .ok () :=
    Sqlite.checkCount_ok (by decide) (by decide)
  unfold Windows.expire HasRoom
  cases V b with
  | none => exact ⟨fun _ => nofun, fun _ => ⟨(later, 1), rfl, hone⟩⟩
  | some w =>
    rw [Option.filter_some]
    split
    · next hkept =>
      rw [nextWindow]
      cases hretry : w.1.add (timedelta windowSeconds) with
      | error e =>
        constructor
        · rintro ⟨_, hno, -⟩
          cases hno
        · intro hroom
          obtain ⟨retryAt, hok, -⟩ := hroom w rfl
          rw [hretry] at hok
          cases hok
      | ok retryAt =>
        change (∃ w', (if retryAt ≤ later then _ else _) = _ ∧ _) ↔ _
        constructor
        · rintro ⟨w', hnext, hcount⟩ _ ⟨⟩
          refine ⟨retryAt, hretry, ?_⟩
          split at hnext
          · next hover =>
            rw [Datetime.le_def] at hover
            exact .inl (by omega)
          · split at hnext
            · cases hnext
            · next hspace =>
              cases hnext
              exact .inr ⟨by omega, hcount⟩
        · intro hroom
          obtain ⟨retryAt', hok, hroom⟩ := hroom w rfl
          rw [hretry] at hok
          obtain rfl := Except.ok.inj hok
          by_cases hover : retryAt ≤ later
          · exact ⟨(later, 1), by rw [if_pos hover]; rfl, hone⟩
          · rcases hroom with hle | ⟨hspace, hcount⟩
            · rw [Datetime.le_def] at hover
              omega
            · refine ⟨(w.1, w.2 + 1), ?_, hcount⟩
              rw [if_neg hover, if_neg (Int.not_le.2 hspace)]
              rfl
    · next hdeleted =>
      have hbefore : w.1 < cutoff := by simpa using hdeleted
      rw [Datetime.lt_def] at hbefore
      refine ⟨fun _ => ?_, fun _ => ⟨(later, 1), rfl, hone⟩⟩
      rintro _ ⟨⟩
      obtain ⟨retryAt, hretry⟩ := w.1.exists_add (timedelta windowSeconds) (by omega) (by
        have := later.inRange
        omega)
      have := Datetime.add_ok hretry
      exact ⟨retryAt, hretry, .inl (by omega)⟩

/-- Every bucket of the call has room again at the first whole second at which the window of the
first full bucket is over. -/
def QuotaCall.Reopens (windowSeconds : Int) (V : Windows) (call : QuotaCall) : Prop :=
  ∀ start, V.firstFull windowSeconds call.now (sortedBuckets call.bucketLimits) = some start →
    ∀ p ∈ call.bucketLimits, HasRoom windowSeconds
      (wholeSecondAfter call.now.micros (start.micros + timedelta windowSeconds)) p.2 (V p.1)

theorem Sqlite.quota_retry_iff {r : Int} {later : Datetime} (h : table.Stores quotaColumns V)
    (hrefused : consumeAuthenticatedRequestQuota windowSeconds call table =
      (.error (.authenticatedRequestRateLimit r), table'))
    (hlater : call.now.add (r * 1000000) = .ok later) :
    (consumeAuthenticatedRequestQuota windowSeconds { call with now := later } table').1 = .ok () ↔
      call.Reopens windowSeconds V := by
  obtain ⟨rfl, hargs, ⟨cutoff, hcutoff⟩, start, hfull, hle, rfl⟩ := consume_refused h hrefused
  have hwindow := (checkQuotaArguments_ok hargs).2.2
  have hlate := Datetime.add_ok hlater
  have hbefore := Datetime.add_ok hcutoff
  rw [add_seconds hle] at hlate
  have hnow := lt_wholeSecondAfter call.now.micros (start.micros + timedelta windowSeconds)
  obtain ⟨cutoff', hcutoff'⟩ := later.exists_add (-timedelta windowSeconds) (by omega) (by
    have := later.inRange
    have := timedelta_pos hwindow
    omega)
  refine (consumeQuota_ok_iff quotaColumns_lawful h).trans ?_
  constructor
  · rintro ⟨-, cutoff'', hsame, hnext⟩ start' hfull' p hp
    rw [hfull] at hfull'
    obtain rfl := Option.some.inj hfull'
    rw [← hlate]
    exact (hasRoom_iff hwindow hsame p.1).1 (hnext p hp)
  · intro hreopens
    refine ⟨hargs, cutoff', hcutoff', fun p hp => ?_⟩
    have hroom := hreopens start hfull p hp
    rw [← hlate] at hroom
    exact (hasRoom_iff hwindow hcutoff' p.1).2 hroom

end

namespace Sample

def otherBucket : Str := Py.lit "other"

/-- A login in two buckets, that allow one failure each. -/
def login (operation : Operation) (buckets : List Str) (seconds : Int) : Call :=
  ⟨operation, buckets.map fun b => (b, 1), seconds * 1000000⟩

/-- A failure in each of the two buckets, half a minute apart. -/
def twoFailures : FailureLog :=
  (performAll (Sqlite.perform 60)
    [login .record [bucket] 0, login .record [otherBucket] 30] []).2

/-- A request in these buckets with a limit of one. -/
def request (buckets : List Str) (seconds : Fin 1000) : QuotaCall :=
  ⟨buckets.map fun b => (b, 1), (quotaCall 1 seconds).now⟩

/-- One request in the first bucket. -/
def oneRequest : QuotaTable Str :=
  (Sqlite.consumeAuthenticatedRequestQuota 60 (request [bucket] 0) .empty).2

theorem oneRequest_reached : Sqlite.QuotaReached oneRequest := .call 60 _ .empty

/-- And one in the other bucket, half a minute later. -/
def twoRequests : QuotaTable Str :=
  (Sqlite.consumeAuthenticatedRequestQuota 60 (request [otherBucket] 30) oneRequest).2

theorem twoRequests_reached : Sqlite.QuotaReached twoRequests := .call 60 _ oneRequest_reached

end Sample

end Limiter

end AgencyRuntime
