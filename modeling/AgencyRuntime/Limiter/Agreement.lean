import AgencyRuntime.Limiter.Stores

/-!
# What the two limiters have in common

Over a sequence of calls the SQLite store never records more failures of a bucket in an interval
of one window, ends included, than its limit (`LogInvariant`). The PostgreSQL store counts them by
windows of its own, so an interval may meet the ends of two of them (`WindowInvariant`). The two
accept the same calls as long as none comes when a window is over of which the log still holds
failures (`Agree`, `Whole`).
-/

namespace AgencyRuntime

namespace Limiter

/-! ## Counting -/

/-- How many of the times satisfy a condition. -/
def count (p : Int → Bool) (times : List Int) : Nat := times.countP p

theorem count_append (p : Int → Bool) (times times' : List Int) :
    count p (times ++ times') = count p times + count p times' :=
  List.countP_append

theorem count_mono {p q : Int → Bool} {times : List Int}
    (h : ∀ t ∈ times, p t = true → q t = true) : count p times ≤ count q times :=
  List.countP_mono_left h

/-- What satisfies a condition satisfies one of two others. -/
theorem count_le_add {p q r : Int → Bool} {times : List Int}
    (h : ∀ t ∈ times, p t = true → q t = true ∨ r t = true) :
    count p times ≤ count q times + count r times := by
  induction times with
  | nil => exact Nat.le_refl 0
  | cons t times ih =>
    rw [List.forall_mem_cons] at h
    have hrest := ih h.2
    have hfirst := h.1
    unfold count at hrest ⊢
    rw [List.countP_cons, List.countP_cons, List.countP_cons]
    cases hp : p t with
    | false => simp only [Bool.false_eq_true, if_false]; split <;> split <;> omega
    | true =>
      rcases hfirst hp with hq | hr
      · rw [hq]
        simp only [if_true]
        split <;> omega
      · rw [hr]
        simp only [if_true]
        split <;> omega

/-- A time that satisfies a condition is counted. -/
theorem count_pos {p : Int → Bool} {times : List Int} {t : Int} (ht : t ∈ times) (hp : p t = true) :
    0 < count p times :=
  List.countP_pos_iff.2 ⟨t, ht, hp⟩

/-- Fewer times satisfy a condition that leaves out one of them. -/
theorem count_lt {p q : Int → Bool} {times : List Int} {t : Int} (ht : t ∈ times)
    (hq : q t = true) (hp : p t = false) (h : ∀ t ∈ times, p t = true → q t = true) :
    count p times < count q times := by
  obtain ⟨before, after, rfl⟩ := List.append_of_mem ht
  have hbefore : count p before ≤ count q before := count_mono fun s hs =>
    h s (List.mem_append_left _ hs)
  have hafter : count p after ≤ count q after := count_mono fun s hs =>
    h s (List.mem_append_right _ (List.mem_cons_of_mem _ hs))
  unfold count at hbefore hafter ⊢
  rw [List.countP_append, List.countP_append, List.countP_cons, List.countP_cons, hq, hp]
  simp only [Bool.false_eq_true, if_false, if_true]
  omega

/-! ## Sequences of calls -/

/-- Calls in the order of their times, each with distinct buckets and the limits of these. -/
structure WellFormed (limit : Str → Int) (calls : List Call) : Prop where
  times : calls.Pairwise fun call call' => call.now ≤ call'.now
  distinct : ∀ call ∈ calls, call.buckets.Nodup
  limits : ∀ call ∈ calls, ∀ p ∈ call.bucketLimits, p.2 = limit p.1

/-- The failures of a bucket that calls with these results recorded. -/
def recorded (bucketHash : Str) : List Call → List (Except Exn Unit) → List Int
  | call :: calls, .ok () :: results => call.adds bucketHash ++ recorded bucketHash calls results
  | _ :: calls, .error _ :: results => recorded bucketHash calls results
  | _, _ => []

/-- The times in an interval, ends included. -/
def within (first last : Int) (t : Int) : Bool := first ≤ t && t ≤ last

/-- The times in a half-open interval. -/
def inside (first last : Int) (t : Int) : Bool := first ≤ t && t < last

/-! ## The SQLite store -/

/-- What the log keeps of the failures recorded up to a time, and how close these can be. -/
structure LogInvariant (limit : Str → Int) (window now : Int) (past : Str → List Int)
    (log : FailureLog) : Prop where
  before : ∀ b, ∀ t ∈ past b, t ≤ now
  kept : ∀ b cutoff, now - window ≤ cutoff →
    countSince cutoff (timesOf b log) = countSince cutoff (past b)
  sparse : ∀ b first, (count (within first (first + window)) (past b) : Int) ≤ max 0 (limit b)

/-- The failures up to a call. -/
def extend (past : Str → List Int) (call : Call) : Str → List Int := fun b => past b ++ call.adds b

theorem mem_adds {call : Call} {b : Str} {t : Int} (h : t ∈ call.adds b) :
    t = call.now ∧ b ∈ call.buckets := by
  unfold Call.adds at h
  split at h
  · next hadds => exact ⟨List.mem_singleton.1 h, hadds.2⟩
  · cases h

section
variable {limit : Str → Int} {windowSeconds now : Int} {past : Str → List Int} {call : Call}

theorem LogInvariant.later {log : FailureLog} {later : Int}
    (h : LogInvariant limit (timedelta windowSeconds) now past log) (hnow : now ≤ later) :
    LogInvariant limit (timedelta windowSeconds) later past log where
  before b t ht := Int.le_trans (h.before b t ht) hnow
  kept b cutoff hcutoff := h.kept b cutoff (by omega)
  sparse := h.sparse

/-- A call that the SQLite store accepts. -/
theorem LogInvariant.accepted {log log' : FailureLog}
    (h : LogInvariant limit (timedelta windowSeconds) now past log) (hnow : now ≤ call.now)
    (hlimits : ∀ p ∈ call.bucketLimits, p.2 = limit p.1)
    (haccepts : Sqlite.Accepts windowSeconds log call)
    (hlog : ∀ b, timesOf b log' =
      ((timesOf b log).filter fun t => call.now - timedelta windowSeconds ≤ t) ++ call.adds b) :
    LogInvariant limit (timedelta windowSeconds) call.now (extend past call) log' where
  before b t ht := by
    rcases List.mem_append.1 ht with ht | ht
    · exact Int.le_trans (h.before b t ht) hnow
    · exact Int.le_of_eq (mem_adds ht).1
  kept b cutoff hcutoff := by
    have hkept := h.kept b cutoff (by omega)
    have hfilter := countSince_filter hcutoff (timesOf b log)
    simp only [countSince] at hkept hfilter ⊢
    rw [hlog, extend, List.countP_append, List.countP_append, hfilter, hkept]
  sparse b first := by
    have hsparse := h.sparse b first
    rw [extend, count_append]
    by_cases hadds : call.operation = .record ∧ b ∈ call.buckets
    · rw [Call.adds, if_pos hadds]
      by_cases hin : within first (first + timedelta windowSeconds) call.now = true
      · -- the interval ends no later than one window after the cutoff of the call
        obtain ⟨p, hp, rfl⟩ := List.mem_map.1 hadds.2
        have hadmits := haccepts.2 p hp
        rw [Sqlite.Admits, h.kept p.1 _ (by omega), hlimits p hp] at hadmits
        have hle : count (within first (first + timedelta windowSeconds)) (past p.1) ≤
            countSince (call.now - timedelta windowSeconds) (past p.1) := by
          refine count_mono fun t _ ht => ?_
          simp only [within, Bool.and_eq_true, decide_eq_true_eq] at ht hin ⊢
          omega
        have hone : count (within first (first + timedelta windowSeconds)) [call.now] = 1 := by
          simp [count, hin]
        omega
      · have hzero : count (within first (first + timedelta windowSeconds)) [call.now] = 0 := by
          simp [count, hin]
        omega
    · rw [Call.adds, if_neg hadds]
      exact hsparse

/-! ## The PostgreSQL store -/

/-- The failures of a bucket, and the last window of it: it starts with one of them, they are all
before its end, and it counts those that are in it. -/
structure WindowCounts (limit window : Int) (past : List Int) (last : WindowRow) : Prop where
  started : last.windowStartedAt ∈ past
  ending : ∀ t ∈ past, t < last.windowStartedAt + window
  counted : last.failureCount = count (fun t => last.windowStartedAt ≤ t) past
  atMost : last.failureCount ≤ limit
  -- the first failure of the window before is more than one window ago
  previous : (count (fun t => decide (last.windowStartedAt - window < t) &&
    decide (t < last.windowStartedAt)) past : Int) ≤ limit - 1
  sparse : ∀ first, (count (inside first (first + window)) past : Int) ≤ 2 * limit - 1

/-- The row of a bucket is its last window, unless that is over and was deleted. -/
inductive RowInvariant (limit window now : Int) : List Int → Option WindowRow → Prop
  | fresh : RowInvariant limit window now [] none
  | stored {past : List Int} {last : WindowRow} : WindowCounts limit window past last →
      RowInvariant limit window now past (some last)
  | deleted {past : List Int} {last : WindowRow} : WindowCounts limit window past last →
      last.windowStartedAt + window ≤ now → RowInvariant limit window now past none

section
variable {limit window now : Int} {past : List Int} {last : WindowRow}

/-- The first failure of a bucket. -/
theorem WindowCounts.first (hwindow : 0 < window) (hlimit : 1 ≤ limit) :
    WindowCounts limit window [now] ⟨now, 1⟩ where
  started := List.mem_singleton_self now
  ending t ht := by
    rw [List.mem_singleton.1 ht]
    change now < now + window
    omega
  counted := by simp [count]
  atMost := hlimit
  previous := by
    have hzero : count (fun t => decide (now - window < t) && decide (t < now)) [now] = 0 := by
      simp [count]
    change (count (fun t => decide (now - window < t) && decide (t < now)) [now] : Int) ≤ limit - 1
    omega
  sparse first := by
    have : count (inside first (first + window)) [now] ≤ 1 := List.countP_le_length
    omega

/-- The failures after the start of a window leave out the one it starts with. -/
theorem WindowCounts.after_start (h : WindowCounts limit window past last) :
    (count (fun t => last.windowStartedAt < t) past : Int) ≤ limit - 1 := by
  have hlt : count (fun t => last.windowStartedAt < t) past <
      count (fun t => last.windowStartedAt ≤ t) past := by
    refine count_lt h.started ?_ ?_ fun t _ ht => ?_
    · exact decide_eq_true (Int.le_refl _)
    · exact decide_eq_false (Int.lt_irrefl _)
    · rw [decide_eq_true_eq] at ht ⊢
      omega
  have := h.counted
  have := h.atMost
  omega

/-- A failure after the end of a window starts another one. -/
theorem WindowCounts.restart (h : WindowCounts limit window past last) (hwindow : 0 < window)
    (hlimit : 1 ≤ limit) (hover : last.windowStartedAt + window ≤ now) :
    WindowCounts limit window (past ++ [now]) ⟨now, 1⟩ := by
  have hafter := h.after_start
  refine ⟨by simp, ?_, ?_, hlimit, ?_, fun first => ?_⟩
  · intro t ht
    rcases List.mem_append.1 ht with ht | ht
    · have := h.ending t ht
      change t < now + window
      omega
    · rw [List.mem_singleton.1 ht]
      change now < now + window
      omega
  · have hzero : count (fun t => now ≤ t) past = 0 := by
      refine List.countP_eq_zero.2 fun t ht => ?_
      have := h.ending t ht
      rw [decide_eq_true_eq]
      omega
    have hone : count (fun t => now ≤ t) [now] = 1 := by simp [count]
    change (1 : Int) = count (fun t => now ≤ t) (past ++ [now])
    rw [count_append]
    omega
  · have hle : count (fun t => decide (now - window < t) && decide (t < now)) past ≤
        count (fun t => last.windowStartedAt < t) past := by
      refine count_mono fun t _ ht => ?_
      simp only [Bool.and_eq_true, decide_eq_true_eq] at ht ⊢
      omega
    have hzero : count (fun t => decide (now - window < t) && decide (t < now)) [now] = 0 := by
      simp [count]
    change (count (fun t => decide (now - window < t) && decide (t < now)) (past ++ [now]) : Int) ≤
      limit - 1
    rw [count_append]
    omega
  · have hsparse := h.sparse first
    rw [count_append]
    by_cases hin : inside first (first + window) now = true
    · have hle : count (inside first (first + window)) past ≤
          count (fun t => last.windowStartedAt < t) past := by
        refine count_mono fun t _ ht => ?_
        simp only [inside, Bool.and_eq_true, decide_eq_true_eq] at ht hin ⊢
        omega
      have hone : count (inside first (first + window)) [now] = 1 := by simp [count, hin]
      omega
    · have hzero : count (inside first (first + window)) [now] = 0 := by simp [count, hin]
      omega

/-- A failure in a window that is not full is counted in it. -/
theorem WindowCounts.another (h : WindowCounts limit window past last)
    (hpast : ∀ t ∈ past, t ≤ now) (hrunning : ¬ last.windowStartedAt + window ≤ now)
    (hspace : last.failureCount < limit) :
    WindowCounts limit window (past ++ [now])
      { last with failureCount := last.failureCount + 1 } := by
  have hstarted := hpast _ h.started
  have hcounted := h.counted
  refine ⟨List.mem_append_left _ h.started, ?_, ?_, ?_, ?_, fun first => ?_⟩
  · intro t ht
    rcases List.mem_append.1 ht with ht | ht
    · exact h.ending t ht
    · rw [List.mem_singleton.1 ht]
      exact Int.not_le.1 hrunning
  · have hone : count (fun t => last.windowStartedAt ≤ t) [now] = 1 := by simp [count, hstarted]
    change last.failureCount + 1 = (count (fun t => last.windowStartedAt ≤ t) (past ++ [now]) : Int)
    rw [count_append]
    omega
  · change last.failureCount + 1 ≤ limit
    omega
  · have hprevious := h.previous
    have hzero : count (fun t => decide (last.windowStartedAt - window < t) &&
        decide (t < last.windowStartedAt)) [now] = 0 := by
      simp [count, Int.not_lt.2 hstarted]
    change (count (fun t => decide (last.windowStartedAt - window < t) &&
      decide (t < last.windowStartedAt)) (past ++ [now]) : Int) ≤ limit - 1
    rw [count_append]
    omega
  · have hsparse := h.sparse first
    have hprevious := h.previous
    rw [count_append]
    by_cases hin : inside first (first + window) now = true
    · -- the interval starts after the first failure of the window before
      have hle : count (inside first (first + window)) past ≤
          count (fun t => decide (last.windowStartedAt - window < t) &&
            decide (t < last.windowStartedAt)) past +
          count (fun t => last.windowStartedAt ≤ t) past := by
        refine count_le_add fun t _ ht => ?_
        simp only [inside, Bool.and_eq_true, decide_eq_true_eq] at ht hin ⊢
        omega
      have hone : count (inside first (first + window)) [now] = 1 := by simp [count, hin]
      omega
    · have hzero : count (inside first (first + window)) [now] = 0 := by simp [count, hin]
      omega

theorem RowInvariant.later {row : Option WindowRow} {later : Int}
    (h : RowInvariant limit window now past row) (hnow : now ≤ later) :
    RowInvariant limit window later past row := by
  cases h with
  | fresh => exact .fresh
  | stored h => exact .stored h
  | deleted h hover => exact .deleted h (by omega)

/-- The row of a bucket after a call that names it and is accepted. -/
theorem RowInvariant.next {row : Option WindowRow} {operation : Operation}
    (h : RowInvariant limit window now past row) (hpast : ∀ t ∈ past, t ≤ now)
    (hwindow : 0 < window) (hlimit : 1 ≤ limit)
    (hadmits : ∀ r, row = some r → r.windowStartedAt + window ≤ now ∨ r.failureCount < limit) :
    RowInvariant limit window now
      (past ++ if operation = .record then [now] else []) (nextRow operation window now row) := by
  cases operation with
  | enforce =>
    rw [if_neg (by simp), List.append_nil]
    cases h with
    | fresh => exact .fresh
    | deleted h hover => exact .deleted h hover
    | @stored _ last h =>
      by_cases hover : last.windowStartedAt + window ≤ now
      · rw [nextRow_over _ hover]
        exact .deleted h hover
      · rw [nextRow_enforce hover]
        exact .stored h
  | record =>
    rw [if_pos rfl]
    cases h with
    | fresh => exact .stored (.first hwindow hlimit)
    | deleted h hover => exact .stored (h.restart hwindow hlimit hover)
    | @stored _ last h =>
      by_cases hover : last.windowStartedAt + window ≤ now
      · rw [nextRow_over _ hover]
        exact .stored (h.restart hwindow hlimit hover)
      · rw [nextRow_record hover]
        exact .stored (h.another hpast hover ((hadmits last rfl).resolve_left hover))

/-- The bound on the failures of a bucket. -/
theorem RowInvariant.sparse {row : Option WindowRow} (h : RowInvariant limit window now past row)
    (first : Int) : (count (inside first (first + window)) past : Int) ≤ max 0 (2 * limit - 1) := by
  cases h with
  | fresh => exact Int.le_max_left ..
  | stored h | deleted h =>
    have := h.sparse first
    omega

end

/-- What the table knows of the failures recorded up to a time. -/
structure TableInvariant (limit : Str → Int) (window now : Int) (past : Str → List Int)
    (table : WindowTable) : Prop where
  before : ∀ b, ∀ t ∈ past b, t ≤ now
  rows : ∀ b, RowInvariant (limit b) window now (past b) (table.lookup b)

theorem TableInvariant.later {table : WindowTable} {later : Int}
    (h : TableInvariant limit (timedelta windowSeconds) now past table) (hnow : now ≤ later) :
    TableInvariant limit (timedelta windowSeconds) later past table where
  before b t ht := Int.le_trans (h.before b t ht) hnow
  rows b := (h.rows b).later hnow

/-- A call that the PostgreSQL store accepts. -/
theorem TableInvariant.accepted {table table' : WindowTable}
    (h : TableInvariant limit (timedelta windowSeconds) now past table) (hnow : now ≤ call.now)
    (hlimits : ∀ p ∈ call.bucketLimits, p.2 = limit p.1)
    (haccepts : Postgres.Accepts windowSeconds table call)
    (htable : ∀ b, table'.lookup b = if b ∈ call.buckets then
      nextRow call.operation (timedelta windowSeconds) call.now (table.lookup b)
      else table.lookup b) :
    TableInvariant limit (timedelta windowSeconds) call.now (extend past call) table' where
  before b t ht := by
    rcases List.mem_append.1 ht with ht | ht
    · exact Int.le_trans (h.before b t ht) hnow
    · exact Int.le_of_eq (mem_adds ht).1
  rows b := by
    obtain ⟨-, hpositive, hwindow⟩ := Call.valid_iff.1 haccepts.1
    have hlater := h.later hnow
    rw [htable, extend]
    by_cases hb : b ∈ call.buckets
    · obtain ⟨p, hp, rfl⟩ := List.mem_map.1 hb
      have hadds : call.adds p.1 = if call.operation = .record then [call.now] else [] := by
        simp only [Call.adds, hb, and_true]
      rw [if_pos hb, hadds]
      refine (hlater.rows p.1).next (hlater.before p.1) ?_ ?_ fun r hr => ?_
      · unfold timedelta
        omega
      · rw [← hlimits p hp]
        exact hpositive p hp
      · rw [← hlimits p hp]
        exact haccepts.2 p hp r hr
    · rw [if_neg hb, Call.adds, if_neg fun hadds => hb hadds.2, List.append_nil]
      exact hlater.rows b

end

/-! ## Agreement -/

/-- The times of a bucket in the log and its row agree: no failure of a window that is over is in
the last window of the log, and a window that is not over counts those that are. -/
inductive Agree (window now : Int) (times : List Int) : Option WindowRow → Prop
  | none : (∀ t ∈ times, t < now - window) → Agree window now times none
  | row {last : WindowRow} : last.windowStartedAt ≤ now →
      (now < last.windowStartedAt + window →
        (countSince last.windowStartedAt times : Int) = last.failureCount) →
      (∀ t ∈ times, t < last.windowStartedAt → t < last.windowStartedAt - window) →
      Agree window now times (some last)

/-- The window of the bucket is not over, or all failures in the log are older than a window. -/
def Whole (window now : Int) (times : List Int) : Option WindowRow → Prop
  | none => True
  | some last => now < last.windowStartedAt + window ∨ ∀ t ∈ times, t < now - window

instance (window now : Int) (times : List Int) (row : Option WindowRow) :
    Decidable (Whole window now times row) :=
  match row with
  | none => .isTrue trivial
  | some last => inferInstanceAs (Decidable (now < last.windowStartedAt + window ∨ _))

section
variable {window now : Int} {times : List Int} {row : Option WindowRow}

theorem countSince_eq_zero {cutoff : Int} (h : ∀ t ∈ times, t < cutoff) :
    countSince cutoff times = 0 := by
  refine List.countP_eq_zero.2 fun t ht => ?_
  have := h t ht
  rw [decide_eq_true_eq]
  omega

theorem Agree.later {later : Int} (h : Agree window now times row) (hnow : now ≤ later) :
    Agree window later times row := by
  cases h with
  | none h =>
    refine .none fun t ht => ?_
    have := h t ht
    omega
  | row hstart hcount hold => exact .row (by omega) (fun h => hcount (by omega)) hold

/-- Failures that the log deletes are of no window that is not over. -/
theorem Agree.delete (h : Agree window now times row) :
    Agree window now (times.filter fun t => now - window ≤ t) row := by
  cases h with
  | none h => exact .none fun t ht => h t (List.mem_filter.1 ht).1
  | row hstart hcount hold =>
    refine .row hstart (fun h => ?_) fun t ht => hold t (List.mem_filter.1 ht).1
    rw [countSince_filter (by omega), hcount h]

/-- The log counts what the row counts. -/
theorem Agree.admits (h : Agree window now times row) (hwhole : Whole window now times row)
    {limit : Int} (hlimit : 1 ≤ limit) :
    ((countSince (now - window) times : Int) < limit) ↔
      ∀ r, row = some r → r.windowStartedAt + window ≤ now ∨ r.failureCount < limit := by
  cases h with
  | none h =>
    rw [countSince_eq_zero h]
    exact ⟨fun _ => nofun, fun _ => by omega⟩
  | @row last hstart hcount hold =>
    by_cases hover : last.windowStartedAt + window ≤ now
    · have hgone := Or.resolve_left hwhole (by omega)
      rw [countSince_eq_zero hgone]
      refine ⟨fun _ r hr => .inl ?_, fun _ => by omega⟩
      cases hr
      exact hover
    · have hsame : countSince (now - window) times = countSince last.windowStartedAt times := by
        refine List.countP_congr fun t ht => ?_
        have := hold t ht
        simp only [decide_eq_true_eq]
        omega
      rw [hsame, hcount (by omega)]
      constructor
      · intro hspace r hr
        cases hr
        exact .inr hspace
      · intro hadmits
        exact (hadmits last rfl).resolve_left hover

/-- A failure that starts a window, in a log that holds none of the window before it. -/
theorem Agree.start (h : ∀ t ∈ times, t < now - window) :
    Agree window now ((times.filter fun t => now - window ≤ t) ++ [now]) (some ⟨now, 1⟩) := by
  have hempty : (times.filter fun t => now - window ≤ t) = [] := by
    refine List.filter_eq_nil_iff.2 fun t ht => ?_
    have := h t ht
    rw [decide_eq_true_eq]
    omega
  rw [hempty, List.nil_append]
  refine .row (Int.le_refl now) (fun _ => by simp [countSince]) fun t ht hlt => ?_
  rw [List.mem_singleton.1 ht] at hlt
  exact absurd hlt (Int.lt_irrefl now)

/-- The bucket of a call that both stores accept. -/
theorem Agree.next {operation : Operation} (h : Agree window now times row)
    (hwhole : Whole window now times row) :
    Agree window now
      ((times.filter fun t => now - window ≤ t) ++ if operation = .record then [now] else [])
      (nextRow operation window now row) := by
  cases operation with
  | enforce =>
    rw [if_neg (by simp), List.append_nil]
    cases row with
    | none => exact h.delete
    | some last =>
      by_cases hover : last.windowStartedAt + window ≤ now
      · have hgone := Or.resolve_left hwhole (by omega)
        rw [nextRow_over _ hover]
        exact .none fun t ht => hgone t (List.mem_filter.1 ht).1
      · rw [nextRow_enforce hover]
        exact h.delete
  | record =>
    rw [if_pos rfl]
    cases h with
    | none h => exact .start h
    | @row last hstart hcount hold =>
      by_cases hover : last.windowStartedAt + window ≤ now
      · rw [nextRow_over _ hover]
        exact .start (Or.resolve_left hwhole (by omega))
      · rw [nextRow_record hover]
        refine .row hstart (fun h => ?_) fun t ht hlt => ?_
        · have hfilter := @countSince_filter last.windowStartedAt (now - window) (by omega) times
          have hone : [now].countP (fun t => decide (last.windowStartedAt ≤ t)) = 1 := by
            simp [hstart]
          have hcount := hcount h
          simp only [countSince] at hfilter hcount ⊢
          rw [List.countP_append, hfilter, hone]
          omega
        · rcases List.mem_append.1 ht with ht | ht
          · exact hold t (List.mem_filter.1 ht).1 hlt
          · rw [List.mem_singleton.1 ht] at hlt
            exact absurd hstart (Int.not_le.2 hlt)

end

/-! ## Runs -/

/-- No call of the run names a bucket of which the window is over and the log still holds
failures. -/
def WholeRun (windowSeconds : Int) : List Call → FailureLog → WindowTable → Prop
  | [], _, _ => True
  | call :: rest, log, table =>
    (∀ b ∈ call.buckets, Whole (timedelta windowSeconds) call.now (timesOf b log)
      (table.lookup b)) ∧
      WholeRun windowSeconds rest (Sqlite.perform windowSeconds call log).2
        (Postgres.perform windowSeconds call table).2

instance WholeRun.decidable (windowSeconds : Int) : (calls : List Call) → (log : FailureLog) →
    (table : WindowTable) → Decidable (WholeRun windowSeconds calls log table)
  | [], _, _ => .isTrue trivial
  | _ :: rest, _, _ => @instDecidableAnd _ _ _ (decidable windowSeconds rest _ _)

section
variable {limit : Str → Int} {windowSeconds now : Int} {past : Str → List Int} {calls : List Call}

theorem recorded_nil (b : Str) (results : List (Except Exn Unit)) : recorded b [] results = [] := by
  cases results <;> rfl

theorem WellFormed.cons {call : Call} (h : WellFormed limit (call :: calls)) :
    call.buckets.Nodup ∧ (∀ p ∈ call.bucketLimits, p.2 = limit p.1) ∧
      (∀ call' ∈ calls, call.now ≤ call'.now) ∧ WellFormed limit calls := by
  obtain ⟨htimes, hrest⟩ := List.pairwise_cons.1 h.times
  obtain ⟨hdistinct, hdistincts⟩ := List.forall_mem_cons.1 h.distinct
  obtain ⟨hlimits, hlimitss⟩ := List.forall_mem_cons.1 h.limits
  exact ⟨hdistinct, hlimits, htimes, hrest, hdistincts, hlimitss⟩

/-- However long the SQLite store runs, the failures of a bucket stay sparse. -/
theorem LogInvariant.run {log : FailureLog} (hcalls : WellFormed limit calls)
    (hnow : ∀ call ∈ calls, now ≤ call.now)
    (h : LogInvariant limit (timedelta windowSeconds) now past log) (b : Str) (first : Int) :
    (count (within first (first + timedelta windowSeconds)) (past b ++
      recorded b calls (performAll (Sqlite.perform windowSeconds) calls log).1) : Int) ≤
      max 0 (limit b) := by
  induction calls generalizing now past log with
  | nil =>
    rw [recorded_nil, List.append_nil]
    exact h.sparse b first
  | cons call calls ih =>
    obtain ⟨hdistinct, hlimits, htimes, hrest⟩ := hcalls.cons
    have hfirst := hnow call List.mem_cons_self
    rcases Sqlite.perform_cases windowSeconds call log hdistinct with
      ⟨haccepts, log', hperform, hlog⟩ | ⟨-, e, hperform⟩
    · have hnext := ih hrest htimes (h.accepted hfirst hlimits haccepts hlog)
      rw [extend, List.append_assoc] at hnext
      simpa only [performAll, hperform, recorded] using hnext
    · have hnext := ih hrest htimes (h.later hfirst)
      simpa only [performAll, hperform, recorded] using hnext

/-- However long the PostgreSQL store runs, an interval meets at most two windows of a bucket. -/
theorem TableInvariant.run {table : WindowTable} (hcalls : WellFormed limit calls)
    (hnow : ∀ call ∈ calls, now ≤ call.now)
    (h : TableInvariant limit (timedelta windowSeconds) now past table) (b : Str) (first : Int) :
    (count (inside first (first + timedelta windowSeconds)) (past b ++
      recorded b calls (performAll (Postgres.perform windowSeconds) calls table).1) : Int) ≤
      max 0 (2 * limit b - 1) := by
  induction calls generalizing now past table with
  | nil =>
    rw [recorded_nil, List.append_nil]
    exact (h.rows b).sparse first
  | cons call calls ih =>
    obtain ⟨hdistinct, hlimits, htimes, hrest⟩ := hcalls.cons
    have hfirst := hnow call List.mem_cons_self
    rcases Postgres.perform_cases windowSeconds call table hdistinct with
      ⟨haccepts, table', hperform, htable⟩ | ⟨-, e, hperform⟩
    · have hnext := ih hrest htimes (h.accepted hfirst hlimits haccepts htable)
      rw [extend, List.append_assoc] at hnext
      simpa only [performAll, hperform, recorded] using hnext
    · have hnext := ih hrest htimes (h.later hfirst)
      simpa only [performAll, hperform, recorded] using hnext

/-- As long as windows are whole, both stores accept the same calls. -/
theorem agree_run {log : FailureLog} {table : WindowTable} (hcalls : WellFormed limit calls)
    (hnow : ∀ call ∈ calls, now ≤ call.now)
    (h : ∀ b, Agree (timedelta windowSeconds) now (timesOf b log) (table.lookup b))
    (hwhole : WholeRun windowSeconds calls log table) :
    (performAll (Sqlite.perform windowSeconds) calls log).1.map Except.toBool =
      (performAll (Postgres.perform windowSeconds) calls table).1.map Except.toBool := by
  induction calls generalizing now log table with
  | nil => rfl
  | cons call calls ih =>
    obtain ⟨hdistinct, hlimits, htimes, hrest⟩ := hcalls.cons
    obtain ⟨hwhole, hwholes⟩ := hwhole
    have hlater (b : Str) := (h b).later (hnow call List.mem_cons_self)
    have hiff : Sqlite.Accepts windowSeconds log call ↔
        Postgres.Accepts windowSeconds table call := by
      refine and_congr_right fun hvalid => forall₂_congr fun p hp => ?_
      exact (hlater p.1).admits (hwhole p.1 (List.mem_map_of_mem hp))
        ((Call.valid_iff.1 hvalid).2.1 p hp)
    rcases Sqlite.perform_cases windowSeconds call log hdistinct with
      ⟨hsqlite, log', hperform, hlog⟩ | ⟨hsqlite, e, hperform⟩ <;>
      rcases Postgres.perform_cases windowSeconds call table hdistinct with
        ⟨hpostgres, table', hperform', htable⟩ | ⟨hpostgres, e', hperform'⟩
    · have hagree (b : Str) : Agree (timedelta windowSeconds) call.now (timesOf b log')
          (table'.lookup b) := by
        rw [hlog, htable]
        by_cases hb : b ∈ call.buckets
        · have hadds : call.adds b = if call.operation = .record then [call.now] else [] := by
            simp only [Call.adds, hb, and_true]
          rw [if_pos hb, hadds]
          exact (hlater b).next (hwhole b hb)
        · rw [if_neg hb, Call.adds, if_neg fun hadds => hb hadds.2, List.append_nil]
          exact (hlater b).delete
      rw [hperform, hperform'] at hwholes
      have hnext := ih hrest htimes hagree hwholes
      simpa only [performAll, hperform, hperform', List.map_cons, Except.toBool] using
        congrArg (true :: ·) hnext
    · exact absurd (hiff.1 hsqlite) hpostgres
    · exact absurd (hiff.2 hpostgres) hsqlite
    · rw [hperform, hperform'] at hwholes
      have hnext := ih hrest htimes hlater hwholes
      simpa only [performAll, hperform, hperform', List.map_cons, Except.toBool] using
        congrArg (false :: ·) hnext

end

namespace Sample

def bucket : Str := Py.lit "b"

/-- A call at a second, with this limit. -/
def call (operation : Operation) (limit seconds : Int) : Call :=
  ⟨operation, [(bucket, limit)], seconds * 1000000⟩

/-- Failures at 0 and 1, a refused one at 2 and another one at 20 seconds. -/
def calls : List Call := [call .record 2 0, call .record 2 1, call .record 2 2, call .record 2 20]

/-- Failures at 0, 9, 11 and 12 seconds. -/
def straddling : List Call :=
  [call .record 2 0, call .record 2 9, call .record 2 11, call .record 2 12]

end Sample

end Limiter

end AgencyRuntime
