import AgencyRuntime.Limiter.Agreement
import AgencyRuntime.Limiter.Quota

/-!
# Runs of the quota of authenticated requests

What a bucket holds in its current window, over any sequence of calls: an admitted request adds one
to each of its buckets and to no other, a refused one changes nothing, and the row of a bucket
counts the requests admitted since its window started (`WindowOf`). The two stores decide alike as
long as their columns can hold the counts (`Windows.consumeAll_eq`).
-/

namespace AgencyRuntime

namespace Limiter

open Py

/-- The results of calls one after the other, and what they leave. -/
def consumeAll {S : Type} (consume : QuotaCall → S → Except Exn Unit × S) :
    List QuotaCall → S → List (Except Exn Unit) × S
  | [], s => ([], s)
  | call :: rest, s =>
    let (result, s') := consume call s
    let (results, s'') := consumeAll consume rest s'
    (result :: results, s'')

def QuotaCall.buckets (call : QuotaCall) : List Str := call.bucketLimits.map Prod.fst

/-- When the requests of a bucket were admitted, by calls with these results. -/
def admittedAt (bucketHash : Str) : List QuotaCall → List (Except Exn Unit) → List Int
  | call :: calls, .ok () :: results =>
    (if bucketHash ∈ call.buckets then [(call.now.micros : Int)] else []) ++
      admittedAt bucketHash calls results
  | _ :: calls, .error _ :: results => admittedAt bucketHash calls results
  | _, _ => []

/-- The requests that a bucket holds in its current window. -/
def QuotaTable.held {τ : Type} (C : QuotaColumns τ) (windowSeconds : Int) (now : Datetime)
    (table : QuotaTable τ) (bucketHash : Str) : Int :=
  match table.select bucketHash with
  | none => 0
  | some row =>
    match C.read row.windowStartedAt with
    | .ok start =>
      if (now.micros : Int) < start.micros + timedelta windowSeconds then row.requestCount else 0
    | .error _ => 0

/-- The same of the windows. -/
def Windows.held (windowSeconds : Int) (now : Datetime) (V : Windows) (bucketHash : Str) : Int :=
  match V bucketHash with
  | none => 0
  | some w => if (now.micros : Int) < w.1.micros + timedelta windowSeconds then w.2 else 0

section
variable {τ : Type} {C : QuotaColumns τ} {table table' : QuotaTable τ} {V V' : Windows}
  {windowSeconds : Int} {call : QuotaCall}

theorem QuotaTable.Stores.held (hC : C.Lawful) (h : table.Stores C V) (windowSeconds : Int)
    (now : Datetime) (b : Str) : table.held C windowSeconds now b = V.held windowSeconds now b := by
  rw [QuotaTable.held, h b, Windows.held]
  cases V b with
  | none => rfl
  | some w => simp only [Option.map_some, hC.read_write]

/-! ## One call -/

/-- What a bucket holds is not deleted. -/
theorem Windows.held_expire {now cutoff : Datetime}
    (hcutoff : now.add (-timedelta windowSeconds) = .ok cutoff) (b : Str) :
    (V.expire cutoff).held windowSeconds now b = V.held windowSeconds now b := by
  have hmicros := Datetime.add_ok hcutoff
  unfold held expire
  cases V b with
  | none => rfl
  | some w =>
    by_cases hdeleted : w.1 < cutoff
    · have hover : ¬ (now.micros : Int) < w.1.micros + timedelta windowSeconds := by
        rw [Datetime.lt_def] at hdeleted
        omega
      simp [Option.filter, hdeleted, hover]
    · simp [Option.filter, hdeleted]

/-- The two ways a window goes on: a new one, where there is none or it is over, or one request more
in one that is not full. -/
theorem nextWindow_ok {now : Datetime} {limit : Int} {window : Option (Datetime × Int)}
    {w : Datetime × Int} (h : nextWindow windowSeconds now limit window = .ok w) :
    (w = (now, 1) ∧ ∀ old, window = some old →
      (old.1.micros : Int) + timedelta windowSeconds ≤ now.micros) ∨
    ∃ old, window = some old ∧ w = (old.1, old.2 + 1) ∧ old.2 < limit ∧
      (now.micros : Int) < old.1.micros + timedelta windowSeconds := by
  cases window with
  | none =>
    cases h
    exact .inl ⟨rfl, nofun⟩
  | some old =>
    obtain ⟨retryAt, hretry, h⟩ := exceptBind_ok h
    have hmicros := Datetime.add_ok hretry
    split at h
    · next hover =>
      cases h
      rw [Datetime.le_def] at hover
      refine .inl ⟨rfl, ?_⟩
      rintro _ ⟨⟩
      omega
    · next hover =>
      rw [Datetime.le_def] at hover
      split at h
      · cases h
      · next hspace =>
        cases h
        exact .inr ⟨old, rfl, rfl, by omega, by omega⟩

theorem timedelta_pos (h : 1 ≤ windowSeconds) : 0 < timedelta windowSeconds := by
  unfold timedelta
  omega

/-- An admitted request is counted in each of its buckets and in no other. -/
theorem Windows.Admitted.held (h : V.Admitted windowSeconds call V') (b : Str) :
    V'.held windowSeconds call.now b = V.held windowSeconds call.now b +
      if b ∈ call.buckets then 1 else 0 := by
  obtain ⟨cutoff, hcutoff, hin, hout⟩ := h.rest
  have hpos := timedelta_pos h.window
  rw [← Windows.held_expire (V := V) hcutoff b]
  by_cases hb : b ∈ call.buckets
  · obtain ⟨p, hp, rfl⟩ := List.mem_map.1 hb
    obtain ⟨w, hw, hnext⟩ := hin p hp
    rw [if_pos hb]
    unfold Windows.held
    rw [hw]
    rcases nextWindow_ok hnext with ⟨rfl, hover⟩ | ⟨old, hold, rfl, -, hrunning⟩
    · have hfirst : (call.now.micros : Int) < call.now.micros + timedelta windowSeconds := by omega
      cases hold : V.expire cutoff p.1 with
      | none => simp [hfirst]
      | some old =>
        have := hover old hold
        simp [hfirst, Int.not_lt.2 this]
    · simp [hold, hrunning]
  · rw [if_neg hb, Int.add_zero]
    unfold Windows.held
    rw [hout b hb]

/-- After it, each of them holds at most its limit. -/
theorem Windows.Admitted.held_le (h : V.Admitted windowSeconds call V') {p : Str × Int}
    (hp : p ∈ call.bucketLimits) : V'.held windowSeconds call.now p.1 ≤ p.2 := by
  obtain ⟨cutoff, -, hin, -⟩ := h.rest
  obtain ⟨w, hw, hnext⟩ := hin p hp
  have hlimit := h.limits p hp
  unfold Windows.held
  rw [hw]
  rcases nextWindow_ok hnext with ⟨rfl, -⟩ | ⟨old, -, rfl, hspace, hrunning⟩
  · simp only
    split <;> omega
  · simp only [hrunning, if_true]
    omega

/-! ## The requests that a row counts -/

/-- What the window of a bucket says of the requests admitted for it up to a time. -/
inductive WindowOf (window now : Int) (past : List Int) : Option (Datetime × Int) → Prop
  | absent : (∀ t ∈ past, t < now) → WindowOf window now past none
  | stored {w : Datetime × Int} : (w.1.micros : Int) ∈ past → (∀ t ∈ past, t ≤ now) →
      (∀ t ∈ past, t < w.1.micros + window) → w.2 = count (fun t => w.1.micros ≤ t) past →
      WindowOf window now past (some w)

section
variable {window now : Int} {past : List Int} {row : Option (Datetime × Int)}

theorem WindowOf.later {next : Int} (h : WindowOf window now past row) (hnow : now ≤ next) :
    WindowOf window next past row := by
  cases h with
  | absent hbefore => exact .absent fun t ht => Int.lt_of_lt_of_le (hbefore t ht) hnow
  | stored hstart hbefore hin hcount =>
    exact .stored hstart (fun t ht => Int.le_trans (hbefore t ht) hnow) hin hcount

/-- A window that started long enough ago can go. -/
theorem WindowOf.expire (h : WindowOf window now past row) {cutoff : Datetime}
    (hcutoff : (cutoff.micros : Int) = now - window) :
    WindowOf window now past (row.filter fun w => !decide (w.1 < cutoff)) := by
  cases h with
  | absent hbefore => exact .absent hbefore
  | @stored w hstart hbefore hin hcount =>
    by_cases hdeleted : w.1 < cutoff
    · simp only [Option.filter, hdeleted, decide_true, Bool.not_true, Bool.false_eq_true, if_false]
      refine .absent fun t ht => ?_
      have := hin t ht
      rw [Datetime.lt_def] at hdeleted
      omega
    · simp only [Option.filter, hdeleted, decide_false, Bool.not_false, if_true]
      exact .stored hstart hbefore hin hcount

/-- A window that starts when none of the requests before it can be in it. -/
theorem WindowOf.start {now : Datetime} (hwindow : 0 < window)
    (h : ∀ t ∈ past, t < (now.micros : Int)) :
    WindowOf window now.micros (past ++ [(now.micros : Int)]) (some (now, 1)) := by
  refine .stored (by simp) ?_ ?_ ?_
  · intro t ht
    rcases List.mem_append.1 ht with ht | ht
    · exact Int.le_of_lt (h t ht)
    · exact Int.le_of_eq (List.mem_singleton.1 ht)
  · intro t ht
    change t < (now.micros : Int) + window
    rcases List.mem_append.1 ht with ht | ht
    · have := h t ht
      omega
    · have := List.mem_singleton.1 ht
      omega
  · have hzero : count (fun t => (now.micros : Int) ≤ t) past = 0 := by
      rw [count, List.countP_eq_zero]
      intro t ht hle
      have := h t ht
      rw [decide_eq_true_eq] at hle
      omega
    rw [count_append, hzero]
    simp [count]

/-- What an admitted request makes of the window. -/
theorem WindowOf.next {now : Datetime} {limit : Int} {w : Datetime × Int} (hwindow : 1 ≤ windowSeconds)
    (h : WindowOf (timedelta windowSeconds) now.micros past row)
    (hnext : nextWindow windowSeconds now limit row = .ok w) :
    WindowOf (timedelta windowSeconds) now.micros (past ++ [(now.micros : Int)]) (some w) := by
  have hpos := timedelta_pos hwindow
  rcases nextWindow_ok hnext with ⟨rfl, hover⟩ | ⟨old, rfl, rfl, -, hrunning⟩
  · refine .start hpos fun t ht => ?_
    cases h with
    | absent hbefore => exact hbefore t ht
    | @stored old hstart hbefore hin hcount =>
      have := hover old rfl
      have := hin t ht
      omega
  · cases h with
    | stored hstart hbefore hin hcount =>
      have hstarted := hbefore _ hstart
      refine .stored (List.mem_append_left _ hstart) ?_ ?_ ?_
      · intro t ht
        rcases List.mem_append.1 ht with ht | ht
        · exact hbefore t ht
        · exact Int.le_of_eq (List.mem_singleton.1 ht)
      · intro t ht
        rcases List.mem_append.1 ht with ht | ht
        · exact hin t ht
        · rw [List.mem_singleton.1 ht]
          exact hrunning
      · have hone : count (fun t => (old.1.micros : Int) ≤ t) [(now.micros : Int)] = 1 := by
          simp [count, Int.ofNat_le.1 hstarted]
        change old.2 + 1 = (count (fun t => (old.1.micros : Int) ≤ t) _ : Int)
        rw [count_append, hone]
        omega

end

/-- The windows count the requests admitted up to a time. -/
def Windows.Count (windowSeconds now : Int) (past : Str → List Int) (V : Windows) : Prop :=
  ∀ b, WindowOf (timedelta windowSeconds) now (past b) (V b)

theorem Windows.Count.admitted {past : Str → List Int}
    (h : V.Count windowSeconds call.now.micros past) (hadmitted : V.Admitted windowSeconds call V') :
    V'.Count windowSeconds call.now.micros fun b =>
      past b ++ if b ∈ call.buckets then [(call.now.micros : Int)] else [] := by
  intro b
  obtain ⟨cutoff, hcutoff, hin, hout⟩ := hadmitted.rest
  have hmicros : (cutoff.micros : Int) = call.now.micros - timedelta windowSeconds := by
    have := Datetime.add_ok hcutoff
    omega
  have hkept := (h b).expire hmicros
  by_cases hb : b ∈ call.buckets
  · simp only [if_pos hb]
    obtain ⟨p, hp, rfl⟩ := List.mem_map.1 hb
    obtain ⟨w, hw, hnext⟩ := hin p hp
    rw [hw]
    exact hkept.next hadmitted.window hnext
  · simp only [if_neg hb, List.append_nil]
    rw [hout b hb]
    exact hkept

/-! ## Runs -/

theorem admittedAt_nil (b : Str) (results : List (Except Exn Unit)) :
    admittedAt b [] results = [] := by
  cases results <;> rfl

theorem consumeAll_append {S : Type} (consume : QuotaCall → S → Except Exn Unit × S)
    (calls calls' : List QuotaCall) (s : S) :
    consumeAll consume (calls ++ calls') s =
      ((consumeAll consume calls s).1 ++ (consumeAll consume calls' (consumeAll consume calls s).2).1,
        (consumeAll consume calls' (consumeAll consume calls s).2).2) := by
  induction calls generalizing s with
  | nil => rfl
  | cons call calls ih => simp only [List.cons_append, consumeAll, ih]

/-- The windows of a store count the requests that it admitted, after any run of it. -/
theorem Windows.Count.run (hC : C.Lawful) {calls : List QuotaCall} {now : Int}
    {past : Str → List Int} (hcalls : calls.Pairwise fun call call' => call.now ≤ call'.now)
    (hnow : ∀ call ∈ calls, now ≤ call.now.micros) (hstores : table.Stores C V)
    (h : V.Count windowSeconds now past) :
    ∃ V', (consumeAll (consumeQuota C windowSeconds) calls table).2.Stores C V' ∧
      ∀ later, (∀ call ∈ calls, (call.now.micros : Int) ≤ later) → now ≤ later →
        V'.Count windowSeconds later fun b => past b ++
          admittedAt b calls (consumeAll (consumeQuota C windowSeconds) calls table).1 := by
  induction calls generalizing now past table V with
  | nil =>
    refine ⟨V, hstores, fun later _ hlater b => ?_⟩
    simp only [admittedAt_nil, List.append_nil]
    exact (h b).later hlater
  | cons call calls ih =>
    rw [List.pairwise_cons] at hcalls
    have hfirst := hnow call List.mem_cons_self
    have hrest : ∀ call' ∈ calls, (call.now.micros : Int) ≤ call'.now.micros := fun call' hmem =>
      Int.ofNat_le.2 (hcalls.1 call' hmem)
    cases hresult : consumeQuota C windowSeconds call table with
    | mk result table' =>
      cases result with
      | ok u =>
        obtain ⟨V₁, hconsume, hstores₁⟩ := consumeQuota_ok hC hstores hresult
        have hcount : V.Count windowSeconds call.now.micros past := fun b => (h b).later hfirst
        obtain ⟨V₂, hstores₂, hcount₂⟩ := ih hcalls.2 hrest hstores₁
          (hcount.admitted (Windows.consume_ok hconsume))
        refine ⟨V₂, by simpa only [consumeAll, hresult] using hstores₂, fun later hlater _ b => ?_⟩
        rw [List.forall_mem_cons] at hlater
        have := hcount₂ later hlater.2 hlater.1 b
        simp only [List.append_assoc] at this
        simpa only [consumeAll, hresult, admittedAt] using this
      | error e =>
        obtain rfl := consumeQuota_error hresult
        have hcount : V.Count windowSeconds call.now.micros past := fun b => (h b).later hfirst
        obtain ⟨V₂, hstores₂, hcount₂⟩ := ih hcalls.2 hrest hstores hcount
        refine ⟨V₂, by simpa only [consumeAll, hresult] using hstores₂, fun later hlater _ b => ?_⟩
        rw [List.forall_mem_cons] at hlater
        simpa only [consumeAll, hresult, admittedAt] using hcount₂ later hlater.2 hlater.1 b

/-- The windows of an empty table. -/
def Windows.empty : Windows := fun _ => none

theorem QuotaTable.stores_empty : (QuotaTable.empty : QuotaTable τ).Stores C Windows.empty :=
  fun _ => rfl

theorem Windows.count_empty (windowSeconds now : Int) :
    Windows.empty.Count windowSeconds now fun _ => [] :=
  fun _ => .absent nofun

/-! ## Agreement -/

/-- A request of the windows alone. -/
def Windows.perform (windowSeconds : Int) (call : QuotaCall) (V : Windows) :
    Except Exn Unit × Windows :=
  commit V (V.consume windowSeconds call)

/-- The counts are positive, and below a bound. -/
def Windows.Below (bound : Int) (V : Windows) : Prop :=
  ∀ b w, V b = some w → 1 ≤ w.2 ∧ w.2 < bound

theorem Windows.Below.next {bound : Int} (h : V.Below bound) {now cutoff : Datetime}
    {p : Str × Int} (hlimit : 1 ≤ p.2) (hbound : p.2 < bound) {w : Datetime × Int}
    (hnext : nextWindow windowSeconds now p.2 (V.expire cutoff p.1) = .ok w) :
    1 ≤ w.2 ∧ w.2 < bound := by
  rcases nextWindow_ok hnext with ⟨rfl, -⟩ | ⟨old, hold, rfl, hspace, -⟩
  · exact ⟨Int.le_refl 1, by simp only; omega⟩
  · have := h p.1 old (Option.filter_eq_some_iff.1 hold).1
    simp only
    omega

theorem Windows.Below.admitted {bound : Int} (h : V.Below bound)
    (hlimits : ∀ p ∈ call.bucketLimits, p.2 < bound) (hadmitted : V.Admitted windowSeconds call V') :
    V'.Below bound := by
  intro b w hw
  obtain ⟨cutoff, -, hin, hout⟩ := hadmitted.rest
  by_cases hb : b ∈ call.buckets
  · obtain ⟨p, hp, rfl⟩ := List.mem_map.1 hb
    obtain ⟨w', hw', hnext⟩ := hin p hp
    obtain rfl : w' = w := Option.some.inj (hw'.symm.trans hw)
    exact h.next (hadmitted.limits p hp) (hlimits p hp) hnext
  · rw [hout b hb] at hw
    exact h b w (Option.filter_eq_some_iff.1 hw).1

/-- A store whose columns hold the counts decides every call of a run as the windows do. -/
theorem Windows.consumeAll_eq (windowSeconds : Int) (hC : C.Lawful) {bound : Int}
    (hcounts : ∀ n, 1 ≤ n → n < bound → C.checkCount n = .ok ()) {calls : List QuotaCall}
    (hlimits : ∀ call ∈ calls, ∀ p ∈ call.bucketLimits, p.2 < bound) (hstores : table.Stores C V)
    (h : V.Below bound) :
    (consumeAll (consumeQuota C windowSeconds) calls table).1 =
      (consumeAll (Windows.perform windowSeconds) calls V).1 := by
  induction calls generalizing table V with
  | nil => rfl
  | cons call calls ih =>
    rw [List.forall_mem_cons] at hlimits
    have hfst : (consumeQuota C windowSeconds call table).1 =
        (V.consume windowSeconds call).map fun _ => () := by
      refine consumeQuota_fst hC hstores fun hargs cutoff _ p hp w hnext => ?_
      have hbelow := h.next ((checkQuotaArguments_ok hargs).2.1 p hp) (hlimits.1 p hp) hnext
      exact hcounts _ hbelow.1 hbelow.2
    cases hresult : consumeQuota C windowSeconds call table with
    | mk result table' =>
      cases result with
      | ok u =>
        obtain ⟨V₁, hconsume, hstores₁⟩ := consumeQuota_ok hC hstores hresult
        have hnext := ih hlimits.2 hstores₁ (h.admitted hlimits.1 (Windows.consume_ok hconsume))
        simp only [consumeAll, hresult, Windows.perform, hconsume, commit, hnext]
      | error e =>
        obtain rfl := consumeQuota_error hresult
        rw [hresult] at hfst
        cases hconsume : V.consume windowSeconds call with
        | ok V₁ =>
          rw [hconsume] at hfst
          cases hfst
        | error e' =>
          rw [hconsume] at hfst
          cases hfst
          simp only [consumeAll, hresult, Windows.perform, hconsume, commit, ih hlimits.2 hstores h]

end

/-! ## The quota -/

/-- What a store does with a call after others, all in the order of their times. -/
structure QuotaKept {τ : Type} (C : QuotaColumns τ) (windowSeconds : Int)
    (before : List QuotaCall) (call : QuotaCall) : Prop where
  /-- An admitted call is counted in each of its buckets and in no other. -/
  counted : ∀ results table table',
    consumeAll (consumeQuota C windowSeconds) before .empty = (results, table) →
    consumeQuota C windowSeconds call table = (.ok (), table') → ∀ b,
      table'.held C windowSeconds call.now b = table.held C windowSeconds call.now b +
        if b ∈ call.buckets then 1 else 0
  /-- What a bucket of it holds afterwards are the requests admitted since its current window
  started, at most as many as the limit. -/
  limited : ∀ results table table',
    consumeAll (consumeQuota C windowSeconds) before .empty = (results, table) →
    consumeQuota C windowSeconds call table = (.ok (), table') → ∀ p ∈ call.bucketLimits,
      let requests := admittedAt p.1 (before ++ [call]) (results ++ [.ok ()])
      table'.held C windowSeconds call.now p.1 ≤ p.2 ∧ ∃ start ∈ requests,
        start ≤ call.now.micros ∧ call.now.micros < start + timedelta windowSeconds ∧
        (∀ t ∈ requests, t < start + timedelta windowSeconds) ∧
        table'.held C windowSeconds call.now p.1 = count (fun t => start ≤ t) requests
  /-- A refused call is counted nowhere. -/
  refused : ∀ results table table' e,
    consumeAll (consumeQuota C windowSeconds) before .empty = (results, table) →
    consumeQuota C windowSeconds call table = (.error e, table') → table' = table

theorem admittedAt_append {calls : List QuotaCall} (b : Str) (call : QuotaCall)
    {results : List (Except Exn Unit)} (h : results.length = calls.length) :
    admittedAt b (calls ++ [call]) (results ++ [.ok ()]) =
      admittedAt b calls results ++ if b ∈ call.buckets then [(call.now.micros : Int)] else [] := by
  induction calls generalizing results with
  | nil =>
    obtain rfl := List.length_eq_zero_iff.1 h
    simp [admittedAt]
  | cons c calls ih =>
    cases results with
    | nil => cases h
    | cons r results =>
      have ih := ih (Nat.succ.inj h)
      cases r with
      | ok _ => simp only [List.cons_append, admittedAt, ih, List.append_assoc]
      | error _ => simp only [List.cons_append, admittedAt, ih]

theorem length_consumeAll {S : Type} (consume : QuotaCall → S → Except Exn Unit × S)
    (calls : List QuotaCall) (s : S) : (consumeAll consume calls s).1.length = calls.length := by
  induction calls generalizing s with
  | nil => rfl
  | cons call calls ih => simp [consumeAll, ih]

/-- Over any sequence of calls a store keeps the quota. -/
theorem QuotaColumns.Lawful.quotaKept {τ : Type} {C : QuotaColumns τ} (hC : C.Lawful)
    {windowSeconds : Int} {before : List QuotaCall} {call : QuotaCall}
    (htimes : (before ++ [call]).Pairwise fun call call' => call.now ≤ call'.now) :
    QuotaKept C windowSeconds before call := by
  rw [List.pairwise_append] at htimes
  obtain ⟨hbefore, -, hlast⟩ := htimes
  have hnow : ∀ c ∈ before, (c.now.micros : Int) ≤ call.now.micros := fun c hc =>
    Int.ofNat_le.2 (hlast c hc call List.mem_cons_self)
  obtain ⟨V, hstores, hcount⟩ := Windows.Count.run hC hbefore (fun c _ => Int.natCast_nonneg _)
    QuotaTable.stores_empty (Windows.count_empty windowSeconds 0)
  have hcount := hcount call.now.micros hnow (Int.natCast_nonneg _)
  have hlength := length_consumeAll (consumeQuota C windowSeconds) before .empty
  refine ⟨?_, ?_, ?_⟩
  · intro results table table' hrun hok b
    rw [hrun] at hstores
    obtain ⟨V', hconsume, hstores'⟩ := consumeQuota_ok hC hstores hok
    rw [hstores'.held hC, hstores.held hC]
    exact (Windows.consume_ok hconsume).held b
  · intro results table table' hrun hok p hp requests
    rw [hrun] at hstores hcount hlength
    obtain ⟨V', hconsume, hstores'⟩ := consumeQuota_ok hC hstores hok
    have hadmitted := Windows.consume_ok hconsume
    have hwindow := hcount.admitted hadmitted p.1
    simp only at hwindow
    have hrequests : requests = [] ++ admittedAt p.1 before results ++
        if p.1 ∈ call.buckets then [(call.now.micros : Int)] else [] := by
      rw [List.nil_append]
      exact admittedAt_append p.1 call hlength
    rw [← hrequests] at hwindow
    rw [hstores'.held hC]
    refine ⟨hadmitted.held_le hp, ?_⟩
    obtain ⟨cutoff, -, hin, -⟩ := hadmitted.rest
    obtain ⟨w, hw, hnext⟩ := hin p hp
    rw [hw] at hwindow
    have hrunning : (call.now.micros : Int) < w.1.micros + timedelta windowSeconds := by
      have hpos := timedelta_pos hadmitted.window
      rcases nextWindow_ok hnext with ⟨rfl, -⟩ | ⟨old, -, rfl, -, hrunning⟩
      · simp only
        omega
      · exact hrunning
    cases hwindow with
    | stored hstart hupto hin hcounts =>
      refine ⟨w.1.micros, hstart, hupto _ hstart, hrunning, hin, ?_⟩
      simp only [Windows.held, hw, hrunning, if_true]
      exact hcounts
  · intro results table table' e _ herror
    exact consumeQuota_error herror

/-- Over calls in the order of their times, from empty tables, both stores count an admitted call
once in each of its buckets, refuse one without a trace, and admit no more than the limit of the
call in the current window of a bucket. They return the same as long as the limits fit the
four-byte column of PostgreSQL. -/
theorem authenticated_quota (windowSeconds : Int) (before : List QuotaCall) (call : QuotaCall)
    (htimes : (before ++ [call]).Pairwise fun call call' => call.now ≤ call'.now) :
    QuotaKept Sqlite.quotaColumns windowSeconds before call ∧
      QuotaKept Postgres.quotaColumns windowSeconds before call ∧
      ((∀ c ∈ before ++ [call], ∀ p ∈ c.bucketLimits, p.2 < 2 ^ 31) →
        (consumeAll (Sqlite.consumeAuthenticatedRequestQuota windowSeconds)
          (before ++ [call]) .empty).1 =
        (consumeAll (Postgres.consumeAuthenticatedRequestQuota windowSeconds)
          (before ++ [call]) .empty).1) := by
  refine ⟨Sqlite.quotaColumns_lawful.quotaKept htimes,
    Postgres.quotaColumns_lawful.quotaKept htimes, fun hlimits => ?_⟩
  have hempty : Windows.empty.Below (2 ^ 31) := nofun
  have hsqlite := Windows.consumeAll_eq windowSeconds Sqlite.quotaColumns_lawful
    (fun n _ _ => Sqlite.checkCount_ok (by omega) (by omega)) hlimits QuotaTable.stores_empty hempty
  have hpostgres := Windows.consumeAll_eq windowSeconds Postgres.quotaColumns_lawful
    (fun n _ h => (Postgres.checkCount_ok (by omega)).2 h) hlimits QuotaTable.stores_empty hempty
  exact hsqlite.trans hpostgres.symm

namespace Sample

/-- A request of one bucket with this limit, some seconds after the beginning of 2026. -/
def quotaCall (limit : Int) (seconds : Fin 1000) : QuotaCall :=
  ⟨[(bucket, limit)], ⟨63902822400000000 + seconds * 1000000, by
    have := seconds.isLt
    unfold dayMicros
    omega⟩⟩

end Sample

theorem authenticated_quota_window :
    (consumeAll (Sqlite.consumeAuthenticatedRequestQuota 60) [Sample.quotaCall 2 0,
        Sample.quotaCall 2 1, Sample.quotaCall 2 59, Sample.quotaCall 2 60] .empty).1 =
      (consumeAll (Postgres.consumeAuthenticatedRequestQuota 60) [Sample.quotaCall 2 0,
        Sample.quotaCall 2 1, Sample.quotaCall 2 59, Sample.quotaCall 2 60] .empty).1 ∧
    (consumeAll (Postgres.consumeAuthenticatedRequestQuota 60) [Sample.quotaCall 2 0,
      Sample.quotaCall 2 1, Sample.quotaCall 2 59, Sample.quotaCall 2 60] .empty).1 =
        [.ok (), .ok (), .error (.authenticatedRequestRateLimit 2), .ok ()] := by
  refine ⟨(authenticated_quota 60 [Sample.quotaCall 2 0, Sample.quotaCall 2 1,
    Sample.quotaCall 2 59] (Sample.quotaCall 2 60) ?_).2.2 ?_, ?_⟩
  · decide
  · decide
  · decide

/-! ## Counts that one store cannot hold -/

/-- One window of one bucket. -/
def Windows.single (b : Str) (start : Datetime) (n : Nat) : Windows :=
  if n = 0 then Windows.empty else Function.update Windows.empty b (some (start, (n : Int)))

section
variable {τ : Type} {C : QuotaColumns τ} {table : QuotaTable τ} {windowSeconds limit : Int}
  {b : Str} {now cutoff retryAt : Datetime} {n : Nat}

/-- One request more in a window of one bucket. -/
theorem Windows.plan_single (hpos : 0 < timedelta windowSeconds)
    (hcutoff : now.add (-timedelta windowSeconds) = .ok cutoff)
    (hretry : now.add (timedelta windowSeconds) = .ok retryAt) (hn : (n : Int) < limit) :
    ((single b now n).expire cutoff).plan windowSeconds now [(b, limit)] =
      .ok [(b, (now, ((n + 1 : Nat) : Int)))] := by
  have hbefore := Datetime.add_ok hcutoff
  have hafter := Datetime.add_ok hretry
  unfold single expire
  by_cases hzero : n = 0
  · subst hzero
    rfl
  · have hkept : ¬ now < cutoff := by
      rw [Datetime.lt_def]
      omega
    have hrunning : ¬ retryAt ≤ now := by
      rw [Datetime.le_def]
      omega
    have hwindow : (some (now, (n : Int))).filter (fun w => !decide (w.1 < cutoff)) =
        some (now, (n : Int)) := by
      simp [Option.filter, hkept]
    simp only [plan, hzero, if_false, Function.update_self, hwindow, nextWindow, hretry, hrunning,
      Int.not_le.2 hn, bind, Except.bind, pure, Except.pure]
    rfl

/-- Whether the count fits decides. -/
theorem consumeQuota_single (hC : C.Lawful) (h : table.Stores C (Windows.single b now n))
    (hb : b ≠ []) (hwindow : 1 ≤ windowSeconds)
    (hcutoff : now.add (-timedelta windowSeconds) = .ok cutoff)
    (hretry : now.add (timedelta windowSeconds) = .ok retryAt) (hn : (n : Int) < limit) :
    ∃ table', consumeQuota C windowSeconds ⟨[(b, limit)], now⟩ table =
        (C.checkCount ((n + 1 : Nat) : Int), table') ∧
      (C.checkCount ((n + 1 : Nat) : Int) = .ok () →
        table'.Stores C (Windows.single b now (n + 1))) := by
  have hplan := Windows.plan_single (b := b) (timedelta_pos hwindow) hcutoff hretry hn
  have hargs : checkQuotaArguments [(b, limit)] windowSeconds = .ok () := by
    unfold checkQuotaArguments
    have hlimit : 1 ≤ limit := by omega
    have hseconds : ¬ windowSeconds < 1 := by omega
    simp [check, hb, hlimit, hseconds, bind, Except.bind]
  have hkept := h.delete hC cutoff
  have hsorted : sortedBuckets [(b, limit)] = [(b, limit)] := rfl
  have hbody : consumeQuota C windowSeconds ⟨[(b, limit)], now⟩ table = commit table
      (writeUpdates C [C.row (b, (now, ((n + 1 : Nat) : Int)))]
        (table.delete fun row => C.isBefore row.windowStartedAt cutoff)) := by
    simp only [consumeQuota, hargs, hcutoff, planBuckets_eq hC hkept, hsorted, hplan, bind,
      Except.bind, Except.map]
    rfl
  rw [hbody, writeUpdates]
  simp only [QuotaColumns.row]
  cases C.checkCount ((n + 1 : Nat) : Int) with
  | error e => exact ⟨table, rfl, by rintro ⟨⟩⟩
  | ok u =>
    refine ⟨_, rfl, fun _ => ?_⟩
    have hstores := hkept.upsert (b, (now, ((n + 1 : Nat) : Int)))
    have hwindows : Function.update ((Windows.single b now n).expire cutoff) b
        (some (now, ((n + 1 : Nat) : Int))) = Windows.single b now (n + 1) := by
      funext c
      simp only [Windows.single, Nat.add_one_ne_zero, if_false, Function.update_apply]
      split
      · rfl
      · next hc =>
        unfold Windows.expire
        split
        · rfl
        · rw [Function.update_of_ne hc]
          rfl
    rw [← hwindows]
    exact hstores

/-- A store whose columns hold the counts admits a call as often as its limit allows. -/
theorem consumeAll_replicate (hC : C.Lawful) (hb : b ≠ []) (hwindow : 1 ≤ windowSeconds)
    (hcutoff : now.add (-timedelta windowSeconds) = .ok cutoff)
    (hretry : now.add (timedelta windowSeconds) = .ok retryAt) (hn : (n : Int) ≤ limit)
    (hcounts : ∀ k : Nat, 1 ≤ k → k ≤ n → C.checkCount k = .ok ()) :
    ∃ table, consumeAll (consumeQuota C windowSeconds) (List.replicate n ⟨[(b, limit)], now⟩)
        .empty = (List.replicate n (.ok ()), table) ∧
      table.Stores C (Windows.single b now n) := by
  induction n with
  | zero => exact ⟨.empty, rfl, QuotaTable.stores_empty⟩
  | succ n ih =>
    obtain ⟨table, hrun, hstores⟩ := ih (by omega) fun k hk hle => hcounts k hk (by omega)
    have hlimit : (n : Int) < limit := by omega
    obtain ⟨table', hlast, hnext⟩ := consumeQuota_single hC hstores hb hwindow hcutoff hretry hlimit
    have hok := hcounts (n + 1) (by omega) (Nat.le_refl _)
    rw [hok] at hlast
    refine ⟨table', ?_, hnext hok⟩
    rw [List.replicate_succ', consumeAll_append, hrun, List.replicate_succ']
    simp only [consumeAll, hlast]

/-- Where the calls before were admitted, the last of several equal calls is admitted if the store
can hold its count. -/
theorem consumeAll_replicate_succ (hC : C.Lawful) (hb : b ≠ []) (hwindow : 1 ≤ windowSeconds)
    (hcutoff : now.add (-timedelta windowSeconds) = .ok cutoff)
    (hretry : now.add (timedelta windowSeconds) = .ok retryAt) (hn : (n : Int) < limit)
    (hcounts : ∀ k : Nat, 1 ≤ k → k ≤ n → C.checkCount k = .ok ()) :
    (consumeAll (consumeQuota C windowSeconds) (List.replicate (n + 1) ⟨[(b, limit)], now⟩)
      .empty).1 = List.replicate n (.ok ()) ++ [C.checkCount ((n + 1 : Nat) : Int)] := by
  obtain ⟨table, hrun, hstores⟩ := consumeAll_replicate hC hb hwindow hcutoff hretry
    (Int.le_of_lt hn) hcounts
  obtain ⟨table', hlast, -⟩ := consumeQuota_single hC hstores hb hwindow hcutoff hretry hn
  rw [List.replicate_succ', consumeAll_append, hrun]
  simp only [consumeAll, hlast]

end

/-- With a limit of 2³¹ the SQLite store admits the 2³¹-th request of a window, whose count the
PostgreSQL store cannot write. -/
theorem authenticated_quota_overflow :
    (consumeAll (Sqlite.consumeAuthenticatedRequestQuota 60)
      (List.replicate (2 ^ 31) (Sample.quotaCall (2 ^ 31) 0)) .empty).1 ≠
    (consumeAll (Postgres.consumeAuthenticatedRequestQuota 60)
      (List.replicate (2 ^ 31) (Sample.quotaCall (2 ^ 31) 0)) .empty).1 := by
  obtain ⟨n, hn⟩ : ∃ n : Nat, 2 ^ 31 = n + 1 := ⟨2147483647, by decide⟩
  have hb : Sample.bucket ≠ [] := by decide
  obtain ⟨now, cutoff, retryAt, hcall, hcutoff, hretry⟩ : ∃ now cutoff retryAt,
      Sample.quotaCall (2 ^ 31) 0 = ⟨[(Sample.bucket, 2 ^ 31)], now⟩ ∧
      now.add (-timedelta 60) = .ok cutoff ∧ now.add (timedelta 60) = .ok retryAt := by
    obtain ⟨cutoff, hcutoff⟩ := (Sample.quotaCall (2 ^ 31) 0).now.exists_add (-timedelta 60)
      (by decide) (by decide)
    obtain ⟨retryAt, hretry⟩ := (Sample.quotaCall (2 ^ 31) 0).now.exists_add (timedelta 60)
      (by decide) (by decide)
    exact ⟨_, cutoff, retryAt, rfl, hcutoff, hretry⟩
  rewrite [hcall, hn]
  intro h
  have hlimit : (n : Int) < 2 ^ 31 := by omega
  have hsqlite := consumeAll_replicate_succ Sqlite.quotaColumns_lawful hb (by decide) hcutoff hretry
    hlimit fun k _ hk => Sqlite.checkCount_ok (by omega) (by omega)
  have hpostgres := consumeAll_replicate_succ Postgres.quotaColumns_lawful hb (by decide) hcutoff
    hretry hlimit fun k _ hk => (Postgres.checkCount_ok (by omega)).2 (by omega)
  have hlast := List.append_cancel_left (hsqlite.symm.trans (h.trans hpostgres))
  rw [Sqlite.checkCount_ok (by omega) (by omega)] at hlast
  have hfits := (Postgres.checkCount_ok (by omega)).1 (List.cons.inj hlast).1.symm
  omega

end Limiter

end AgencyRuntime
