import AgencyRuntime.Python.Exn

/-!
# Datetimes in UTC

`datetime.datetime` with the time zone UTC, its `isoformat` and the reading of that format. A
datetime is the number of microseconds since the first instant of year 1, so comparison and the
addition of a `timedelta` are those of numbers; the calendar enters only through `isoformat`, which
keeps the order: texts of datetimes compare as the datetimes do.
-/

namespace AgencyRuntime

namespace Py

/-! ## Decimal fields -/

/-- An ASCII digit. -/
def digit (n : Nat) : CodePoint := Fin.ofNat _ (48 + n)

/-- `n` in `width` decimal digits. -/
def padded : (width : Nat) → Nat → Str
  | 0, _ => []
  | width + 1, n => digit (n / 10 ^ width) :: padded width (n % 10 ^ width)

/-- The value of an ASCII digit. -/
def digitValue (c : CodePoint) : Option Nat :=
  if 48 ≤ c.val ∧ c.val ≤ 57 then some (c.val - 48) else none

/-- Read `width` decimal digits. -/
def readPadded : (width : Nat) → Str → Option (Nat × Str)
  | 0, s => some (0, s)
  | _ + 1, [] => none
  | width + 1, c :: s => do
    let d ← digitValue c
    let (n, rest) ← readPadded width s
    return (d * 10 ^ width + n, rest)

theorem digit_val {n : Nat} (h : n < 10) : (digit n).val = 48 + n := by
  simp only [digit, Fin.ofNat]
  omega

theorem digitValue_digit {n : Nat} (h : n < 10) : digitValue (digit n) = some n := by
  have hv := digit_val h
  have hr : 48 ≤ (digit n).val ∧ (digit n).val ≤ 57 := by omega
  rw [digitValue, if_pos hr, hv]
  congr 1
  omega

theorem digit_lt_digit {m n : Nat} (hm : m < 10) (hn : n < 10) : digit m < digit n ↔ m < n := by
  rw [Fin.lt_def, digit_val hm, digit_val hn]
  omega

theorem digit_inj {m n : Nat} (hm : m < 10) (hn : n < 10) : digit m = digit n ↔ m = n := by
  rw [Fin.ext_iff, digit_val hm, digit_val hn]
  omega

/-- What is left after the first digit. -/
theorem padded_head {width n : Nat} (h : n < 10 ^ (width + 1)) :
    n / 10 ^ width < 10 ∧ n % 10 ^ width < 10 ^ width ∧
      n = n / 10 ^ width * 10 ^ width + n % 10 ^ width := by
  have hpos : 0 < 10 ^ width := Nat.pow_pos (by omega)
  refine ⟨Nat.div_lt_of_lt_mul (by rwa [Nat.pow_succ] at h), Nat.mod_lt _ hpos, ?_⟩
  rw [Nat.mul_comm]
  exact (Nat.div_add_mod n _).symm

/-- Decimal fields of one width are read back. -/
theorem readPadded_padded {width n : Nat} (h : n < 10 ^ width) (s : Str) :
    readPadded width (padded width n ++ s) = some (n, s) := by
  induction width generalizing n with
  | zero =>
    have hn : n = 0 := by simpa using h
    simp [readPadded, padded, hn]
  | succ width ih =>
    obtain ⟨hd, hr, hn⟩ := padded_head h
    simp only [padded, List.cons_append, readPadded, digitValue_digit hd, ih hr, Option.bind_eq_bind,
      Option.bind_some, Option.pure_def]
    rw [← hn]

/-- Decimal fields of one width compare as the numbers, and then as what follows them. -/
theorem padded_lt {width m n : Nat} (hm : m < 10 ^ width) (hn : n < 10 ^ width) (s t : Str) :
    padded width m ++ s < padded width n ++ t ↔ m < n ∨ m = n ∧ s < t := by
  induction width generalizing m n with
  | zero =>
    have hm : m = 0 := by simpa using hm
    have hn : n = 0 := by simpa using hn
    simp [padded, hm, hn]
  | succ width ih =>
    obtain ⟨hmd, hmr, hmn⟩ := padded_head hm
    obtain ⟨hnd, hnr, hnn⟩ := padded_head hn
    simp only [padded, List.cons_append, List.cons_lt_cons_iff]
    rw [digit_lt_digit hmd hnd, digit_inj hmd hnd, ih hmr hnr]
    have hlt : m < n ↔ m / 10 ^ width < n / 10 ^ width ∨
        m / 10 ^ width = n / 10 ^ width ∧ m % 10 ^ width < n % 10 ^ width := by
      generalize m / 10 ^ width = a at hmn ⊢
      generalize n / 10 ^ width = b at hnn ⊢
      generalize m % 10 ^ width = r at hmn hmr ⊢
      generalize n % 10 ^ width = u at hnn hnr ⊢
      subst hmn hnn
      constructor
      · intro h
        rcases Nat.lt_trichotomy a b with hab | hab | hab
        · exact .inl hab
        · subst hab
          exact .inr ⟨rfl, by omega⟩
        · have := Nat.mul_le_mul_right (10 ^ width) (Nat.succ_le_of_lt hab)
          rw [Nat.succ_mul] at this
          omega
      · rintro (hab | ⟨rfl, h⟩)
        · have := Nat.mul_le_mul_right (10 ^ width) (Nat.succ_le_of_lt hab)
          rw [Nat.succ_mul] at this
          omega
        · omega
    have heq : m = n ↔ m / 10 ^ width = n / 10 ^ width ∧ m % 10 ^ width = n % 10 ^ width := by
      constructor
      · rintro rfl
        exact ⟨rfl, rfl⟩
      · rintro ⟨h1, h2⟩
        rw [hmn, hnn, h1, h2]
    rw [hlt, heq]
    tauto

/-- Texts with a common start compare as what follows it. -/
theorem append_lt_append (p s t : Str) : p ++ s < p ++ t ↔ s < t := by
  induction p with
  | nil => rfl
  | cons c p ih => simp [ih]

/-! ## The calendar -/

/-- `calendar.isleap` -/
def isLeap (year : Nat) : Bool := year % 4 == 0 && (year % 100 != 0 || year % 400 == 0)

/-- The days of the years before this one. -/
def daysBeforeYear (year : Nat) : Nat :=
  let y := year - 1
  y * 365 + y / 4 - y / 100 + y / 400

/-- The days of the months of this year before this one. -/
def daysBeforeMonth (leap : Bool) (month : Nat) : Nat :=
  let l := leap.toNat
  match month with
  | 0 | 1 => 0
  | 2 => 31
  | 3 => 59 + l
  | 4 => 90 + l
  | 5 => 120 + l
  | 6 => 151 + l
  | 7 => 181 + l
  | 8 => 212 + l
  | 9 => 243 + l
  | 10 => 273 + l
  | 11 => 304 + l
  | 12 => 334 + l
  | _ => 365 + l

/-- A year and a day of it, the first one being day 0. -/
structure YearDay where
  year : Nat
  day : Nat

/-- The first half of `_ord2ymd`: the year of a day, counted from the first day of year 1. -/
def yearDay (n : Nat) : YearDay :=
  let n400 := n / 146097
  let n100 := n % 146097 / 36524
  let n4 := n % 146097 % 36524 / 1461
  let n1 := n % 146097 % 36524 % 1461 / 365
  let year := n400 * 400 + n100 * 100 + n4 * 4 + n1
  if n1 = 4 ∨ n100 = 4 then ⟨year, 365⟩ else ⟨year + 1, n % 146097 % 36524 % 1461 % 365⟩

/-- The last month up to this one that starts by the day. -/
def monthUpTo (leap : Bool) (day : Nat) : Nat → Nat
  | 0 => 0
  | month + 1 =>
    if daysBeforeMonth leap (month + 1) ≤ day then month + 1 else monthUpTo leap day month

/-- The second half of `_ord2ymd`: the month of a day of a year. -/
def monthOf (leap : Bool) (day : Nat) : Nat := monthUpTo leap day 12

/-- The days before a year by its place in the cycles of 400, 100 and 4 years. -/
theorem daysBeforeYear_cycles {a b c d : Nat} (hb : b ≤ 3) (hc : c ≤ 24) (hd : d ≤ 3) :
    daysBeforeYear (a * 400 + b * 100 + c * 4 + d + 1) =
      a * 146097 + b * 36524 + c * 1461 + d * 365 := by
  have h4 : (a * 400 + b * 100 + c * 4 + d) / 4 = a * 100 + b * 25 + c := by omega
  have h100 : (a * 400 + b * 100 + c * 4 + d) / 100 = a * 4 + b := by omega
  have h400 : (a * 400 + b * 100 + c * 4 + d) / 400 = a := by omega
  simp only [daysBeforeYear, Nat.add_sub_cancel, h4, h100, h400]
  omega

/-- Whether a year is a leap year by its place in the cycles. -/
theorem isLeap_cycles {a b c d : Nat} (hb : b ≤ 3) (hc : c ≤ 24) (hd : d ≤ 3) :
    isLeap (a * 400 + b * 100 + c * 4 + d + 1) = true ↔ d = 3 ∧ (c = 24 → b = 3) := by
  have h4 : (a * 400 + b * 100 + c * 4 + d + 1) % 4 = 0 ↔ d = 3 := by omega
  have h100 : (a * 400 + b * 100 + c * 4 + d + 1) % 100 = 0 ↔ c = 24 ∧ d = 3 := by omega
  have h400 : (a * 400 + b * 100 + c * 4 + d + 1) % 400 = 0 ↔ b = 3 ∧ c = 24 ∧ d = 3 := by omega
  simp only [isLeap, Bool.and_eq_true, Bool.or_eq_true, beq_iff_eq, bne_iff_ne, ne_eq, h4, h100,
    h400]
  tauto

/-- Every year has a place in the cycles. -/
theorem exists_cycles {year : Nat} (h : 1 ≤ year) :
    ∃ a b c d, b ≤ 3 ∧ c ≤ 24 ∧ d ≤ 3 ∧ year = a * 400 + b * 100 + c * 4 + d + 1 := by
  refine ⟨(year - 1) / 400, (year - 1) % 400 / 100, (year - 1) % 100 / 4, (year - 1) % 4, by omega,
    by omega, by omega, by omega⟩

/-- A year has its days, and the days before it are those of the years before. -/
theorem yearDay_spec (n : Nat) :
    1 ≤ (yearDay n).year ∧ (yearDay n).day < 365 + (isLeap (yearDay n).year).toNat ∧
      n = daysBeforeYear (yearDay n).year + (yearDay n).day := by
  generalize hy : yearDay n = y
  unfold yearDay at hy
  simp only at hy
  have h400 := Nat.div_add_mod n 146097
  have h100 := Nat.div_add_mod (n % 146097) 36524
  have h4 := Nat.div_add_mod (n % 146097 % 36524) 1461
  have h1 := Nat.div_add_mod (n % 146097 % 36524 % 1461) 365
  have hr400 := Nat.mod_lt n (by omega : 146097 > 0)
  have hr100 := Nat.mod_lt (n % 146097) (by omega : 36524 > 0)
  have hr4 := Nat.mod_lt (n % 146097 % 36524) (by omega : 1461 > 0)
  have hr1 := Nat.mod_lt (n % 146097 % 36524 % 1461) (by omega : 365 > 0)
  generalize n / 146097 = a at *
  generalize n % 146097 = r at *
  generalize r / 36524 = b at *
  generalize r % 36524 = u at *
  generalize u / 1461 = c at *
  generalize u % 1461 = v at *
  generalize v / 365 = d at *
  generalize v % 365 = w at *
  have hc : c ≤ 24 := by omega
  split_ifs at hy with hlast
  · -- The last day of a leap year: the divisions count it as the first one of the next year.
    obtain ⟨b', c', hb', hc', hn, hyear, hleap⟩ : ∃ b' c', b' ≤ 3 ∧ c' ≤ 24 ∧
        n = a * 146097 + b' * 36524 + c' * 1461 + 3 * 365 + 365 ∧
        a * 400 + b * 100 + c * 4 + d = a * 400 + b' * 100 + c' * 4 + 3 + 1 ∧
        (c' = 24 → b' = 3) := by
      rcases hlast with hd | hb
      · exact ⟨b, c, by omega, hc, by omega, by omega, by omega⟩
      · exact ⟨3, 24, by omega, by omega, by omega, by omega, by omega⟩
    subst hy
    simp only
    rewrite [hyear, (isLeap_cycles hb' hc' (Nat.le_refl 3)).2 ⟨rfl, hleap⟩,
      daysBeforeYear_cycles hb' hc' (Nat.le_refl 3), Bool.toNat_true]
    omega
  · have hb : b ≤ 3 := by omega
    have hd : d ≤ 3 := by omega
    subst hy
    simp only
    rewrite [daysBeforeYear_cycles hb hc hd]
    omega

theorem monthUpTo_spec {leap : Bool} {day month : Nat} (hm : 1 ≤ month)
    (h : day < daysBeforeMonth leap (month + 1)) :
    1 ≤ monthUpTo leap day month ∧ monthUpTo leap day month ≤ month ∧
      daysBeforeMonth leap (monthUpTo leap day month) ≤ day ∧
      day < daysBeforeMonth leap (monthUpTo leap day month + 1) := by
  induction month with
  | zero => omega
  | succ month ih =>
    rw [monthUpTo]
    split_ifs with hday
    · exact ⟨by omega, by omega, hday, h⟩
    · have hpos : 1 ≤ month := by
        rcases Nat.eq_zero_or_pos month with rfl | hpos
        · exact absurd (Nat.zero_le day) hday
        · exact hpos
      obtain ⟨h1, h2, h3⟩ := ih hpos (by omega)
      exact ⟨h1, by omega, h3⟩

theorem monthOf_spec {leap : Bool} {day : Nat} (h : day < 365 + leap.toNat) :
    1 ≤ monthOf leap day ∧ monthOf leap day ≤ 12 ∧ daysBeforeMonth leap (monthOf leap day) ≤ day ∧
      day < daysBeforeMonth leap (monthOf leap day + 1) :=
  monthUpTo_spec (by omega) h

/-- A month has at most 31 days. -/
theorem daysBeforeMonth_succ (leap : Bool) (month : Nat) :
    daysBeforeMonth leap month ≤ daysBeforeMonth leap (month + 1) ∧
      daysBeforeMonth leap (month + 1) ≤ daysBeforeMonth leap month + 31 := by
  have hl : leap.toNat ≤ 1 := Bool.toNat_le leap
  rcases month with _ | _ | _ | _ | _ | _ | _ | _ | _ | _ | _ | _ | _ | month <;>
    simp only [daysBeforeMonth] <;> omega

/-- The days before a later month include those of an earlier one. -/
theorem daysBeforeMonth_mono {leap : Bool} {m n : Nat} (h : m ≤ n) :
    daysBeforeMonth leap m ≤ daysBeforeMonth leap n :=
  monotone_nat_of_le_succ (fun k => (daysBeforeMonth_succ leap k).1) h

theorem daysBeforeYear_succ {year : Nat} (h : 1 ≤ year) :
    daysBeforeYear (year + 1) = daysBeforeYear year + 365 + (isLeap year).toNat := by
  obtain ⟨a, b, c, d, hb, hc, hd, hyear⟩ := exists_cycles h
  have hleap : isLeap year = true ↔ d = 3 ∧ (c = 24 → b = 3) := by
    rewrite [hyear]
    exact isLeap_cycles hb hc hd
  have hthis : daysBeforeYear year = a * 146097 + b * 36524 + c * 1461 + d * 365 := by
    rewrite [hyear]
    exact daysBeforeYear_cycles hb hc hd
  have hnext {a' b' c' d' : Nat} (hb' : b' ≤ 3) (hc' : c' ≤ 24) (hd' : d' ≤ 3)
      (h : year + 1 = a' * 400 + b' * 100 + c' * 4 + d' + 1) :
      daysBeforeYear (year + 1) = a' * 146097 + b' * 36524 + c' * 1461 + d' * 365 := by
    rewrite [h]
    exact daysBeforeYear_cycles hb' hc' hd'
  -- The next year is the next one of its cycle, or the first one of the next cycle.
  by_cases hd3 : d = 3
  · by_cases hc24 : c = 24
    · by_cases hb3 : b = 3
      · have := @hnext (a + 1) 0 0 0 (by omega) (by omega) (by omega) (by omega)
        rewrite [hleap.2 ⟨hd3, fun _ => hb3⟩, Bool.toNat_true]
        omega
      · have := @hnext a (b + 1) 0 0 (by omega) (by omega) (by omega) (by omega)
        rewrite [Bool.eq_false_iff.2 fun h => hb3 ((hleap.1 h).2 hc24), Bool.toNat_false]
        omega
    · have := @hnext a b (c + 1) 0 (by omega) (by omega) (by omega) (by omega)
      rewrite [hleap.2 ⟨hd3, fun h => absurd h hc24⟩, Bool.toNat_true]
      omega
  · have := @hnext a b c (d + 1) (by omega) (by omega) (by omega) (by omega)
    rewrite [Bool.eq_false_iff.2 fun h => hd3 (hleap.1 h).1, Bool.toNat_false]
    omega

/-- The days before a later year include those of an earlier one. -/
theorem daysBeforeYear_mono {y z : Nat} (hy : 1 ≤ y) (h : y ≤ z) :
    daysBeforeYear y ≤ daysBeforeYear z := by
  induction z, h using Nat.le_induction with
  | base => exact Nat.le_refl _
  | succ z hz ih =>
    have := daysBeforeYear_succ (Nat.le_trans hy hz)
    omega

/-- The microseconds of a day. -/
abbrev dayMicros : Nat := 86400000000

/-- A `datetime.datetime` in UTC: the microseconds since the first instant of year 1, up to the end
of year 9999. -/
structure Datetime where
  micros : Nat
  inRange : micros < 3652059 * dayMicros
deriving DecidableEq

namespace Datetime

instance : LT Datetime := ⟨fun a b => a.micros < b.micros⟩
instance : LE Datetime := ⟨fun a b => a.micros ≤ b.micros⟩
instance (a b : Datetime) : Decidable (a < b) := inferInstanceAs (Decidable (a.micros < b.micros))
instance (a b : Datetime) : Decidable (a ≤ b) := inferInstanceAs (Decidable (a.micros ≤ b.micros))

theorem lt_def {a b : Datetime} : a < b ↔ a.micros < b.micros := Iff.rfl
theorem le_def {a b : Datetime} : a ≤ b ↔ a.micros ≤ b.micros := Iff.rfl

/-- `t + timedelta(microseconds=delta)` -/
def add (t : Datetime) (delta : Int) : Except Exn Datetime :=
  if h : 0 ≤ t.micros + delta ∧ t.micros + delta < 3652059 * dayMicros then
    .ok ⟨(t.micros + delta).toNat, by omega⟩
  else .error .overflowError

theorem exists_add (t : Datetime) (delta : Int) (h₀ : 0 ≤ t.micros + delta)
    (h : t.micros + delta < 3652059 * dayMicros) : ∃ u, t.add delta = .ok u :=
  ⟨_, dif_pos ⟨h₀, h⟩⟩

theorem add_ok {t u : Datetime} {delta : Int} (h : t.add delta = .ok u) :
    (u.micros : Int) = t.micros + delta := by
  unfold add at h
  split at h
  · cases h
    simp only
    omega
  · cases h

theorem add_error {t : Datetime} {delta : Int} {e : Exn} (h : t.add delta = .error e) :
    e = .overflowError := by
  unfold add at h
  split at h <;> cases h
  rfl

variable (t : Datetime)

/-- The day of the datetime and the microsecond of that day. -/
def dayNumber : Nat := t.micros / dayMicros
def timeOfDay : Nat := t.micros % dayMicros

def year : Nat := (yearDay t.dayNumber).year
def dayOfYear : Nat := (yearDay t.dayNumber).day
def month : Nat := monthOf (isLeap t.year) t.dayOfYear
def day : Nat := t.dayOfYear - daysBeforeMonth (isLeap t.year) t.month + 1
def hour : Nat := t.timeOfDay / 3600000000
def minute : Nat := t.timeOfDay / 60000000 % 60
def second : Nat := t.timeOfDay / 1000000 % 60
def microsecond : Nat := t.timeOfDay % 1000000

/-- The end of `isoformat`: the microseconds, unless there are none, and the offset. -/
def fractionText (microsecond : Nat) : Str :=
  if microsecond = 0 then lit "+00:00" else lit "." ++ (padded 6 microsecond ++ lit "+00:00")

/-- `isoformat` -/
def isoformat : Str :=
  padded 4 t.year ++ (lit "-" ++ (padded 2 t.month ++ (lit "-" ++ (padded 2 t.day ++ (lit "T" ++
    (padded 2 t.hour ++ (lit ":" ++ (padded 2 t.minute ++ (lit ":" ++ (padded 2 t.second ++
      fractionText t.microsecond))))))))))

theorem year_lt : t.year < 10 ^ 4 := by
  obtain ⟨-, -, hn⟩ := yearDay_spec t.dayNumber
  have hday : t.dayNumber < 3652059 := by
    have := t.inRange
    simp only [dayNumber, dayMicros] at this ⊢
    omega
  by_contra hge
  have hmono : 3652059 ≤ daysBeforeYear t.year := by
    simp only [daysBeforeYear]
    omega
  simp only [year] at hmono
  omega

/-- The calendar fields of a datetime, with what they stand for. -/
theorem calendar : 1 ≤ t.year ∧ t.dayOfYear < 365 + (isLeap t.year).toNat ∧
    t.dayNumber = daysBeforeYear t.year + t.dayOfYear :=
  yearDay_spec t.dayNumber

theorem month_spec : 1 ≤ t.month ∧ t.month ≤ 12 ∧
    daysBeforeMonth (isLeap t.year) t.month ≤ t.dayOfYear ∧
      t.dayOfYear < daysBeforeMonth (isLeap t.year) (t.month + 1) :=
  monthOf_spec t.calendar.2.1

theorem day_spec : 1 ≤ t.day ∧ t.day ≤ 31 ∧
    t.dayOfYear + 1 = daysBeforeMonth (isLeap t.year) t.month + t.day := by
  obtain ⟨h1, h2, h3, h4⟩ := t.month_spec
  have := (daysBeforeMonth_succ (isLeap t.year) t.month).2
  simp only [day]
  omega

theorem time_spec : t.hour < 24 ∧ t.minute < 60 ∧ t.second < 60 ∧ t.microsecond < 10 ^ 6 ∧
    t.timeOfDay = ((t.hour * 60 + t.minute) * 60 + t.second) * 1000000 + t.microsecond := by
  have hlt : t.timeOfDay < dayMicros := Nat.mod_lt _ (by decide)
  simp only [hour, minute, second, microsecond, dayMicros] at hlt ⊢
  omega

theorem micros_eq : t.micros = t.dayNumber * dayMicros + t.timeOfDay := by
  simp only [dayNumber, timeOfDay, dayMicros]
  omega

/-! ## The order of the texts -/

theorem fractionText_lt {m n : Nat} (hm : m < 10 ^ 6) (hn : n < 10 ^ 6) :
    fractionText m < fractionText n ↔ m < n := by
  have hless (s : Str) : lit "+00:00" < lit "." ++ s :=
    List.cons_lt_cons_iff.2 (.inl (by decide))
  have hmore (s : Str) : ¬ lit "." ++ s < lit "+00:00" := by
    intro h
    rcases List.cons_lt_cons_iff.1 h with h | ⟨h, -⟩
    · exact absurd h (by decide)
    · exact absurd h (by decide)
  unfold fractionText
  split_ifs with h1 h2 h2
  · subst h1 h2
    simp
  · simp only [hless, true_iff]
    omega
  · simp only [hmore, false_iff]
    omega
  · rw [append_lt_append, padded_lt hm hn]
    simp

/-- Earlier years end before later ones begin. -/
theorem dayNumber_lt_of_year {a b : Datetime} (h : a.year < b.year) : a.dayNumber < b.dayNumber := by
  obtain ⟨h1, h2, h3⟩ := a.calendar
  obtain ⟨-, -, h4⟩ := b.calendar
  have hmono := daysBeforeYear_mono (Nat.le_add_left 1 a.year) h
  rw [daysBeforeYear_succ h1] at hmono
  omega

/-- Within a year, earlier months end before later ones begin. -/
theorem dayNumber_lt_of_month {a b : Datetime} (hy : a.year = b.year) (h : a.month < b.month) :
    a.dayNumber < b.dayNumber := by
  obtain ⟨-, -, h3⟩ := a.calendar
  obtain ⟨-, -, h4⟩ := b.calendar
  obtain ⟨-, -, -, h5⟩ := a.month_spec
  obtain ⟨-, -, h6, -⟩ := b.month_spec
  have hmono : daysBeforeMonth (isLeap a.year) (a.month + 1) ≤
      daysBeforeMonth (isLeap a.year) b.month := daysBeforeMonth_mono h
  rw [hy] at h3 h5 hmono
  omega

/-- Days compare as their calendar fields. -/
theorem dayNumber_lt_iff {a b : Datetime} : a.dayNumber < b.dayNumber ↔
    a.year < b.year ∨ a.year = b.year ∧ (a.month < b.month ∨ a.month = b.month ∧ a.day < b.day) := by
  obtain ⟨-, -, ha⟩ := a.calendar
  obtain ⟨-, -, hb⟩ := b.calendar
  obtain ⟨-, -, ha'⟩ := a.day_spec
  obtain ⟨-, -, hb'⟩ := b.day_spec
  rcases Nat.lt_trichotomy a.year b.year with hy | hy | hy
  · simp [dayNumber_lt_of_year hy, hy]
  · rcases Nat.lt_trichotomy a.month b.month with hm | hm | hm
    · simp [dayNumber_lt_of_month hy hm, hm, hy]
    · rw [hy, hm] at ha'
      rw [hy] at ha
      simp only [hy, hm, Nat.lt_irrefl, false_or, true_and]
      omega
    · have := dayNumber_lt_of_month hy.symm hm
      simp only [hy, Nat.lt_irrefl, false_or, true_and]
      omega
  · have := dayNumber_lt_of_year hy
    omega

/-- Two datetimes of one day have the same calendar fields. -/
theorem dayNumber_eq_iff {a b : Datetime} : a.dayNumber = b.dayNumber ↔
    a.year = b.year ∧ a.month = b.month ∧ a.day = b.day := by
  have hab := @dayNumber_lt_iff a b
  have hba := @dayNumber_lt_iff b a
  omega

/-- Times of day compare as their fields. -/
theorem timeOfDay_lt_iff {a b : Datetime} : a.timeOfDay < b.timeOfDay ↔
    a.hour < b.hour ∨ a.hour = b.hour ∧ (a.minute < b.minute ∨ a.minute = b.minute ∧
      (a.second < b.second ∨ a.second = b.second ∧ a.microsecond < b.microsecond)) := by
  obtain ⟨-, ha1, ha2, ha3, ha⟩ := a.time_spec
  obtain ⟨-, hb1, hb2, hb3, hb⟩ := b.time_spec
  rw [ha, hb]
  generalize a.minute = am at *
  generalize b.minute = bm at *
  generalize a.second = as at *
  generalize b.second = bs at *
  omega

/-- Datetimes compare as their days, and then as their times of day. -/
theorem lt_iff {a b : Datetime} :
    a < b ↔ a.dayNumber < b.dayNumber ∨ a.dayNumber = b.dayNumber ∧ a.timeOfDay < b.timeOfDay := by
  have hta : a.timeOfDay < dayMicros := Nat.mod_lt _ (by decide)
  have htb : b.timeOfDay < dayMicros := Nat.mod_lt _ (by decide)
  rw [lt_def, a.micros_eq, b.micros_eq]
  simp only [dayMicros] at hta htb ⊢
  omega

/-- The texts of datetimes compare as the datetimes: this is what makes SQL comparisons of
`isoformat` texts comparisons of instants. -/
theorem isoformat_lt {a b : Datetime} : a.isoformat < b.isoformat ↔ a < b := by
  obtain ⟨-, ha2, -⟩ := a.month_spec
  obtain ⟨-, hb2, -⟩ := b.month_spec
  obtain ⟨-, ha3, -⟩ := a.day_spec
  obtain ⟨-, hb3, -⟩ := b.day_spec
  obtain ⟨ha4, ha5, ha6, ha7, -⟩ := a.time_spec
  obtain ⟨hb4, hb5, hb6, hb7, -⟩ := b.time_spec
  unfold isoformat
  rewrite [padded_lt a.year_lt b.year_lt, append_lt_append, padded_lt (by omega) (by omega),
    append_lt_append, padded_lt (by omega) (by omega), append_lt_append,
    padded_lt (by omega) (by omega), append_lt_append, padded_lt (by omega) (by omega),
    append_lt_append, padded_lt (by omega) (by omega), fractionText_lt ha7 hb7,
    ← timeOfDay_lt_iff, lt_iff, dayNumber_lt_iff, dayNumber_eq_iff]
  constructor
  · rintro (h | ⟨hy, h | ⟨hm, h | ⟨hd, h⟩⟩⟩)
    · exact .inl (.inl h)
    · exact .inl (.inr ⟨hy, .inl h⟩)
    · exact .inl (.inr ⟨hy, .inr ⟨hm, h⟩⟩)
    · exact .inr ⟨⟨hy, hm, hd⟩, h⟩
  · rintro ((h | ⟨hy, h | ⟨hm, h⟩⟩) | ⟨⟨hy, hm, hd⟩, h⟩)
    · exact .inl h
    · exact .inr ⟨hy, .inl h⟩
    · exact .inr ⟨hy, .inr ⟨hm, .inl h⟩⟩
    · exact .inr ⟨hy, .inr ⟨hm, .inr ⟨hd, h⟩⟩⟩

theorem isoformat_inj {a b : Datetime} (h : a.isoformat = b.isoformat) : a = b := by
  have hab : ¬ a < b := by
    rw [← isoformat_lt, h]
    exact List.lt_irrefl _
  have hba : ¬ b < a := by
    rw [← isoformat_lt, h]
    exact List.lt_irrefl _
  rw [lt_def] at hab hba
  obtain ⟨a, _⟩ := a
  obtain ⟨b, _⟩ := b
  simp only at hab hba
  congr 1
  omega

/-! ## Reading the texts -/

/-- What follows a text that has to come first. -/
def expect (first s : Str) : Option Str :=
  if first.isPrefixOf s then some (s.drop first.length) else none

@[simp] theorem expect_append (first s : Str) : expect first (first ++ s) = some s := by
  simp [expect]

/-- Read the end of `isoformat`. -/
def readFraction (s : Str) : Option Nat :=
  if s = lit "+00:00" then some 0
  else do
    let s ← expect (lit ".") s
    let (microsecond, s) ← readPadded 6 s
    if s = lit "+00:00" then some microsecond else none

/-- The datetime with these fields, if they are those of one. -/
def ofFields (year month day hour minute second microsecond : Nat) : Option Datetime :=
  let before := daysBeforeMonth (isLeap year) month
  let micros := (daysBeforeYear year + before + (day - 1)) * dayMicros +
    (((hour * 60 + minute) * 60 + second) * 1000000 + microsecond)
  if h : (1 ≤ year ∧ 1 ≤ month ∧ month ≤ 12 ∧ 1 ≤ day ∧
      before + day ≤ daysBeforeMonth (isLeap year) (month + 1) ∧ hour < 24 ∧ minute < 60 ∧
      second < 60) ∧ micros < 3652059 * dayMicros then
    some ⟨micros, h.2⟩
  else none

/-- `datetime.fromisoformat` on the texts of `isoformat`; other texts it reads as well are not
written by the runtime. -/
def fromisoformat (s : Str) : Option Datetime := do
  let (year, s) ← readPadded 4 s
  let (month, s) ← readPadded 2 (← expect (lit "-") s)
  let (day, s) ← readPadded 2 (← expect (lit "-") s)
  let (hour, s) ← readPadded 2 (← expect (lit "T") s)
  let (minute, s) ← readPadded 2 (← expect (lit ":") s)
  let (second, s) ← readPadded 2 (← expect (lit ":") s)
  let microsecond ← readFraction s
  ofFields year month day hour minute second microsecond

theorem readFraction_fractionText {n : Nat} (h : n < 10 ^ 6) :
    readFraction (fractionText n) = some n := by
  unfold fractionText
  split_ifs with hn
  · rw [hn]
    rfl
  · have hne : ¬ lit "." ++ (padded 6 n ++ lit "+00:00") = lit "+00:00" := by
      intro heq
      exact absurd (List.cons.inj heq).1 (by decide)
    rw [readFraction, if_neg hne]
    simp [readPadded_padded h]

theorem ofFields_fields :
    ofFields t.year t.month t.day t.hour t.minute t.second t.microsecond = some t := by
  obtain ⟨hy, -, hdays⟩ := t.calendar
  obtain ⟨hm1, hm2, -, hm4⟩ := t.month_spec
  obtain ⟨hd1, -, hd3⟩ := t.day_spec
  obtain ⟨h1, h2, h3, -, htime⟩ := t.time_spec
  have hmicros : (daysBeforeYear t.year + daysBeforeMonth (isLeap t.year) t.month + (t.day - 1)) *
      dayMicros + (((t.hour * 60 + t.minute) * 60 + t.second) * 1000000 + t.microsecond) =
      t.micros := by
    have hday : daysBeforeYear t.year + daysBeforeMonth (isLeap t.year) t.month + (t.day - 1) =
        t.dayNumber := by omega
    rw [hday, ← htime, ← t.micros_eq]
  unfold ofFields
  simp only [hmicros]
  rw [dif_pos ⟨⟨hy, hm1, hm2, hd1, by omega, h1, h2, h3⟩, t.inRange⟩]

/-- What `isoformat` writes is read back. -/
theorem fromisoformat_isoformat : fromisoformat t.isoformat = some t := by
  obtain ⟨-, hm, -⟩ := t.month_spec
  obtain ⟨-, hd, -⟩ := t.day_spec
  obtain ⟨h1, h2, h3, h4, -⟩ := t.time_spec
  have two {n : Nat} (hn : n < 100) (s : Str) : readPadded 2 (padded 2 n ++ s) = some (n, s) :=
    readPadded_padded hn s
  simp only [fromisoformat, isoformat, readPadded_padded t.year_lt, two (by omega : t.month < 100),
    two (by omega : t.day < 100), two (by omega : t.hour < 100), two (by omega : t.minute < 100),
    two (by omega : t.second < 100), expect_append, readFraction_fractionText h4,
    Option.bind_eq_bind, Option.bind_some]
  exact t.ofFields_fields

example : (fromisoformat (lit "2028-02-29T23:59:59+00:00")).map (·.micros) =
    some 63971078399000000 := by decide

end Datetime

end Py

end AgencyRuntime
