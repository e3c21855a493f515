import AgencyRuntime.Tables.Unique
import Mathlib.Data.List.Lex
import Mathlib.Logic.Function.Basic

/-!
# Reservations under advisory locks

Sessions that reserve a row in a table with unique keys, side by side. A session takes its advisory
locks in order, looks for a row that answers its request, and either locks that row and reads it or
inserts one of its own, which the others see when it is committed; the locks are held to the end.
Any session may be rolled back, and other transactions may update rows that no session holds. Where a
request shares a lock with whoever may insert a row that answers it (`Protocol.Guarded`), what the
query of a session came to stays true while it holds its locks (`Reachable.invariant`).
-/

namespace Advisory

open Tables

/-- The runs of a step relation from a state, with what they add to the log. -/
inductive Runs {W E : Type} (Step : W → List E → W → Prop) (start : W) : List E → W → Prop
  | refl : Runs Step start [] start
  | step {log events : List E} {w w' : W} :
      Runs Step start log w → Step w events w' → Runs Step start (log ++ events) w'

/-- What a reservation comes to: a row was there, or its own was inserted, or an insertion that a
unique key refused. -/
inductive Outcome (α : Type) where
  | existing (row : α)
  | inserted
  | violated

/-- A protocol of reservations: the locks of a request in the order in which they are taken, the
rows that answer it, first choice first, the row that is stored for it, if the columns take it, and
what is made of the outcome. -/
structure Protocol {α : Type} (S : Schema α) (K β : Type) where
  Admitted : α → Prop
  lockKeys : α → List K
  selectors : α → List (S.Key → Bool)
  store : α → Option α
  answer : α → Outcome α → β

variable {α K β : Type} {S : Schema α} {P : Protocol S K β}

/-- The keys of a table, in the order of its rows. -/
abbrev keys (t : Table S) : List S.Key := t.rows.map S.key

/-- The key of the row that answers a request. -/
def Protocol.prior (P : Protocol S K β) (x : α) (l : List S.Key) : Option S.Key :=
  (P.selectors x).findSome? fun sel => l.find? sel

/-- A session: it takes its locks, or has found a row or none, or holds a row, or has inserted its
own. -/
inductive Session (S : Schema α) (K : Type) where
  | locking (x : α) (held waiting : List K)
  | found (x : α) (key : S.Key)
  | absent (x : α)
  | reading (x row : α)
  | inserted (x row : α)

namespace Session

/-- The request of a session. -/
def request : Session S K → α
  | locking x _ _ | found x _ | absent x | reading x _ | inserted x _ => x

/-- The locks that a session holds. -/
def held (P : Protocol S K β) : Session S K → List K
  | locking _ held _ => held
  | found x _ | absent x | reading x _ | inserted x _ => P.lockKeys x

/-- The row that a session holds. -/
def row : Session S K → Option S.Key
  | reading _ row => some (S.key row)
  | locking .. | found .. | absent .. | inserted .. => none

end Session

/-- The committed table, and the sessions in progress. -/
structure World (S : Schema α) (K : Type) where
  table : Table S
  sessions : Nat → Option (Session S K)

namespace World

/-- No session is in progress. -/
def start (t : Table S) : World S K := ⟨t, fun _ => none⟩

/-- A session goes on. -/
def set (w : World S K) (c : Nat) (s : Session S K) : World S K :=
  { w with sessions := Function.update w.sessions c (some s) }

/-- A session ends, and leaves this table. -/
def finish (w : World S K) (c : Nat) (t : Table S) : World S K :=
  ⟨t, Function.update w.sessions c none⟩

/-- No other session has the lock. -/
def Free (P : Protocol S K β) (w : World S K) (c : Nat) (k : K) : Prop :=
  ∀ d s, d ≠ c → w.sessions d = some s → k ∉ s.held P

/-- No other session has the row. -/
def RowFree (w : World S K) (c : Nat) (key : S.Key) : Prop :=
  ∀ d s, d ≠ c → w.sessions d = some s → s.row ≠ some key

/-- No other session has inserted a row that clashes. -/
def Clear (w : World S K) (c : Nat) (row : α) : Prop :=
  ∀ d y r, d ≠ c → w.sessions d = some (.inserted y r) → S.clash (S.key r) (S.key row) = false

end World

/-- What is seen from outside. -/
inductive Event (S : Schema α) (β : Type) where
  | invoked (c : Nat) (x : α)
  | answered (c : Nat) (x : α) (b : β)
  | raised (c : Nat)
  | updated (sel : α → Bool) (u : Update S)

/-- The statements of the sessions. -/
inductive Advance (P : Protocol S K β) : World S K → List (Event S β) → World S K → Prop
  /-- The next lock is taken. -/
  | acquire {w : World S K} {c : Nat} {x : α} {held waiting : List K} {k : K} :
      w.sessions c = some (.locking x held (k :: waiting)) → w.Free P c k →
      Advance P w [] (w.set c (.locking x (k :: held) waiting))
  /-- The query finds a row. -/
  | find {w : World S K} {c : Nat} {x : α} {held : List K} {key : S.Key} :
      w.sessions c = some (.locking x held []) → P.prior x (keys w.table) = some key →
      Advance P w [] (w.set c (.found x key))
  /-- It finds none. -/
  | miss {w : World S K} {c : Nat} {x : α} {held : List K} :
      w.sessions c = some (.locking x held []) → P.prior x (keys w.table) = none →
      Advance P w [] (w.set c (.absent x))
  /-- The row that was found is locked, and read as it is now. -/
  | lock {w : World S K} {c : Nat} {x row : α} {key : S.Key} :
      w.sessions c = some (.found x key) → row ∈ w.table.rows → S.key row = key →
      w.RowFree c key → Advance P w [] (w.set c (.reading x row))
  /-- The insertion, which waits for rows that clash and are not committed. -/
  | insert {w : World S K} {c : Nat} {x row : α} :
      w.sessions c = some (.absent x) → P.store x = some row → w.Clear c row → w.table.Fresh row →
      Advance P w [] (w.set c (.inserted x row))
  /-- A unique key refuses it. -/
  | violate {w : World S K} {c : Nat} {x row : α} :
      w.sessions c = some (.absent x) → P.store x = some row → ¬ w.table.Fresh row →
      Advance P w [.answered c x (P.answer x .violated)] (w.finish c w.table)
  /-- The columns refuse it. -/
  | refuse {w : World S K} {c : Nat} {x : α} :
      w.sessions c = some (.absent x) → P.store x = none →
      Advance P w [.raised c] (w.finish c w.table)
  /-- The session that read a row returns it. -/
  | commitRead {w : World S K} {c : Nat} {x row : α} :
      w.sessions c = some (.reading x row) →
      Advance P w [.answered c x (P.answer x (.existing row))] (w.finish c w.table)
  /-- The session that inserted a row commits it and returns. -/
  | commitInsert {w : World S K} {c : Nat} {x row : α} {t : Table S} :
      w.sessions c = some (.inserted x row) → w.table.insert row = some t →
      Advance P w [.answered c x (P.answer x .inserted)] (w.finish c t)

/-- The steps of the database. -/
inductive Step (P : Protocol S K β) : World S K → List (Event S β) → World S K → Prop
  | invoke {w : World S K} {c : Nat} {x : α} :
      w.sessions c = none → P.Admitted x →
      Step P w [.invoked c x] (w.set c (.locking x [] (P.lockKeys x)))
  | advance {w w' : World S K} {events : List (Event S β)} :
      Advance P w events w' → Step P w events w'
  /-- A session fails, at whatever point. -/
  | rollback {w : World S K} {c : Nat} {s : Session S K} :
      w.sessions c = some s → Step P w [.raised c] (w.finish c w.table)
  /-- The commit is done, but the session does not hear of it. -/
  | lost {w : World S K} {c : Nat} {x row : α} {t : Table S} :
      w.sessions c = some (.inserted x row) → w.table.insert row = some t →
      Step P w [.raised c] (w.finish c t)
  /-- Another transaction commits an update of rows that no session holds. -/
  | update {w : World S K} {sel : α → Bool} {u : Update S} :
      (∀ c s, w.sessions c = some s → ∀ row ∈ w.table.rows, sel row = true →
        s.row ≠ some (S.key row)) →
      Step P w [.updated sel u] { w with table := w.table.modify sel u }

/-- The runs of the database from this table. -/
abbrev Reachable (P : Protocol S K β) (t : Table S) :
    List (Event S β) → World S K → Prop :=
  Runs (Step P) (.start t)

/-! ## Rows that answer a request -/

/-- A request shares a lock with whoever may insert a row that answers it. -/
def Protocol.Guarded (P : Protocol S K β) : Prop :=
  ∀ x y row, P.Admitted x → P.Admitted y → P.store y = some row →
    ∀ sel ∈ P.selectors x, sel (S.key row) = true → ∃ k ∈ P.lockKeys x, k ∈ P.lockKeys y

/-- The rows that answer a request clash with the row that is stored for it. -/
def Protocol.Exact (P : Protocol S K β) : Prop :=
  ∀ x row, P.store x = some row → ∀ sel ∈ P.selectors x, ∀ key, sel key = true →
    S.clash key (S.key row) = true

theorem keys_modify (t : Table S) (sel : α → Bool) (u : Update S) :
    keys (t.modify sel u) = keys t := by
  rw [keys, Table.modify, List.map_map]
  refine List.map_congr_left fun row _ => ?_
  simp only [Function.comp_apply]
  split
  · exact u.key_apply row
  · rfl

theorem keys_insert {t t' : Table S} {row : α} (h : t.insert row = some t') :
    keys t' = keys t ++ [S.key row] := by
  rw [keys, (Table.insert_eq_some.1 h).2, List.map_append, List.map_singleton]

theorem fresh_iff_keys {t : Table S} {row : α} :
    t.Fresh row ↔ ∀ key ∈ keys t, S.clash key (S.key row) = false := by
  simp only [Table.Fresh, keys, List.forall_mem_map]

theorem prior_none {x : α} {l : List S.Key} :
    P.prior x l = none ↔ ∀ sel ∈ P.selectors x, ∀ key ∈ l, sel key = false := by
  simp only [Protocol.prior, List.findSome?_eq_none_iff, List.find?_eq_none, Bool.not_eq_true]

theorem prior_some {x : α} {l : List S.Key} {key : S.Key} (h : P.prior x l = some key) :
    key ∈ l ∧ ∃ sel ∈ P.selectors x, sel key = true := by
  obtain ⟨sel, hsel, hfind⟩ := List.exists_of_findSome?_eq_some h
  exact ⟨List.mem_of_find?_eq_some hfind, sel, hsel, List.find?_some hfind⟩

/-- The row that answers a request. -/
def Protocol.priorRow (P : Protocol S K β) (x : α) (t : Table S) : Option α :=
  (P.selectors x).findSome? fun sel => t.rows.find? fun row => sel (S.key row)

theorem prior_keys (x : α) (t : Table S) :
    P.prior x (keys t) = (P.priorRow x t).map S.key := by
  unfold Protocol.prior Protocol.priorRow
  induction P.selectors x with
  | nil => rfl
  | cons sel rest ih =>
    have hhead : (keys t).find? sel = (t.rows.find? fun row => sel (S.key row)).map S.key :=
      List.find?_map
    rw [List.findSome?_cons, List.findSome?_cons, hhead, ih]
    cases t.rows.find? fun row => sel (S.key row) with
    | none => rfl
    | some row => rfl

theorem priorRow_none {x : α} {t : Table S} (h : P.prior x (keys t) = none) :
    P.priorRow x t = none := by
  rwa [prior_keys, Option.map_eq_none_iff] at h

/-- A row whose key answers a request answers it. -/
theorem priorRow_some {x row : α} {t : Table S} (h : P.prior x (keys t) = some (S.key row))
    (hrow : row ∈ t.rows) : P.priorRow x t = some row := by
  rw [prior_keys, Option.map_eq_some_iff] at h
  obtain ⟨found, hfound, hkey⟩ := h
  obtain ⟨sel, -, hfind⟩ := List.exists_of_findSome?_eq_some hfound
  obtain rfl : found = row :=
    Table.eq_of_clash (List.mem_of_find?_eq_some hfind) hrow (by rw [hkey]; exact S.refl _)
  exact hfound

/-- A row that does not answer a request does not change what answers it. -/
theorem prior_append {x : α} {l : List S.Key} {key : S.Key}
    (h : ∀ sel ∈ P.selectors x, sel key = false) : P.prior x (l ++ [key]) = P.prior x l := by
  unfold Protocol.prior
  generalize P.selectors x = selectors at h
  induction selectors with
  | nil => rfl
  | cons sel rest ih =>
    have hhead : (l ++ [key]).find? sel = l.find? sel := by
      rw [List.find?_append, List.find?_singleton, h sel List.mem_cons_self]
      simp
    rw [List.findSome?_cons, List.findSome?_cons, hhead,
      ih fun sel hsel => h sel (List.mem_cons_of_mem _ hsel)]

/-- Where the row of a request can be inserted, nothing answers the request. -/
theorem Protocol.Exact.prior_none (hP : P.Exact) {x row : α} (hstore : P.store x = some row)
    {t : Table S} (hfresh : t.Fresh row) : P.prior x (keys t) = none := by
  refine Advisory.prior_none.2 fun sel hsel key hkey => ?_
  rw [Bool.eq_false_iff]
  intro h
  have hclash := hP x row hstore sel hsel key h
  rw [fresh_iff_keys.1 hfresh key hkey] at hclash
  cases hclash

/-! ## What is kept -/

/-- What a session knows of the keys of the table; that its query would still come to the same, only
where requests are guarded. -/
def Session.Knows (P : Protocol S K β) (l : List S.Key) : Session S K → Prop
  | .found x key => key ∈ l ∧ (P.Guarded → P.prior x l = some key)
  | .absent x => P.Guarded → P.prior x l = none
  | .inserted x row => P.store x = some row ∧ ∀ key ∈ l, S.clash key (S.key row) = false
  | .locking x held waiting => held.reverse ++ waiting = P.lockKeys x
  | .reading .. => True

structure Invariant (P : Protocol S K β) (w : World S K) : Prop where
  exclusive : ∀ c d s s', c ≠ d → w.sessions c = some s → w.sessions d = some s' →
    ∀ k ∈ s.held P, k ∉ s'.held P
  admitted : ∀ c s, w.sessions c = some s → P.Admitted s.request
  knows : ∀ c s, w.sessions c = some s → s.Knows P (keys w.table)
  apart : ∀ c d x y row row', c ≠ d → w.sessions c = some (.inserted x row) →
    w.sessions d = some (.inserted y row') → S.clash (S.key row) (S.key row') = false
  finite : ∃ n, ∀ c, n ≤ c → w.sessions c = none

section
variable {w w' : World S K} {c d : Nat} {s s' : Session S K} {x row : α} {t : Table S}

@[simp] theorem World.set_table : (w.set c s).table = w.table := rfl

@[simp] theorem World.finish_table : (w.finish c t).table = t := rfl

theorem World.set_eq_some (h : (w.set c s).sessions d = some s') :
    d = c ∧ s' = s ∨ d ≠ c ∧ w.sessions d = some s' := by
  change Function.update w.sessions c (some s) d = some s' at h
  rw [Function.update_apply] at h
  split at h
  · next heq => exact .inl ⟨heq, (Option.some.inj h).symm⟩
  · next hne => exact .inr ⟨hne, h⟩

theorem World.finish_eq_some (h : (w.finish c t).sessions d = some s') :
    d ≠ c ∧ w.sessions d = some s' := by
  change Function.update w.sessions c none d = some s' at h
  rw [Function.update_apply] at h
  split at h
  · cases h
  · next hne => exact ⟨hne, h⟩

theorem Invariant.start (t : Table S) : Invariant P (.start t) :=
  ⟨nofun, nofun, nofun, nofun, 0, fun _ _ => rfl⟩

/-- A session that is past its locks holds them all. -/
theorem held_of_knows {l : List S.Key} (hs : s.Knows P l) (k : K)
    (hwaiting : ∀ x held waiting, s = .locking x held waiting → waiting = []) :
    k ∈ s.held P ↔ k ∈ P.lockKeys s.request := by
  cases s with
  | locking x held waiting =>
    obtain rfl := hwaiting x held waiting rfl
    have hall : held.reverse ++ [] = P.lockKeys x := hs
    simp [Session.held, Session.request, ← hall]
  | found | absent | reading | inserted => rfl

/-- A session goes on: it keeps to itself what it holds, and knows what it may. -/
theorem Invariant.set (h : Invariant P w) (hs : ∀ k ∈ s.held P, w.Free P c k)
    (hadmitted : P.Admitted s.request) (hknows : s.Knows P (keys w.table))
    (hclear : ∀ y row, s = .inserted y row → w.Clear c row) : Invariant P (w.set c s) where
  exclusive d e s₁ s₂ hne hd he k hk := by
    rcases World.set_eq_some hd with ⟨hdc, hs₁⟩ | ⟨hdc, hd'⟩
    · rcases World.set_eq_some he with ⟨hec, -⟩ | ⟨hec, he'⟩
      · exact absurd (hdc.trans hec.symm) hne
      · exact hs k (hs₁ ▸ hk) e s₂ hec he'
    · rcases World.set_eq_some he with ⟨-, hs₂⟩ | ⟨-, he'⟩
      · exact fun hk' => hs k (hs₂ ▸ hk') d s₁ hdc hd' hk
      · exact h.exclusive d e s₁ s₂ hne hd' he' k hk
  admitted d s' hd := by
    rcases World.set_eq_some hd with ⟨-, rfl⟩ | ⟨-, hd'⟩
    · exact hadmitted
    · exact h.admitted d s' hd'
  knows d s' hd := by
    rcases World.set_eq_some hd with ⟨-, rfl⟩ | ⟨-, hd'⟩
    · exact hknows
    · exact h.knows d s' hd'
  apart d e x y row row' hne hd he := by
    rcases World.set_eq_some hd with ⟨hdc, hx⟩ | ⟨hdc, hd'⟩
    · rcases World.set_eq_some he with ⟨hec, -⟩ | ⟨hec, he'⟩
      · exact absurd (hdc.trans hec.symm) hne
      · rw [S.symm]
        exact hclear x row hx.symm e y row' hec he'
    · rcases World.set_eq_some he with ⟨-, hy⟩ | ⟨-, he'⟩
      · exact hclear y row' hy.symm d x row hdc hd'
      · exact h.apart d e x y row row' hne hd' he'
  finite := by
    obtain ⟨n, hn⟩ := h.finite
    refine ⟨max n (c + 1), fun d hd => ?_⟩
    have hne : d ≠ c := by omega
    exact (Function.update_of_ne hne _ _).trans (hn d (by omega))

/-- A session that goes on with the locks that it has. -/
theorem Invariant.keep (h : Invariant P w) (hc : w.sessions c = some s)
    (hheld : ∀ k ∈ s'.held P, k ∈ s.held P) (hrequest : s'.request = s.request)
    (hknows : s'.Knows P (keys w.table)) (hclear : ∀ y row, s' = .inserted y row → w.Clear c row) :
    Invariant P (w.set c s') := by
  refine h.set (fun k hk _ _ hne hd => h.exclusive _ _ _ _ hne.symm hc hd k (hheld k hk)) ?_ hknows
    hclear
  rw [hrequest]
  exact h.admitted c s hc

/-- A session ends; what the others know still holds. -/
theorem Invariant.finish (h : Invariant P w)
    (hknows : ∀ d s, d ≠ c → w.sessions d = some s → s.Knows P (keys t)) :
    Invariant P (w.finish c t) where
  exclusive d e s₁ s₂ hne hd he :=
    h.exclusive d e s₁ s₂ hne (World.finish_eq_some hd).2 (World.finish_eq_some he).2
  admitted d s hd := h.admitted d s (World.finish_eq_some hd).2
  knows d s hd := hknows d s (World.finish_eq_some hd).1 (World.finish_eq_some hd).2
  apart d e x y row row' hne hd he :=
    h.apart d e x y row row' hne (World.finish_eq_some hd).2 (World.finish_eq_some he).2
  finite := by
    obtain ⟨n, hn⟩ := h.finite
    refine ⟨n, fun d hd => ?_⟩
    change Function.update w.sessions c none d = none
    rw [Function.update_apply, hn d hd, ite_self]

/-- What the others know survives the commit of an insertion: a row that answers them would need a
lock that they hold. -/
theorem Invariant.knows_commit (h : Invariant P w) (hc : w.sessions c = some (.inserted x row))
    (hins : w.table.insert row = some t) (hne : d ≠ c) (hd : w.sessions d = some s) :
    s.Knows P (keys t) := by
  have hother : P.Guarded → P.lockKeys s.request ⊆ s.held P →
      ∀ sel ∈ P.selectors s.request, sel (S.key row) = false := by
    intro hP hs sel hsel
    rw [Bool.eq_false_iff]
    intro hrow
    obtain ⟨k, hk, hk'⟩ := hP s.request x row (h.admitted d s hd) (h.admitted c _ hc)
      (h.knows c _ hc).1 sel hsel hrow
    exact h.exclusive d c s _ hne hd hc k (hs hk) hk'
  have hknows := h.knows d s hd
  rw [keys_insert hins]
  cases s with
  | locking | reading => exact hknows
  | found y key =>
    exact ⟨List.mem_append_left _ hknows.1,
      fun hP => (prior_append (hother hP fun _ => id)).trans (hknows.2 hP)⟩
  | absent y => exact fun hP => (prior_append (hother hP fun _ => id)).trans (hknows hP)
  | inserted y r =>
    refine ⟨hknows.1, fun key hkey => ?_⟩
    rcases List.mem_append.1 hkey with hkey | hkey
    · exact hknows.2 key hkey
    · rw [List.mem_singleton.1 hkey]
      exact h.apart c d x y row r hne.symm hc hd

theorem Invariant.advance (h : Invariant P w) {events : List (Event S β)}
    (hstep : Advance P w events w') : Invariant P w' := by
  cases hstep with
  | @acquire c x held waiting k hc hfree =>
    have hall : held.reverse ++ k :: waiting = P.lockKeys x := h.knows c _ hc
    have hadmitted : P.Admitted x := h.admitted c _ hc
    refine h.set (fun l hl => ?_) hadmitted ?_ nofun
    · rcases List.mem_cons.1 hl with rfl | hl
      · exact hfree
      · exact fun d s hne hd => h.exclusive c d _ s hne.symm hc hd l hl
    · simpa [Session.Knows] using hall
  | @find c x held key hc hfind =>
    have hheld := fun k => held_of_knows (h.knows c _ hc) k
    refine h.keep hc (fun k hk => (hheld k ?_).2 hk) rfl ⟨(prior_some hfind).1, fun _ => hfind⟩ nofun
    rintro _ _ _ ⟨⟩
    rfl
  | @miss c x held hc hnone =>
    have hheld := fun k => held_of_knows (h.knows c _ hc) k
    refine h.keep hc (fun k hk => (hheld k ?_).2 hk) rfl (fun _ => hnone) nofun
    rintro _ _ _ ⟨⟩
    rfl
  | lock hc hrow hkey hfree => exact h.keep hc (fun _ => id) rfl trivial nofun
  | insert hc hstore hclear hfresh =>
    refine h.keep hc (fun _ => id) rfl ⟨hstore, fresh_iff_keys.1 hfresh⟩ ?_
    rintro _ _ ⟨⟩
    exact hclear
  | violate | refuse | commitRead => exact h.finish fun d s _ hd => h.knows d s hd
  | commitInsert hc hins => exact h.finish fun d s hne hd => h.knows_commit hc hins hne hd

theorem Invariant.step (h : Invariant P w) {events : List (Event S β)}
    (hstep : Step P w events w') : Invariant P w' := by
  cases hstep with
  | invoke hc hx => exact h.set nofun hx rfl nofun
  | advance hstep => exact h.advance hstep
  | rollback => exact h.finish fun d s _ hd => h.knows d s hd
  | lost hc hins => exact h.finish fun d s hne hd => h.knows_commit hc hins hne hd
  | update =>
    refine ⟨h.exclusive, h.admitted, fun c s hc => ?_, h.apart, h.finite⟩
    rw [keys_modify]
    exact h.knows c s hc

theorem Reachable.invariant {log : List (Event S β)} (h : Reachable P t log w) :
    Invariant P w := by
  induction h with
  | refl => exact .start t
  | step _ hstep ih => exact ih.step hstep

end

/-! ## Worlds of two sessions -/

namespace World

/-- The world of these two sessions. -/
def pair (t : Table S) (a b : Option (Session S K)) : World S K :=
  ⟨t, fun
    | 0 => a
    | 1 => b
    | _ => none⟩

section
variable {t t' : Table S} {a b : Option (Session S K)} {s : Session S K}

theorem eq_pair {f : Nat → Option (Session S K)} (h0 : f 0 = a) (h1 : f 1 = b)
    (h2 : ∀ n, f (n + 2) = none) : (⟨t, f⟩ : World S K) = pair t a b := by
  rw [pair, World.mk.injEq]
  refine ⟨rfl, funext fun c => ?_⟩
  match c with
  | 0 => exact h0
  | 1 => exact h1
  | n + 2 => exact h2 n

theorem start_eq_pair : (start t : World S K) = pair t none none :=
  eq_pair rfl rfl fun _ => rfl

theorem pair_set_first : (pair t a b).set 0 s = pair t (some s) b :=
  eq_pair rfl rfl fun _ => rfl

theorem pair_set_second : (pair t a b).set 1 s = pair t a (some s) :=
  eq_pair rfl rfl fun _ => rfl

theorem pair_finish_first : (pair t a b).finish 0 t' = pair t' none b :=
  eq_pair rfl rfl fun _ => rfl

theorem pair_finish_second : (pair t a b).finish 1 t' = pair t' a none :=
  eq_pair rfl rfl fun _ => rfl

/-- The session beside the first. -/
theorem pair_beside_first {d : Nat} (hne : d ≠ 0) (hd : (pair t a b).sessions d = some s) :
    b = some s := by
  match d with
  | 0 => exact absurd rfl hne
  | 1 => exact hd
  | n + 2 => cases hd

/-- The session beside the second. -/
theorem pair_beside_second {d : Nat} (hne : d ≠ 1) (hd : (pair t a b).sessions d = some s) :
    a = some s := by
  match d with
  | 0 => exact hd
  | 1 => exact absurd rfl hne
  | n + 2 => cases hd

theorem pair_free_first {k : K} (hb : k ∉ s.held P) : (pair t a (some s)).Free P 0 k := by
  intro d s' hne hd
  cases pair_beside_first hne hd
  exact hb

theorem pair_free_beside {k : K} (ha : k ∉ s.held P) : (pair t (some s) b).Free P 1 k := by
  intro d s' hne hd
  cases pair_beside_second hne hd
  exact ha

theorem pair_free_second {k : K} : (pair t none b).Free P 1 k := by
  intro d s' hne hd
  cases pair_beside_second hne hd

theorem pair_clear_first {row : α} (hb : ∀ y r, s ≠ .inserted y r) :
    (pair t a (some s)).Clear 0 row := by
  intro d y r hne hd
  cases pair_beside_first hne hd
  exact absurd rfl (hb y r)

theorem pair_rowFree_second {key : S.Key} : (pair t none b).RowFree 1 key := by
  intro d s' hne hd
  cases pair_beside_second hne hd

end

end World

end Advisory
