import AgencyRuntime.Social.OAuthState

/-!
# OAuth states in PostgreSQL

`create_state` and `consume_state` of the PostgreSQL store, whose calls run in transactions of their
own, side by side. A statement sees the rows that are committed when it starts; one that deletes or
updates a row waits for the transaction that holds the row and then looks at what became of it.
What the transactions hold is kept apart (`Invariant.exclusive`), and a `create_state` in progress
still has every state it is to replace (`Replacing`).
-/

namespace AgencyRuntime

namespace Social

open Py Tables

namespace Postgres

/-- A row of `social_oauth_states`: `xmin` is the transaction that inserted it. -/
structure StateRow where
  xmin : Nat
  state : SocialOAuthStateRecord
deriving DecidableEq

/-- `social_oauth_states` in PostgreSQL, as it is committed. -/
abbrev StateTable := Table (stateSchema StateRow.state)

/-- `UPDATE public.social_oauth_states SET consumed_at = %s` -/
def consumeRow (now : Datetime) : Update (stateSchema StateRow.state) where
  apply r := { r with state := r.state.consume now }
  key_apply _ := rfl

/-- The condition of the `UPDATE` of `consume_state`. -/
def available (lookup : StateLookup) (consumedAt : Datetime) (r : StateRow) : Bool :=
  lookup.finds r.state && decide (consumedAt < r.state.expiresAt)

/-- A transaction in progress. -/
inductive Session
  /-- `DELETE`: the rows that it has yet to lock, and those that it has deleted. -/
  | replacing (record : SocialOAuthStateRecord) (found deleted : List StateRow)
  /-- `INSERT` is done. -/
  | inserted (record : SocialOAuthStateRecord) (deleted : List StateRow)
  /-- `UPDATE`: the row that it has yet to lock. -/
  | looking (lookup : StateLookup) (now : Datetime) (row : StateRow)
  /-- `UPDATE` is done. -/
  | taken (lookup : StateLookup) (now : Datetime) (row : StateRow)

/-- The rows that a transaction has locked. -/
def Session.locks : Session → List StateRow
  | .replacing _ _ deleted | .inserted _ deleted => deleted
  | .looking .. => []
  | .taken _ _ row => [row]

/-- The rows that a `create_state` has deleted or is about to. -/
def Session.replaces : Session → List StateRow
  | .replacing _ found deleted => found ++ deleted
  | .inserted _ deleted => deleted
  | .looking .. | .taken .. => []

structure Database where
  table : StateTable
  sessions : Nat → Option Session
  /-- The calls so far, which name transactions. -/
  started : Nat

namespace Database

def empty : Database := ⟨Table.empty, fun _ => none, 0⟩

/-- A transaction goes on. -/
def set (s : Database) (call : Nat) (session : Session) : Database :=
  { s with sessions := Function.update s.sessions call (some session) }

/-- A call starts a transaction. -/
def start (s : Database) (session : Session) : Database :=
  { s.set s.started session with started := s.started + 1 }

/-- A transaction ends, and leaves this table. -/
def finish (s : Database) (call : Nat) (table : StateTable) : Database :=
  { s with table := table, sessions := Function.update s.sessions call none }

/-- No other transaction holds the row. -/
def Unlocked (s : Database) (call : Nat) (row : StateRow) : Prop :=
  ∀ other session, other ≠ call → s.sessions other = some session → row ∉ session.locks

end Database

/-- One statement of a transaction, or a step of one, and what it adds to the log. -/
inductive Step : Database → List (StateEvent Nat Datetime) → Database → Prop
  /-- `create_state`: the `DELETE` finds the pending rows. -/
  | replace {s : Database} {record : SocialOAuthStateRecord} :
      validateState record = .ok () →
      Step s [.replacing s.started record]
        (s.start (.replacing record (s.table.rows.filter fun r => record.isPending r.state) []))
  /-- It locks and deletes one of them. -/
  | lock {s : Database} {call : Nat} {record : SocialOAuthStateRecord}
      {found deleted : List StateRow} {row : StateRow} :
      s.sessions call = some (.replacing record found deleted) → row ∈ found →
      s.Unlocked call row → row ∈ s.table.rows →
      Step s [] (s.set call (.replacing record (found.erase row) (row :: deleted)))
  /-- A row that was deleted or consumed meanwhile is left out. -/
  | skip {s : Database} {call : Nat} {record : SocialOAuthStateRecord}
      {found deleted : List StateRow} {row : StateRow} :
      s.sessions call = some (.replacing record found deleted) → row ∈ found →
      row ∉ s.table.rows →
      Step s [] (s.set call (.replacing record (found.erase row) deleted))
  /-- The `INSERT`, where no row has its keys. -/
  | insert {s : Database} {call : Nat} {record : SocialOAuthStateRecord} {deleted : List StateRow} :
      s.sessions call = some (.replacing record [] deleted) →
      (s.table.delete fun r => decide (r ∈ deleted)).Fresh ⟨call, record⟩ →
      Step s [] (s.set call (.inserted record deleted))
  /-- `create_state` returns; the unique indexes let no two transactions insert one key. -/
  | commitCreate {s : Database} {call : Nat} {record : SocialOAuthStateRecord}
      {deleted : List StateRow} {table : StateTable} :
      s.sessions call = some (.inserted record deleted) →
      (s.table.delete fun r => decide (r ∈ deleted)).insert ⟨call, record⟩ = some table →
      Step s [.created call record] (s.finish call table)
  /-- Any transaction may fail. -/
  | rollback {s : Database} {call : Nat} {session : Session} :
      s.sessions call = some session → Step s [] (s.finish call s.table)
  /-- `consume_state`: the `UPDATE` finds the row. -/
  | look {s : Database} {lookup : StateLookup} {now : Datetime} {row : StateRow} :
      validateLookup lookup = .ok () → row ∈ s.table.rows → available lookup now row = true →
      Step s [] (s.start (.looking lookup now row))
  /-- It finds none. -/
  | refuse {s : Database} {lookup : StateLookup} {now : Datetime} :
      validateLookup lookup = .ok () → (∀ row ∈ s.table.rows, available lookup now row = false) →
      Step s [.refused s.started lookup now] { s with started := s.started + 1 }
  /-- It locks and updates the row. -/
  | take {s : Database} {call : Nat} {lookup : StateLookup} {now : Datetime} {row : StateRow} :
      s.sessions call = some (.looking lookup now row) → s.Unlocked call row →
      row ∈ s.table.rows → Step s [] (s.set call (.taken lookup now row))
  /-- The row was deleted or consumed meanwhile. -/
  | missed {s : Database} {call : Nat} {lookup : StateLookup} {now : Datetime} {row : StateRow} :
      s.sessions call = some (.looking lookup now row) → row ∉ s.table.rows →
      Step s [.refused call lookup now] (s.finish call s.table)
  /-- `consume_state` returns the row. -/
  | commitConsume {s : Database} {call : Nat} {lookup : StateLookup} {now : Datetime}
      {row : StateRow} :
      s.sessions call = some (.taken lookup now row) →
      Step s [.consumed call lookup now (row.state.consume now)]
        (s.finish call (s.table.modify (fun r => r == row) (consumeRow now)))

/-- The runs of the store, from an empty table. -/
inductive Reachable : List (StateEvent Nat Datetime) → Database → Prop
  | empty : Reachable [] .empty
  | step {log events : List (StateEvent Nat Datetime)} {s s' : Database} :
      Reachable log s → Step s events s' → Reachable (log ++ events) s'

/-- Replaced by a `create_state` that is completed and read the table when the state was issued. -/
def Replaced (after : List (StateEvent Nat Datetime)) (record : SocialOAuthStateRecord) : Prop :=
  ∃ call record', .replacing call record' ∈ after ∧ (∃ new, .created call new ∈ after) ∧
    record'.SameOwner record

/-! ## What is kept -/

/-- A pending row was issued, and whoever is to replace it still has it. -/
def Issued (log : List (StateEvent Nat Datetime)) (s : Database) (row : StateRow) : Prop :=
  ∃ A B, log = A ++ .created row.xmin row.state :: B ∧
    ∀ call record, .replacing call record ∈ B → record.SameOwner row.state →
      (∀ new, .created call new ∉ B) ∧
      ∀ session, s.sessions call = some session → row ∈ session.replaces

/-- The call that an event belongs to. -/
def callOf : StateEvent Nat Datetime → Nat
  | .replacing call _ | .created call _ | .consumed call _ _ _ | .refused call _ _ => call

/-- A transaction holds pending rows of the table, and looks at a row that its lookup gives. -/
def Session.Holds (table : StateTable) (session : Session) : Prop :=
  (∀ row ∈ session.locks, row ∈ table.rows ∧ row.state.consumedAt = none) ∧
    match session with
    | .replacing record found _ =>
      record.consumedAt = none ∧ ∀ row ∈ found, row.state.consumedAt = none
    | .inserted record _ => record.consumedAt = none
    | .looking lookup now row | .taken lookup now row => available lookup now row = true

structure Invariant (log : List (StateEvent Nat Datetime)) (s : Database) : Prop where
  spec : SingleUse id Replaced log
  named : ∀ e ∈ log, callOf e < s.started
  unstarted : ∀ call, s.started ≤ call → s.sessions call = none
  pending : ∀ row ∈ s.table.rows, row.state.consumedAt = none → Issued log s row
  holds : ∀ call session, s.sessions call = some session → session.Holds s.table
  exclusive : ∀ call call' session session', call ≠ call' → s.sessions call = some session →
    s.sessions call' = some session' → ∀ row ∈ session.locks, row ∉ session'.locks
  used : ∀ call lookup now returned, .consumed call lookup now returned ∈ log →
    ∃ row ∈ s.table.rows, row.state.stateId = returned.stateId ∧
      row.state.stateDigest = returned.stateDigest ∧ row.state.consumedAt ≠ none

theorem Invariant.empty : Invariant [] .empty where
  spec := .nil
  named _ h := absurd h List.not_mem_nil
  unstarted _ _ := rfl
  pending _ h := absurd h List.not_mem_nil
  holds _ _ h := by cases h
  exclusive _ _ _ _ _ h := by cases h
  used _ _ _ _ h := absurd h List.not_mem_nil

section
variable {log : List (StateEvent Nat Datetime)} {s : Database} {call : Nat}
  {session session' : Session} {row : StateRow} {record : SocialOAuthStateRecord}
  {lookup : StateLookup} {now : Datetime}

theorem Database.set_eq_some {other : Nat} (h : (s.set call session').sessions other = some session) :
    other = call ∧ session = session' ∨ other ≠ call ∧ s.sessions other = some session := by
  change Function.update s.sessions call (some session') other = some session at h
  rw [Function.update_apply] at h
  split at h
  · next heq => exact .inl ⟨heq, (Option.some.inj h).symm⟩
  · next hne => exact .inr ⟨hne, h⟩

theorem Database.finish_eq_some {other : Nat} {table : StateTable}
    (h : (s.finish call table).sessions other = some session) :
    other ≠ call ∧ s.sessions other = some session := by
  change Function.update s.sessions call none other = some session at h
  rw [Function.update_apply] at h
  split at h
  · cases h
  · next hne => exact ⟨hne, h⟩

/-! ### Rows that were issued -/

/-- An event that neither reads the states to replace nor replaces them. -/
def isQuiet : StateEvent Nat Datetime → Bool
  | .replacing .. | .created .. => false
  | .consumed .. | .refused .. => true

theorem Issued.quiet (h : Issued log s row) {e : StateEvent Nat Datetime} (he : isQuiet e = true) :
    Issued (log ++ [e]) s row := by
  obtain ⟨A, B, rfl, hB⟩ := h
  refine ⟨A, B ++ [e], by simp, fun call record hmem howner => ?_⟩
  rcases List.mem_append.1 hmem with hmem | hmem
  · obtain ⟨hnot, hreplaces⟩ := hB call record hmem howner
    refine ⟨fun new hnew => ?_, hreplaces⟩
    rcases List.mem_append.1 hnew with hnew | hnew
    · exact hnot new hnew
    · rw [← List.mem_singleton.1 hnew] at he
      cases he
  · rw [← List.mem_singleton.1 hmem] at he
    cases he

theorem Issued.set (h : Issued log s row) (hcall : s.sessions call = some session)
    (hreplaces : row ∈ session.replaces → row ∈ session'.replaces) :
    Issued log (s.set call session') row := by
  obtain ⟨A, B, hlog, hB⟩ := h
  refine ⟨A, B, hlog, fun other record hmem howner => ?_⟩
  obtain ⟨hnot, hold⟩ := hB other record hmem howner
  refine ⟨hnot, fun session'' hsession => ?_⟩
  rcases Database.set_eq_some hsession with ⟨rfl, rfl⟩ | ⟨-, hsession⟩
  · exact hreplaces (hold session hcall)
  · exact hold session'' hsession

theorem Issued.finish (h : Issued log s row) (table : StateTable) :
    Issued log (s.finish call table) row := by
  obtain ⟨A, B, hlog, hB⟩ := h
  refine ⟨A, B, hlog, fun other record hmem howner => ?_⟩
  obtain ⟨hnot, hold⟩ := hB other record hmem howner
  exact ⟨hnot, fun session hsession => hold session (Database.finish_eq_some hsession).2⟩

/-- A call that starts has not yet read the states it replaces. -/
theorem Issued.start (session' : Session) (h : Issued log s row)
    (hnamed : ∀ e ∈ log, callOf e < s.started) :
    Issued log (s.start session') row := by
  obtain ⟨A, B, rfl, hB⟩ := h
  refine ⟨A, B, rfl, fun other record hmem howner => ?_⟩
  obtain ⟨hnot, hold⟩ := hB other record hmem howner
  refine ⟨hnot, fun session hsession => ?_⟩
  rcases Database.set_eq_some hsession with ⟨rfl, -⟩ | ⟨-, hsession⟩
  · have : s.started < s.started :=
      hnamed _ (List.mem_append_right A (List.mem_cons_of_mem _ hmem))
    omega
  · exact hold session hsession

/-- The states that a `create_state` reads are to be replaced. -/
theorem Issued.replacing (h : Issued log s row) (hnamed : ∀ e ∈ log, callOf e < s.started)
    (hreplaces : record.SameOwner row.state → row ∈ session'.replaces) :
    Issued (log ++ [.replacing s.started record]) (s.start session') row := by
  obtain ⟨A, B, hlog, hB⟩ := h.start session' hnamed
  refine ⟨A, B ++ [.replacing s.started record], by simp [hlog], fun other record' hmem howner => ?_⟩
  have hcreated : ∀ new, .created other new ∈ B ++ [.replacing s.started record] →
      .created other new ∈ B := by
    intro new hnew
    simpa using hnew
  rcases List.mem_append.1 hmem with hmem | hmem
  · obtain ⟨hnot, hold⟩ := hB other record' hmem howner
    exact ⟨fun new hnew => hnot new (hcreated new hnew), hold⟩
  · cases List.mem_singleton.1 hmem
    refine ⟨fun new hnew => ?_, fun session hsession => ?_⟩
    · have : s.started < s.started := hnamed (.created s.started new) (by
        rw [hlog]
        exact List.mem_append_right A (List.mem_cons_of_mem _ (hcreated new hnew)))
      omega
    · rcases Database.set_eq_some hsession with ⟨-, rfl⟩ | ⟨hne, -⟩
      · exact hreplaces howner
      · exact absurd rfl hne

/-- What a `create_state` leaves was not to be replaced by it. -/
theorem Issued.created (h : Issued log s row) (hcall : s.sessions call = some session)
    (hkept : row ∉ session.replaces) : Issued (log ++ [.created call record]) s row := by
  obtain ⟨A, B, rfl, hB⟩ := h
  refine ⟨A, B ++ [.created call record], by simp, fun other record' hmem howner => ?_⟩
  have hmem : .replacing other record' ∈ B := by simpa using hmem
  obtain ⟨hnot, hold⟩ := hB other record' hmem howner
  refine ⟨fun new hnew => ?_, hold⟩
  rcases List.mem_append.1 hnew with hnew | hnew
  · exact hnot new hnew
  · cases List.mem_singleton.1 hnew
    exact hkept (hold session hcall)

/-- A row that is consumed has not been replaced. -/
theorem Issued.not_replaced (h : Issued log s row) : ∃ A B,
    log = A ++ .created row.xmin row.state :: B ∧ ¬ Replaced B row.state := by
  obtain ⟨A, B, hlog, hB⟩ := h
  refine ⟨A, B, hlog, ?_⟩
  rintro ⟨call, record, hreplacing, ⟨new, hnew⟩, howner⟩
  exact (hB call record hreplacing howner).1 new hnew

/-! ### The steps -/

theorem Invariant.refused (h : Invariant log s) (hcall : call < s.started) :
    Invariant (log ++ [.refused call lookup now]) s where
  spec := h.spec.append_other nofun
  named e he := by
    rcases List.mem_append.1 he with he | he
    · exact h.named e he
    · rw [List.mem_singleton.1 he]
      exact hcall
  unstarted := h.unstarted
  pending row hrow hpending := (h.pending row hrow hpending).quiet rfl
  holds := h.holds
  exclusive := h.exclusive
  used call lookup' now' returned hmem := h.used call lookup' now' returned (by simpa using hmem)

/-- A transaction goes on: it keeps the rows to replace, and locks only what no other holds. -/
theorem Invariant.set (h : Invariant log s) (hcall : s.sessions call = some session)
    (hholds : session'.Holds s.table)
    (hlocks : ∀ row ∈ session'.locks, row ∈ session.locks ∨ s.Unlocked call row)
    (hreplaces : ∀ row ∈ s.table.rows, row ∈ session.replaces → row ∈ session'.replaces) :
    Invariant log (s.set call session') where
  spec := h.spec
  named := h.named
  unstarted other hother := by
    have hne : other ≠ call := by
      rintro rfl
      rw [h.unstarted other hother] at hcall
      cases hcall
    exact (Function.update_of_ne hne _ _).trans (h.unstarted other hother)
  pending row hrow hpending := (h.pending row hrow hpending).set hcall (hreplaces row hrow)
  holds other session'' hsession := by
    rcases Database.set_eq_some hsession with ⟨-, rfl⟩ | ⟨-, hsession⟩
    · exact hholds
    · exact h.holds other session'' hsession
  exclusive other other' session₁ session₂ hne h₁ h₂ row hrow hrow' := by
    rcases Database.set_eq_some h₁ with ⟨rfl, rfl⟩ | ⟨hne₁, hold₁⟩
    · rcases Database.set_eq_some h₂ with ⟨rfl, -⟩ | ⟨hne₂, hold₂⟩
      · exact hne rfl
      · rcases hlocks row hrow with hrow | hfree
        · exact h.exclusive _ _ _ _ hne hcall hold₂ row hrow hrow'
        · exact hfree other' session₂ hne₂ hold₂ hrow'
    · rcases Database.set_eq_some h₂ with ⟨rfl, rfl⟩ | ⟨hne₂, hold₂⟩
      · rcases hlocks row hrow' with hrow' | hfree
        · exact h.exclusive _ _ _ _ hne hold₁ hcall row hrow hrow'
        · exact hfree other session₁ hne₁ hold₁ hrow
      · exact h.exclusive _ _ _ _ hne hold₁ hold₂ row hrow hrow'
  used := h.used

/-- A call starts, without a lock. -/
theorem Invariant.start (session' : Session) (h : Invariant log s) (hholds : session'.Holds s.table)
    (hlocks : session'.locks = []) : Invariant log (s.start session') where
  spec := h.spec
  named e he := Nat.lt_succ_of_lt (h.named e he)
  unstarted other hother := by
    change s.started + 1 ≤ other at hother
    have hne : other ≠ s.started := by omega
    exact (Function.update_of_ne hne _ _).trans (h.unstarted other (by omega))
  pending row hrow hpending := (h.pending row hrow hpending).start session' h.named
  holds other session'' hsession := by
    rcases Database.set_eq_some hsession with ⟨-, rfl⟩ | ⟨-, hsession⟩
    · exact hholds
    · exact h.holds other session'' hsession
  exclusive other other' session₁ session₂ hne h₁ h₂ row hrow hrow' := by
    rcases Database.set_eq_some h₁ with ⟨rfl, rfl⟩ | ⟨hne₁, h₁⟩
    · rw [hlocks] at hrow
      cases hrow
    · rcases Database.set_eq_some h₂ with ⟨rfl, rfl⟩ | ⟨hne₂, h₂⟩
      · rw [hlocks] at hrow'
        cases hrow'
      · exact h.exclusive _ _ _ _ hne h₁ h₂ row hrow hrow'
  used := h.used

/-- A transaction ends without a change. -/
theorem Invariant.finish (h : Invariant log s) (call : Nat) :
    Invariant log (s.finish call s.table) where
  spec := h.spec
  named := h.named
  unstarted other hother := by
    have hnone := h.unstarted other hother
    change Function.update s.sessions call none other = none
    rw [Function.update_apply, hnone, ite_self]
  pending row hrow hpending := (h.pending row hrow hpending).finish s.table
  holds other session hsession := h.holds other session (Database.finish_eq_some hsession).2
  exclusive other other' session₁ session₂ hne h₁ h₂ :=
    h.exclusive other other' session₁ session₂ hne (Database.finish_eq_some h₁).2
      (Database.finish_eq_some h₂).2
  used := h.used

/-- A `create_state` reads the states that it replaces. -/
theorem Invariant.replacing (h : Invariant log s) (hvalid : record.consumedAt = none) :
    Invariant (log ++ [.replacing s.started record])
      (s.start (.replacing record (s.table.rows.filter fun r => record.isPending r.state) [])) := by
  have hstart := h.start (.replacing record
    (s.table.rows.filter fun r => record.isPending r.state) []) ⟨nofun, hvalid, fun row hrow =>
      (SocialOAuthState.isPending_iff.1 (List.mem_filter.1 hrow).2).2⟩ rfl
  refine { hstart with spec := h.spec.append_other nofun, named := ?_, pending := ?_, used := ?_ }
  · intro e he
    rcases List.mem_append.1 he with he | he
    · exact hstart.named e he
    · rw [List.mem_singleton.1 he]
      exact Nat.lt_succ_self s.started
  · intro row hrow hpending
    refine (h.pending row hrow hpending).replacing h.named fun howner => ?_
    refine List.mem_append_left [] (List.mem_filter.2 ⟨hrow, ?_⟩)
    exact SocialOAuthState.isPending_iff.2
      ⟨⟨howner.1.symm, howner.2.1.symm, howner.2.2.symm⟩, hpending⟩
  · exact fun call lookup now returned hmem => h.used call lookup now returned (by simpa using hmem)

/-- The rows that a transaction holds stay while another one ends. -/
theorem Session.Holds.mono {table table' : StateTable} (h : session.Holds table)
    (hrows : ∀ row ∈ session.locks, row ∈ table.rows → row ∈ table'.rows) : session.Holds table' :=
  ⟨fun row hrow => ⟨hrows row hrow (h.1 row hrow).1, (h.1 row hrow).2⟩, h.2⟩

/-- A `create_state` returns. -/
theorem Invariant.created (h : Invariant log s) {deleted : List StateRow} {table : StateTable}
    (hcall : s.sessions call = some (.inserted record deleted))
    (hinsert : (s.table.delete fun r => decide (r ∈ deleted)).insert ⟨call, record⟩ = some table) :
    Invariant (log ++ [.created call record]) (s.finish call table) where
  spec := h.spec.append_other nofun
  named e he := by
    rcases List.mem_append.1 he with he | he
    · exact h.named e he
    · rw [List.mem_singleton.1 he]
      by_contra hnot
      rw [h.unstarted call (Nat.le_of_not_lt hnot)] at hcall
      cases hcall
  unstarted := (h.finish call).unstarted
  pending row hrow hpending := by
    rcases (Table.mem_insert hinsert).1 hrow with hrow | rfl
    · obtain ⟨hrow, hkept⟩ := Table.mem_delete.1 hrow
      refine Issued.finish ((h.pending row hrow hpending).created hcall ?_) table
      exact of_decide_eq_false hkept
    · exact ⟨log, [], rfl, nofun⟩
  holds other session hsession := by
    obtain ⟨hne, hsession⟩ := Database.finish_eq_some hsession
    refine (h.holds other session hsession).mono fun row hlocked hrow => ?_
    refine (Table.mem_insert hinsert).2 (.inl (Table.mem_delete.2 ⟨hrow, decide_eq_false ?_⟩))
    exact h.exclusive other call session _ hne hsession hcall row hlocked
  exclusive := (h.finish call).exclusive
  used call' lookup now returned hmem := by
    obtain ⟨row, hrow, hid, hdigest, hused⟩ :=
      h.used call' lookup now returned (by simpa using hmem)
    refine ⟨row, (Table.mem_insert hinsert).2 (.inl (Table.mem_delete.2 ⟨hrow, decide_eq_false ?_⟩)),
      hid, hdigest, hused⟩
    exact fun hdeleted => hused ((h.holds call _ hcall).1 row hdeleted).2

/-- A `consume_state` returns the row that it holds. -/
theorem Invariant.consumed (h : Invariant log s)
    (hcall : s.sessions call = some (.taken lookup now row)) :
    Invariant (log ++ [.consumed call lookup now (row.state.consume now)])
      (s.finish call (s.table.modify (fun r => r == row) (consumeRow now))) := by
  obtain ⟨hlocks, havailable⟩ := h.holds call _ hcall
  obtain ⟨hrow, hpending⟩ := hlocks row List.mem_cons_self
  obtain ⟨hfinds, hexpires⟩ := Bool.and_eq_true_iff.1 havailable
  obtain ⟨A, B, hlog, hlast⟩ := (h.pending row hrow hpending).not_replaced
  have hkept : ∀ r ∈ s.table.rows, r ≠ row →
      r ∈ (s.table.modify (fun r => r == row) (consumeRow now)).rows := fun r hr hne =>
    Table.mem_modify.2 ⟨r, hr, if_neg (by simpa using hne)⟩
  refine ⟨h.spec.append ?_ ?_, ?_, (h.finish call).unstarted, ?_, ?_, (h.finish call).exclusive, ?_⟩
  · intro e he
    cases e with
    | consumed call' lookup' now' returned =>
      obtain ⟨row', hrow', hid, hdigest, hused⟩ := h.used call' lookup' now' returned he
      have hne : row' ≠ row := fun heq => hused (heq ▸ hpending)
      refine ⟨fun heq => hne ?_, fun heq => hne ?_⟩
      · refine Table.eq_of_clash hrow' hrow ?_
        simp [stateSchema, Schema.ofPair, hid.trans heq, SocialOAuthState.consume]
      · refine Table.eq_of_clash hrow' hrow ?_
        simp [stateSchema, Schema.ofPair, hdigest.trans heq, SocialOAuthState.consume]
    | replacing | created | refused => trivial
  · rintro _ _ _ _ ⟨⟩
    refine ⟨A, row.xmin, row.state, B, hlog, (StateLookup.finds_iff.1 hfinds).1,
      of_decide_eq_true hexpires, ?_, hlast⟩
    simp [SocialOAuthState.map, SocialOAuthState.consume]
  · intro e he
    rcases List.mem_append.1 he with he | he
    · exact h.named e he
    · rw [List.mem_singleton.1 he]
      by_contra hnot
      rw [h.unstarted call (Nat.le_of_not_lt hnot)] at hcall
      cases hcall
  · intro new hnew hnone
    obtain ⟨old, hold, rfl⟩ := Table.mem_modify.1 hnew
    split at hnone
    · cases hnone
    · next hsel =>
      rw [if_neg hsel]
      exact Issued.finish ((h.pending old hold hnone).quiet rfl) _
  · intro other session hsession
    obtain ⟨hne, hold⟩ := Database.finish_eq_some hsession
    refine (h.holds other session hold).mono fun r hlocked hr => hkept r hr fun heq => ?_
    exact h.exclusive other call session _ hne hold hcall r hlocked (heq ▸ List.mem_cons_self)
  · intro call' lookup' now' returned hmem
    rcases List.mem_append.1 hmem with hmem | hmem
    · obtain ⟨row', hrow', hid, hdigest, hused⟩ := h.used call' lookup' now' returned hmem
      exact ⟨row', hkept row' hrow' fun heq => hused (heq ▸ hpending), hid, hdigest, hused⟩
    · cases List.mem_singleton.1 hmem
      exact ⟨(consumeRow now).apply row, Table.mem_modify.2 ⟨row, hrow, if_pos (by simp)⟩, rfl, rfl,
        by rintro ⟨⟩⟩

theorem Invariant.step (h : Invariant log s) {events : List (StateEvent Nat Datetime)}
    {s' : Database} (hstep : Step s events s') : Invariant (log ++ events) s' := by
  cases hstep with
  | replace hvalid => exact h.replacing (validateState_ok hvalid)
  | @lock call record found deleted row hcall hfound hfree hrow =>
    rw [List.append_nil]
    obtain ⟨hlocks, hvalid, hpending⟩ := h.holds call _ hcall
    refine h.set hcall ⟨?_, hvalid, fun r hr => hpending r (List.mem_of_mem_erase hr)⟩ ?_ ?_
    · rintro r (_ | ⟨_, hr⟩)
      · exact ⟨hrow, hpending row hfound⟩
      · exact hlocks r hr
    · rintro r (_ | ⟨_, hr⟩)
      · exact .inr hfree
      · exact .inl hr
    · intro r _ hr
      rcases List.mem_append.1 hr with hr | hr
      · by_cases heq : r = row
        · rw [heq]
          exact List.mem_append_right _ List.mem_cons_self
        · exact List.mem_append_left _ ((List.mem_erase_of_ne heq).2 hr)
      · exact List.mem_append_right _ (List.mem_cons_of_mem row hr)
  | @skip call record found deleted row hcall hfound hgone =>
    rw [List.append_nil]
    obtain ⟨hlocks, hvalid, hpending⟩ := h.holds call _ hcall
    refine h.set hcall ⟨hlocks, hvalid, fun r hr => hpending r (List.mem_of_mem_erase hr)⟩
      (fun r hr => .inl hr) fun r hrow hr => ?_
    rcases List.mem_append.1 hr with hr | hr
    · refine List.mem_append_left _ ((List.mem_erase_of_ne ?_).2 hr)
      rintro rfl
      exact hgone hrow
    · exact List.mem_append_right _ hr
  | @insert call record deleted hcall hfresh =>
    rw [List.append_nil]
    obtain ⟨hlocks, hvalid, -⟩ := h.holds call _ hcall
    exact h.set hcall ⟨hlocks, hvalid⟩ (fun r hr => .inl hr) fun r _ hr => hr
  | commitCreate hcall hinsert => exact h.created hcall hinsert
  | @rollback call _ hcall =>
    rw [List.append_nil]
    exact h.finish call
  | look hvalid hrow havailable =>
    rw [List.append_nil]
    exact h.start _ ⟨nofun, havailable⟩ rfl
  | refuse hvalid hnone =>
    have hnext : Invariant log { s with started := s.started + 1 } :=
      { spec := h.spec
        named := fun e he => Nat.lt_succ_of_lt (h.named e he)
        unstarted := fun call hcall => h.unstarted call (Nat.le_of_succ_le hcall)
        pending := h.pending
        holds := h.holds
        exclusive := h.exclusive
        used := h.used }
    exact hnext.refused (Nat.lt_succ_self s.started)
  | @take call lookup now row hcall hfree hrow =>
    rw [List.append_nil]
    have havailable := (h.holds call _ hcall).2
    refine h.set hcall ⟨?_, havailable⟩ ?_ nofun
    · rintro r (_ | ⟨_, ⟨⟩⟩)
      exact ⟨hrow, (StateLookup.finds_iff.1 (Bool.and_eq_true_iff.1 havailable).1).2⟩
    · rintro r (_ | ⟨_, ⟨⟩⟩)
      exact .inr hfree
  | @missed call lookup now row hcall hgone =>
    refine (h.finish call).refused ?_
    by_contra hnot
    rw [h.unstarted call (Nat.le_of_not_lt hnot)] at hcall
    cases hcall
  | commitConsume hcall => exact h.consumed hcall

theorem Reachable.invariant (h : Reachable log s) : Invariant log s := by
  induction h with
  | empty => exact .empty
  | step _ hstep ih => exact ih.step hstep

/-! ### How calls end -/

/-- The call that ends with an event. -/
def ending : StateEvent Nat Datetime → Option Nat
  | .replacing .. => none
  | .created call _ | .consumed call _ _ _ | .refused call _ _ => some call

/-- A call ends once: one that was refused consumes nothing. -/
structure EndsOnce (log : List (StateEvent Nat Datetime)) (s : Database) : Prop where
  once : (log.filterMap ending).Nodup
  ended : ∀ call ∈ log.filterMap ending, s.sessions call = none ∧ call < s.started

theorem EndsOnce.append (h : EndsOnce log s) {events : List (StateEvent Nat Datetime)}
    {s' : Database} (hends : ∀ call, call ∉ events.filterMap ending →
      (s.sessions call = none ∧ call < s.started → s'.sessions call = none ∧ call < s'.started))
    (hnew : events.filterMap ending = [] ∨ ∃ call, events.filterMap ending = [call] ∧
      ¬ (s.sessions call = none ∧ call < s.started) ∧
      s'.sessions call = none ∧ call < s'.started) : EndsOnce (log ++ events) s' := by
  rcases hnew with hnone | ⟨call, hsome, hopen, hover⟩
  · refine ⟨by rw [List.filterMap_append, hnone, List.append_nil]; exact h.once, fun call hmem => ?_⟩
    rw [List.filterMap_append, hnone, List.append_nil] at hmem
    exact hends call (hnone ▸ List.not_mem_nil) (h.ended call hmem)
  · refine ⟨?_, fun other hmem => ?_⟩
    · rw [List.filterMap_append, hsome, List.nodup_append]
      refine ⟨h.once, List.nodup_singleton call, ?_⟩
      rintro other hmem _ (_ | ⟨_, ⟨⟩⟩) rfl
      exact hopen (h.ended _ hmem)
    · rw [List.filterMap_append, hsome] at hmem
      by_cases heq : other = call
      · rw [heq]
        exact hover
      · refine hends other (by rw [hsome]; simpa using heq) (h.ended other ?_)
        simpa [heq] using hmem

theorem Database.finish_over {table : StateTable} (other : Nat)
    (h : s.sessions other = none ∧ other < s.started) :
    (s.finish call table).sessions other = none ∧ other < (s.finish call table).started := by
  refine ⟨?_, h.2⟩
  change Function.update s.sessions call none other = none
  rw [Function.update_apply, h.1, ite_self]

theorem Database.finish_self {table : StateTable} : (s.finish call table).sessions call = none :=
  Function.update_self ..

theorem Database.set_over (hcall : s.sessions call = some session) (other : Nat)
    (h : s.sessions other = none ∧ other < s.started) :
    (s.set call session').sessions other = none ∧ other < (s.set call session').started := by
  refine ⟨?_, h.2⟩
  have hne : other ≠ call := by
    rintro rfl
    rw [h.1] at hcall
    cases hcall
  exact (Function.update_of_ne hne _ _).trans h.1

theorem Database.start_over (other : Nat) (h : s.sessions other = none ∧ other < s.started) :
    (s.start session').sessions other = none ∧ other < (s.start session').started :=
  ⟨(Function.update_of_ne (Nat.ne_of_lt h.2) _ _).trans h.1, Nat.lt_succ_of_lt h.2⟩

theorem EndsOnce.step (h : EndsOnce log s) (hinv : Invariant log s)
    {events : List (StateEvent Nat Datetime)} {s' : Database} (hstep : Step s events s') :
    EndsOnce (log ++ events) s' := by
  have hstarted : ∀ {call session}, s.sessions call = some session → call < s.started := by
    intro call session hcall
    by_contra hnot
    rw [hinv.unstarted call (Nat.le_of_not_lt hnot)] at hcall
    cases hcall
  have hopen : ∀ {call session}, s.sessions call = some session →
      ¬ (s.sessions call = none ∧ call < s.started) := by
    rintro call session hcall ⟨hnone, -⟩
    rw [hnone] at hcall
    cases hcall
  cases hstep with
  | replace | look => exact h.append (fun other _ => Database.start_over other) (.inl rfl)
  | lock hcall | skip hcall | insert hcall | take hcall =>
    exact h.append (fun other _ => Database.set_over hcall other) (.inl rfl)
  | rollback hcall => exact h.append (fun other _ => Database.finish_over other) (.inl rfl)
  | commitCreate hcall | missed hcall | commitConsume hcall =>
    exact h.append (fun other _ => Database.finish_over other)
      (.inr ⟨_, rfl, hopen hcall, Database.finish_self, hstarted hcall⟩)
  | refuse =>
    refine h.append (fun other _ hover => ⟨hover.1, Nat.lt_succ_of_lt hover.2⟩)
      (.inr ⟨s.started, rfl, fun hover => Nat.lt_irrefl _ hover.2, ?_, Nat.lt_succ_self _⟩)
    exact hinv.unstarted s.started (Nat.le_refl _)

theorem Reachable.endsOnce (h : Reachable log s) : EndsOnce log s := by
  induction h with
  | empty => exact ⟨.nil, nofun⟩
  | step hreach hstep ih => exact ih.step hreach.invariant hstep

/-- Only a call that is completed changes the table. -/
theorem Step.table {events : List (StateEvent Nat Datetime)} {s' : Database}
    (h : Step s events s') : s'.table = s.table ∨ (∃ call record, .created call record ∈ events) ∨
      ∃ call lookup now returned, .consumed call lookup now returned ∈ events := by
  cases h with
  | commitCreate => exact .inr (.inl ⟨_, _, List.mem_cons_self⟩)
  | commitConsume => exact .inr (.inr ⟨_, _, _, _, List.mem_cons_self⟩)
  | replace | lock | skip | insert | rollback | look | refuse | take | missed => exact .inl rfl

/-- A call that is refused leaves the other transactions alone, and holds nothing. -/
theorem Invariant.refusal (h : Invariant log s) {events : List (StateEvent Nat Datetime)}
    {s' : Database} (hstep : Step s events s') (hrefused : .refused call lookup now ∈ events) :
    s'.table = s.table ∧ s'.sessions call = none ∧
      ∀ other, other ≠ call → s'.sessions other = s.sessions other := by
  cases hstep with
  | refuse =>
    cases List.mem_singleton.1 hrefused
    exact ⟨rfl, h.unstarted _ (Nat.le_refl _), fun _ _ => rfl⟩
  | missed =>
    cases List.mem_singleton.1 hrefused
    exact ⟨rfl, Database.finish_self, fun _ hne => Function.update_of_ne hne _ _⟩
  | replace | lock | skip | insert | rollback | look | take | commitCreate | commitConsume =>
    simp at hrefused

end

end Postgres

/-- Over any sequence of calls on the SQLite store, and any interleaving of the transactions of the
PostgreSQL store, a state is consumed at most once, as it was issued, to the tenant, session and
channel and with the digests of the call, strictly before its expiry, and not after it was replaced;
a refused call changes nothing. -/
theorem oauth_state_single_use :
    (∀ calls, SingleUse Datetime.isoformat Sqlite.Replaced
      (Sqlite.runStates calls Table.empty).1) ∧
    (∀ lookup now c e t, (Sqlite.consumeState lookup now).commit c = (.error e, t) →
      t = c.database) ∧
    ∀ log s, Postgres.Reachable log s → SingleUse id Postgres.Replaced log ∧
      (log.filterMap Postgres.ending).Nodup ∧
      ∀ events s', Postgres.Step s events s' →
        (s'.table = s.table ∨ (∃ call record, .created call record ∈ events) ∨
          ∃ call lookup now returned, .consumed call lookup now returned ∈ events) ∧
        ∀ call lookup now, .refused call lookup now ∈ events → s'.table = s.table ∧
          s'.sessions call = none ∧
          ∀ other, other ≠ call → s'.sessions other = s.sessions other := by
  refine ⟨fun calls => ?_, fun lookup now c e t h => Sqlite.consumeState_error h,
    fun log s h => ⟨h.invariant.spec, h.endsOnce.once, fun events s' hstep => ⟨hstep.table, ?_⟩⟩⟩
  · simpa only [List.nil_append] using (Sqlite.StateInvariant.empty.run calls).spec
  · exact fun call lookup now hrefused => h.invariant.refusal hstep hrefused

/-- Two `create_state` of one tenant, session and channel that overlap both read a table without the
other's state: neither replaces the other, and both states are pending when they are done. -/
theorem Postgres.overlapping_creates {record record' : SocialOAuthStateRecord}
    (hvalid : validateState record = .ok ()) (hvalid' : validateState record' = .ok ())
    (hid : record.stateId ≠ record'.stateId) (hdigest : record.stateDigest ≠ record'.stateDigest) :
    ∃ s, Reachable [.replacing 0 record, .replacing 1 record', .created 0 record,
      .created 1 record'] s ∧ s.table.rows = [⟨0, record⟩, ⟨1, record'⟩] ∧
      ∀ call, s.sessions call = none := by
  have hfirst : ((Table.empty : StateTable).delete fun r => decide (r ∈ [])).insert ⟨0, record⟩ =
      some ⟨[⟨0, record⟩], List.pairwise_singleton ..⟩ := Table.insert_eq_some.2 ⟨by rintro _ ⟨⟩, rfl⟩
  have hfresh : ∀ row ∈ [(⟨0, record⟩ : StateRow)],
      (stateSchema StateRow.state).clash ((stateSchema StateRow.state).key row)
        ((stateSchema StateRow.state).key ⟨1, record'⟩) = false := by
    intro row hrow
    rw [List.mem_singleton.1 hrow]
    simp [stateSchema, Schema.ofPair, hid, hdigest]
  have hsecond : ((⟨[⟨0, record⟩], List.pairwise_singleton ..⟩ : StateTable).delete
      fun r => decide (r ∈ [])).insert ⟨1, record'⟩ =
      some ⟨[⟨0, record⟩, ⟨1, record'⟩], List.pairwise_append.2 ⟨List.pairwise_singleton ..,
        List.pairwise_singleton .., fun row hrow _ hnew =>
          List.mem_singleton.1 hnew ▸ hfresh row hrow⟩⟩ :=
    Table.insert_eq_some.2 ⟨fun row hrow => hfresh row (Table.mem_delete.1 hrow).1, rfl⟩
  have h := (Reachable.empty.step (.replace hvalid)).step (.replace hvalid')
  have h := h.step (@Step.insert _ 0 record [] rfl (by rintro _ ⟨⟩))
  have h := h.step (@Step.insert _ 1 record' [] rfl (by rintro _ ⟨⟩))
  have h := h.step (@Step.commitCreate _ 0 record [] _ rfl hfirst)
  refine ⟨_, h.step (@Step.commitCreate _ 1 record' [] _ rfl hsecond), rfl, fun call => ?_⟩
  simp only [Database.finish, Database.set, Database.start, Database.empty, Function.update_apply]
  split_ifs <;> rfl

end Social

end AgencyRuntime
