import AgencyRuntime.Advisory.Protocol

/-!
# Reservations as if one at a time

The store that a protocol of reservations stands for does each reservation in one step (`Atomic`).
Every step of the database is none, one or two of its steps, with the same log (`Step.atomic`): a
reservation takes place when its session locks the row that it reads, when it is refused, or when
its insertion is committed. Of the requests that were answered as inserted no two are stored under
keys that clash (`Reachable.executed_apart`).
-/

namespace Advisory

open Tables

variable {α K β : Type} {S : Schema α}

/-! ## The store, one reservation at a time -/

/-- A call that waits for its reservation, or for its answer. -/
inductive Call (α β : Type) where
  | waiting (x : α)
  | settled (x : α) (b : β)

/-- The table, and the calls in progress. -/
structure Atomic (S : Schema α) (β : Type) where
  table : Table S
  calls : Nat → Option (Call α β)

namespace Atomic

/-- No call is in progress. -/
def start (t : Table S) : Atomic S β := ⟨t, fun _ => none⟩

/-- A call goes on, or ends. -/
def set (a : Atomic S β) (c : Nat) (call : Option (Call α β)) (t : Table S) : Atomic S β :=
  ⟨t, Function.update a.calls c call⟩

/-- The steps of a store that does a reservation by `op`. -/
inductive Step (op : α → Table S → β × Table S) (admitted : α → Prop) :
    Atomic S β → List (Event S β) → Atomic S β → Prop
  | invoke {a : Atomic S β} {c : Nat} {x : α} :
      a.calls c = none → admitted x →
      Step op admitted a [.invoked c x] (a.set c (some (.waiting x)) a.table)
  | perform {a : Atomic S β} {c : Nat} {x : α} :
      a.calls c = some (.waiting x) →
      Step op admitted a [] (a.set c (some (.settled x (op x a.table).1)) (op x a.table).2)
  | answer {a : Atomic S β} {c : Nat} {x : α} {b : β} :
      a.calls c = some (.settled x b) →
      Step op admitted a [.answered c x b] (a.set c none a.table)
  | fail {a : Atomic S β} {c : Nat} {call : Call α β} :
      a.calls c = some call → Step op admitted a [.raised c] (a.set c none a.table)
  | update {a : Atomic S β} {sel : α → Bool} {u : Update S} :
      Step op admitted a [.updated sel u] { a with table := a.table.modify sel u }

end Atomic

/-- A reservation of the protocol, done on a table at once, is `op`. -/
structure Protocol.Implements (P : Protocol S K β) (op : α → Table S → β × Table S) : Prop where
  existing : ∀ x t row, P.prior x (keys t) = some (S.key row) → row ∈ t.rows →
    op x t = (P.answer x (.existing row), t)
  inserted : ∀ x t row t', P.prior x (keys t) = none → P.store x = some row →
    t.insert row = some t' → op x t = (P.answer x .inserted, t')
  violated : ∀ x t row, P.prior x (keys t) = none → P.store x = some row → ¬ t.Fresh row →
    op x t = (P.answer x .violated, t)

namespace Runs

variable {W E : Type} {Step : W → List E → W → Prop} {w₀ w w' : W} {log events events' : List E}

theorem single (h : Step w events w') : Runs Step w events w' :=
  Runs.refl.step h

theorem trans (h : Runs Step w₀ log w) (h' : Runs Step w events w') :
    Runs Step w₀ (log ++ events) w' := by
  induction h' with
  | refl => rwa [List.append_nil]
  | step _ hstep ih =>
    rw [← List.append_assoc]
    exact ih.step hstep

end Runs

/-! ## The sessions as calls -/

variable {P : Protocol S K β}

/-- A session that reads a row is settled; one that does not waits. -/
def Session.call (P : Protocol S K β) : Session S K → Call α β
  | .locking x _ _ | .found x _ | .absent x | .inserted x _ => .waiting x
  | .reading x row => .settled x (P.answer x (.existing row))

/-- A world of sessions as a state of the store. -/
def World.atomic (P : Protocol S K β) (w : World S K) : Atomic S β where
  table := w.table
  calls c := (w.sessions c).map (Session.call P)

section
variable {w w' : World S K} {c : Nat} {s : Session S K} {x row : α} {t : Table S}
  {op : α → Table S → β × Table S} {log events : List (Event S β)}

theorem World.atomic_set :
    (w.set c s).atomic P = (w.atomic P).set c (some (s.call P)) w.table := by
  simp only [World.atomic, World.set, Atomic.set, Atomic.mk.injEq, true_and]
  funext d
  rw [Function.update_apply, Function.update_apply]
  split <;> rfl

theorem World.atomic_finish : (w.finish c t).atomic P = (w.atomic P).set c none t := by
  simp only [World.atomic, World.finish, Atomic.set, Atomic.mk.injEq, true_and]
  funext d
  rw [Function.update_apply, Function.update_apply]
  split <;> rfl

/-- A session that goes on as the same call does not move the store. -/
theorem World.atomic_stay {s' : Session S K} (hc : w.sessions c = some s)
    (hcall : s'.call P = s.call P) : (w.set c s').atomic P = w.atomic P := by
  rw [World.atomic_set, hcall]
  have hupdate : Function.update (w.atomic P).calls c (some (s.call P)) = (w.atomic P).calls :=
    Function.update_eq_self_iff.2 (by simp [World.atomic, hc])
  rw [Atomic.set, hupdate]
  rfl

theorem Atomic.set_set (a : Atomic S β) (call call' : Option (Call α β)) (t' : Table S) :
    (a.set c call t').set c call' t = a.set c call' t := by
  simp [Atomic.set]

/-- A call that waits is performed, and then ends. -/
theorem Atomic.performed {admitted : α → Prop} {a : Atomic S β} {b : β}
    (hc : a.calls c = some (.waiting x)) (hop : op x a.table = (b, t))
    (hend : ∀ a', a'.table = t → a'.calls c = some (.settled x b) →
      Step op admitted a' events (a'.set c none a'.table)) :
    Runs (Step op admitted) a events (a.set c none t) := by
  have hperform : Step op admitted a [] _ := .perform hc
  rw [hop] at hperform
  have hlast := hend (a.set c (some (.settled x b)) t) rfl (Function.update_self ..)
  rw [Atomic.set_set] at hlast
  exact (Runs.single hperform).step hlast

/-- A step of a session is none, one or two steps of the store. -/
theorem Advance.atomic (hinv : Invariant P w) (hguarded : P.Guarded) (hexact : P.Exact)
    (hop : P.Implements op) (h : Advance P w events w') :
    Runs (Atomic.Step op P.Admitted) (w.atomic P) events (w'.atomic P) := by
  have hcall {c : Nat} {s : Session S K} (hc : w.sessions c = some s) :
      (w.atomic P).calls c = some (s.call P) := by
    simp [World.atomic, hc]
  have hstay {c : Nat} {s s' : Session S K} (hc : w.sessions c = some s)
      (hsame : s'.call P = s.call P) :
      Runs (Atomic.Step op P.Admitted) (w.atomic P) [] ((w.set c s').atomic P) := by
    rw [World.atomic_stay hc hsame]
    exact .refl
  cases h with
  | acquire hc _ | find hc _ | miss hc _ | insert hc _ _ _ => exact hstay hc rfl
  | @lock c x row key hc hrow hkey hfree =>
    have hprior : P.prior x (keys w.table) = some key := (hinv.knows c _ hc).2 hguarded
    have hperform : Atomic.Step op P.Admitted (w.atomic P) [] _ := .perform (hcall hc)
    rw [show op x (w.atomic P).table = _ from
      hop.existing x w.table row (hprior.trans (congrArg some hkey.symm)) hrow] at hperform
    rw [World.atomic_set]
    exact .single hperform
  | @violate c x row hc hstore hfresh =>
    rw [World.atomic_finish]
    exact Atomic.performed (hcall hc)
      (hop.violated x w.table row (hinv.knows c _ hc hguarded) hstore hfresh) fun _ _ => .answer
  | refuse hc _ =>
    rw [World.atomic_finish]
    exact .single (.fail (hcall hc))
  | commitRead hc =>
    rw [World.atomic_finish]
    exact .single (.answer (hcall hc))
  | @commitInsert c x row t hc hins =>
    have hstore : P.store x = some row := (hinv.knows c _ hc).1
    have hnone := hexact.prior_none hstore (Table.insert_eq_some.1 hins).1
    rw [World.atomic_finish]
    exact Atomic.performed (hcall hc) (hop.inserted x w.table row t hnone hstore hins)
      fun _ _ => .answer

theorem Step.atomic (hinv : Invariant P w) (hguarded : P.Guarded) (hexact : P.Exact)
    (hop : P.Implements op) (h : Step P w events w') :
    Runs (Atomic.Step op P.Admitted) (w.atomic P) events (w'.atomic P) := by
  have hcall {c : Nat} {s : Session S K} (hc : w.sessions c = some s) :
      (w.atomic P).calls c = some (s.call P) := by
    simp [World.atomic, hc]
  cases h with
  | @invoke c x hc hx =>
    rw [World.atomic_set]
    exact .single (.invoke (by simp [World.atomic, hc]) hx)
  | advance h => exact h.atomic hinv hguarded hexact hop
  | rollback hc =>
    rw [World.atomic_finish]
    exact .single (.fail (hcall hc))
  | @lost c x row t hc hins =>
    have hstore : P.store x = some row := (hinv.knows c _ hc).1
    have hnone := hexact.prior_none hstore (Table.insert_eq_some.1 hins).1
    rw [World.atomic_finish]
    exact Atomic.performed (hcall hc) (hop.inserted x w.table row t hnone hstore hins)
      fun _ _ => .fail
  | update => exact .single .update

/-- Every run of the sessions is a run of the store, with the same log and the same table. -/
theorem Reachable.atomic (hguarded : P.Guarded) (hexact : P.Exact) (hop : P.Implements op)
    (h : Reachable P t log w) :
    Runs (Atomic.Step op P.Admitted) (.start t) log (w.atomic P) := by
  induction h with
  | refl => exact .refl
  | step hrun hstep ih =>
    exact ih.trans (hstep.atomic (Reachable.invariant hrun) hguarded hexact hop)

/-! ## What is executed -/

/-- The requests that were answered to execute. -/
def executed (executes : β → Bool) (log : List (Event S β)) : List α :=
  log.filterMap fun
    | .answered _ x b => if executes b then some x else none
    | .invoked .. | .raised _ | .updated .. => none

/-- No key leaves the table, and only the commit of an insertion is answered to execute. -/
theorem Step.executed {executes : β → Bool}
    (hexecutes : ∀ x o, executes (P.answer x o) = true → o = .inserted) (hinv : Invariant P w)
    (h : Step P w events w') :
    (∀ key ∈ keys w.table, key ∈ keys w'.table) ∧
      (Advisory.executed executes events = [] ∨ ∃ x row,
        Advisory.executed executes events = [x] ∧ P.store x = some row ∧
          S.key row ∈ keys w'.table ∧ ∀ key ∈ keys w.table, S.clash key (S.key row) = false) := by
  have hinsert {row : α} {t : Table S} (hins : w.table.insert row = some t) :
      (∀ key ∈ keys w.table, key ∈ keys t) ∧ S.key row ∈ keys t := by
    rw [keys_insert hins]
    exact ⟨fun key => List.mem_append_left _, List.mem_append_right _ List.mem_cons_self⟩
  have hother {c : Nat} {x : α} {o : Outcome α} (ho : o ≠ .inserted) :
      Advisory.executed (S := S) executes [.answered c x (P.answer x o)] = [] := by
    have hno : executes (P.answer x o) = false := by
      rw [Bool.eq_false_iff]
      exact fun hyes => ho (hexecutes x o hyes)
    simp [Advisory.executed, hno]
  cases h with
  | invoke | rollback => exact ⟨fun _ => id, .inl rfl⟩
  | lost _ hins => exact ⟨(hinsert hins).1, .inl rfl⟩
  | update =>
    refine ⟨fun key hkey => ?_, .inl rfl⟩
    rwa [keys_modify]
  | advance h =>
    cases h with
    | acquire | find | miss | lock | insert | refuse => exact ⟨fun _ => id, .inl rfl⟩
    | violate | commitRead => exact ⟨fun _ => id, .inl (hother nofun)⟩
    | @commitInsert c x row t hc hins =>
      refine ⟨(hinsert hins).1, ?_⟩
      have hknows := hinv.knows c _ hc
      by_cases hyes : executes (P.answer x .inserted) = true
      · exact .inr ⟨x, row, by simp [Advisory.executed, hyes], hknows.1, (hinsert hins).2, hknows.2⟩
      · exact .inl (by simp [Advisory.executed, hyes])

/-- The rows stored for two requests clash. -/
def Protocol.Rivals (P : Protocol S K β) (x y : α) : Prop :=
  ∃ row row', P.store x = some row ∧ P.store y = some row' ∧
    S.clash (S.key row) (S.key row') = true

/-- Of rivals only one is answered to execute, and its row is in the table. -/
theorem Reachable.executed_apart {executes : β → Bool}
    (hexecutes : ∀ x o, executes (P.answer x o) = true → o = .inserted)
    (h : Reachable P t log w) :
    (executed executes log).Pairwise (fun x y => ¬ P.Rivals x y) ∧
      ∀ x ∈ executed executes log, ∃ row, P.store x = some row ∧ S.key row ∈ keys w.table := by
  induction h with
  | refl => exact ⟨.nil, nofun⟩
  | @step log events w w' hrun hstep ih =>
    obtain ⟨hapart, hstored⟩ := ih
    obtain ⟨hkept, hnew⟩ := hstep.executed hexecutes (Reachable.invariant hrun)
    have hstored' : ∀ x ∈ executed executes log, ∃ row, P.store x = some row ∧
        S.key row ∈ keys w'.table := by
      intro x hx
      obtain ⟨row, hstore, hkey⟩ := hstored x hx
      exact ⟨row, hstore, hkept _ hkey⟩
    rw [executed, List.filterMap_append, ← executed, ← executed]
    rcases hnew with hnil | ⟨x, row, hone, hstore, hmem, hfresh⟩
    · rw [hnil, List.append_nil]
      exact ⟨hapart, hstored'⟩
    · rw [hone]
      refine ⟨List.pairwise_append.2 ⟨hapart, List.pairwise_singleton .., ?_⟩, ?_⟩
      · rintro y hy z hz ⟨row₁, row₂, hy', hz', hclash⟩
        rw [List.mem_singleton.1 hz, hstore] at hz'
        obtain rfl := Option.some.inj hz'
        obtain ⟨row', hy'', hkey⟩ := hstored y hy
        rw [hy'] at hy''
        obtain rfl := Option.some.inj hy''
        rw [hfresh _ hkey] at hclash
        cases hclash
      · intro y hy
        rcases List.mem_append.1 hy with hy | hy
        · exact hstored' y hy
        · rw [List.mem_singleton.1 hy]
          exact ⟨row, hstore, hmem⟩

/-- The rows stored for the requests that are answered to execute do not clash. -/
theorem Reachable.executed_clear {executes : β → Bool}
    (hexecutes : ∀ x o, executes (P.answer x o) = true → o = .inserted)
    (h : Reachable P t log w) :
    (executed executes log).Pairwise fun x y => ∃ row row', P.store x = some row ∧
      P.store y = some row' ∧ S.clash (S.key row) (S.key row') = false := by
  obtain ⟨hapart, hstored⟩ := h.executed_apart hexecutes
  refine hapart.imp_of_mem fun {x y} hx hy hrivals => ?_
  obtain ⟨row, hrow, -⟩ := hstored x hx
  obtain ⟨row', hrow', -⟩ := hstored y hy
  refine ⟨row, row', hrow, hrow', ?_⟩
  rw [Bool.eq_false_iff]
  exact fun hclash => hrivals ⟨row, row', hrow, hrow', hclash⟩

end

end Advisory
