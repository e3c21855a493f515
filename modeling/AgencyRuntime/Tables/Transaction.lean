import Mathlib.Control.Monad.Basic

/-!
# Transactions

A transaction is a sequence of statements on a database. Any statement may fail, and so may the
commit: a connection carries the failures its next statements meet. `Transaction.commit` runs a
transaction to its commit and rolls back when anything was raised. `Does t R` says what a
transaction that was not interrupted did, and `Succeeds t d Q` that it ends without an exception
when no statement is interrupted; each has a rule for each way of building a transaction.
-/

namespace Tables

/-- A database, and what the next statements on it fail with. -/
structure Connection (D ε : Type) where
  database : D
  faults : List (Option ε)

/-- A sequence of statements. -/
abbrev Transaction (D ε : Type) := StateT (Connection D ε) (Except ε)

namespace Transaction

variable {D ε α β : Type}

/-- One statement: it meets the next failure, or acts on the database. -/
def statement (f : D → Except ε (α × D)) : Transaction D ε α := fun c =>
  match c.faults.head?.join with
  | some e => .error e
  | none => (f c.database).map fun r => (r.1, ⟨r.2, c.faults.tail⟩)

/-- A computation between statements. -/
def compute (x : Except ε α) : Transaction D ε α := fun c => x.map fun a => (a, c)

/-- `with connection:` commits, or rolls back and raises. -/
def commit (t : Transaction D ε α) (c : Connection D ε) : Except ε α × D :=
  match (do let a ← t; statement fun d => .ok ((), d); return a) c with
  | .ok (a, c') => (.ok a, c'.database)
  | .error e => (.error e, c.database)

/-- Where the transaction ends without an exception, it has done `R`. -/
def Does (t : Transaction D ε α) (R : D → α → D → Prop) : Prop :=
  ∀ c a c', t c = .ok (a, c') → R c.database a c'.database

section
variable {R : D → α → D → Prop} {t : Transaction D ε α}

theorem Does.mono {R' : D → α → D → Prop} (h : t.Does R) (hR : ∀ d a d', R d a d' → R' d a d') :
    t.Does R' :=
  fun c a c' hc => hR _ _ _ (h c a c' hc)

theorem Does.and {R' : D → α → D → Prop} (h : t.Does R) (h' : t.Does R') :
    t.Does fun d a d' => R d a d' ∧ R' d a d' :=
  fun c a c' hc => ⟨h c a c' hc, h' c a c' hc⟩

theorem does_pure (a : α) : Does (pure a : Transaction D ε α) fun d b d' => b = a ∧ d' = d := by
  intro c b c' h
  cases h
  exact ⟨rfl, rfl⟩

theorem does_statement (f : D → Except ε (α × D)) :
    (statement f).Does fun d a d' => f d = .ok (a, d') := by
  intro c a c' h
  unfold statement at h
  split at h
  · cases h
  · cases hf : f c.database with
    | error e => rw [hf] at h; cases h
    | ok r => rw [hf] at h; cases h; rfl

theorem does_compute (x : Except ε α) :
    (compute x : Transaction D ε α).Does fun d a d' => x = .ok a ∧ d' = d := by
  intro c a c' h
  cases x with
  | error e => cases h
  | ok b => cases h; exact ⟨rfl, rfl⟩

theorem Does.bind {f : α → Transaction D ε β} {R' : α → D → β → D → Prop} (h : t.Does R)
    (hf : ∀ a, (f a).Does (R' a)) :
    (t >>= f).Does fun d b d' => ∃ a m, R d a m ∧ R' a m b d' := by
  intro c b c' hc
  have hc : (t c >>= fun r => f r.1 r.2) = .ok (b, c') := hc
  cases ht : t c with
  | error e => rw [ht] at hc; cases hc
  | ok r =>
    rw [ht] at hc
    exact ⟨r.1, _, h c r.1 r.2 ht, hf r.1 r.2 b c' hc⟩

/-- A transaction raises and leaves the database as it was, or it is committed and has done what it
does. -/
theorem commit_cases (hR : t.Does R) (c : Connection D ε) :
    (∃ e, t.commit c = (.error e, c.database)) ∨
      ∃ a d, t.commit c = (.ok a, d) ∧ R c.database a d := by
  have hall := hR.bind fun a => (does_statement fun d => .ok ((), d)).bind fun _ => does_pure a
  unfold commit
  split
  · next a c' hrun =>
    obtain ⟨b, m, hb, _, m', hm, rfl, hd⟩ := hall _ _ _ hrun
    cases hm
    exact .inr ⟨a, _, rfl, hd ▸ hb⟩
  · next e _ => exact .inl ⟨e, rfl⟩

/-- What holds of an exception and the old database, and of the result and the database of a
committed transaction, holds of what a transaction comes to. -/
@[elab_as_elim]
theorem commit_elim {motive : Except ε α → D → Prop} (hR : t.Does R) (c : Connection D ε)
    (herr : ∀ e, motive (.error e) c.database)
    (hok : ∀ a d, R c.database a d → motive (.ok a) d) :
    motive (t.commit c).1 (t.commit c).2 := by
  rcases commit_cases hR c with ⟨e, h⟩ | ⟨a, d, h, hdone⟩
  · rw [h]
    exact herr e
  · rw [h]
    exact hok a d hdone

end

/-- Where no statement fails from outside, the transaction ends without an exception and in `Q`. -/
def Succeeds (t : Transaction D ε α) (d : D) (Q : α → D → Prop) : Prop :=
  ∃ a d', t ⟨d, []⟩ = .ok (a, ⟨d', []⟩) ∧ Q a d'

section
variable {d : D} {t : Transaction D ε α} {Q : α → D → Prop}

theorem Succeeds.mono {Q' : α → D → Prop} (h : t.Succeeds d Q) (hQ : ∀ a d', Q a d' → Q' a d') :
    t.Succeeds d Q' := by
  obtain ⟨a, d', ht, hq⟩ := h
  exact ⟨a, d', ht, hQ a d' hq⟩

theorem succeeds_pure {a : α} (h : Q a d) : Succeeds (pure a : Transaction D ε α) d Q :=
  ⟨a, d, rfl, h⟩

theorem succeeds_statement {f : D → Except ε (α × D)} {a : α} {d' : D} (hf : f d = .ok (a, d'))
    (h : Q a d') : (statement f).Succeeds d Q :=
  ⟨a, d', by simp [statement, hf, Except.map], h⟩

theorem succeeds_compute {x : Except ε α} {a : α} (hx : x = .ok a) (h : Q a d) :
    (compute x : Transaction D ε α).Succeeds d Q :=
  ⟨a, d, by simp [compute, hx, Except.map], h⟩

theorem Succeeds.bind {R : α → D → Prop} {f : α → Transaction D ε β} {Q : β → D → Prop}
    (h : t.Succeeds d R) (hf : ∀ a d', R a d' → (f a).Succeeds d' Q) : (t >>= f).Succeeds d Q := by
  obtain ⟨a, d', ht, hr⟩ := h
  obtain ⟨b, d'', hb, hq⟩ := hf a d' hr
  refine ⟨b, d'', ?_, hq⟩
  change (t ⟨d, []⟩ >>= fun r => f r.1 r.2) = _
  rw [ht]
  exact hb

theorem Succeeds.statement {f : D → Except ε (α × D)} {k : α → Transaction D ε β} {a : α} {d' : D}
    {Q : β → D → Prop} (hf : f d = .ok (a, d')) (h : (k a).Succeeds d' Q) :
    (Transaction.statement f >>= k).Succeeds d Q :=
  (succeeds_statement (Q := fun b m => b = a ∧ m = d') hf ⟨rfl, rfl⟩).bind fun _ _ heq => by
    rw [heq.1, heq.2]
    exact h

theorem Succeeds.compute {x : Except ε α} {k : α → Transaction D ε β} {a : α}
    {Q : β → D → Prop} (hx : x = .ok a) (h : (k a).Succeeds d Q) :
    (Transaction.compute x >>= k).Succeeds d Q :=
  (succeeds_compute (Q := fun b m => b = a ∧ m = d) hx ⟨rfl, rfl⟩).bind fun _ _ heq => by
    rw [heq.1, heq.2]
    exact h

/-- A transaction that succeeds has done what it does. -/
theorem Succeeds.does {R : D → α → D → Prop} (h : t.Succeeds d Q) (hR : t.Does R) :
    t.Succeeds d fun a d' => Q a d' ∧ R d a d' := by
  obtain ⟨a, d', ht, hq⟩ := h
  exact ⟨a, d', ht, hq, hR _ _ _ ht⟩

/-- A transaction that succeeds is committed. -/
theorem Succeeds.commit (h : t.Succeeds d Q) :
    ∃ a d', t.commit ⟨d, []⟩ = (.ok a, d') ∧ Q a d' := by
  obtain ⟨a, d', ht, hq⟩ := h
  refine ⟨a, d', ?_, hq⟩
  have hall : (do let a ← t; Transaction.statement fun d => .ok ((), d); return a) ⟨d, []⟩ =
      (.ok (a, ⟨d', []⟩) : Except ε (α × Connection D ε)) := by
    change (t ⟨d, []⟩ >>= fun r => _) = _
    rw [ht]
    rfl
  unfold Transaction.commit
  rw [hall]

end

end Transaction

end Tables
