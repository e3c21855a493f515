import AgencyRuntime.Tables.Transaction

/-!
# Isolated transactions

The owners of a database each see a part of it. A step that an owner takes is isolated when its
answer and what it leaves of the owner's part depend on this part alone, and the parts of the others
stay as they are. `Isolated` says so of a transaction, with a rule for each way of building one;
what a transaction comes to when it is committed is then an isolated step.
-/

namespace Tables

/-- What each owner sees of a database, for the databases that keep the owners apart. -/
structure Isolation (D τ : Type) where
  View : Type
  view : τ → D → View
  Holds : D → Prop

namespace Isolation

variable {D D' τ ε α β : Type} (I : Isolation D τ) (x : τ)

/-- Two databases that the owner cannot tell apart. -/
structure Alike (d d' : D) : Prop where
  left : I.Holds d
  right : I.Holds d'
  view : I.view x d = I.view x d'

/-- The owner moved from a database to another, which leaves the others where they are. -/
structure Moves (d e : D) : Prop where
  holds : I.Holds e
  others : ∀ y, y ≠ x → I.view y e = I.view y d

/-- A step that the owner takes. -/
def Step (f : D → α × D) : Prop :=
  ∀ d d', I.Alike x d d' → (f d).1 = (f d').1 ∧ I.Alike x (f d).2 (f d').2 ∧ I.Moves x d (f d).2

variable {I x}

theorem Alike.symm {d d' : D} (h : I.Alike x d d') : I.Alike x d' d := ⟨h.right, h.left, h.view.symm⟩

theorem Alike.refl {d : D} (h : I.Holds d) : I.Alike x d d := ⟨h, h, rfl⟩

theorem Moves.refl {d : D} (h : I.Holds d) : I.Moves x d d := ⟨h, fun _ _ => rfl⟩

theorem Moves.trans {d e f : D} (h : I.Moves x d e) (h' : I.Moves x e f) : I.Moves x d f :=
  ⟨h'.holds, fun y hy => (h'.others y hy).trans (h.others y hy)⟩

/-- What another owner sees is not changed. -/
theorem Alike.moved {y : τ} {d d' e : D} (h : I.Alike x d d') (hmove : I.Moves y d e) (hy : x ≠ y) :
    I.Alike x e d' :=
  ⟨hmove.holds, h.right, (hmove.others x hy).trans h.view⟩

/-- A step that only reads the owner's part. -/
theorem Step.read {g : D → α} (h : ∀ d d', I.Alike x d d' → g d = g d') :
    I.Step x fun d => (g d, d) :=
  fun d d' hd => ⟨h d d' hd, hd, .refl hd.left⟩

/-- A step, its answer seen through a function. -/
theorem Step.map {f : D → α × D} (h : I.Step x f) (g : α → β) :
    I.Step x fun d => (g (f d).1, (f d).2) :=
  fun d d' hd => ⟨congrArg g (h d d' hd).1, (h d d' hd).2⟩

/-! ## Parts -/

/-- A part of a database that keeps the owners apart on its own. -/
structure Part (I : Isolation D τ) (J : Isolation D' τ) where
  get : D → D'
  set : D' → D → D
  alike_get : ∀ {x d d'}, I.Alike x d d' → J.Alike x (get d) (get d')
  alike_set : ∀ {x d d' e e'}, I.Alike x d d' → J.Alike x e e' → I.Alike x (set e d) (set e' d')
  moves_set : ∀ {x d e}, I.Holds d → J.Moves x (get d) e → I.Moves x d (set e d)

variable {J : Isolation D' τ}

/-- A step on a part. -/
theorem Part.step (p : Part I J) {f : D' → α × D'} (h : J.Step x f) :
    I.Step x fun d => ((f (p.get d)).1, p.set (f (p.get d)).2 d) := by
  intro d d' hd
  obtain ⟨hans, halike, hmove⟩ := h _ _ (p.alike_get hd)
  exact ⟨hans, p.alike_set hd halike, p.moves_set hd.left hmove⟩

/-! ## Transactions -/

variable (I x)

/-- What a statement of the owner comes to on two databases. -/
inductive Same (Q : α → Prop) (d d' : D) : Except ε (α × D) → Except ε (α × D) → Prop
  | raised (e : ε) : Same Q d d' (.error e) (.error e)
  | done {a : α} {e e' : D} : Q a → I.Alike x e e' → I.Moves x d e → I.Moves x d' e' →
      Same Q d d' (.ok (a, e)) (.ok (a, e'))

/-- What a transaction of the owner comes to on two databases. -/
inductive Ends (Q : α → Prop) (d d' : D) :
    Except ε (α × Connection D ε) → Except ε (α × Connection D ε) → Prop
  | raised (e : ε) : Ends Q d d' (.error e) (.error e)
  | done {a : α} {e e' : D} (faults : List (Option ε)) : Q a → I.Alike x e e' → I.Moves x d e →
      I.Moves x d' e' → Ends Q d d' (.ok (a, ⟨e, faults⟩)) (.ok (a, ⟨e', faults⟩))

/-- A transaction that the owner runs, whose result is `Q`. -/
def Isolated (t : Transaction D ε α) (Q : α → Prop) : Prop :=
  ∀ d d' faults, I.Alike x d d' → I.Ends x Q d d' (t ⟨d, faults⟩) (t ⟨d', faults⟩)

variable {I x} {Q : α → Prop} {R : β → Prop}

theorem isolated_pure {a : α} (h : Q a) : I.Isolated x (pure a : Transaction D ε α) Q :=
  fun _ _ faults hd => .done faults h hd (.refl hd.left) (.refl hd.right)

theorem isolated_compute {y : Except ε α} (h : ∀ a, y = .ok a → Q a) :
    I.Isolated x (Transaction.compute y : Transaction D ε α) Q := by
  intro d d' faults hd
  cases y with
  | error e => exact .raised e
  | ok a => exact .done faults (h a rfl) hd (.refl hd.left) (.refl hd.right)

theorem isolated_statement {f : D → Except ε (α × D)}
    (h : ∀ d d', I.Alike x d d' → I.Same x Q d d' (f d) (f d')) :
    I.Isolated x (Transaction.statement f) Q := by
  intro d d' faults hd
  unfold Transaction.statement
  cases faults.head?.join with
  | some e => exact .raised e
  | none =>
    have hsame := h d d' hd
    simp only
    generalize f d = y, f d' = y' at hsame
    cases hsame with
    | raised e => exact .raised e
    | done hq halike hmove hmove' => exact .done faults.tail hq halike hmove hmove'

/-- A statement that moves in a part. -/
theorem Part.done (p : Part I J) {a : α} {d d' : D} {e e' : D'} (h : I.Alike x d d') (hq : Q a)
    (halike : J.Alike x e e') (hmove : J.Moves x (p.get d) e) (hmove' : J.Moves x (p.get d') e') :
    I.Same x Q d d' (.ok (a, p.set e d) : Except ε _) (.ok (a, p.set e' d')) :=
  .done hq (p.alike_set h halike) (p.moves_set h.left hmove) (p.moves_set h.right hmove')

/-- A statement that only reads. -/
theorem Same.read {d d' : D} (h : I.Alike x d d') {y y' : Except ε α} (hy : y = y')
    (hQ : ∀ a, y = .ok a → Q a) :
    I.Same x Q d d' (y.map fun a => (a, d)) (y'.map fun a => (a, d')) := by
  subst hy
  cases y with
  | error e => exact .raised e
  | ok a => exact .done (hQ a rfl) h (.refl h.left) (.refl h.right)

theorem Isolated.bind {t : Transaction D ε α} {f : α → Transaction D ε β} (h : I.Isolated x t Q)
    (hf : ∀ a, Q a → I.Isolated x (f a) R) : I.Isolated x (t >>= f) R := by
  intro d d' faults hd
  change I.Ends x R d d' (t ⟨d, faults⟩ >>= fun r => f r.1 r.2) (t ⟨d', faults⟩ >>= fun r => f r.1 r.2)
  have hends := h d d' faults hd
  generalize t ⟨d, faults⟩ = y, t ⟨d', faults⟩ = y' at hends
  cases hends with
  | raised e => exact .raised e
  | @done a e e' faults' hq halike hmove hmove' =>
    change I.Ends x R d d' (f a ⟨e, faults'⟩) (f a ⟨e', faults'⟩)
    have hnext := hf a hq e e' faults' halike
    generalize f a ⟨e, faults'⟩ = z, f a ⟨e', faults'⟩ = z' at hnext
    cases hnext with
    | raised e => exact .raised e
    | done faults'' hr halike' hmoves hmoves' =>
      exact .done faults'' hr halike' (hmove.trans hmoves) (hmove'.trans hmoves')

/-- Committed, a transaction is a step of the owner. -/
theorem Isolated.commit {t : Transaction D ε α} (h : I.Isolated x t Q) (faults : List (Option ε)) :
    I.Step x fun d => t.commit ⟨d, faults⟩ := by
  intro d d' hd
  have hall : I.Isolated x (do let a ← t; Transaction.statement fun d => .ok ((), d); return a) Q :=
    h.bind fun a hq => (isolated_statement (Q := fun _ : Unit => True) fun e e' he =>
      .done trivial he (.refl he.left) (.refl he.right)).bind fun _ _ => isolated_pure hq
  have hends := hall d d' faults hd
  unfold Transaction.commit
  revert hends
  generalize (do let a ← t; Transaction.statement fun d => .ok ((), d); return a) = u
  intro hends
  simp only
  generalize u ⟨d, faults⟩ = y, u ⟨d', faults⟩ = y' at hends
  cases hends with
  | raised e => exact ⟨rfl, hd, .refl hd.left⟩
  | done _ _ halike hmove _ => exact ⟨rfl, halike, hmove⟩

end Isolation

end Tables
