/-!
# Methods

A method of an object reads and changes the object's state, and returns or raises; what it changed
before it raised stays. `Method.Ends p s Q` says that `Q` holds of the result and the state in which
`p` ends from `s`, and has a rule for each way of building a method.
-/

namespace Effects

/-- A method on states `σ` that raises `ε` or returns `α`. -/
def Method (σ ε α : Type) : Type := σ → Except ε α × σ

namespace Method

variable {σ ε α β : Type}

/-- Return a value. -/
def ret (a : α) : Method σ ε α := fun s => (.ok a, s)

/-- Run `p`, then `f` on its value. -/
def bind (p : Method σ ε α) (f : α → Method σ ε β) : Method σ ε β := fun s =>
  match p s with
  | (.ok a, s') => f a s'
  | (.error e, s') => (.error e, s')

instance : Monad (Method σ ε) where
  pure := ret
  bind := bind

/-- Raise an exception. -/
def raise (e : ε) : Method σ ε α := fun s => (.error e, s)

/-- Raise `e` when the condition holds. -/
def raiseIf (c : Prop) [Decidable c] (e : ε) : Method σ ε Unit := if c then raise e else ret ()

/-- A computation that may raise. -/
def ofExcept (x : Except ε α) : Method σ ε α := fun s => (x, s)

/-- The state. -/
def read : Method σ ε σ := fun s => (.ok s, s)

/-- Change the state. -/
def change (f : σ → σ) : Method σ ε Unit := fun s => (.ok (), f s)

/-- Change the state and return a value read off it. -/
def update (f : σ → α × σ) : Method σ ε α := fun s => (.ok (f s).1, (f s).2)

/-- From `s` the method ends with a result and a state that satisfy `Q`. -/
def Ends (p : Method σ ε α) (s : σ) (Q : Except ε α → σ → Prop) : Prop := Q (p s).1 (p s).2

variable {s : σ} {Q Q' : Except ε α → σ → Prop}

theorem Ends.mono {p : Method σ ε α} (h : p.Ends s Q) (hQ : ∀ r t, Q r t → Q' r t) :
    p.Ends s Q' :=
  hQ _ _ h

@[simp] theorem ends_pure {a : α} : (pure a : Method σ ε α).Ends s Q ↔ Q (.ok a) s := Iff.rfl

@[simp] theorem ends_raise {e : ε} : (raise e : Method σ ε α).Ends s Q ↔ Q (.error e) s := Iff.rfl

@[simp] theorem ends_ofExcept {x : Except ε α} : (ofExcept x).Ends s Q ↔ Q x s := Iff.rfl

@[simp] theorem ends_change {f : σ → σ} {Q : Except ε Unit → σ → Prop} :
    (change f).Ends s Q ↔ Q (.ok ()) (f s) := Iff.rfl

/-- A sequence ends where its second part ends. -/
theorem Ends.bind {p : Method σ ε β} {f : β → Method σ ε α} {R : Except ε β → σ → Prop}
    (h : p.Ends s R) (herr : ∀ e t, R (.error e) t → Q (.error e) t)
    (hok : ∀ b t, R (.ok b) t → (f b).Ends t Q) : (p >>= f).Ends s Q := by
  unfold Ends at h ⊢
  change Q (Method.bind p f s).1 (Method.bind p f s).2
  unfold Method.bind
  generalize p s = r at h
  obtain ⟨x, t⟩ := r
  cases x with
  | error e => exact herr e t h
  | ok b => exact hok b t h

section
variable {f : β → Method σ ε α}

theorem Ends.read {g : σ → Method σ ε α} (h : (g s).Ends s Q) :
    ((Method.read : Method σ ε σ) >>= g).Ends s Q := h

theorem Ends.change {g : σ → σ} {k : Unit → Method σ ε α} (h : (k ()).Ends (g s) Q) :
    ((Method.change g : Method σ ε Unit) >>= k).Ends s Q := h

theorem Ends.update {g : σ → β × σ} (h : (f (g s).1).Ends (g s).2 Q) :
    ((Method.update g : Method σ ε β) >>= f).Ends s Q := h

/-- After a computation the method ends with its exception, or goes on with its value. -/
theorem Ends.ofExcept {x : Except ε β} (herr : ∀ e, x = .error e → Q (.error e) s)
    (hok : ∀ b, x = .ok b → (f b).Ends s Q) :
    ((Method.ofExcept x : Method σ ε β) >>= f).Ends s Q := by
  cases x with
  | error e => exact herr e rfl
  | ok b => exact hok b rfl

/-- A check ends the method, or lets it go on. -/
theorem Ends.raiseIf {c : Prop} [Decidable c] {e : ε} {k : Unit → Method σ ε α}
    (herr : c → Q (.error e) s) (hok : ¬ c → (k ()).Ends s Q) :
    ((Method.raiseIf c e : Method σ ε Unit) >>= k).Ends s Q := by
  unfold Method.raiseIf
  split
  · next h => exact herr h
  · next h => exact hok h

end

end Method

end Effects
