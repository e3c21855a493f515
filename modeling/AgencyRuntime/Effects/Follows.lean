import AgencyRuntime.Effects.Method

/-!
# Two methods side by side

`Follows Rel Val p q` says that whenever `p` returns, `q` returns from every related state, with a
related value and in a related state: nothing is said when `p` raises. It has a rule for each way of
building a method, so two runs of one piece of code are compared along the code.
-/

namespace Effects

namespace Method

variable {σ τ ε α β γ δ : Type} {Rel : σ → τ → Prop}

/-- Whenever `p` returns, so does `q`, with a related value and state. -/
def Follows (Rel : σ → τ → Prop) (Val : α → β → Prop) (p : Method σ ε α) (q : Method τ ε β) :
    Prop :=
  ∀ s t, Rel s t → ∀ a s', p s = (.ok a, s') → ∃ b t', q t = (.ok b, t') ∧ Val a b ∧ Rel s' t'

/-- A sequence returns when its parts do. -/
theorem bind_returns {p : Method σ ε α} {f : α → Method σ ε γ} {s s' : σ} {c : γ} :
    (p >>= f) s = (.ok c, s') ↔ ∃ a m, p s = (.ok a, m) ∧ f a m = (.ok c, s') := by
  change Method.bind p f s = _ ↔ _
  unfold Method.bind
  constructor
  · intro h
    generalize p s = r at h
    obtain ⟨x, m⟩ := r
    cases x with
    | error e => cases h
    | ok a => exact ⟨a, m, rfl, h⟩
  · rintro ⟨a, m, hp, hf⟩
    rw [hp]
    exact hf

theorem Follows.bind {V : α → β → Prop} {W : γ → δ → Prop} {p : Method σ ε α}
    {q : Method τ ε β} {f : α → Method σ ε γ} {g : β → Method τ ε δ} (h : Follows Rel V p q)
    (hf : ∀ a b, V a b → Follows Rel W (f a) (g b)) : Follows Rel W (p >>= f) (q >>= g) := by
  intro s t hst c s' hp
  obtain ⟨a, m, hpm, hfm⟩ := bind_returns.1 hp
  obtain ⟨b, n, hqn, hab, hmn⟩ := h s t hst a m hpm
  obtain ⟨d, t', hgn, hcd, hst'⟩ := hf a b hab m n hmn c s' hfm
  exact ⟨d, t', bind_returns.2 ⟨b, n, hqn, hgn⟩, hcd, hst'⟩

theorem Follows.pure {V : α → β → Prop} {a : α} {b : β} (h : V a b) :
    Follows Rel V (Pure.pure a : Method σ ε α) (Pure.pure b : Method τ ε β) := by
  intro s t hst a' s' hp
  cases hp
  exact ⟨b, t, rfl, h, hst⟩

/-- A method that raises is followed by anything. -/
theorem Follows.raise {V : α → β → Prop} {e : ε} {q : Method τ ε β} :
    Follows Rel V (Method.raise e : Method σ ε α) q := by
  intro s t _ a s' hp
  cases hp

/-- The same computation, and what follows its value. -/
theorem Follows.ofExcept {V : γ → δ → Prop} {x y : Except ε α} {f : α → Method σ ε γ}
    {g : α → Method τ ε δ} (hxy : y = x) (hf : ∀ a, x = .ok a → Follows Rel V (f a) (g a)) :
    Follows Rel V ((Method.ofExcept x : Method σ ε α) >>= f)
      ((Method.ofExcept y : Method τ ε α) >>= g) := by
  subst hxy
  intro s t hst c s' hp
  cases y with
  | error e => cases hp
  | ok a => exact hf a rfl s t hst c s' hp

/-- A computation at the end of a method. -/
theorem Follows.compute {V : α → β → Prop} {x : Except ε α} {y : Except ε β}
    (h : ∀ a, x = .ok a → ∃ b, y = .ok b ∧ V a b) :
    Follows Rel V (Method.ofExcept x : Method σ ε α) (Method.ofExcept y : Method τ ε β) := by
  intro s t hst a s' hp
  obtain ⟨hx, rfl⟩ := Prod.mk.inj hp
  obtain ⟨b, hy, hab⟩ := h a hx
  exact ⟨b, t, Prod.ext hy rfl, hab, hst⟩

/-- Values read off related states, which may change. -/
theorem Follows.update {V : γ → δ → Prop} {u : σ → α × σ} {v : τ → β × τ} {f : α → Method σ ε γ}
    {g : β → Method τ ε δ}
    (h : ∀ s t, Rel s t → Rel (u s).2 (v t).2 ∧ Follows Rel V (f (u s).1) (g (v t).1)) :
    Follows Rel V ((Method.update u : Method σ ε α) >>= f)
      ((Method.update v : Method τ ε β) >>= g) := by
  intro s t hst c s' hp
  obtain ⟨hrel, hf⟩ := h s t hst
  exact hf _ _ hrel c s' hp

/-- Changes that keep states related. -/
theorem Follows.change {V : γ → δ → Prop} {u : σ → σ} {v : τ → τ} {f : Unit → Method σ ε γ}
    {g : Unit → Method τ ε δ} (h : ∀ s t, Rel s t → Rel (u s) (v t))
    (hf : Follows Rel V (f ()) (g ())) :
    Follows Rel V ((Method.change u : Method σ ε Unit) >>= f)
      ((Method.change v : Method τ ε Unit) >>= g) :=
  fun s t hst => hf _ _ (h s t hst)

/-- Changes at the end of a method. -/
theorem Follows.changed {V : Unit → Unit → Prop} {u : σ → σ} {v : τ → τ}
    (h : ∀ s t, Rel s t → Rel (u s) (v t)) (hV : V () ()) :
    Follows Rel V (Method.change u : Method σ ε Unit) (Method.change v : Method τ ε Unit) := by
  intro s t hst a s' hp
  cases hp
  exact ⟨(), v t, rfl, hV, h s t hst⟩

end Method

end Effects
