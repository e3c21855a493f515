import AgencyRuntime.Effects.Prog

/-!
# Specifications over a program's own trace

`Prog.Spec P Q p t` says: when `p` runs after the trace `t`, every operation it performs satisfies
`P` at the trace so far, and when it returns or raises, `Q` holds of the whole trace and the
result. Nothing is assumed about the answers, so a specification holds whatever other programs do
to the shared state. It is defined by recursion on the program, and one rule for each way of
building a program carries it over `do` blocks.
-/

namespace Effects

namespace Prog

variable {S : Sig} {ε α β : Type}
variable {P P' : Trace S → S.Op → Prop} {Q Q' : Trace S → Except ε α → Prop}

/-- Every operation satisfies `P`, every result `Q`. -/
def Spec (P : Trace S → S.Op → Prop) (Q : Trace S → Except ε α → Prop) :
    Prog S ε α → Trace S → Prop
  | ret a, t => Q t (.ok a)
  | raise e, t => Q t (.error e)
  | op o k, t => P t o ∧ ∀ a, Spec P Q (k a) (t ++ [⟨o, a⟩])

/-- The postcondition of the first part of a `bind`. -/
def bindPost (P : Trace S → S.Op → Prop) (Q : Trace S → Except ε β → Prop)
    (f : α → Prog S ε β) (t : Trace S) : Except ε α → Prop
  | .ok a => (f a).Spec P Q t
  | .error e => Q t (.error e)

/-- The postcondition of the guarded part of a `tryCatch`. -/
def catchPost (P : Trace S → S.Op → Prop) (Q : Trace S → Except ε α → Prop)
    (h : ε → Prog S ε α) (t : Trace S) : Except ε α → Prop
  | .ok a => Q t (.ok a)
  | .error e => (h e).Spec P Q t

@[simp] theorem bindPost_ok {Q : Trace S → Except ε β → Prop} (f : α → Prog S ε β) (t : Trace S)
    (a : α) : bindPost P Q f t (.ok a) = (f a).Spec P Q t := rfl
@[simp] theorem bindPost_error {Q : Trace S → Except ε β → Prop} (f : α → Prog S ε β)
    (t : Trace S) (e : ε) : bindPost P Q f t (.error e) = Q t (.error e) := rfl
@[simp] theorem catchPost_ok (h : ε → Prog S ε α) (t : Trace S) (a : α) :
    catchPost P Q h t (.ok a) = Q t (.ok a) := rfl
@[simp] theorem catchPost_error (h : ε → Prog S ε α) (t : Trace S) (e : ε) :
    catchPost P Q h t (.error e) = (h e).Spec P Q t := rfl

@[simp] theorem Spec_ret (a : α) (t : Trace S) :
    (ret a : Prog S ε α).Spec P Q t ↔ Q t (.ok a) := Iff.rfl
@[simp] theorem Spec_raise (e : ε) (t : Trace S) :
    (raise e : Prog S ε α).Spec P Q t ↔ Q t (.error e) := Iff.rfl
@[simp] theorem Spec_op (o : S.Op) (k : S.Ans o → Prog S ε α) (t : Trace S) :
    (op o k).Spec P Q t ↔ P t o ∧ ∀ a, (k a).Spec P Q (t ++ [⟨o, a⟩]) := Iff.rfl

@[simp] theorem Spec_bind {Q : Trace S → Except ε β → Prop} (p : Prog S ε α)
    (f : α → Prog S ε β) (t : Trace S) :
    (p.bind f).Spec P Q t ↔ p.Spec P (bindPost P Q f) t := by
  induction p generalizing t with
  | ret | raise => rfl
  | op o k ih => simp only [op_bind, Spec_op, ih]

@[simp] theorem Spec_tryCatch (p : Prog S ε α) (h : ε → Prog S ε α) (t : Trace S) :
    (p.tryCatch h).Spec P Q t ↔ p.Spec P (catchPost P Q h) t := by
  induction p generalizing t with
  | ret | raise => rfl
  | op o k ih => simp only [op_tryCatch, Spec_op, ih]

@[simp] theorem Spec_perform {o : S.Op} {Q : Trace S → Except ε (S.Ans o) → Prop} (t : Trace S) :
    (perform o).Spec P Q t ↔ P t o ∧ ∀ a, Q (t ++ [⟨o, a⟩]) (.ok a) := Iff.rfl

@[simp] theorem Spec_ofExcept (x : Except ε α) (t : Trace S) :
    (ofExcept x).Spec P Q t ↔ Q t x := by
  cases x <;> rfl

@[simp] theorem Spec_raiseIf {Q : Trace S → Except ε Unit → Prop} (c : Prop) [Decidable c] (e : ε)
    (t : Trace S) :
    (raiseIf c e).Spec P Q t ↔ (c → Q t (.error e)) ∧ (¬ c → Q t (.ok ())) := by
  unfold raiseIf
  split <;> simp [*]

/-- A specification weakens. -/
theorem Spec.mono {p : Prog S ε α} {t : Trace S} (h : p.Spec P Q t)
    (hP : ∀ t o, P t o → P' t o) (hQ : ∀ t r, Q t r → Q' t r) : p.Spec P' Q' t := by
  induction p generalizing t with
  | ret | raise => exact hQ _ _ h
  | op o k ih => exact ⟨hP _ _ h.1, fun a => ih a (h.2 a)⟩

/-- A specification of the first part, with one of what follows each of its values, specifies a
`bind`. -/
theorem Spec.bind_of {Q' : Trace S → Except ε β → Prop} {p : Prog S ε α} {f : α → Prog S ε β}
    {t : Trace S} (h : p.Spec P Q t) (hok : ∀ u a, Q u (.ok a) → (f a).Spec P Q' u)
    (herr : ∀ u e, Q u (.error e) → Q' u (.error e)) : (p.bind f).Spec P Q' t := by
  rw [Spec_bind]
  refine h.mono (fun _ _ h => h) fun u r hr => ?_
  cases r with
  | ok a => exact hok u a hr
  | error e => exact herr u e hr

/-- A specification of the guarded part, with one of the handler at each exception, specifies a
`tryCatch`. -/
theorem Spec.tryCatch_of {p : Prog S ε α} {f : ε → Prog S ε α} {t : Trace S} (h : p.Spec P Q t)
    (hok : ∀ u a, Q u (.ok a) → Q' u (.ok a))
    (herr : ∀ u e, Q u (.error e) → (f e).Spec P Q' u) : (p.tryCatch f).Spec P Q' t := by
  rw [Spec_tryCatch]
  refine h.mono (fun _ _ h => h) fun u r hr => ?_
  cases r with
  | ok a => exact hok u a hr
  | error e => exact herr u e hr

/-- After a pure step the program goes on with its value, or ends with its exception. -/
theorem Spec_ofExcept_bind {Q : Trace S → Except ε β → Prop} (x : Except ε α)
    (f : α → Prog S ε β) (t : Trace S) :
    ((ofExcept x).bind f).Spec P Q t ↔
      (∀ e, x = .error e → Q t (.error e)) ∧ ∀ a, x = .ok a → (f a).Spec P Q t := by
  cases x <;> simp

/-- A specification over what a program does after `t` is one over the whole trace. -/
theorem Spec_append {p : Prog S ε α} (t u : Trace S) :
    p.Spec (fun s => P (t ++ s)) (fun s => Q (t ++ s)) u ↔ p.Spec P Q (t ++ u) := by
  induction p generalizing u with
  | ret | raise => rfl
  | op o k ih => simp only [Spec_op, ih, List.append_assoc]

/-- A specification from `t` is one of the program's own part of the trace. -/
theorem Spec_from {p : Prog S ε α} (t : Trace S) :
    p.Spec P Q t ↔ p.Spec (fun s => P (t ++ s)) (fun s => Q (t ++ s)) [] := by
  rw [Spec_append, List.append_nil]

/-- A program's own part of the trace carries its specification. -/
theorem Spec.shift {p : Prog S ε α} (h : p.Spec P Q []) (t : Trace S) :
    p.Spec (fun u o => ∃ s, u = t ++ s ∧ P s o) (fun u r => ∃ s, u = t ++ s ∧ Q s r) t := by
  rw [Spec_from]
  exact h.mono (fun s _ h => ⟨s, rfl, h⟩) fun s _ h => ⟨s, rfl, h⟩

/-- When a specified program is done, every event of it was permitted where it happened. -/
theorem Spec.permitted {p : Prog S ε α} {t : Trace S} (h : p.Spec P Q t) :
    p.Spec P (fun u r => Q u r ∧ ∃ s, u = t ++ s ∧ ∀ a e b, s = a ++ e :: b → P (t ++ a) e.op)
      t := by
  induction p generalizing t with
  | ret | raise => exact ⟨h, [], by simp, by simp⟩
  | op o k ih =>
    refine ⟨h.1, fun x => (ih x (h.2 x)).mono (fun _ _ h => h) ?_⟩
    rintro u r ⟨hQ, s, rfl, hs⟩
    refine ⟨hQ, ⟨o, x⟩ :: s, by simp, ?_⟩
    rintro (_ | ⟨e', a⟩) e b heq
    · cases heq
      simpa using h.1
    · cases heq
      simpa using hs a e b rfl

/-- Two specifications of one program hold together. -/
theorem Spec.and {p : Prog S ε α} {t : Trace S} (h : p.Spec P Q t) (h' : p.Spec P' Q' t) :
    p.Spec (fun t o => P t o ∧ P' t o) (fun t r => Q t r ∧ Q' t r) t := by
  induction p generalizing t with
  | ret | raise => exact ⟨h, h'⟩
  | op o k ih => exact ⟨⟨h.1, h'.1⟩, fun a => ih a (h.2 a) (h'.2 a)⟩

/-- What is left of a specified program is specified at the extended trace. -/
theorem Spec.path {p q : Prog S ε α} {t u : Trace S} (h : p.Spec P Q t) (hp : Path p u q) :
    q.Spec P Q (t ++ u) := by
  induction hp generalizing t with
  | nil => simpa using h
  | cons _ ih => simpa using ih (h.2 _)

/-- Every event on a path was permitted at the trace before it. -/
theorem Spec.path_op {p q : Prog S ε α} {t u v : Trace S} {e : Event S} (h : p.Spec P Q t)
    (hp : Path p (u ++ e :: v) q) : P (t ++ u) e.op := by
  obtain ⟨r, h1, h2⟩ := hp.append_inv
  have hr := h.path h1
  cases h2 with
  | cons _ => exact hr.1

end Prog

end Effects
