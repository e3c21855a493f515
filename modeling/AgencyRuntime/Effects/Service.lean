import AgencyRuntime.Effects.Run

/-!
# Services

A service performs two kinds of operations. An outside operation (a clock, a network request, a
random token) is answered by whatever the outside says, and leaves the store alone. A store
operation is one transaction on the service's world. `Service.machine` puts the two together: the
input of a step is an oracle for the outside operations.
-/

namespace Effects

/-- Operations of either signature. -/
abbrev Sig.sum (Out St : Sig) : Sig where
  Op := Out.Op ⊕ St.Op
  Ans
    | .inl o => Out.Ans o
    | .inr o => St.Ans o

/-- An answer to every outside operation. -/
abbrev Oracle (Out : Sig) := (o : Out.Op) → Out.Ans o

/-- The transactions of a service, what a crash of a thread does to its world, and the changes that
come from elsewhere. -/
structure Service (St : Sig) (W E : Type) where
  run : Nat → (o : St.Op) → W → Option (St.Ans o × W)
  crash : Nat → W → W
  env : E → W → Option W

section
variable {Out St : Sig} {ε α W E : Type}

/-- Perform an outside operation. -/
def Prog.ask (o : Out.Op) : Prog (Out.sum St) ε (Out.Ans o) := .op (.inl o) .ret

/-- Perform a transaction. -/
def Prog.call (o : St.Op) : Prog (Out.sum St) ε (St.Ans o) := .op (.inr o) .ret

/-- The event of an outside operation. -/
abbrev Event.outside (o : Out.Op) (a : Out.Ans o) : Event (Out.sum St) := ⟨.inl o, a⟩

/-- The event of a transaction. -/
abbrev Event.store (o : St.Op) (a : St.Ans o) : Event (Out.sum St) := ⟨.inr o, a⟩

/-- The machine of a service. -/
def Service.machine (Out : Sig) (M : Service St W E) : Machine (Out.sum St) W (Oracle Out) E where
  exec i o oracle w :=
    match o with
    | .inl o => some (oracle o, w)
    | .inr o => M.run i o w
  crash := M.crash
  env := M.env

variable {M : Service St W E} {P : Trace (Out.sum St) → (Out.sum St).Op → Prop}

@[simp] theorem Prog.Spec_ask {o : Out.Op} {Q : Trace (Out.sum St) → Except ε (Out.Ans o) → Prop}
    (t : Trace (Out.sum St)) :
    (Prog.ask o).Spec P Q t ↔ P t (.inl o) ∧ ∀ a, Q (t ++ [.outside o a]) (.ok a) := Iff.rfl

/-- After a question the program goes on with any answer. -/
theorem Prog.Spec_ask_bind {o : Out.Op} {Q : Trace (Out.sum St) → Except ε α → Prop}
    (f : Out.Ans o → Prog (Out.sum St) ε α) (t : Trace (Out.sum St)) :
    ((Prog.ask o).bind f).Spec P Q t ↔
      P t (.inl o) ∧ ∀ a, (f a).Spec P Q (t ++ [.outside o a]) := Iff.rfl

/-- After a transaction the program goes on with any answer. -/
theorem Prog.Spec_call_bind {o : St.Op} {Q : Trace (Out.sum St) → Except ε α → Prop}
    (f : St.Ans o → Prog (Out.sum St) ε α) (t : Trace (Out.sum St)) :
    ((Prog.call o).bind f).Spec P Q t ↔
      P t (.inr o) ∧ ∀ a, (f a).Spec P Q (t ++ [.store o a]) := Iff.rfl

@[simp] theorem Prog.Spec_call {o : St.Op} {Q : Trace (Out.sum St) → Except ε (St.Ans o) → Prop}
    (t : Trace (Out.sum St)) :
    (Prog.call o).Spec P Q t ↔ P t (.inr o) ∧ ∀ a, Q (t ++ [.store o a]) (.ok a) := Iff.rfl

/-- The induction over the runs of a service: `I` of the log and the world holds at the start, no
outside operation breaks it, and every permitted transaction, crash and change from elsewhere keeps
it. -/
theorem Service.invariant {I : Log (Out.sum St) E → W → Prop}
    {P : Nat → Trace (Out.sum St) → (Out.sum St).Op → Prop}
    {Q : Nat → Trace (Out.sum St) → Except ε α → Prop} {w₀ : W}
    {prog : Nat → Prog (Out.sum St) ε α} {L : Log (Out.sum St) E}
    {c : Config (Out.sum St) ε α W}
    (h : Steps (M.machine Out) (.start w₀ prog) L c) (hs : ∀ i, (prog i).Spec (P i) (Q i) [])
    (h0 : I [] w₀)
    (hask : ∀ L w i o a, I L w → P i (L.trace i) (.inl o) →
      I (L ++ [.act i (.outside o a)]) w)
    (hcall : ∀ L w i o a w', I L w → P i (L.trace i) (.inr o) → M.run i o w = some (a, w') →
      I (L ++ [.act i (.store o a)]) w')
    (hcrash : ∀ L w i, I L w → I (L ++ [.crash i]) (M.crash i w))
    (henv : ∀ L w x w', I L w → M.env x w = some w' → I (L ++ [.env x]) w') :
    I L c.world := by
  refine Steps.invariant h hs h0 ?_ hcrash henv
  rintro L w i (o | o) oracle a w' hI hP hex
  · cases hex
    exact hask L w i o _ hI hP
  · exact hcall L w i o a w' hI hP hex

/-- A program that runs alone from start to end: transactions act on the world, outside operations
are answered by the oracle. -/
def Prog.eval (run : (o : St.Op) → W → St.Ans o × W) (oracle : Oracle Out) :
    Prog (Out.sum St) ε α → W → Except ε α × W
  | .ret a, w => (.ok a, w)
  | .raise e, w => (.error e, w)
  | .op (.inl o) k, w => (k (oracle o)).eval run oracle w
  | .op (.inr o) k, w => (k (run o w).1).eval run oracle (run o w).2

section
variable {β : Type} {run : (o : St.Op) → W → St.Ans o × W} {oracle : Oracle Out}

@[simp] theorem Prog.eval_ret (a : α) (w : W) :
    (Prog.ret a : Prog (Out.sum St) ε α).eval run oracle w = (.ok a, w) := rfl

@[simp] theorem Prog.eval_raise (e : ε) (w : W) :
    (Prog.raise e : Prog (Out.sum St) ε α).eval run oracle w = (.error e, w) := rfl

@[simp] theorem Prog.eval_ask (o : Out.Op) (f : Out.Ans o → Prog (Out.sum St) ε α) (w : W) :
    ((Prog.ask o).bind f).eval run oracle w = (f (oracle o)).eval run oracle w := rfl

@[simp] theorem Prog.eval_call (o : St.Op) (f : St.Ans o → Prog (Out.sum St) ε α) (w : W) :
    ((Prog.call o).bind f).eval run oracle w = (f (run o w).1).eval run oracle (run o w).2 := rfl

@[simp] theorem Prog.eval_ofExcept (x : Except ε α) (w : W) :
    (Prog.ofExcept x : Prog (Out.sum St) ε α).eval run oracle w = (x, w) := by
  cases x <;> rfl

/-- A sequence runs its second part where the first one left the world. -/
theorem Prog.eval_bind (p : Prog (Out.sum St) ε α) (f : α → Prog (Out.sum St) ε β) (w : W) :
    (p.bind f).eval run oracle w = match p.eval run oracle w with
      | (.ok a, w') => (f a).eval run oracle w'
      | (.error e, w') => (.error e, w') := by
  induction p generalizing w with
  | ret | raise => rfl
  | op o k ih =>
    cases o with
    | inl o => exact ih _ w
    | inr o => exact ih _ _

/-- A specified program that only asks the outside leaves the world alone, and its result is
specified. -/
theorem Prog.eval_outside {p : Prog (Out.sum St) ε α} {t : Trace (Out.sum St)}
    {Q : Trace (Out.sum St) → Except ε α → Prop} (h : p.Spec (fun _ o => ∃ o', o = Sum.inl o') Q t)
    (w : W) : ∃ u r, p.eval run oracle w = (r, w) ∧ Q u r := by
  induction p generalizing t with
  | ret a => exact ⟨t, .ok a, rfl, h⟩
  | raise e => exact ⟨t, .error e, rfl, h⟩
  | op o k ih =>
    cases o with
    | inl o => exact ih (oracle o) (h.2 (oracle o))
    | inr o =>
      obtain ⟨_, h⟩ := h.1
      cases h

/-- What every transaction keeps, a program keeps. -/
theorem Prog.eval_invariant {I : W → Prop} (h : ∀ o w, I w → I (run o w).2)
    (p : Prog (Out.sum St) ε α) {w : W} (hw : I w) : I (p.eval run oracle w).2 := by
  induction p generalizing w with
  | ret | raise => exact hw
  | op o k ih =>
    cases o with
    | inl o => exact ih _ hw
    | inr o => exact ih _ (h o w hw)

/-- A program that runs alone ends with a result and a world that satisfy `Q`. -/
def Prog.Ends (run : (o : St.Op) → W → St.Ans o × W) (oracle : Oracle Out)
    (p : Prog (Out.sum St) ε α) (w : W) (Q : Except ε α → W → Prop) : Prop :=
  Q (p.eval run oracle w).1 (p.eval run oracle w).2

section
variable {w : W} {Q : Except ε α → W → Prop}

theorem Prog.Ends.ask {o : Out.Op} {f : Out.Ans o → Prog (Out.sum St) ε α}
    (h : (f (oracle o)).Ends run oracle w Q) : ((Prog.ask o).bind f).Ends run oracle w Q := h

theorem Prog.Ends.call {o : St.Op} {f : St.Ans o → Prog (Out.sum St) ε α}
    (h : (f (run o w).1).Ends run oracle (run o w).2 Q) :
    ((Prog.call o).bind f).Ends run oracle w Q := h

/-- After a pure step the program ends with its exception, or goes on with its value. -/
theorem Prog.Ends.ofExcept {x : Except ε β} {f : β → Prog (Out.sum St) ε α}
    (herr : ∀ e, x = .error e → Q (.error e) w)
    (hok : ∀ b, x = .ok b → (f b).Ends run oracle w Q) :
    ((Prog.ofExcept x).bind f).Ends run oracle w Q := by
  cases x with
  | error e => exact herr e rfl
  | ok b => exact hok b rfl

/-- After a pure step that succeeds the program goes on. -/
theorem Prog.Ends.ofExcept_ok {x : Except ε β} {b : β} {f : β → Prog (Out.sum St) ε α}
    (hx : x = .ok b) (h : (f b).Ends run oracle w Q) :
    ((Prog.ofExcept x).bind f).Ends run oracle w Q := by
  subst hx
  exact h

/-- A sequence ends where its second part ends. -/
theorem Prog.Ends.bind {p : Prog (Out.sum St) ε β} {f : β → Prog (Out.sum St) ε α}
    {R : Except ε β → W → Prop} (h : p.Ends run oracle w R)
    (herr : ∀ e w', R (.error e) w' → Q (.error e) w')
    (hok : ∀ b w', R (.ok b) w' → (f b).Ends run oracle w' Q) :
    (p.bind f).Ends run oracle w Q := by
  unfold Prog.Ends at h ⊢
  rw [Prog.eval_bind]
  generalize p.eval run oracle w = r at h
  obtain ⟨x, w'⟩ := r
  cases x with
  | error e => exact herr e w' h
  | ok b => exact hok b w' h

/-- A program whose transactions only read leaves the world alone. -/
theorem Prog.Ends.of_reads {p : Prog (Out.sum St) ε α} {t : Trace (Out.sum St)}
    (h : p.Spec (fun _ o => ∀ o', o = Sum.inr o' → ∀ w, (run o' w).2 = w) (fun _ _ => True) t) :
    p.Ends run oracle w fun _ w' => w' = w := by
  induction p generalizing t w with
  | ret | raise => rfl
  | op o k ih =>
    cases o with
    | inl o => exact ih (oracle o) (h.2 (oracle o))
    | inr o =>
      have hrest : ((k (run o w).1).eval run oracle (run o w).2).2 = (run o w).2 :=
        ih (run o w).1 (h.2 _)
      exact hrest.trans (h.1 o rfl w)

end

end

end

end Effects
