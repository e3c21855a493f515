import AgencyRuntime.Effects.Service

/-!
# Programs inside programs

A program over some operations is part of a program over more of them (`Prog.lift`), may hand its
exception over as a value (`Prog.attempt`), and may be followed by a last step whatever it comes to
(`Prog.tryFinally`). Each has its rule for `Prog.Spec`.
-/

namespace Effects

/-- The operations of one signature among those of another. -/
structure Embedding (S S' : Sig) where
  op : S.Op → S'.Op
  ans : (o : S.Op) → S'.Ans (op o) → S.Ans o

namespace Prog

variable {S S' : Sig} {ε ε' α β : Type}
variable {P : Trace S → S.Op → Prop} {Q : Trace S → Except ε α → Prop}

/-- The program with its operations taken for those of the larger signature. -/
def lift (m : Embedding S S') : Prog S ε α → Prog S' ε α
  | ret a => ret a
  | raise e => raise e
  | op o k => op (m.op o) fun x => (k (m.ans o x)).lift m

/-- Run `p`, and hand over what it comes to. -/
def attempt : Prog S ε α → Prog S ε' (Except ε α)
  | ret a => ret (.ok a)
  | raise e => ret (.error e)
  | op o k => op o fun x => (k x).attempt

@[simp] theorem attempt_ret (a : α) :
    ((ret a : Prog S ε α).attempt : Prog S ε' (Except ε α)) = ret (.ok a) := rfl
@[simp] theorem attempt_raise (e : ε) :
    ((raise e : Prog S ε α).attempt : Prog S ε' (Except ε α)) = ret (.error e) := rfl
@[simp] theorem attempt_op (o : S.Op) (k : S.Ans o → Prog S ε α) :
    ((op o k).attempt : Prog S ε' (Except ε α)) = op o fun x => (k x).attempt := rfl

/-- An attempt never raises; what it hands over satisfies the postcondition. -/
@[simp] theorem Spec_attempt {Q : Trace S → Except ε' (Except ε α) → Prop} (p : Prog S ε α)
    (t : Trace S) : p.attempt.Spec P Q t ↔ p.Spec P (fun u r => Q u (.ok r)) t := by
  induction p generalizing t with
  | ret | raise => rfl
  | op o k ih => simp only [attempt_op, Spec_op, ih]

/-- The postcondition of the first part of a `tryFinally`. -/
def finallyPost (P : Trace S → S.Op → Prop) (Q : Trace S → Except ε α → Prop) (fin : Prog S ε Unit)
    (t : Trace S) (r : Except ε α) : Prop :=
  fin.Spec P (fun u s => Q u (s.bind fun _ => r)) t

@[simp] theorem Spec_tryFinally (p : Prog S ε α) (fin : Prog S ε Unit) (t : Trace S) :
    (p.tryFinally fin).Spec P Q t ↔ p.Spec P (finallyPost P Q fin) t := by
  have hend (r : Except ε α) (t : Trace S) :
      (fin.bind fun _ => ofExcept r).Spec P Q t ↔ finallyPost P Q fin t r := by
    rw [Spec_bind]
    refine ⟨fun h => h.mono (fun _ _ h => h) fun u s hs => ?_,
      fun h => h.mono (fun _ _ h => h) fun u s hs => ?_⟩
    · cases s with
      | error e => exact hs
      | ok _ => exact (Spec_ofExcept r u).1 hs
    · cases s with
      | error e => exact hs
      | ok _ => exact (Spec_ofExcept r u).2 hs
  induction p generalizing t with
  | ret a => exact hend (.ok a) t
  | raise e => exact hend (.error e) t
  | op o k ih => exact and_congr Iff.rfl (forall_congr' fun a => ih a _)

/-- A specification that does not look at the trace carries over to the larger signature, wherever
the program begins. -/
theorem Spec.lift {m : Embedding S S'} {P₀ : S.Op → Prop} {Q₀ : Except ε α → Prop}
    {P' : Trace S' → S'.Op → Prop} {Q' : Trace S' → Except ε α → Prop} {p : Prog S ε α}
    {u : Trace S} {t : Trace S'} (h : p.Spec (fun _ o => P₀ o) (fun _ r => Q₀ r) u)
    (hP : ∀ s o, P₀ o → P' (t ++ s) (m.op o)) (hQ : ∀ s r, Q₀ r → Q' (t ++ s) r) :
    (p.lift m).Spec P' Q' t := by
  induction p generalizing u t with
  | ret | raise =>
    have hend := hQ [] _ h
    rwa [List.append_nil] at hend
  | op o k ih =>
    have hfirst := hP [] o h.1
    rw [List.append_nil] at hfirst
    refine ⟨hfirst, fun x => ih (m.ans o x) (h.2 _) (fun s o ho => ?_) fun s r hr => ?_⟩
    · rw [List.append_assoc]
      exact hP _ o ho
    · rw [List.append_assoc]
      exact hQ _ r hr

/-- The same, for an operation or an end that follows only permitted operations of the program. -/
theorem Spec.lift_of {m : Embedding S S'} {P₀ : S.Op → Prop} {Q₀ : Except ε α → Prop}
    {P' : Trace S' → S'.Op → Prop} {Q' : Trace S' → Except ε α → Prop} {p : Prog S ε α}
    {u : Trace S} {t : Trace S'} (h : p.Spec (fun _ o => P₀ o) (fun _ r => Q₀ r) u)
    (hP : ∀ s o, (∀ e ∈ s, ∃ o', P₀ o' ∧ e.op = m.op o') → P₀ o → P' (t ++ s) (m.op o))
    (hQ : ∀ s r, (∀ e ∈ s, ∃ o', P₀ o' ∧ e.op = m.op o') → Q₀ r → Q' (t ++ s) r) :
    (p.lift m).Spec P' Q' t := by
  induction p generalizing u t with
  | ret | raise =>
    have hend := hQ [] _ (by simp) h
    rwa [List.append_nil] at hend
  | op o k ih =>
    have hfirst := hP [] o (by simp) h.1
    rw [List.append_nil] at hfirst
    refine ⟨hfirst, fun x => ih (m.ans o x) (h.2 _) (fun s o' hs ho => ?_) fun s r hs hr => ?_⟩
    · rw [List.append_assoc]
      exact hP _ o' (List.forall_mem_cons.2 ⟨⟨o, h.1, rfl⟩, hs⟩) ho
    · rw [List.append_assoc]
      exact hQ _ r (List.forall_mem_cons.2 ⟨⟨o, h.1, rfl⟩, hs⟩) hr

end Prog

end Effects
