import Mathlib.Logic.Function.Basic

/-!
# Effect programs

A program that runs against shared state is a tree: it returns, raises, or performs one atomic
operation and goes on with the answer. `Prog S ε α` is that tree over an effect signature `S`; its
`bind` and `tryCatch` are structural, so a program written in `do` notation is a value whose next
operation can be read off. `Prog.Path` is the relation between a program, the operations it has
performed with their answers, and what is left of it.
-/

namespace Effects

/-- An effect signature: the atomic operations, each with the type of its answers. -/
structure Sig where
  Op : Type
  Ans : Op → Type

/-- A program over the signature `S` that raises `ε` or returns `α`. -/
inductive Prog (S : Sig) (ε α : Type) : Type
  | ret (a : α)
  | raise (e : ε)
  | op (o : S.Op) (k : S.Ans o → Prog S ε α)

/-- An operation together with the answer it was given. -/
structure Event (S : Sig) where
  op : S.Op
  ans : S.Ans op

/-- What one program has done so far, oldest event first. -/
abbrev Trace (S : Sig) := List (Event S)

/-- A trace splits in one way at its first event of a kind. -/
theorem Trace.split_unique {S : Sig} {kind : Event S → Prop} {a b s u : Trace S} {x y : Event S}
    (ha : ∀ e ∈ a, ¬ kind e) (hb : ∀ e ∈ b, ¬ kind e) (hx : kind x) (hy : kind y)
    (h : a ++ x :: s = b ++ y :: u) : a = b ∧ x = y ∧ s = u := by
  induction a generalizing b with
  | nil =>
    cases b with
    | nil =>
      obtain ⟨rfl, rfl⟩ := List.cons.inj h
      exact ⟨rfl, rfl, rfl⟩
    | cons z b =>
      obtain ⟨rfl, -⟩ := List.cons.inj h
      exact absurd hx (hb x List.mem_cons_self)
  | cons z a ih =>
    cases b with
    | nil =>
      obtain ⟨rfl, -⟩ := List.cons.inj h
      exact absurd hy (ha z List.mem_cons_self)
    | cons w b =>
      obtain ⟨rfl, htail⟩ := List.cons.inj h
      obtain ⟨rfl, hrest⟩ := ih (fun e he => ha e (List.mem_cons_of_mem z he))
        (fun e he => hb e (List.mem_cons_of_mem z he)) htail
      exact ⟨rfl, hrest⟩

namespace Prog

variable {S : Sig} {ε α β γ : Type}

/-- Run `p`, then `f` on its value. -/
def bind : Prog S ε α → (α → Prog S ε β) → Prog S ε β
  | ret a, f => f a
  | raise e, _ => raise e
  | op o k, f => op o fun x => (k x).bind f

/-- Run `p`, and `h` on the exception if `p` raises. -/
def tryCatch : Prog S ε α → (ε → Prog S ε α) → Prog S ε α
  | ret a, _ => ret a
  | raise e, h => h e
  | op o k, h => op o fun x => (k x).tryCatch h

/-- Run `p`, then `fin` whether `p` returned or raised; an exception of `fin` wins. -/
def tryFinally : Prog S ε α → Prog S ε Unit → Prog S ε α
  | ret a, fin => fin.bind fun _ => ret a
  | raise e, fin => fin.bind fun _ => raise e
  | op o k, fin => op o fun x => (k x).tryFinally fin

instance : Monad (Prog S ε) where
  pure := ret
  bind := bind

instance : MonadExceptOf ε (Prog S ε) where
  throw := raise
  tryCatch := tryCatch

/-- Perform one operation and return its answer. -/
def perform (o : S.Op) : Prog S ε (S.Ans o) := op o ret

/-- A pure computation that may raise. -/
def ofExcept : Except ε α → Prog S ε α
  | .ok a => ret a
  | .error e => raise e

/-- Raise `e` when the condition holds. -/
def raiseIf (c : Prop) [Decidable c] (e : ε) : Prog S ε Unit :=
  if c then raise e else ret ()

/-- The program is over. -/
def Done (p : Prog S ε α) : Prop := ∃ r, p = ofExcept r

instance : (p : Prog S ε α) → Decidable p.Done
  | ret a => isTrue ⟨.ok a, rfl⟩
  | raise e => isTrue ⟨.error e, rfl⟩
  | op _ _ => isFalse fun ⟨r, h⟩ => by cases r <;> cases h

@[simp] theorem pure_eq (a : α) : (pure a : Prog S ε α) = ret a := rfl
@[simp] theorem bind_eq (p : Prog S ε α) (f : α → Prog S ε β) : (p >>= f) = p.bind f := rfl
@[simp] theorem ret_bind (a : α) (f : α → Prog S ε β) : (ret a : Prog S ε α).bind f = f a := rfl
@[simp] theorem raise_bind (e : ε) (f : α → Prog S ε β) :
    (raise e : Prog S ε α).bind f = raise e := rfl
@[simp] theorem op_bind (o : S.Op) (k : S.Ans o → Prog S ε α) (f : α → Prog S ε β) :
    (op o k).bind f = op o fun x => (k x).bind f := rfl
@[simp] theorem ret_tryCatch (a : α) (h : ε → Prog S ε α) :
    (ret a : Prog S ε α).tryCatch h = ret a := rfl
@[simp] theorem raise_tryCatch (e : ε) (h : ε → Prog S ε α) :
    (raise e : Prog S ε α).tryCatch h = h e := rfl
@[simp] theorem op_tryCatch (o : S.Op) (k : S.Ans o → Prog S ε α) (h : ε → Prog S ε α) :
    (op o k).tryCatch h = op o fun x => (k x).tryCatch h := rfl
@[simp] theorem ofExcept_ok (a : α) : (ofExcept (.ok a) : Prog S ε α) = ret a := rfl
@[simp] theorem ofExcept_error (e : ε) : (ofExcept (.error e) : Prog S ε α) = raise e := rfl

/-- `p` performs exactly the events of the trace, in order, and `q` is what is left. -/
inductive Path : Prog S ε α → Trace S → Prog S ε α → Prop
  | nil {p : Prog S ε α} : Path p [] p
  | cons {o : S.Op} {k : S.Ans o → Prog S ε α} {a : S.Ans o} {t : Trace S} {q : Prog S ε α} :
      Path (k a) t q → Path (op o k) (⟨o, a⟩ :: t) q

/-- A path extends by the next operation of what is left. -/
theorem Path.snoc {p : Prog S ε α} {t : Trace S} {o : S.Op} {k : S.Ans o → Prog S ε α}
    (h : Path p t (op o k)) (a : S.Ans o) : Path p (t ++ [⟨o, a⟩]) (k a) := by
  generalize hq : op o k = q at h
  induction h with
  | nil => subst hq; exact .cons .nil
  | cons _ ih => exact .cons (ih hq)

/-- A path through `t ++ u` passes the program reached after `t`. -/
theorem Path.append_inv {p q : Prog S ε α} {t u : Trace S} (h : Path p (t ++ u) q) :
    ∃ r, Path p t r ∧ Path r u q := by
  induction t generalizing p with
  | nil => exact ⟨p, .nil, h⟩
  | cons e t ih =>
    cases h with
    | cons h =>
      obtain ⟨r, h1, h2⟩ := ih h
      exact ⟨r, .cons h1, h2⟩

/-- A program that is over does nothing. -/
theorem Path.of_ofExcept {r : Except ε α} {t : Trace S} {q : Prog S ε α}
    (h : Path (ofExcept r) t q) : t = [] ∧ q = ofExcept r := by
  generalize hp : ofExcept r = p at h
  cases h with
  | nil => exact ⟨rfl, rfl⟩
  | cons => cases r <;> cases hp

/-- A program that came to its end has performed its first operation. -/
theorem Path.op_done {o : S.Op} {k : S.Ans o → Prog S ε α} {t : Trace S} {q : Prog S ε α}
    (h : Path (op o k) t q) (hq : q.Done) : ∃ a u, t = ⟨o, a⟩ :: u ∧ Path (k a) u q := by
  generalize hp : op o k = p at h
  cases h with
  | nil =>
    obtain ⟨r, rfl⟩ := hq
    cases r <;> cases hp
  | cons h =>
    cases hp
    exact ⟨_, _, rfl, h⟩

end Prog

end Effects
