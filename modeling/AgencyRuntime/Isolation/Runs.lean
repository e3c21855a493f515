import AgencyRuntime.Effects.Service
import AgencyRuntime.Isolation.Transactions

/-!
# Isolated runs

Threads that work for different owners over one service. When every transaction is an isolated step
of the owner it is issued for, an owner cannot tell a run from the run in which only its own threads
take their steps, with the same answers (`Service.Isolates.erase`); the other threads may even be
others, and the rows of the other owners others as well.
-/

namespace Effects

open Tables

variable {Out St : Sig} {ε α W E τ : Type}

/-- The entry is of a thread of the owner. -/
def Entry.isOf {S : Sig} [DecidableEq τ] (owner : Nat → τ) (x : τ) : Entry S E → Bool
  | .act i _ | .crash i => decide (owner i = x)
  | .env _ => false

/-- What is left of a log when only the threads of the owner take steps. -/
def Log.only {S : Sig} [DecidableEq τ] (owner : Nat → τ) (x : τ) (L : Log S E) : Log S E :=
  L.filter (Entry.isOf owner x)

/-- The threads of the owner do what they did. -/
theorem Log.trace_only {S : Sig} [DecidableEq τ] {owner : Nat → τ} {x : τ} {i : Nat}
    (hi : owner i = x) (L : Log S E) : (L.only owner x).trace i = L.trace i := by
  induction L with
  | nil => rfl
  | cons e L ih =>
    cases e with
    | act j e =>
      by_cases hj : owner j = x
      · rw [only, List.filter_cons_of_pos (by rw [Entry.isOf, decide_eq_true hj])]
        change Log.trace ([_] ++ Log.only owner x L) i = Log.trace ([_] ++ L) i
        rw [Log.trace_append, Log.trace_append, ih]
      · have hne : j ≠ i := fun h => hj (h ▸ hi)
        rw [only, List.filter_cons_of_neg (by simp [Entry.isOf, hj])]
        change Log.trace (Log.only owner x L) i = Log.trace ([_] ++ L) i
        rw [Log.trace_append, Log.trace_act_ne hne, ih]
        rfl
    | crash j =>
      change Log.trace (only owner x (_ :: L)) i = Log.trace L i
      rw [only, List.filter_cons]
      split
      · exact ih
      · exact ih
    | env e => exact ih

/-- Every transaction is an isolated step of the owner it is issued for, and nothing else changes
the world. -/
structure Service.Isolates (M : Service St W E) (I : Isolation W τ)
    (Issued : τ → St.Op → Prop) : Prop where
  step : ∀ i x o, Issued x o →
    ∃ f : W → St.Ans o × W, (∀ w, M.run i o w = some (f w)) ∧ I.Step x f
  crash : ∀ i w, M.crash i w = w
  env : ∀ e w, M.env e w = none

/-- The operation is issued for the owner. -/
def IssuedFor (Issued : τ → St.Op → Prop) (x : τ) : (Out.sum St).Op → Prop
  | .inl _ => True
  | .inr o => Issued x o

/-- A run, with the steps of the other owners erased. -/
theorem Service.Isolates.erase [DecidableEq τ] {M : Service St W E} {I : Isolation W τ}
    {Issued : τ → St.Op → Prop} (hM : M.Isolates I Issued) {owner : Nat → τ} {x : τ}
    {prog prog' : Nat → Prog (Out.sum St) ε α} {w w' : W} {L : Log (Out.sum St) E}
    {c : Config (Out.sum St) ε α W} (h : Steps (M.machine Out) (.start w prog) L c)
    (hprog : ∀ i, (prog i).Spec (fun _ o => IssuedFor Issued (owner i) o) (fun _ _ => True) [])
    (hsame : ∀ i, owner i = x → prog' i = prog i) (hw : I.Alike x w w') :
    ∃ c', Steps (M.machine Out) (.start w' prog') (L.only owner x) c' ∧
      I.Alike x c.world c'.world ∧
      ∀ i, owner i = x → c'.thread i = c.thread i ∧ c'.dead i = c.dead i := by
  induction h with
  | refl => exact ⟨_, .refl, hw, fun i hi => ⟨hsame i hi, rfl⟩⟩
  | @snoc d e L entry hsteps hstep ih =>
    obtain ⟨d', hsteps', halike, hthreads⟩ := ih
    have honly (entry : Entry (Out.sum St) E) :
        (L ++ [entry]).only owner x = L.only owner x ++ if entry.isOf owner x then [entry] else [] := by
      rw [Log.only, List.filter_append, ← Log.only]
      congr 1
      cases hentry : entry.isOf owner x <;> simp [hentry]
    have hissued := Steps.snoc hsteps hstep
    cases hstep with
    | @act i o k oracle a v hlive hop hexec =>
      have hfor : IssuedFor Issued (owner i) o := Steps.spec_last hissued (hprog i)
      -- An outside operation leaves the world; a transaction is a step of its owner.
      obtain ⟨f, hf, hiso⟩ : ∃ f : W → (Out.sum St).Ans o × W,
          (∀ u, (M.machine Out).exec i o oracle u = some (f u)) ∧ I.Step (owner i) f := by
        cases o with
        | inl o => exact ⟨fun u => (oracle o, u), fun _ => rfl, .read fun _ _ _ => rfl⟩
        | inr o => exact hM.step i (owner i) o hfor
      have hav : f d.world = (a, v) := Option.some.inj ((hf d.world).symm.trans hexec)
      rw [honly]
      by_cases hi : owner i = x
      · obtain ⟨hans, hnext, -⟩ := hi ▸ hiso d.world d'.world (hi ▸ halike)
        rw [hav] at hans hnext
        obtain ⟨hthread, hdead⟩ := hthreads i hi
        rw [if_pos (by rw [Entry.isOf, decide_eq_true hi])]
        have hexec' : (M.machine Out).exec i o oracle d'.world = some (a, (f d'.world).2) := by
          rw [hf]
          exact congrArg some (Prod.ext hans.symm rfl)
        refine ⟨_, hsteps'.snoc (.act (hdead.trans hlive) (hthread.trans hop) hexec'), hnext,
          fun j hj => ?_⟩
        · obtain ⟨hthread, hdead⟩ := hthreads j hj
          refine ⟨?_, hdead⟩
          by_cases hji : j = i
          · subst hji
            simp
          · simp [Function.update_of_ne hji, hthread]
      · obtain ⟨-, -, hmove⟩ := hiso d.world d.world (.refl halike.left)
        rw [hav] at hmove
        rw [if_neg (by simp [Entry.isOf, hi]), List.append_nil]
        refine ⟨d', hsteps', halike.moved hmove fun h => hi h.symm, fun j hj => ?_⟩
        have hji : j ≠ i := fun h => hi (h ▸ hj)
        simpa [Function.update_of_ne hji] using hthreads j hj
    | @crash i hlive =>
      rw [honly]
      by_cases hi : owner i = x
      · rw [if_pos (by rw [Entry.isOf, decide_eq_true hi])]
        refine ⟨_, hsteps'.snoc (.crash ((hthreads i hi).2.trans hlive)), ?_, fun j hj => ?_⟩
        · change I.Alike x (M.crash i d.world) (M.crash i d'.world)
          rwa [hM.crash, hM.crash]
        · obtain ⟨hthread, hdead⟩ := hthreads j hj
          refine ⟨hthread, ?_⟩
          by_cases hji : j = i
          · subst hji
            simp
          · simp [Function.update_of_ne hji, hdead]
      · rw [if_neg (by simp [Entry.isOf, hi]), List.append_nil]
        refine ⟨d', hsteps', ?_, fun j hj => ?_⟩
        · change I.Alike x (M.crash i d.world) d'.world
          rwa [hM.crash]
        · have hji : j ≠ i := fun h => hi (h ▸ hj)
          simpa [Function.update_of_ne hji] using hthreads j hj
    | @env v _ henv =>
      have hnone := hM.env v d.world
      change M.env v d.world = some _ at henv
      rw [hnone] at henv
      cases henv

end Effects
