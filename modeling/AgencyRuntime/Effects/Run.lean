import AgencyRuntime.Effects.Spec
import Mathlib.Data.List.Basic

/-!
# Interleaved runs

A `Machine` gives the atomic meaning of the operations of a signature on a shared world. A
configuration holds the world and one program for each thread number, so any number of programs
may be under way. A step lets one live thread perform its next operation, lets a thread crash for
good, or changes the world from outside. `Steps` records what happened as a log; the log of a run,
restricted to one thread, is a path of that thread's program, so what `Prog.Spec` says of a program
holds in every interleaving. `Steps.invariant` is the one induction over runs.
-/

namespace Effects

/-- The atomic meaning of a signature on worlds `W`. The input resolves what the world does not
determine (a reply from outside, a clock value); `none` means that the operation cannot take
place now with that input. -/
structure Machine (S : Sig) (W In E : Type) where
  exec : Nat → (o : S.Op) → In → W → Option (S.Ans o × W)
  crash : Nat → W → W
  env : E → W → Option W

/-- One entry of a log. -/
inductive Entry (S : Sig) (E : Type)
  | act (i : Nat) (e : Event S)
  | crash (i : Nat)
  | env (x : E)

/-- The log of a run, oldest entry first. -/
abbrev Log (S : Sig) (E : Type) := List (Entry S E)

/-- What thread `i` did in a log. -/
def Log.trace {S : Sig} {E : Type} (L : Log S E) (i : Nat) : Trace S :=
  L.filterMap fun
    | .act j e => if j = i then some e else none
    | _ => none

/-- The shared world, the programs under way and the threads that have crashed. -/
structure Config (S : Sig) (ε α W : Type) where
  world : W
  thread : Nat → Prog S ε α
  dead : Nat → Bool

section
variable {S : Sig} {ε α W In E : Type}

@[simp] theorem Log.trace_nil (i : Nat) : Log.trace ([] : Log S E) i = [] := rfl

@[simp] theorem Log.trace_append (L L' : Log S E) (i : Nat) :
    Log.trace (L ++ L') i = Log.trace L i ++ Log.trace L' i :=
  List.filterMap_append

@[simp] theorem Log.trace_act_self (i : Nat) (e : Event S) :
    Log.trace [(.act i e : Entry S E)] i = [e] := by
  simp [Log.trace]

theorem Log.trace_act_ne {i j : Nat} (h : j ≠ i) (e : Event S) :
    Log.trace [(.act j e : Entry S E)] i = [] := by
  simp [Log.trace, h]

@[simp] theorem Log.trace_crash (i j : Nat) : Log.trace [(.crash j : Entry S E)] i = [] := rfl

@[simp] theorem Log.trace_env (x : E) (i : Nat) : Log.trace [(.env x : Entry S E)] i = [] := rfl

theorem Log.mem_trace {L : Log S E} {i : Nat} {e : Event S} :
    e ∈ L.trace i ↔ .act i e ∈ L := by
  simp only [Log.trace, List.mem_filterMap]
  constructor
  · rintro ⟨x, hx, h⟩
    cases x with
    | act j e' =>
      simp only [Option.ite_none_right_eq_some, Option.some.injEq] at h
      obtain ⟨rfl, rfl⟩ := h
      exact hx
    | crash | env => cases h
  · exact fun h => ⟨_, h, by simp⟩

/-- The entry is an operation of thread `i`. -/
def Entry.isBy (i : Nat) : Entry S E → Bool
  | .act j _ => j == i
  | _ => false

theorem Log.trace_eq_nil {L : Log S E} {i : Nat} :
    L.trace i = [] ↔ ∀ e ∈ L, e.isBy i = false := by
  rw [Log.trace, List.filterMap_eq_nil_iff]
  refine forall₂_congr fun e _ => ?_
  cases e <;> simp [Entry.isBy]

/-- The first event of a thread in a log. -/
theorem Log.trace_eq_cons {L : Log S E} {i : Nat} {e : Event S} {t : Trace S}
    (h : L.trace i = e :: t) :
    ∃ L₁ L₂, L = L₁ ++ .act i e :: L₂ ∧ Log.trace L₁ i = [] ∧ Log.trace L₂ i = t := by
  obtain ⟨L₁, x, L₂, hL, h1, hx, h2⟩ := List.filterMap_eq_cons_iff.1 h
  cases x with
  | act j e' =>
    simp only [Option.ite_none_right_eq_some, Option.some.injEq] at hx
    obtain ⟨rfl, rfl⟩ := hx
    exact ⟨L₁, L₂, hL, List.filterMap_eq_nil_iff.2 h1, h2⟩
  | crash | env => cases hx

/-- What happened between the first two operations of a thread. -/
def Log.between (L : Log S E) (i : Nat) : Log S E :=
  (L.dropWhile fun e => !e.isBy i).tail.takeWhile fun e => !e.isBy i

theorem Log.between_eq {L₁ L₂ L₃ : Log S E} {i : Nat} {e e' : Event S} (h1 : Log.trace L₁ i = [])
    (h2 : Log.trace L₂ i = []) :
    Log.between (L₁ ++ .act i e :: (L₂ ++ .act i e' :: L₃)) i = L₂ := by
  rw [Log.trace_eq_nil] at h1 h2
  have hskip (L : Log S E) (hL : ∀ x ∈ L, x.isBy i = false) : ∀ x ∈ L, (!x.isBy i) = true :=
    fun x hx => by rw [hL x hx]; rfl
  rw [Log.between, List.dropWhile_append_of_pos (hskip L₁ h1),
    List.dropWhile_cons_of_neg (by simp [Entry.isBy]), List.tail_cons,
    List.takeWhile_append_of_pos (hskip L₂ h2), List.takeWhile_cons_of_neg (by simp [Entry.isBy]),
    List.append_nil]

/-- One step of a run. -/
inductive Step (M : Machine S W In E) : Config S ε α W → Entry S E → Config S ε α W → Prop
  | act {c : Config S ε α W} {i : Nat} {o : S.Op} {k : S.Ans o → Prog S ε α} {inp : In}
      {a : S.Ans o} {w : W} : c.dead i = false → c.thread i = .op o k →
      M.exec i o inp c.world = some (a, w) →
      Step M c (.act i ⟨o, a⟩) ⟨w, Function.update c.thread i (k a), c.dead⟩
  | crash {c : Config S ε α W} {i : Nat} : c.dead i = false →
      Step M c (.crash i) ⟨M.crash i c.world, c.thread, Function.update c.dead i true⟩
  | env {c : Config S ε α W} {x : E} {w : W} : M.env x c.world = some w →
      Step M c (.env x) ⟨w, c.thread, c.dead⟩

/-- Zero or more steps, with their log. -/
inductive Steps (M : Machine S W In E) :
    Config S ε α W → Log S E → Config S ε α W → Prop
  | refl {c : Config S ε α W} : Steps M c [] c
  | snoc {c c' c'' : Config S ε α W} {L : Log S E} {e : Entry S E} :
      Steps M c L c' → Step M c' e c'' → Steps M c (L ++ [e]) c''

/-- All programs at their start, over a first world. -/
def Config.start (w : W) (prog : Nat → Prog S ε α) : Config S ε α W := ⟨w, prog, fun _ => false⟩

variable {M : Machine S W In E} {c c' c'' : Config S ε α W} {L L' : Log S E}

theorem Steps.single {e : Entry S E} (h : Step M c e c') : Steps M c [e] c' :=
  .snoc .refl h

theorem Steps.trans (h : Steps M c L c') (h' : Steps M c' L' c'') : Steps M c (L ++ L') c'' := by
  induction h' with
  | refl => simpa using h
  | snoc _ hs ih => rw [← List.append_assoc]; exact .snoc ih hs

/-- A run through `L ++ L'` passes a configuration after `L`. -/
theorem Steps.append_inv (h : Steps M c (L ++ L') c'') :
    ∃ c', Steps M c L c' ∧ Steps M c' L' c'' := by
  generalize hK : L ++ L' = K at h
  induction h generalizing L' with
  | refl =>
    obtain ⟨rfl, rfl⟩ := List.append_eq_nil_iff.1 hK
    exact ⟨_, .refl, .refl⟩
  | @snoc d d' K e h1 hs ih =>
    rcases List.eq_nil_or_concat L' with rfl | ⟨L₁, x, rfl⟩
    · rw [List.append_nil] at hK
      exact ⟨_, hK ▸ .snoc h1 hs, .refl⟩
    · rw [List.concat_eq_append, ← List.append_assoc] at hK
      obtain ⟨rfl, hx⟩ := List.append_inj' hK rfl
      obtain ⟨m, h2, h3⟩ := ih rfl
      simp only [List.cons.injEq, and_true] at hx
      subst hx
      exact ⟨m, h2, by rw [List.concat_eq_append]; exact .snoc h3 hs⟩

/-- A run without entries stays where it is. -/
theorem Steps.nil_inv (h : Steps M c [] c') : c' = c := by
  generalize hN : ([] : Log S E) = N at h
  cases h with
  | refl => rfl
  | snoc => simp at hN

/-- A run of one entry is one step. -/
theorem Steps.single_inv {e : Entry S E} (h : Steps M c [e] c') : Step M c e c' := by
  generalize hK : [e] = K at h
  cases h with
  | refl => cases hK
  | @snoc d _ L x h1 hs =>
    obtain ⟨hL, hx⟩ := List.append_inj' (show [] ++ [e] = L ++ [x] from hK) rfl
    simp only [List.cons.injEq, and_true] at hx
    subst hL hx
    rwa [h1.nil_inv] at hs

/-- A run with a marked entry splits at it. -/
theorem Steps.split {e : Entry S E} (h : Steps M c (L ++ e :: L') c'') :
    ∃ d d', Steps M c L d ∧ Step M d e d' ∧ Steps M d' L' c'' := by
  obtain ⟨d, h1, h2⟩ := h.append_inv
  have h2 : Steps M d ([e] ++ L') c'' := by simpa using h2
  obtain ⟨d', h3, h4⟩ := h2.append_inv
  exact ⟨d, d', h1, h3.single_inv, h4⟩

/-- The log of a run, restricted to a thread, is a path of the thread's program. -/
theorem Steps.path (h : Steps M c L c') (i : Nat) :
    Prog.Path (c.thread i) (L.trace i) (c'.thread i) := by
  induction h with
  | refl => exact .nil
  | @snoc d d' L e h1 hs ih =>
    cases hs with
    | @act j o k inp a w hl hop hex =>
      by_cases hj : j = i
      · subst hj
        rw [hop] at ih
        simpa using ih.snoc a
      · simpa [Log.trace_act_ne hj, Function.update_of_ne (Ne.symm hj)] using ih
    | crash | env => simpa using ih

/-- The run of a thread that comes to its end, at the thread's first operation. -/
theorem Steps.first_op {i : Nat} {o : S.Op} {k : S.Ans o → Prog S ε α} (h : Steps M c L c')
    (hop : c.thread i = .op o k) (hd : (c'.thread i).Done) :
    ∃ L₁ a L₂ d d', L = L₁ ++ .act i ⟨o, a⟩ :: L₂ ∧ Log.trace L₁ i = [] ∧ Steps M c L₁ d ∧
      Step M d (.act i ⟨o, a⟩) d' ∧ Steps M d' L₂ c' ∧ d'.thread i = k a := by
  have hpath := h.path i
  rw [hop] at hpath
  obtain ⟨a, t, ht, -⟩ := hpath.op_done hd
  obtain ⟨L₁, L₂, rfl, h1, -⟩ := Log.trace_eq_cons ht
  obtain ⟨d, d', hbefore, hstep, hafter⟩ := h.split
  have hthread : d.thread i = .op o k := by
    have hpath := hbefore.path i
    rw [h1, hop] at hpath
    generalize d.thread i = q at hpath
    cases hpath
    rfl
  refine ⟨L₁, a, L₂, d, d', rfl, h1, hbefore, hstep, hafter, ?_⟩
  cases hstep with
  | act _ hop' _ =>
    rw [hthread] at hop'
    cases hop'
    exact Function.update_self ..

/-- A thread that is over stays as it is. -/
theorem Steps.over {i : Nat} {r : Except ε α} (h : Steps M c L c')
    (hr : c.thread i = .ofExcept r) : L.trace i = [] ∧ c'.thread i = .ofExcept r := by
  have hpath := h.path i
  rw [hr] at hpath
  exact hpath.of_ofExcept

/-- A crashed thread does nothing more. -/
theorem Steps.dead {i : Nat} (h : Steps M c L c') (hd : c.dead i = true) :
    c'.dead i = true ∧ L.trace i = [] := by
  induction h with
  | refl => exact ⟨hd, rfl⟩
  | @snoc d d' L e h1 hs ih =>
    obtain ⟨hdead, htrace⟩ := ih
    cases hs with
    | @act j o k inp a w hl hop hex =>
      have hne : j ≠ i := by
        rintro rfl
        rw [hdead] at hl
        cases hl
      exact ⟨hdead, by rw [Log.trace_append, htrace, Log.trace_act_ne hne]; rfl⟩
    | @crash j hl =>
      have hne : i ≠ j := by
        rintro rfl
        rw [hdead] at hl
        cases hl
      exact ⟨by simp [Function.update_of_ne hne, hdead], by simp [htrace]⟩
    | env => exact ⟨hdead, by simp [htrace]⟩

/-- A thread that is over does nothing more. -/
theorem Steps.done {i : Nat} (h : Steps M c L c') (hd : (c.thread i).Done) : L.trace i = [] := by
  obtain ⟨r, hr⟩ := hd
  have hp := h.path i
  rw [hr] at hp
  generalize L.trace i = t at hp
  generalize c'.thread i = q at hp
  cases r <;> cases hp <;> rfl

section
variable {w₀ : W} {prog : Nat → Prog S ε α} {i : Nat}
variable {P : Trace S → S.Op → Prop} {Q : Trace S → Except ε α → Prop}

/-- What is left of a specified thread is specified at what it has done. -/
theorem Steps.spec (h : Steps M (.start w₀ prog) L c) (hs : (prog i).Spec P Q []) :
    (c.thread i).Spec P Q (L.trace i) := by
  simpa using hs.path (h.path i)

/-- Every logged operation of a specified thread was permitted. -/
theorem Steps.spec_op {e : Event S} (h : Steps M (.start w₀ prog) (L ++ .act i e :: L') c)
    (hs : (prog i).Spec P Q []) : P (L.trace i) e.op := by
  have hp := h.path i
  have he : Log.trace (L ++ .act i e :: L') i = L.trace i ++ e :: Log.trace L' i := by
    rw [Log.trace_append, ← List.singleton_append, Log.trace_append, Log.trace_act_self]
    rfl
  rw [he] at hp
  simpa using hs.path_op hp

/-- So was the operation of the last step. -/
theorem Steps.spec_last {e : Event S} (h : Steps M (.start w₀ prog) (L ++ [.act i e]) c)
    (hs : (prog i).Spec P Q []) : P (L.trace i) e.op := by
  have hlast : Steps M (.start w₀ prog) (L ++ .act i e :: []) c := h
  exact hlast.spec_op hs

/-- A specified thread that is over has a result that satisfies its postcondition. -/
theorem Steps.spec_done (h : Steps M (.start w₀ prog) L c) (hs : (prog i).Spec P Q [])
    (hd : (c.thread i).Done) : ∃ r, c.thread i = .ofExcept r ∧ Q (L.trace i) r := by
  obtain ⟨r, hr⟩ := hd
  have hspec := h.spec hs
  rw [hr, Prog.Spec_ofExcept] at hspec
  exact ⟨r, hr, hspec⟩

/-- The result of a specified thread satisfies its postcondition. -/
theorem Steps.spec_ret {a : α} (h : Steps M (.start w₀ prog) L c) (hs : (prog i).Spec P Q [])
    (hd : c.thread i = .ret a) : Q (L.trace i) (.ok a) := by
  have := h.spec hs
  rwa [hd] at this

/-- So does its exception. -/
theorem Steps.spec_raise {x : ε} (h : Steps M (.start w₀ prog) L c) (hs : (prog i).Spec P Q [])
    (hd : c.thread i = .raise x) : Q (L.trace i) (.error x) := by
  have := h.spec hs
  rwa [hd] at this

end

/-- The induction over runs: `I` of the log and the world holds at the start, and every step keeps
it. In the step of a thread, `P` is what the specification of its program permits. -/
theorem Steps.invariant {I : Log S E → W → Prop} {P : Nat → Trace S → S.Op → Prop}
    {Q : Nat → Trace S → Except ε α → Prop} {w₀ : W} {prog : Nat → Prog S ε α}
    (h : Steps M (.start w₀ prog) L c) (hs : ∀ i, (prog i).Spec (P i) (Q i) [])
    (h0 : I [] w₀)
    (hact : ∀ L w i o inp a w', I L w → P i (L.trace i) o → M.exec i o inp w = some (a, w') →
      I (L ++ [.act i ⟨o, a⟩]) w')
    (hcrash : ∀ L w i, I L w → I (L ++ [.crash i]) (M.crash i w))
    (henv : ∀ L w x w', I L w → M.env x w = some w' → I (L ++ [.env x]) w') :
    I L c.world := by
  induction h with
  | refl => exact h0
  | @snoc d d' L e h1 hst hI =>
    cases hst with
    | @act i o k inp a w hl hop hex =>
      have hp := h1.spec (hs i)
      rw [hop] at hp
      exact hact _ _ _ _ _ _ _ hI hp.1 hex
    | crash _ => exact hcrash _ _ _ hI
    | env hx => exact henv _ _ _ _ hI hx

/-- A property of the world alone that every operation, crash and outside change keeps is kept
along any run. -/
theorem Steps.world_invariant {I : W → Prop} (h : Steps M c L c') (h0 : I c.world)
    (hact : ∀ i o inp w a w', I w → M.exec i o inp w = some (a, w') → I w')
    (hcrash : ∀ i w, I w → I (M.crash i w))
    (henv : ∀ x w w', I w → M.env x w = some w' → I w') : I c'.world := by
  induction h with
  | refl => exact h0
  | snoc _ hst ih =>
    cases hst with
    | act _ _ hex => exact hact _ _ _ _ _ _ ih hex
    | crash _ => exact hcrash _ _ ih
    | env hx => exact henv _ _ _ ih hx

/-! ## Running a schedule -/

/-- The log before and after its first entry of a kind. -/
def Log.split? {S : Sig} {E β : Type} (kind : Entry S E → Option β) :
    Log S E → Option (Log S E × β × Log S E)
  | [] => none
  | e :: L =>
    match kind e with
    | some b => some ([], b, L)
    | none => (Log.split? kind L).map fun s => (e :: s.1, s.2)

theorem Log.split?_sound {β : Type} {kind : Entry S E → Option β} {L₁ L₂ : Log S E} {b : β}
    (h : Log.split? kind L = some (L₁, b, L₂)) :
    ∃ e, L = L₁ ++ e :: L₂ ∧ kind e = some b := by
  induction L generalizing L₁ with
  | nil => cases h
  | cons e L ih =>
    simp only [Log.split?] at h
    split at h
    · next hk =>
      cases h
      exact ⟨e, rfl, hk⟩
    · obtain ⟨⟨K, s⟩, hs, heq⟩ := Option.map_eq_some_iff.1 h
      cases heq
      obtain ⟨e', rfl, hk⟩ := ih hs
      exact ⟨e', rfl, hk⟩


/-- A scheduler's choice: which thread moves on which input, which thread crashes, or which outside
change happens. -/
inductive Choice (In E : Type)
  | act (i : Nat) (inp : In)
  | crash (i : Nat)
  | env (x : E)

/-- Take one chosen step, if it can be taken. -/
def Machine.step? (M : Machine S W In E) (c : Config S ε α W) :
    Choice In E → Option (Entry S E × Config S ε α W)
  | .act i inp =>
    match c.dead i, c.thread i with
    | false, .op o k =>
      match M.exec i o inp c.world with
      | some (a, w) => some (.act i ⟨o, a⟩, ⟨w, Function.update c.thread i (k a), c.dead⟩)
      | none => none
    | _, _ => none
  | .crash i =>
    match c.dead i with
    | false => some (.crash i, ⟨M.crash i c.world, c.thread, Function.update c.dead i true⟩)
    | true => none
  | .env x =>
    match M.env x c.world with
    | some w => some (.env x, ⟨w, c.thread, c.dead⟩)
    | none => none

/-- Follow a schedule, if every step of it can be taken. -/
def Machine.simulate (M : Machine S W In E) :
    List (Choice In E) → Config S ε α W → Option (Log S E × Config S ε α W)
  | [], c => some ([], c)
  | x :: xs, c =>
    match M.step? c x with
    | some (e, c') =>
      match M.simulate xs c' with
      | some (L, c'') => some (e :: L, c'')
      | none => none
    | none => none

theorem Machine.step?_sound {x : Choice In E} {e : Entry S E}
    (h : M.step? c x = some (e, c')) : Step M c e c' := by
  cases x with
  | act i inp =>
    simp only [Machine.step?] at h
    split at h
    · next hd hop =>
      split at h
      · next hex =>
        cases h
        exact .act hd hop hex
      · cases h
    · cases h
  | crash i =>
    simp only [Machine.step?] at h
    split at h
    · next hd => cases h; exact .crash hd
    · cases h
  | env x =>
    simp only [Machine.step?] at h
    split at h
    · next hx => cases h; exact .env hx
    · cases h

/-- A followed schedule is a run. -/
theorem Machine.simulate_sound {xs : List (Choice In E)}
    (h : M.simulate xs c = some (L, c')) : Steps M c L c' := by
  induction xs generalizing c L with
  | nil => cases h; exact .refl
  | cons x xs ih =>
    simp only [Machine.simulate] at h
    split at h
    · next hst =>
      split at h
      · next hrun =>
        cases h
        exact (Steps.single (M.step?_sound hst)).trans (ih hrun)
      · cases h
    · cases h

/-- A schedule whose outcome passes a test yields a run whose outcome passes it. -/
theorem Machine.exists_run {xs : List (Choice In E)}
    {test : Log S E → Config S ε α W → Prop} [∀ L c, Decidable (test L c)]
    (h : ((M.simulate xs c).map fun r => decide (test r.1 r.2)) = some true) :
    ∃ L c', Steps M c L c' ∧ test L c' := by
  cases hr : M.simulate xs c with
  | none => simp [hr] at h
  | some r => exact ⟨r.1, r.2, M.simulate_sound hr, by simpa [hr] using h⟩

end

end Effects
