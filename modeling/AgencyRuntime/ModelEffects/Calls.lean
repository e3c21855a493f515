import AgencyRuntime.ModelEffects.Rows

/-!
# The calls of the model effect service, and their runs

A run of the service interleaves any number of calls, one for each thread, over one table of
effects, which evolves along the run. A process may crash at any point; what it stored stays.
-/

namespace AgencyRuntime

open Effects Tables

namespace ModelEffect

/-- The calls of the service. -/
inductive Call (I : Interpreter)
  | execute (authority : ModelEffectAuthority I.toPlatform) (command : ModelEffectCommand)
  | reconcileSuccess (tenantId effectId outputText : Str) (receipt : Obj)
  | revokeUnused (tenantId runId reason : Str)

/-- What a call returns. -/
inductive CallResult
  | executed (result : ModelEffectResult)
  | reconciled (intent : ModelEffectIntent)
  | revoked (count : Nat)

variable {I : Interpreter}

/-- The program of a call. -/
def Call.program : Call I → Program CallResult
  | .execute A command => do return .executed (← ModelEffect.execute I A command)
  | .reconcileSuccess tenantId effectId outputText receipt => do
    return .reconciled (← ModelEffect.reconcileSuccess I.toPlatform tenantId effectId outputText
      receipt)
  | .revokeUnused tenantId runId reason => do
    return .revoked (← ModelEffect.revokeUnused tenantId runId reason)

/-- What a call may do after a trace. -/
def Call.Permits : Call I → Trace sig → sig.Op → Prop
  | .execute _ command, t, o => ExecutePermits I.toPlatform command.normalized t o
  | .reconcileSuccess tenantId effectId outputText receipt, t, o =>
    o = Sum.inl .clock ∨
      (∃ digest now, o = Sum.inr (.reconcile tenantId effectId outputText digest receipt now) ∧
        outputText ≠ [] ∧ I.digest outputText = .ok digest) ∨
      o = Sum.inr (.get tenantId effectId) ∧ ∃ digest now,
        called (.reconcile tenantId effectId outputText digest receipt now) .updated ∈ t
  | .revokeUnused tenantId runId reason, _, o =>
    o = Sum.inl .clock ∨ ∃ now, o = Sum.inr (.revokeUnused tenantId runId reason now)

/-- What a call comes to. -/
def Call.Ends : Call I → Trace sig → Except Exn CallResult → Prop
  | .execute A _, t, r => ∃ r', ExecuteTrace I A t r' ∧ r = r'.map .executed
  | _, _, _ => True

/-- Every call, in every environment. -/
theorem Call.spec (call : Call I) : call.program.Spec call.Permits call.Ends [] := by
  cases call with
  | execute A command =>
    exact Prog.Spec.bind_of Spec_execute (fun t a h => ⟨.ok a, h, rfl⟩) fun t e h => ⟨.error e, h, rfl⟩
  | reconcileSuccess tenantId effectId outputText receipt =>
    simp only [Call.program, ModelEffect.reconcileSuccess, clock, Prog.bind_eq]
    rw [Prog.Spec_bind]
    refine (Prog.Spec_ofExcept_bind _ _ _).2 ⟨fun _ _ => trivial, fun _ hid => ?_⟩
    refine (Prog.Spec_ofExcept_bind _ _ _).2 ⟨fun _ _ => trivial, fun _ hout => ?_⟩
    refine (Prog.Spec_ofExcept_bind _ _ _).2 ⟨fun _ _ => trivial, fun _ _ => ?_⟩
    refine (Prog.Spec_ofExcept_bind _ _ _).2 ⟨fun _ _ => trivial, fun digest hd => ?_⟩
    refine (Prog.Spec_ask_bind _ _).2 ⟨.inl rfl, fun now => ?_⟩
    refine (Prog.Spec_call_bind _ _).2
      ⟨.inr (.inl ⟨digest, now, rfl, (validateOutput_ok hout).1, hd⟩), fun answer => ?_⟩
    rcases answer with _ | _ | existing
    · simp only [get, Prog.bind_eq, hid, Prog.ofExcept_ok, Prog.ret_bind]
      refine (Prog.Spec_call_bind _ _).2 ⟨.inr (.inr ⟨rfl, digest, now, by simp⟩), fun row => ?_⟩
      cases row <;> trivial
    · trivial
    · simp only
      split <;> trivial
  | revokeUnused tenantId runId reason =>
    simp only [Call.program, ModelEffect.revokeUnused, clock, Prog.bind_eq]
    rw [Prog.Spec_bind]
    refine (Prog.Spec_ofExcept_bind _ _ _).2 ⟨fun _ _ => trivial, fun _ _ => ?_⟩
    refine (Prog.Spec_ofExcept_bind _ _ _).2 ⟨fun _ _ => trivial, fun _ _ => ?_⟩
    refine (Prog.Spec_ask_bind _ _).2 ⟨.inl rfl, fun now => ?_⟩
    exact ⟨.inr ⟨now, rfl⟩, fun _ => trivial⟩

/-- The state of a run. -/
abbrev State := Config sig Exn CallResult EffectTable

/-- A run of the calls, one for each thread, from an empty store. -/
def Run (calls : Nat → Call I) (L : History) (c : State) : Prop :=
  Steps (service.machine outside) (.start .empty fun i => (calls i).program) L c

/-- The executable reservations of a run, each with the call that obtained it. -/
def grants : History → List (Nat × ModelEffectIntent)
  | [] => []
  | .act i ⟨.inr o, a⟩ :: L => (inserted o a).map (Prod.mk i) ++ grants L
  | _ :: L => grants L

@[simp] theorem grants_append (L L' : History) : grants (L ++ L') = grants L ++ grants L' := by
  induction L with
  | nil => rfl
  | cons e L ih =>
    rcases e with ⟨i, ⟨_ | o, a⟩⟩ | i | x
    · exact ih
    · simp only [List.cons_append, grants, ih, List.append_assoc]
    · exact ih
    · exact ih

theorem mem_inserted {o : Statement} {a : statements.Ans o} {intent : ModelEffectIntent} :
    intent ∈ inserted o a ↔ called o a = called (.reserve intent) (.ok .inserted) := by
  cases o with
  | reserve intent' =>
    rcases a with _ | _ | _
    · simp [inserted, called]
    · simp [inserted, called, eq_comm]
    · simp [inserted, called]
  | _ => simp [inserted, called]

theorem mem_grants {L : History} {i : Nat} {intent : ModelEffectIntent} :
    (i, intent) ∈ grants L ↔ .act i (called (.reserve intent) (.ok .inserted)) ∈ L := by
  induction L with
  | nil => simp [grants]
  | cons e L ih =>
    rcases e with ⟨j, ⟨_ | o, a⟩⟩ | j | x
    · simp [grants, ih]
    · have hins := @mem_inserted o a intent
      simp only [called, Event.mk.injEq] at hins
      simp only [grants, List.mem_append, ih, List.mem_map, Prod.mk.injEq, List.mem_cons,
        Entry.act.injEq]
      constructor
      · rintro (⟨_, hmem, rfl, rfl⟩ | hmem)
        · exact .inl ⟨rfl, (mem_inserted.1 hmem).symm⟩
        · exact .inr hmem
      · rintro (⟨rfl, he⟩ | hmem)
        · exact .inl ⟨intent, mem_inserted.2 he.symm, rfl, rfl⟩
        · exact .inr hmem
    · simp [grants, ih]
    · simp [grants, ih]

section
variable {calls : Nat → Call I} {L L' : History} {c d : State} {i : Nat}

/-- What a call did was permitted. -/
theorem Run.permitted {e : Event sig} (h : Run calls (L ++ .act i e :: L') c) :
    (calls i).Permits (L.trace i) e.op :=
  Steps.spec_op h (calls i).spec

/-- The step of a run that ran a transaction. -/
theorem step_call {o : Statement} {a : statements.Ans o}
    (h : Step (service.machine outside) d (.act i (called o a)) c) :
    o.run d.world = (a, c.world) := by
  cases h with
  | act _ _ hex => exact Option.some.inj hex

/-- The step of a run that asked the outside. -/
theorem step_ask {o : Outside} {a : outside.Ans o}
    (h : Step (service.machine outside) d (.act i (asked o a)) c) : c.world = d.world := by
  cases h with
  | act _ _ hex => exact (Prod.mk.inj (Option.some.inj hex)).2.symm

/-- A run at a transaction of its log: the table it ran on, and the rest of the run. -/
theorem Run.at_call {o : Statement} {a : statements.Ans o}
    (h : Run calls (L ++ .act i (called o a) :: L') c) :
    ∃ d d', Run calls L d ∧ o.run d.world = (a, d'.world) ∧
      Run calls (L ++ [.act i (called o a)]) d' ∧ Steps (service.machine outside) d' L' c := by
  obtain ⟨d, d', h1, hs, h2⟩ := Steps.split h
  exact ⟨d, d', h1, step_call hs, .snoc h1 hs, h2⟩

/-- Every transaction of a run is one of the methods'. -/
theorem Run.regular {o : Statement} {a : statements.Ans o}
    (h : Run calls (L ++ .act i (called o a) :: L') c) : o.Regular I.toPlatform := by
  have hp := h.permitted
  cases hc : calls i with
  | execute A command =>
    rw [hc] at hp
    rcases hp with ⟨-, h | ⟨intent, h, hbuilt, -⟩⟩ | ⟨intent, s, -, h | h⟩
    · cases h
    · cases h
      exact hbuilt.core
    · cases o <;> exact absurd h not_false
    · cases o with
      | transition => exact h.2
      | get => trivial
      | _ => exact absurd h not_false
  | reconcileSuccess tenantId effectId outputText receipt =>
    rw [hc] at hp
    rcases hp with h | ⟨digest, now, h, hreg⟩ | ⟨h, -⟩
    · cases h
    · cases h
      exact hreg
    · cases h
      trivial
  | revokeUnused tenantId runId reason =>
    rw [hc] at hp
    rcases hp with h | ⟨now, h⟩
    · cases h
    · cases h
      trivial

/-- The table evolves along a run, and what is inserted is what was granted. -/
theorem Run.evolution (h : Run calls L c)
    (h' : Steps (service.machine outside) c L' d) :
    Evolution (effectOrder I.toPlatform) c.world ((grants L').map (·.2)) d.world := by
  induction h' with
  | refl => exact .refl _
  | @snoc d d' L' e h1 hs ih =>
    have hrun : Run calls (L ++ (L' ++ [e])) d' := Steps.trans h (.snoc h1 hs)
    have hlast : Evolution (effectOrder I.toPlatform) d.world ((grants [e]).map (·.2)) d'.world := by
      cases hs with
      | @act i o k oracle a w hl hop hex =>
        rcases o with o | o
        · obtain rfl : d.world = w := (Prod.mk.inj (Option.some.inj hex)).2
          exact .refl _
        · have hreg : o.Regular I.toPlatform := by
            rw [← List.append_assoc] at hrun
            exact Run.regular hrun
          have hrun : o.run d.world = (a, w) := Option.some.inj hex
          have hev := o.evolution hreg d.world
          rw [hrun] at hev
          simpa [grants] using hev
      | crash => exact .refl _
      | @env x => exact nomatch x
    have := ih.trans hlast
    rwa [← List.map_append, ← grants_append] at this

end

end ModelEffect

end AgencyRuntime
