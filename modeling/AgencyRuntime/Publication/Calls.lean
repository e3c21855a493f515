import AgencyRuntime.Publication.Execute

/-!
# The calls of the publication service, and their runs

A run of the service interleaves any number of calls, one for each thread, over one table of
intents. A process may crash at any point; what it stored stays.
-/

namespace AgencyRuntime

open Effects

namespace Publication

/-- The calls of the service. The disconnection of a channel, the revocation of a Greenlight and an
invalid credential all call `revoke_unused`. -/
inductive Call
  | execute (authority : SocialPublicationAuthority) (command : SocialPublicationCommand)
  | revokeUnused (filter : RevokeFilter) (reason : Str)
  | reconcileSuccess (tenantId intentId providerPostId : Str) (receipt : Obj)

/-- What a call returns. -/
inductive CallResult
  | published (result : SocialPublicationResult)
  | revoked (count : Nat)
  | reconciled (intent : SocialPublicationIntent)

/-- The program of a call. -/
def Call.program (P : Platform) : Call → Program CallResult
  | .execute A command => do return .published (← Publication.execute P A command)
  | .revokeUnused filter reason => do return .revoked (← Publication.revokeUnused filter reason)
  | .reconcileSuccess tenantId intentId providerPostId receipt => do
    return .reconciled (← Publication.reconcileSuccess tenantId intentId providerPostId receipt)

/-- What a call may do after a trace. -/
def Call.Permits (P : Platform) : Call → Trace sig → sig.Op → Prop
  | .execute _ command, t, o => ExecutePermits P command.normalized t o
  | .revokeUnused filter reason, _, o =>
    o = Sum.inl Outside.clock ∨ ∃ now, o = Sum.inr (Statement.revokeUnused filter reason now)
  | .reconcileSuccess tenantId intentId providerPostId receipt, _, o =>
    o = Sum.inl Outside.clock ∨ o = Sum.inr (Statement.get tenantId intentId) ∨
      ∃ now, o = Sum.inr (Statement.reconcile tenantId intentId providerPostId receipt now)

/-- What a call comes to. -/
def Call.Ends (P : Platform) : Call → Trace sig → Except Exn CallResult → Prop
  | .execute A command, t, r => ∃ r', ExecuteTrace P A command t r' ∧ r = r'.map .published
  | _, _, _ => True

/-- Every call, in every environment. -/
theorem Call.spec (P : Platform) (call : Call) :
    (call.program P).Spec (call.Permits P) (call.Ends P) [] := by
  cases call with
  | execute A command =>
    exact Prog.Spec.bind_of Spec_execute (fun t a h => ⟨.ok a, h, rfl⟩) fun t e h => ⟨.error e, h, rfl⟩
  | revokeUnused filter reason =>
    simp only [Call.program, Publication.revokeUnused, clock, Prog.bind_eq]
    rw [Prog.Spec_bind]
    refine (Prog.Spec_ofExcept_bind _ _ _).2 ⟨fun _ _ => trivial, fun _ _ => ?_⟩
    refine (Prog.Spec_ask_bind _ _).2 ⟨.inl rfl, fun now => ?_⟩
    refine (Prog.Spec_call_bind _ _).2 ⟨.inr ⟨now, rfl⟩, fun answer => ?_⟩
    rw [Prog.Spec_ofExcept]
    cases answer <;> trivial
  | reconcileSuccess tenantId intentId providerPostId receipt =>
    simp only [Call.program, Publication.reconcileSuccess, clock, Prog.bind_eq]
    rw [Prog.Spec_bind]
    refine (Prog.Spec_ofExcept_bind _ _ _).2 ⟨fun _ _ => trivial, fun _ hid => ?_⟩
    refine (Prog.Spec_ofExcept_bind _ _ _).2 ⟨fun _ _ => trivial, fun _ _ => ?_⟩
    refine (Prog.Spec_ofExcept_bind _ _ _).2 ⟨fun _ _ => trivial, fun _ _ => ?_⟩
    refine (Prog.Spec_ask_bind _ _).2 ⟨.inl rfl, fun now => ?_⟩
    refine (Prog.Spec_call_bind _ _).2 ⟨.inr (.inr ⟨now, rfl⟩), fun answer => ?_⟩
    rcases answer with _ | _ | existing
    · simp only [get, Prog.bind_eq, hid, Prog.ofExcept_ok, Prog.ret_bind]
      refine (Prog.Spec_call_bind _ _).2 ⟨.inr (.inl rfl), fun row => ?_⟩
      cases row <;> trivial
    · trivial
    · simp only
      split <;> trivial

/-- The state of a run. -/
abbrev State := Config sig Exn CallResult IntentTable

/-- A run of the calls, one for each thread, from a table. -/
def Run (P : Platform) (calls : Nat → Call) (start : IntentTable) (L : History) (c : State) : Prop :=
  Steps (service.machine outside) (.start start fun i => (calls i).program P) L c

section
variable {P : Platform} {calls : Nat → Call} {start : IntentTable} {L L' : History} {c : State}

/-- The step of a run that ran a transaction. -/
theorem step_call {d c : State} {i : Nat} {o : Statement} {a : statements.Ans o}
    (h : Step (service.machine outside) d (.act i (called o a)) c) :
    o.run d.world = (a, c.world) := by
  cases h with
  | act _ _ hex => exact Option.some.inj hex

/-- A run at a transaction of its log: the table it ran on, and the rest of the run. -/
theorem Run.at_call {i : Nat} {o : Statement} {a : statements.Ans o}
    (h : Run P calls start (L ++ .act i (called o a) :: L') c) :
    ∃ d d', Run P calls start L d ∧ o.run d.world = (a, d'.world) ∧
      Step (service.machine outside) d (.act i (called o a)) d' ∧
      Steps (service.machine outside) d' L' c := by
  obtain ⟨d, d', h1, hs, h2⟩ := Steps.split h
  exact ⟨d, d', h1, step_call hs, hs, h2⟩

/-- What a call did was permitted. -/
theorem Run.permitted {i : Nat} {e : Event sig}
    (h : Run P calls start (L ++ .act i e :: L') c) :
    (calls i).Permits P (L.trace i) e.op :=
  Steps.spec_op h ((calls i).spec P)

end

end Publication

end AgencyRuntime
