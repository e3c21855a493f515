import AgencyRuntime.ModelEffects.StateMachine

/-!
# Stranded model effects

An effect that was reserved leaves its pending status by a transition of its own `execute` or by a
revocation of its run, and by nothing else. `execute` attempts a transition exactly when the
exchange with the provider raises nothing it does not expect, so every other exchange strands the
effect.
-/

namespace AgencyRuntime

open Effects Tables

namespace ModelEffect

variable {I : Interpreter} {calls : Nat → Call I} {L L' : History} {c d : State} {i j : Nat}
variable {intent : ModelEffectIntent}

/-- The transaction ends the pending status of a row. -/
def Statement.settles (o : Statement) (r : ModelEffectIntent) : Bool :=
  match o with
  | .transition tenantId effectId fence .. =>
    r.isFor tenantId effectId && r.executionFencingToken == fence && Publication.fitsInteger fence
  | .revokeUnused tenantId runId .. => r.ofRun tenantId runId
  | _ => false

/-- A transaction that does not settle a pending row leaves it alone. -/
theorem Statement.pending_stays {o : Statement} {t : EffectTable} {r : ModelEffectIntent}
    (hr : r ∈ t.rows) (hp : r.status = .pending) (ho : o.settles r = false) :
    r ∈ (o.run t).2.rows := by
  cases o with
  | reserve intent =>
    show r ∈ (reserveIn intent t).2.rows
    rcases reserveIn_cases intent t with ⟨t', hins, h⟩ | ⟨_, -, -, h⟩ | ⟨_, h⟩
    · rw [h]
      exact (Table.mem_insert hins).2 (.inl hr)
    · rwa [h]
    · rwa [h]
  | get | listForRun => exact hr
  | transition tenantId effectId fence change now =>
    simp only [Statement.run]
    split
    · next hfits =>
      refine Table.mem_modify.2 ⟨r, hr, if_neg fun hsel => ?_⟩
      simp only [inFlight, Bool.and_eq_true] at hsel
      simp [Statement.settles, hsel.1.1, hsel.2, hfits] at ho
    · exact hr
  | reconcile tenantId effectId text digest receipt now =>
    simp only [Statement.run]
    split
    · refine Table.mem_modify.2 ⟨r, hr, if_neg fun hsel => ?_⟩
      simp [reconcilable, hp] at hsel
    · exact hr
  | revokeUnused tenantId runId reason now =>
    refine Table.mem_modify.2 ⟨r, hr, if_neg fun hsel => ?_⟩
    simp only [unused, Bool.and_eq_true] at hsel
    rw [Statement.settles, hsel.1] at ho
    cases ho

/-- No status moves back to pending. -/
theorem RowStep.not_pending {P : Platform} {r r' : ModelEffectIntent} (h : RowStep P r r')
    (hr : r.status ≠ .pending) : r'.status ≠ .pending := by
  intro hp
  have hmoves := h.moves
  rw [hp] at hmoves
  generalize r.status = s at hmoves hr
  cases hmoves
  exact hr rfl

/-- A regular transaction that settles a row leaves it with another status. -/
theorem Statement.settled {P : Platform} {o : Statement} (ho : o.Regular P) {t : EffectTable}
    {r : ModelEffectIntent} (hr : r ∈ t.rows) (hs : o.settles r = true) :
    ∃ r' ∈ (o.run t).2.rows, RowStep P r r' ∧ r'.status ≠ .pending := by
  by_cases hp : r.status = .pending
  · cases o with
    | transition tenantId effectId fence change now =>
      simp only [Statement.settles, Bool.and_eq_true] at hs
      have hsel : inFlight tenantId effectId fence r = true := by
        simp [inFlight, hs.1.1, hs.1.2, hp]
      refine ⟨(change.apply now).apply r, ?_, .transition ho hp now, ?_⟩
      · simp only [Statement.run, hs.2, if_true]
        exact Table.mem_modify.2 ⟨r, hr, if_pos hsel⟩
      · rcases ho with ⟨h, -⟩ | ⟨h | h, -⟩ <;> simp [Change.apply, h]
    | revokeUnused tenantId runId reason now =>
      have hsel : unused tenantId runId r = true := by
        rw [unused, show r.ofRun tenantId runId = true from hs, hp]
        rfl
      exact ⟨(revokeRow reason now).apply r, Table.mem_modify.2 ⟨r, hr, if_pos hsel⟩,
        .revoke hp reason now, by rintro ⟨⟩⟩
    | reserve | get | reconcile | listForRun => cases hs
  · obtain ⟨r', hr', hstep⟩ := (o.evolution ho t).kept r hr
    exact ⟨r', hr', hstep, hstep.not_pending hp⟩

/-- Whether a transaction settles a row depends on what was reserved and on the fence. -/
theorem Statement.settles_congr (o : Statement) {r s : ModelEffectIntent} (hcore : s.core = r.core)
    (hfence : s.executionFencingToken = r.executionFencingToken) : o.settles s = o.settles r := by
  cases o with
  | transition => simp only [Statement.settles, isFor_of_core hcore, hfence]
  | revokeUnused tenantId runId =>
    have h1 : s.tenantId = r.tenantId := congrArg (·.tenantId) hcore
    have h2 : s.runId = r.runId := congrArg (·.runId) hcore
    simp only [Statement.settles, ModelEffectIntent.ofRun, h1, h2]
  | reserve | get | reconcile | listForRun => rfl

/-- A transaction in the log that settles an intent. -/
def SettledIn (L : History) (intent : ModelEffectIntent) : Prop :=
  ∃ j o a, .act j (called o a) ∈ L ∧ o.settles intent = true

theorem settledIn_called {o : Statement} {a : statements.Ans o} :
    SettledIn (L ++ [.act j (called o a)]) intent ↔
      SettledIn L intent ∨ o.settles intent = true := by
  constructor
  · rintro ⟨k, o', a', hmem, ho⟩
    rcases List.mem_append.1 hmem with hmem | hmem
    · exact .inl ⟨k, o', a', hmem, ho⟩
    · cases List.mem_singleton.1 hmem
      exact .inr ho
  · rintro (⟨k, o', a', hmem, ho⟩ | ho)
    · exact ⟨k, o', a', List.mem_append_left _ hmem, ho⟩
    · exact ⟨j, o, a, List.mem_append_right _ (List.mem_singleton_self _), ho⟩

theorem settledIn_other {e : Entry sig Empty} (he : ∀ k o a, e ≠ .act k (called o a)) :
    SettledIn (L ++ [e]) intent ↔ SettledIn L intent := by
  constructor
  · rintro ⟨k, o, a, hmem, ho⟩
    rcases List.mem_append.1 hmem with hmem | hmem
    · exact ⟨k, o, a, hmem, ho⟩
    · exact absurd (List.mem_singleton.1 hmem).symm (he k o a)
  · rintro ⟨k, o, a, hmem, ho⟩
    exact ⟨k, o, a, List.mem_append_left _ hmem, ho⟩

/-- The row of a granted intent, along the rest of the run: it is pending as long as nothing settles
it. -/
theorem Run.granted_row (h : Run calls (L ++ .act i (called (.reserve intent) (.ok .inserted)) :: L')
    c) :
    ∃ r ∈ c.world.rows, RowStep I.toPlatform intent r ∧
      (r.status ≠ .pending ↔ SettledIn L' intent) := by
  have hcore : intent.core = intent := h.regular
  have hpending : intent.status = .pending := by
    rw [← hcore]
    rfl
  induction L' using List.reverseRecOn generalizing c with
  | nil =>
    obtain ⟨d, d', -, hrun, -, hrest⟩ := h.at_call
    rw [hrest.nil_inv]
    have hrun : reserveIn intent d.world = (.ok .inserted, d'.world) := hrun
    rcases reserveIn_cases intent d.world with ⟨t', hins, heq⟩ | ⟨_, -, -, heq⟩ | ⟨_, heq⟩
    · rw [heq] at hrun
      obtain ⟨-, hworld⟩ := Prod.mk.inj hrun
      subst hworld
      refine ⟨intent, (Table.mem_insert hins).2 (.inr rfl), (effectOrder I.toPlatform).refl _, ?_⟩
      simp [hpending, SettledIn]
    · rw [heq] at hrun
      cases (Prod.mk.inj hrun).1
    · rw [heq] at hrun
      cases (Prod.mk.inj hrun).1
  | append_singleton L' e ih =>
    rw [← List.cons_append, ← List.append_assoc] at h
    obtain ⟨d, h1, h2⟩ := Steps.append_inv h
    have hs := h2.single_inv
    obtain ⟨r, hr, hstep, hiff⟩ := ih h1
    rcases e with ⟨j, ⟨o | o, a⟩⟩ | j | x
    · rw [step_ask hs, settledIn_other (fun _ _ _ h => by cases h)]
      exact ⟨r, hr, hstep, hiff⟩
    · have hregular : o.Regular I.toPlatform := h.regular
      have hworld : (o.run d.world).2 = c.world := congrArg Prod.snd (step_call hs)
      rw [settledIn_called, ← hworld]
      by_cases hp : r.status = .pending
      · have hfence : r.executionFencingToken = intent.executionFencingToken :=
          hstep.fence (by rw [hp]; nofun)
        have hsame := o.settles_congr hstep.core hfence
        have hno : ¬ SettledIn L' intent := fun h => hiff.2 h hp
        cases ho : o.settles intent with
        | true =>
          obtain ⟨r', hr', hstep', hne⟩ := Statement.settled hregular hr (hsame.trans ho)
          exact ⟨r', hr', (effectOrder I.toPlatform).trans hstep hstep',
            fun _ => .inr rfl, fun _ => hne⟩
        | false =>
          refine ⟨r, Statement.pending_stays hr hp (hsame.trans ho), hstep, fun h => absurd hp h, ?_⟩
          rintro (h | h)
          · exact absurd h hno
          · cases h
      · obtain ⟨r', hr', hstep'⟩ := (o.evolution hregular d.world).kept r hr
        exact ⟨r', hr', (effectOrder I.toPlatform).trans hstep hstep',
          fun _ => .inl (hiff.1 hp), fun _ => hstep'.not_pending hp⟩
    · have hworld : c.world = d.world := by
        cases hs
        rfl
      rw [hworld, settledIn_other (fun _ _ _ h => by cases h)]
      exact ⟨r, hr, hstep, hiff⟩
    · exact nomatch x

/-- A call holds one grant. -/
theorem Run.grant_unique {intent' : ModelEffectIntent} (h : Run calls L c)
    (hg : (i, intent) ∈ grants L) (hg' : (i, intent') ∈ grants L) : intent = intent' := by
  have : Std.Symm fun x y : Nat × ModelEffectIntent => x.1 ≠ y.1 := ⟨fun _ _ h => h.symm⟩
  by_contra hne
  exact h.grants_once.forall hg hg' (fun heq => hne (Prod.mk.inj heq).2) rfl

/-- Two calls hold grants that do not clash. -/
theorem Run.grants_apart {intent' : ModelEffectIntent} (h : Run calls L c)
    (hg : (i, intent) ∈ grants L) (hg' : (j, intent') ∈ grants L) (hne : i ≠ j) :
    effectSchema.clash intent.core intent'.core = false := by
  have : Std.Symm fun x y : Nat × ModelEffectIntent =>
      x.1 ≠ y.1 ∧ effectSchema.clash x.2.core y.2.core = false :=
    ⟨fun _ _ h => ⟨h.1.symm, (effectSchema.symm _ _).trans h.2⟩⟩
  exact (h.grants_pairwise.forall hg hg' fun heq => hne (Prod.mk.inj heq).1).2

/-- A `revoke_unused` of the intent's run committed. -/
def RevokedIn (L : History) (intent : ModelEffectIntent) : Prop :=
  ∃ j reason now n,
    .act j (called (.revokeUnused intent.tenantId intent.runId reason now) n) ∈ L

theorem mem_moves {t : Trace sig} {change : Change} :
    change ∈ moves t ↔ ∃ tenantId effectId fence now answer,
      called (.transition tenantId effectId fence change now) answer ∈ t := by
  simp only [moves, List.mem_filterMap]
  constructor
  · rintro ⟨⟨_ | o, a⟩, hmem, h⟩
    · cases h
    · cases o with
      | transition tenantId effectId fence change now =>
        cases h
        exact ⟨tenantId, effectId, fence, now, a, hmem⟩
      | _ => cases h
  · rintro ⟨_, _, _, _, _, hmem⟩
    exact ⟨_, hmem, rfl⟩

/-- A transition is one of the intent its call was granted. -/
theorem Run.transition_permitted {tenantId effectId now : Str} {fence : Int} {change : Change}
    {answer : Except Exn Bool}
    (h : Run calls
      (L ++ .act i (called (.transition tenantId effectId fence change now) answer) :: L') c) :
    ∃ intent, (i, intent) ∈ grants L ∧ tenantId = intent.tenantId ∧ effectId = intent.effectId ∧
      fence = intent.executionFencingToken := by
  have hp := h.permitted
  cases hc : calls i with
  | execute A command =>
    rw [hc] at hp
    rcases hp with ⟨-, h | ⟨_, h, -⟩⟩ | ⟨intent, s, ⟨before, -, ht⟩, h | h⟩
    · cases h
    · cases h
    · exact absurd h not_false
    · have hmem : called (.reserve intent) (.ok .inserted) ∈ L.trace i := by
        rw [ht]
        exact List.mem_append_right _ List.mem_cons_self
      exact ⟨intent, mem_grants.2 (Log.mem_trace.1 hmem), h.1⟩
  | reconcileSuccess =>
    rw [hc] at hp
    rcases hp with h | ⟨_, _, h, -⟩ | ⟨h, -⟩ <;> cases h
  | revokeUnused =>
    rw [hc] at hp
    rcases hp with h | ⟨_, h⟩ <;> cases h

/-- What settles a granted intent: a transition of its own call, or a revocation of its run. -/
theorem Run.settledIn_iff
    (h : Run calls (L ++ .act i (called (.reserve intent) (.ok .inserted)) :: L') c) :
    SettledIn L' intent ↔ moves (L'.trace i) ≠ [] ∨ RevokedIn L' intent := by
  have hgrant : (i, intent) ∈ grants (L ++ .act i (called (.reserve intent) (.ok .inserted)) :: L') :=
    mem_grants.2 (List.mem_append_right _ List.mem_cons_self)
  have hfence : intent.executionFencingToken = 1 := by
    have hcore : intent.core = intent := h.regular
    rw [← hcore]
    rfl
  -- A transition of the rest of the run is of the intent granted to its call.
  have htransition {k : Nat} {tenantId effectId now : Str} {fence : Int} {change : Change}
      {answer : Except Exn Bool}
      (hmem : .act k (called (.transition tenantId effectId fence change now) answer) ∈ L') :
      ∃ intent', (k, intent') ∈
          grants (L ++ .act i (called (.reserve intent) (.ok .inserted)) :: L') ∧
        tenantId = intent'.tenantId ∧ effectId = intent'.effectId ∧
        fence = intent'.executionFencingToken := by
    obtain ⟨M, M', rfl⟩ := List.append_of_mem hmem
    have hrun := h
    rw [← List.cons_append, ← List.append_assoc] at hrun
    obtain ⟨intent', hg, hids⟩ := hrun.transition_permitted
    refine ⟨intent', ?_, hids⟩
    rw [← List.cons_append, ← List.append_assoc, grants_append]
    exact List.mem_append_left _ hg
  constructor
  · rintro ⟨k, o, a, hmem, ho⟩
    cases o with
    | transition tenantId effectId fence change now =>
      obtain ⟨intent', hg, rfl, rfl, rfl⟩ := htransition hmem
      left
      by_cases hk : k = i
      · subst hk
        exact List.ne_nil_of_mem (mem_moves.2 ⟨_, _, _, _, _, Log.mem_trace.2 hmem⟩)
      · have hapart := h.grants_apart hg hgrant hk
        simp only [Statement.settles, Bool.and_eq_true, ModelEffectIntent.isFor, beq_iff_eq] at ho
        have hclash : effectSchema.clash intent'.core intent.core = true := by
          simp [effectSchema, ModelEffectIntent.core, ho.1.1.2]
        rw [hapart] at hclash
        cases hclash
    | revokeUnused tenantId runId reason now =>
      right
      simp only [Statement.settles, ModelEffectIntent.ofRun, Bool.and_eq_true, beq_iff_eq] at ho
      obtain ⟨rfl, rfl⟩ := ho
      exact ⟨k, reason, now, a, hmem⟩
    | reserve | get | reconcile | listForRun => cases ho
  · rintro (hm | ⟨k, reason, now, n, hmem⟩)
    · obtain ⟨change, hmem⟩ := List.exists_mem_of_ne_nil _ hm
      obtain ⟨tenantId, effectId, fence, now, answer, hmem⟩ := mem_moves.1 hmem
      have hmem := Log.mem_trace.1 hmem
      obtain ⟨intent', hg, rfl, rfl, rfl⟩ := htransition hmem
      obtain rfl := h.grant_unique hg hgrant
      refine ⟨i, _, _, hmem, ?_⟩
      simp only [Statement.settles, ModelEffectIntent.isFor, beq_self_eq_true, hfence,
        Bool.and_self, Bool.true_and]
      decide
    · exact ⟨k, _, n, hmem, by simp [Statement.settles, ModelEffectIntent.ofRun]⟩

/-- An `execute` that is over has attempted a transition of its intent exactly when its exchange
settles. -/
theorem Run.moves_iff {A : ModelEffectAuthority I.toPlatform} {command : ModelEffectCommand}
    (h : Run calls (L ++ .act i (called (.reserve intent) (.ok .inserted)) :: L') c)
    (hc : calls i = .execute A command) (hd : (c.thread i).Done) :
    moves (L'.trace i) ≠ [] ↔ ExchangeSettles I A.gateway (L'.trace i) := by
  obtain ⟨hq, -⟩ := h.reserve_permitted
  obtain ⟨r, -, hend⟩ := Steps.spec_done h (calls i).spec hd
  have htrace : Log.trace (L ++ .act i (called (.reserve intent) (.ok .inserted)) :: L') i =
      L.trace i ++ called (.reserve intent) (.ok .inserted) :: L'.trace i := by
    rw [Log.trace_append, ← List.singleton_append, Log.trace_append, Log.trace_act_self]
    rfl
  rw [hc, htrace] at hend
  obtain ⟨r', hend, -⟩ := hend
  -- The trace splits in one way at its reservation.
  have hsplit {before s : Trace sig} {intent' : ModelEffectIntent} {answer : Except Exn Reserved}
      (hb : Quiet before) (ht : L.trace i ++ called (.reserve intent) (.ok .inserted) :: L'.trace i =
        before ++ called (.reserve intent') answer :: s) :
      called (.reserve intent) (.ok .inserted) = called (.reserve intent') answer ∧
        L'.trace i = s := by
    have hnone {t : Trace sig} (ht : Quiet t) : ∀ e ∈ t, ¬ reservationOf e ≠ none :=
      fun e he hne => hne (List.filterMap_eq_nil_iff.1 ht.reservations e he)
    have hsome (intent : ModelEffectIntent) (answer : Except Exn Reserved) :
        reservationOf (called (.reserve intent) answer) ≠ none := nofun
    exact (Trace.split_unique (hnone hq) (hnone hb) (hsome _ _) (hsome _ _) ht).2
  generalize ht : L.trace i ++ called (.reserve intent) (.ok .inserted) :: L'.trace i = t at hend
  cases hend with
  | early hq' =>
    have := hq'.reservations
    rw [← ht, reservations_append, hq.reservations] at this
    cases this
  | refused hb h1 | existing hb h1 =>
    obtain ⟨he, -⟩ := hsplit hb (ht.trans h1)
    cases he
  | granted hs hiff =>
    obtain ⟨before, hb, h1⟩ := hs
    obtain ⟨-, rfl⟩ := hsplit hb (ht.trans h1)
    exact hiff

/-- When the `execute` of a reserved effect is over, the effect is no longer pending exactly when
the exchange raised nothing unexpected or a revocation of its run committed. -/
theorem model_effect_settles_iff {A : ModelEffectAuthority I.toPlatform}
    {command : ModelEffectCommand}
    (h : Run calls (L ++ .act i (called (.reserve intent) (.ok .inserted)) :: L') c)
    (hc : calls i = .execute A command) (hd : (c.thread i).Done) :
    ∃ r ∈ c.world.rows, r.core = intent.core ∧
      (r.status ≠ .pending ↔
        ExchangeSettles I A.gateway (L'.trace i) ∨ RevokedIn L' intent) := by
  obtain ⟨r, hr, hstep, hiff⟩ := h.granted_row
  refine ⟨r, hr, hstep.core, hiff.trans ?_⟩
  rw [h.settledIn_iff, h.moves_iff hc hd]

/-- The run of the sample is over with its effect settled. -/
theorem model_effect_settles_sample :
    ∃ (L L' : History) (c : State) (intent : ModelEffectIntent), ∃ r ∈ c.world.rows,
      Run (fun _ => .execute Sample.authority Sample.command)
        (L ++ .act 0 (called (.reserve intent) (.ok .inserted)) :: L') c ∧
      r.core = intent.core ∧ r.status = .succeeded ∧
      (r.status ≠ .pending ↔
        ExchangeSettles Sample.interpreter Sample.authority.gateway (L'.trace 0) ∨
          RevokedIn L' intent) := by
  obtain ⟨L, c, h, hstatus, hgrants, hdone⟩ := Run.of_schedule
    (fun _ => .execute Sample.authority Sample.command)
    (Sample.moves 0 7 (Sample.success Sample.body))
    (fun L c => c.world.rows.map (·.status) = [.succeeded] ∧ (grants L).map (·.1) = [0] ∧
      (c.thread 0).Done) (by decide +kernel)
  obtain ⟨⟨i, intent⟩, hg⟩ : ∃ x, grants L = [x] := List.length_eq_one_iff.1 (by
    simpa using congrArg List.length hgrants)
  obtain rfl : i = 0 := by simpa [hg] using hgrants
  obtain ⟨M, M', rfl⟩ := List.append_of_mem (mem_grants.1 (hg ▸ List.mem_singleton_self _))
  obtain ⟨r, hr, hcore, hiff⟩ := model_effect_settles_iff h rfl hdone
  refine ⟨M, M', c, intent, r, hr, h, hcore, ?_, hiff⟩
  have hmem : r.status ∈ c.world.rows.map (·.status) := List.mem_map_of_mem hr
  rw [hstatus] at hmem
  exact List.mem_singleton.1 hmem

/-- A call raised `UnicodeEncodeError`. -/
def Sample.raisedUnicode {α : Type} : Prog sig Exn α → Bool
  | .raise .unicodeEncodeError => true
  | _ => false

/-- An `execute` whose provider answers with a lone surrogate raises, and its effect stays pending. -/
theorem model_effect_can_strand :
    ∃ L c, Run (fun _ => .execute Sample.authority Sample.command) L c ∧
      (grants L).map (·.1) = [0] ∧ c.thread 0 = .raise .unicodeEncodeError ∧
      c.world.rows.map (·.status) = [.pending] := by
  obtain ⟨L, c, h, hg, ht, hs⟩ := Run.of_schedule
    (fun _ => .execute Sample.authority Sample.command)
    (Sample.moves 0 4 (Sample.success Sample.surrogateBody))
    (fun L c => (grants L).map (·.1) = [0] ∧
      Sample.raisedUnicode (c.thread 0) = true ∧
      c.world.rows.map (·.status) = [.pending]) (by decide +kernel)
  refine ⟨L, c, h, hg, ?_, hs⟩
  unfold Sample.raisedUnicode at ht
  split at ht
  · assumption
  · cases ht

end ModelEffect

end AgencyRuntime
