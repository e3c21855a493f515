import AgencyRuntime.Publication.AtMostOnce

/-!
# The holder of a granted intent

The call that was granted an intent is the only one whose transitions reach its row, so the life of
the intent is made of the holder's transitions, of the revocations that cover it and of
reconciliations.
-/

namespace AgencyRuntime

open Effects Tables PublicationStatus

namespace Publication

/-- A log in which call `i` is granted the intent between `L₁` and `L₂`. -/
abbrev grantLog (L₁ : History) (i : Nat) (intent : SocialPublicationIntent) (L₂ : History) :
    History :=
  L₁ ++ .act i (called (.reserve intent) (.ok .inserted)) :: L₂

/-- A log in which a revocation commits between `M₁` and `M₂`. -/
abbrev revokeLog (M₁ : History) (j : Nat) (filter : RevokeFilter) (reason now : Str) (n : Nat)
    (M₂ : History) : History :=
  M₁ ++ .act j (called (.revokeUnused filter reason now) (.ok n)) :: M₂

/-- A revocation that covers the intent committed. -/
def RevokedIn (intent : SocialPublicationIntent) (L : History) : Prop :=
  ∃ j filter reason now n, .act j (called (.revokeUnused filter reason now) (.ok n)) ∈ L ∧
    filter.covers intent = true

/-- A revocation that covers the intent committed while the intent was pending. -/
def RevokedPending (intent : SocialPublicationIntent) (L : History) : Prop :=
  ∃ M₁ j filter reason now n M₂,
    L = revokeLog M₁ j filter reason now n M₂ ∧
      filter.covers intent = true ∧ (rowAfter M₁ intent).status = .pending

section
variable {P : Platform} {calls : Nat → Call} {start : IntentTable} {L L₁ L₂ : History} {c : State}
variable {i j : Nat} {intent intent' : SocialPublicationIntent}

instance : Std.Symm fun x y : Nat × SocialPublicationIntent =>
    x.1 ≠ y.1 ∧ intentSchema.clash x.2.core y.2.core = false :=
  ⟨fun _ _ h => ⟨h.1.symm, (intentSchema.symm _ _).trans h.2⟩⟩

/-- Grants that clash are one grant. -/
theorem Run.grant_eq_of_clash (h : Run P calls start L c) (hi : (i, intent) ∈ grants L)
    (hj : (j, intent') ∈ grants L) (hclash : intentSchema.clash intent.core intent'.core = true) :
    i = j ∧ intent = intent' := by
  by_contra hne
  have := h.grants_pairwise.forall hi hj fun heq => hne (Prod.mk.inj heq)
  rw [hclash] at this
  cases this.2

/-- A call has one grant. -/
theorem Run.grant_eq_of_thread (h : Run P calls start L c) (hi : (i, intent) ∈ grants L)
    (hj : (i, intent') ∈ grants L) : intent = intent' := by
  by_contra hne
  exact (h.grants_pairwise.forall hi hj fun heq => hne (Prod.mk.inj heq).2).1 rfl

/-- A row that was read has the identifiers it was read with, and is still there. -/
theorem Run.got {tenantId intentId : Str} {row : SocialPublicationIntent}
    (h : Run P calls start L c)
    (hget : .act j (called (.get tenantId intentId) (some row)) ∈ L) :
    row.isFor tenantId intentId = true ∧ ∃ r ∈ c.world.rows, r.core = row.core := by
  obtain ⟨M₁, M₂, rfl⟩ := List.append_of_mem hget
  obtain ⟨d, d', -, hrun, -, hs⟩ := h.at_call
  obtain ⟨hfind, hworld⟩ := Prod.mk.inj hrun
  have hmem := List.mem_of_find?_eq_some hfind
  rw [hworld] at hmem
  exact ⟨List.find?_some hfind, _, Steps.row hs hmem, core_rowAfter M₂ row⟩

/-- The row of a granted intent, and its status. -/
theorem Run.status_granted (h : Run P calls start (grantLog L₁ i intent L₂) c) :
    ∃ r ∈ c.world.rows, r.core = intent.core ∧
      r.status = life .pending (lifeOf intent L₂) := by
  obtain ⟨-, A, command, -, hbuilt⟩ := h.reserve_permitted
  refine ⟨_, h.granted_row, core_rowAfter L₂ intent, ?_⟩
  rw [status_rowAfter, hbuilt.status]

/-- A transition is made by an `execute`, for the intent it was granted. -/
theorem Run.transition_permitted {tenantId intentId now : Str} {fence : Int} {change : Change}
    {answer : Except Exn Bool}
    (h : Run P calls start
      (L₁ ++ .act j (called (.transition tenantId intentId fence change now) answer) :: L₂) c) :
    ∃ intent s, Since (L₁.trace j) intent s ∧
      Names intent s tenantId intentId fence ∧ Py.encodable change.failureReason = true ∧
      change.status ≠ .revoked ∧ (change.status = .failed → FailureCause P s) := by
  have hp := h.permitted
  cases hc : calls j with
  | execute A command =>
    rw [hc] at hp
    rcases hp with ⟨-, hno⟩ | ⟨intent, s, hs, hr⟩
    · exact absurd hno not_false
    · exact ⟨intent, s, hs, hr⟩
  | revokeUnused | reconcileSuccess =>
    rw [hc] at hp
    simp [Call.Permits] at hp

theorem mem_grants_grantLog : (i, intent) ∈ grants (grantLog L₁ i intent L₂) :=
  mem_grants.2 (by simp)

/-- The identifiers a call uses are those of its intent, also when it read them back. -/
theorem Run.names {M : History} {s : Trace sig} {tenantId intentId : Str} {fence : Int}
    (h : Run P calls start L c) (hM : M ⊆ L) (hs : Since (M.trace i) intent s)
    (hnames : Names intent s tenantId intentId fence) :
    intent.isFor tenantId intentId = true ∧ intent.executionFencingToken = fence := by
  rcases hnames with ⟨rfl, rfl, rfl⟩ | ⟨row, hrow, rfl, rfl, rfl⟩
  · exact ⟨by simp [SocialPublicationIntent.isFor], rfl⟩
  have hget : called (.get intent.tenantId intent.intentId) (some row) ∈ Log.trace M i := by
    obtain ⟨before, -, ht⟩ := hs
    rw [ht]
    exact List.mem_append_right _ (List.mem_cons_of_mem _ hrow)
  obtain ⟨hfor, r, hr, hrcore⟩ := h.got (hM (Log.mem_trace.1 hget))
  obtain ⟨r', hr', hcore⟩ := h.grant_core (mem_grants.2 (hM (Log.mem_trace.1 hs.mem)))
  have hself : intent.isFor intent.tenantId intent.intentId = true := by
    simp [SocialPublicationIntent.isFor]
  have hclash : intentSchema.clash r.core r'.core = true := by
    rw [hrcore, hcore]
    exact clash_of_isFor hfor hself
  have hsame : row.core = intent.core := by
    rw [← hrcore, ← hcore, Table.eq_of_clash hr hr' hclash]
  simp only [SocialPublicationIntent.isFor, Bool.and_eq_true, beq_iff_eq] at hfor ⊢
  have hfence := congrArg SocialPublicationIntent.executionFencingToken hsame
  exact ⟨⟨hfor.1.symm, hfor.2.symm⟩, hfence.symm⟩

/-- A transition names a granted intent exactly when the holder makes it. -/
theorem Run.transition_names_iff {tenantId intentId now : Str} {fence : Int} {change : Change}
    {answer : Except Exn Bool} (h : Run P calls start (grantLog L₁ i intent L₂) c)
    (hmem : .act j (called (.transition tenantId intentId fence change now) answer) ∈
      grantLog L₁ i intent L₂) :
    (intent.isFor tenantId intentId = true ↔ j = i) ∧
      (j = i → intent.executionFencingToken = fence) ∧
      Py.encodable change.failureReason = true ∧ change.status ≠ .revoked := by
  obtain ⟨M₁, M₂, hsplit⟩ := List.append_of_mem hmem
  have h' := hsplit ▸ h
  obtain ⟨J, s, hs, hnames, henc, hrevoked, -⟩ := Run.transition_permitted h'
  obtain ⟨hJid, hfence⟩ := h'.names (List.subset_append_left ..) hs hnames
  have hJ : (j, J) ∈ grants (grantLog L₁ i intent L₂) := by
    rw [hsplit]
    exact mem_grants.2 (List.mem_append_left _ (Log.mem_trace.1 hs.mem))
  have hsame (hj : j = i) : J = intent := by
    subst hj
    exact h.grant_eq_of_thread hJ mem_grants_grantLog
  refine ⟨⟨fun hid => ?_, fun hj => hsame hj ▸ hJid⟩, fun hj => hsame hj ▸ hfence, henc, hrevoked⟩
  exact (h.grant_eq_of_clash hJ mem_grants_grantLog (clash_of_isFor hJid hid)).1

theorem mem_split (M₁ : History) (e : Entry sig Empty) (M₂ : History) : e ∈ M₁ ++ e :: M₂ := by
  simp

theorem mem_grantLog {e : Entry sig Empty} (h : e ∈ L₂) : e ∈ grantLog L₁ i intent L₂ :=
  List.mem_append_right _ (List.mem_cons_of_mem _ h)

/-- The intent is settled by its holder's transitions. -/
theorem Run.settle_mem_iff {status : PublicationStatus}
    (h : Run P calls start (grantLog L₁ i intent L₂) c) :
    .settle status ∈ lifeOf intent L₂ ↔ ∃ m ∈ moves (L₂.trace i), m.change.status = status := by
  rw [mem_lifeOf]
  constructor
  · rintro ⟨j, o, answer, hmem, hevent⟩
    obtain ⟨tenantId, intentId, fence, change, now, rfl, hstatus, hid⟩ :=
      Statement.lifeEvent_settle hevent
    obtain ⟨hholder, -⟩ := h.transition_names_iff (mem_grantLog hmem)
    obtain rfl := hholder.1 hid
    exact ⟨⟨tenantId, intentId, fence, change, answer⟩,
      List.mem_filterMap.2 ⟨_, Log.mem_trace.2 hmem, rfl⟩, hstatus⟩
  · rintro ⟨m, hm, rfl⟩
    obtain ⟨tenantId, intentId, fence, change, now, answer, hmem, rfl⟩ := mem_moves.1 hm
    have hmem := Log.mem_trace.1 hmem
    obtain ⟨hholder, hfence, henc, -⟩ := h.transition_names_iff (mem_grantLog hmem)
    refine ⟨i, .transition tenantId intentId fence change now, answer, hmem, ?_⟩
    simp [Statement.lifeEvent, hholder.2 rfl, hfence rfl, henc]

/-- No transition revokes. -/
theorem Run.settle_revoked_not_mem (h : Run P calls start (grantLog L₁ i intent L₂) c) :
    .settle .revoked ∉ lifeOf intent L₂ := by
  intro hmem
  obtain ⟨m, hm, hstatus⟩ := h.settle_mem_iff.1 hmem
  obtain ⟨tenantId, intentId, fence, change, now, answer, hmem, rfl⟩ := mem_moves.1 hm
  obtain ⟨-, -, -, hne⟩ := h.transition_names_iff (mem_grantLog (Log.mem_trace.1 hmem))
  exact hne hstatus

/-- A revocation that raises changed nothing. -/
theorem Run.revoke_answer {filter : RevokeFilter} {reason now : Str} {answer : Except Exn Nat}
    (h : Run P calls start L c)
    (hmem : .act j (called (.revokeUnused filter reason now) answer) ∈ L) :
    (∃ n, answer = .ok n) ↔ Py.encodable reason = true := by
  obtain ⟨M₁, M₂, rfl⟩ := List.append_of_mem hmem
  obtain ⟨d, d', -, hrun, -⟩ := h.at_call
  simp only [Statement.run] at hrun
  split at hrun
  · next henc =>
    obtain ⟨rfl, -⟩ := Prod.mk.inj hrun
    exact ⟨fun _ => henc, fun _ => ⟨_, rfl⟩⟩
  · next henc =>
    obtain ⟨rfl, -⟩ := Prod.mk.inj hrun
    exact ⟨by rintro ⟨_, ⟨⟩⟩, fun h => absurd h henc⟩

/-- A granted intent is revoked by the revocations that cover it. -/
theorem Run.revoke_mem_iff (h : Run P calls start (grantLog L₁ i intent L₂) c) :
    .revoke ∈ lifeOf intent L₂ ↔ RevokedIn intent L₂ := by
  rw [mem_lifeOf]
  constructor
  · rintro ⟨j, o, answer, hmem, hevent⟩
    obtain ⟨filter, reason, now, rfl, hcovers, henc⟩ := Statement.lifeEvent_revoke hevent
    obtain ⟨n, rfl⟩ := (h.revoke_answer (mem_grantLog hmem)).2 henc
    exact ⟨j, filter, reason, now, n, hmem, hcovers⟩
  · rintro ⟨j, filter, reason, now, n, hmem, hcovers⟩
    have henc := (h.revoke_answer (mem_grantLog hmem)).1 ⟨n, rfl⟩
    exact ⟨j, .revokeUnused filter reason now, _, hmem, by simp [Statement.lifeEvent, hcovers, henc]⟩

/-- A granted intent is revoked exactly when a revocation found it pending. -/
theorem Run.life_revoked_iff (h : Run P calls start (grantLog L₁ i intent L₂) c) :
    life .pending (lifeOf intent L₂) = .revoked ↔ RevokedPending intent L₂ := by
  obtain ⟨-, A, command, -, hbuilt⟩ := h.reserve_permitted
  rw [PublicationStatus.life_revoked_iff h.settle_revoked_not_mem]
  constructor
  · rintro ⟨a, b, hevents, ha⟩
    obtain ⟨M₁, j, o, answer, M₂, rfl, hM, hevent⟩ := lifeOf_split hevents
    obtain ⟨filter, reason, now, rfl, hcovers, henc⟩ := Statement.lifeEvent_revoke hevent
    have hmem := mem_split M₁ (.act j (called (.revokeUnused filter reason now) answer)) M₂
    obtain ⟨n, rfl⟩ := (h.revoke_answer (mem_grantLog hmem)).2 henc
    refine ⟨M₁, j, filter, reason, now, n, M₂, rfl, hcovers, ?_⟩
    rw [status_rowAfter, hbuilt.status, hM, ha]
  · rintro ⟨M₁, j, filter, reason, now, n, M₂, rfl, hcovers, hpending⟩
    rw [status_rowAfter, hbuilt.status] at hpending
    have hmem := mem_split M₁ (.act j (called (.revokeUnused filter reason now) (.ok n))) M₂
    have henc := (h.revoke_answer (mem_grantLog hmem)).1 ⟨n, rfl⟩
    refine ⟨lifeOf intent M₁, lifeOf intent M₂, ?_, hpending⟩
    have hevent : eventOf intent (.act j (called (.revokeUnused filter reason now) (.ok n))) =
        some .revoke := by
      simp [eventOf, Statement.lifeEvent, hcovers, henc]
    rw [lifeOf_append, lifeOf, lifeOf, List.filterMap_cons_some hevent]
    rfl

theorem trace_grantLog : Log.trace (grantLog L₁ i intent L₂) i =
    L₁.trace i ++ called (.reserve intent) (.ok .inserted) :: L₂.trace i := by
  rw [grantLog, Log.trace_append, ← List.singleton_append, Log.trace_append, Log.trace_act_self]
  rfl

/-- The holder acts for the intent it was granted. -/
theorem Run.since_eq {J : SocialPublicationIntent} {s : Trace sig}
    (h : Run P calls start (grantLog L₁ i intent L₂) c)
    (hs : Since (Log.trace (grantLog L₁ i intent L₂) i) J s) : J = intent ∧ s = L₂.trace i := by
  obtain ⟨hb, -⟩ := h.reserve_permitted
  obtain ⟨before, hb', ht⟩ := hs
  rw [trace_grantLog] at ht
  obtain ⟨-, hevent, rfl⟩ := first_reservation hb.reservations hb'.reservations
    (reservationOf_ne_none _ _) (reservationOf_ne_none _ _) ht
  cases hevent
  exact ⟨rfl, rfl⟩

/-- The holder of an intent does not revoke. -/
theorem Run.revoker_ne {filter : RevokeFilter} {reason now : Str} {answer : Except Exn Nat}
    (h : Run P calls start (grantLog L₁ i intent L₂) c)
    (hmem : .act j (called (.revokeUnused filter reason now) answer) ∈ L₂) : j ≠ i := by
  rintro rfl
  obtain ⟨-, A, command, hcall, -⟩ := h.reserve_permitted
  obtain ⟨M₁, M₂, hsplit⟩ := List.append_of_mem (@mem_grantLog L₁ L₂ j intent _ hmem)
  have hp := Run.permitted (hsplit ▸ h)
  rw [hcall] at hp
  rcases hp with ⟨-, hno⟩ | ⟨_, _, -, hno⟩ <;> exact hno

/-- A log with one grant, of call `i`. -/
theorem grantLog_of_grants (h : (grants L).map (·.1) = [i]) :
    ∃ L₁ intent L₂, L = grantLog L₁ i intent L₂ := by
  obtain ⟨⟨j, intent⟩, hg, rfl⟩ : ∃ x ∈ grants L, x.1 = i :=
    List.mem_map.1 (by rw [h]; exact List.mem_singleton_self i)
  obtain ⟨L₁, L₂, rfl⟩ := List.append_of_mem (mem_grants.1 hg)
  exact ⟨L₁, intent, L₂, rfl⟩

/-- What the holder did before its grant is quiet. -/
theorem Run.since_grant (h : Run P calls start (grantLog L₁ i intent L₂) c) :
    sent (Log.trace (grantLog L₁ i intent L₂) i) = sent (L₂.trace i) ∧
      replies (Log.trace (grantLog L₁ i intent L₂) i) = replies (L₂.trace i) := by
  obtain ⟨hb, -⟩ := h.reserve_permitted
  rw [trace_grantLog, sent_append, replies_append, hb.sent, hb.replies]
  exact ⟨rfl, rfl⟩

/-- What the holder has done since its grant, once it is over. -/
theorem Run.holder_done {A : SocialPublicationAuthority} {command : SocialPublicationCommand}
    (h : Run P calls start (grantLog L₁ i intent L₂) c) (hcall : calls i = .execute A command)
    (hdone : (c.thread i).Done) :
    ∃ connection, connections (L₁.trace i) = [some connection] ∧
      ReservedResult P (ChannelSettles P A command.normalized connection.accountUsername)
        (L₂.trace i) := by
  obtain ⟨hb, -⟩ := h.reserve_permitted
  obtain ⟨r, -, hends⟩ := Steps.spec_done h ((calls i).spec P) hdone
  rw [hcall, trace_grantLog] at hends
  obtain ⟨r', htr, -⟩ := hends
  exact htr.since hb

end

end Publication

end AgencyRuntime
