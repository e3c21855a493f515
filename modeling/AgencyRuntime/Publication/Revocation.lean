import AgencyRuntime.Publication.Outcomes

/-!
# Revocations during an execution

`revoke_unused` revokes every pending intent it covers, also one whose execution is under way. What
the execution still sends afterwards depends on how far it had come.
-/

namespace AgencyRuntime

open Effects Tables PublicationStatus

namespace Publication

/-- The request that publishes the media was sent. -/
def Publishes (t : Trace sig) : Prop := ∃ q ∈ sent t, q.phase = .instagramMediaPublish

/-- A request that creates the public post was sent. -/
def CreatesPost (t : Trace sig) : Prop := ∃ q ∈ sent t, q.phase.createsPost = true

instance (t : Trace sig) : Decidable (Publishes t) :=
  inferInstanceAs (Decidable (∃ q ∈ sent t, q.phase = .instagramMediaPublish))

instance (t : Trace sig) : Decidable (CreatesPost t) :=
  inferInstanceAs (Decidable (∃ q ∈ sent t, q.phase.createsPost = true))

theorem mem_sent {t : Trace sig} {r : Request} : r ∈ sent t ↔ asked (.send r) () ∈ t := by
  simp only [sent, List.mem_filterMap]
  constructor
  · rintro ⟨⟨o | _, a⟩, hmem, h⟩
    · cases o with
      | send r' => cases h; exact hmem
      | _ => cases h
    · cases h
  · exact fun h => ⟨_, h, rfl⟩

/-- Nothing that creates the post was sent for the intent, and its holder will not send it any more:
it crashed, it is over, or it is an Instagram execution whose container is not recorded. -/
def Unused (d : State) (i : Nat) (intent : SocialPublicationIntent) (t : Trace sig) : Prop :=
  ¬ CreatesPost t ∧
    (d.dead i = true ∨ (d.thread i).Done ∨ intent.channelId ≠ Py.lit "x" ∧ ¬ Recorded t)

/-- The committed revocations of a log. -/
def revocationOf : Entry sig Empty → Option RevokeFilter
  | .act _ ⟨.inr (.revokeUnused filter _ _), .ok _⟩ => some filter
  | _ => none

theorem revocationOf_eq_some {e : Entry sig Empty} {filter : RevokeFilter}
    (h : revocationOf e = some filter) :
    ∃ j reason now n, e = .act j (called (.revokeUnused filter reason now) (.ok n)) := by
  rcases e with ⟨j, ⟨_ | o, a⟩⟩ | j | x
  · cases h
  · cases o with
    | revokeUnused filter' reason now =>
      rcases a with _ | n
      · cases h
      · cases h
        exact ⟨j, reason, now, n, rfl⟩
    | _ => cases h
  · cases h
  · cases h

/-! ## Sample runs -/

namespace Sample

/-- A pending intent is revoked, and published after that. -/
def publishesRevoked (L : History) : Bool :=
  match Log.split? grantOf L with
  | some (_, (0, intent), L₂) =>
    match Log.split? revocationOf L₂ with
    | some (M₁, filter, M₂) =>
      decide (filter.covers intent = true ∧ (rowAfter M₁ intent).status = .pending ∧
        Publishes (Log.trace M₂ 0))
    | none => false
  | _ => false

/-- The intent is revoked after its container was recorded, and its media is published after that. -/
theorem revoked_then_published :
    ∃ L₁ intent M₁ j filter reason now n M₂ c,
      Run platform revokedCalls .empty (grantLog L₁ 0 intent
        (revokeLog M₁ j filter reason now n M₂)) c ∧
      filter.covers intent = true ∧ (rowAfter M₁ intent).status = .pending ∧
      Publishes (M₂.trace 0) := by
  obtain ⟨L, c, h, ht⟩ := @Run.of_schedule platform revokedCalls .empty
    (moves 0 10 tokens identified ++ moves 1 2 none .transportError ++
      moves 0 2 tokens finished ++ moves 0 1 tokens identified)
    (fun L _ => publishesRevoked L = true) inferInstance (by decide +kernel)
  unfold publishesRevoked at ht
  split at ht
  · next L₁ intent L₂ hgrant =>
    split at ht
    · next M₁ filter M₂ hrevoked =>
      obtain ⟨e, rfl, he⟩ := Log.split?_sound hgrant
      obtain rfl := grantOf_eq_some.1 he
      obtain ⟨e, rfl, he⟩ := Log.split?_sound hrevoked
      obtain ⟨j, reason, now, n, rfl⟩ := revocationOf_eq_some he
      exact ⟨L₁, intent, M₁, j, filter, reason, now, n, M₂, c, h, of_decide_eq_true ht⟩
    · cases ht
  · cases ht

/-- The intent is revoked after its media was published. -/
theorem published_then_revoked :
    ∃ L₁ intent L₂ c, Run platform revokedCalls .empty (grantLog L₁ 0 intent L₂) c ∧
      CreatesPost (L₂.trace 0) ∧ c.world.rows.map (·.status) = [.revoked] := by
  obtain ⟨L, c, h, hg, hsent, hrows⟩ := @Run.of_schedule platform revokedCalls .empty
    (moves 0 10 tokens identified ++ moves 0 2 tokens finished ++ moves 0 1 tokens identified ++
      moves 1 2 none .transportError)
    (fun L c => (grants L).map (·.1) = [0] ∧ CreatesPost (L.trace 0) ∧
      c.world.rows.map (·.status) = [.revoked]) inferInstance (by decide +kernel)
  obtain ⟨L₁, intent, L₂, rfl⟩ := grantLog_of_grants hg
  rw [CreatesPost, h.since_grant.1] at hsent
  exact ⟨L₁, intent, L₂, c, h, hsent, hrows⟩

/-- The intent is revoked after its execution has crashed without a request. -/
theorem crashed_then_revoked :
    ∃ L₁ intent L₂ c, Run platform revokedCalls .empty (grantLog L₁ 0 intent L₂) c ∧
      c.dead 0 = true ∧ ¬ CreatesPost (L₂.trace 0) ∧ c.world.rows.map (·.status) = [.revoked] := by
  obtain ⟨L, c, h, hg, hdead, hsent, hrows⟩ := @Run.of_schedule platform revokedCalls .empty
    (moves 0 4 tokens identified ++ [.crash 0] ++ moves 1 2 none .transportError)
    (fun L c => (grants L).map (·.1) = [0] ∧ c.dead 0 = true ∧ ¬ CreatesPost (L.trace 0) ∧
      c.world.rows.map (·.status) = [.revoked]) inferInstance (by decide +kernel)
  obtain ⟨L₁, intent, L₂, rfl⟩ := grantLog_of_grants hg
  rw [CreatesPost, h.since_grant.1] at hsent
  exact ⟨L₁, intent, L₂, c, h, hdead, hsent, hrows⟩

end Sample

section
variable {P : Platform} {calls : Nat → Call} {start : IntentTable}
variable {L₁ L₂ M₁ M₂ : History} {c : State} {i j : Nat} {intent : SocialPublicationIntent}
variable {filter : RevokeFilter} {reason now : Str} {n : Nat}

/-- A transition takes place only on a pending row. -/
theorem Run.transition_pending {tenantId intentId now : Str} {fence : Int} {change : Change}
    (h : Run P calls start (grantLog L₁ i intent
      (M₁ ++ .act i (called (.transition tenantId intentId fence change now) (.ok true)) :: M₂)) c) :
    (rowAfter M₁ intent).status = .pending := by
  have hid : intent.isFor tenantId intentId = true :=
    ((h.transition_names_iff (mem_grantLog (mem_split ..))).1).2 rfl
  have h' : Run P calls start (grantLog L₁ i intent M₁ ++
      .act i (called (.transition tenantId intentId fence change now) (.ok true)) :: M₂) c := by
    simpa using h
  obtain ⟨d, d', h1, hrun, -, -⟩ := h'.at_call
  have hcount : d.world.count (inFlight tenantId intentId fence) = 1 := by
    simp only [Statement.run] at hrun
    split at hrun
    · simpa using (Prod.mk.inj hrun).1
    · cases (Prod.mk.inj hrun).1
  obtain ⟨r, hr, hsel⟩ := List.countP_pos_iff.1 (hcount ▸ Nat.one_pos)
  simp only [inFlight, Bool.and_eq_true, decide_eq_true_eq] at hsel
  have hclash : intentSchema.clash r.core (rowAfter M₁ intent).core = true := by
    rw [core_rowAfter]
    exact clash_of_isFor hsel.1.1 hid
  rw [← Table.eq_of_clash hr h1.granted_row hclash]
  exact hsel.1.2

/-- After a revocation nothing is recorded for the intent. -/
theorem Run.not_recorded_after {K : History}
    (h : Run P calls start (grantLog L₁ i intent (revokeLog M₁ j filter reason now n K)) c)
    (hcovers : filter.covers intent = true) (hpending : (rowAfter M₁ intent).status = .pending) :
    ¬ Recorded (K.trace i) := by
  rintro ⟨m, hm, -, hanswer⟩
  obtain ⟨tenantId, intentId, fence, change, now', answer, hmem, rfl⟩ := mem_moves.1 hm
  obtain rfl : answer = .ok true := hanswer
  obtain ⟨K₁, K₂, rfl⟩ := List.append_of_mem (Log.mem_trace.1 hmem)
  have hrevoked : RevokedPending intent
      (revokeLog M₁ j filter reason now n K₁) :=
    ⟨M₁, j, filter, reason, now, n, K₁, rfl, hcovers, hpending⟩
  have hsplit : Run P calls start (grantLog L₁ i intent (revokeLog M₁ j filter reason now n K₁ ++
        .act i (called (.transition tenantId intentId fence change now') (.ok true)) :: K₂)) c := by
    simpa using h
  have hpending' := hsplit.transition_pending
  have hprefix : Run P calls start (grantLog L₁ i intent (revokeLog M₁ j filter reason now n K₁) ++
        .act i (called (.transition tenantId intentId fence change now') (.ok true)) :: K₂) c := by
    simpa using h
  obtain ⟨d, d', h1, -⟩ := hprefix.at_call
  obtain ⟨-, A, command, -, hbuilt⟩ := h1.reserve_permitted
  rw [status_rowAfter, hbuilt.status, h1.life_revoked_iff.2 hrevoked] at hpending'
  cases hpending'

/-- The revocation is no part of the holder's trace. -/
theorem Run.trace_revoked
    (h : Run P calls start (grantLog L₁ i intent (revokeLog M₁ j filter reason now n M₂)) c) :
    Log.trace (revokeLog M₁ j filter reason now n M₂) i =
      M₁.trace i ++ M₂.trace i := by
  have hne := h.revoker_ne (mem_split ..)
  rw [Log.trace_append, ← List.singleton_append, Log.trace_append, Log.trace_act_ne hne]
  rfl

/-- When the holder publishes media after its intent was revoked, the container was recorded and
nothing was published before the revocation, and the container was reported as finished. -/
theorem Run.published_after
    (h : Run P calls start (grantLog L₁ i intent (revokeLog M₁ j filter reason now n M₂)) c)
    (hcovers : filter.covers intent = true) (hpending : (rowAfter M₁ intent).status = .pending)
    (hpublishes : Publishes (M₂.trace i)) :
    Recorded (M₁.trace i) ∧ ¬ Publishes (M₁.trace i) ∧
      Finished P (M₁.trace i ++ M₂.trace i) := by
  obtain ⟨q, hq, hphase⟩ := hpublishes
  obtain ⟨K₁, K₂, hK⟩ := List.append_of_mem (Log.mem_trace.1 (mem_sent.1 hq))
  have h' : Run P calls start (grantLog L₁ i intent (revokeLog M₁ j filter reason now n K₁) ++
        .act i (asked (.send q) ()) :: K₂) c := by
    simpa [hK] using h
  obtain ⟨A, command, J, s, -, hs, -, hcreates, hready, -⟩ := Run.send_permitted h'
  obtain ⟨d, d', h1, -⟩ := Steps.split h'
  obtain ⟨rfl, rfl⟩ := Run.since_eq h1 hs
  rw [Run.trace_revoked h1] at hcreates hready
  have hlater : M₂.trace i = Log.trace K₁ i ++ (asked (.send q) () :: Log.trace K₂ i) := by
    rw [hK, Log.trace_append, ← List.singleton_append, Log.trace_append, Log.trace_act_self]
    rfl
  obtain ⟨⟨m, hm, hrecorded⟩, hfinished⟩ := hready hphase
  refine ⟨?_, ?_, ?_⟩
  · rcases List.mem_append.1 (moves_append .. ▸ hm) with hm | hm
    · exact ⟨m, hm, hrecorded⟩
    · exact absurd ⟨m, hm, hrecorded⟩ (Run.not_recorded_after h1 hcovers hpending)
  · rintro ⟨q', hq', hphase'⟩
    have := hcreates (by rw [hphase]; rfl) q' (by simp [hq'])
    rw [hphase'] at this
    cases this
  · rw [hlater, ← List.append_assoc]
    exact Finished_append.2 (.inl hfinished)

/-- After a revocation of a pending intent its holder publishes nothing if the container was not
recorded, if it had published already, or if the container is never reported as finished; a holder
that is over has published nothing only in these cases. -/
theorem revoked_not_published_iff
    (h : Run P calls start (grantLog L₁ i intent (revokeLog M₁ j filter reason now n M₂)) c)
    (hcovers : filter.covers intent = true) (hpending : (rowAfter M₁ intent).status = .pending) :
    (¬ Recorded (M₁.trace i) ∨ Publishes (M₁.trace i) ∨
        ¬ Finished P (M₁.trace i ++ M₂.trace i) → ¬ Publishes (M₂.trace i)) ∧
      ((c.thread i).Done → ¬ Publishes (M₂.trace i) →
        ¬ Recorded (M₁.trace i) ∨ Publishes (M₁.trace i) ∨
          ¬ Finished P (M₁.trace i ++ M₂.trace i)) := by
  constructor
  · intro hcond hpublishes
    obtain ⟨hrecorded, hfirst, hfinished⟩ := h.published_after hcovers hpending hpublishes
    rcases hcond with hno | hpub | hno
    · exact hno hrecorded
    · exact hfirst hpub
    · exact hno hfinished
  · intro hdone hnone
    obtain ⟨-, A, command, hcall, -⟩ := h.reserve_permitted
    obtain ⟨connection, -, hres⟩ := h.holder_done hcall hdone
    rw [h.trace_revoked] at hres
    by_contra hcond
    push Not at hcond
    obtain ⟨-, hfirst, hfinished⟩ := hcond
    obtain ⟨q, hq, hphase⟩ := hres.published.2 hfinished
    rcases List.mem_append.1 (sent_append .. ▸ hq) with hq | hq
    · exact hfirst ⟨q, hq, hphase⟩
    · exact hnone ⟨q, hq, hphase⟩

end

/-- The theorem for an execution that publishes after the revocation. -/
theorem revoked_not_published_sample :
    ∃ L₁ intent M₁ j filter reason now n M₂ c,
      Run Sample.platform Sample.revokedCalls .empty (grantLog L₁ 0 intent
        (revokeLog M₁ j filter reason now n M₂)) c ∧
      (¬ Recorded (M₁.trace 0) ∨ Publishes (M₁.trace 0) ∨
        ¬ Finished Sample.platform (M₁.trace 0 ++ M₂.trace 0) → ¬ Publishes (M₂.trace 0)) := by
  obtain ⟨L₁, intent, M₁, j, filter, reason, now, n, M₂, c, h, hcovers, hpending, -⟩ :=
    Sample.revoked_then_published
  exact ⟨L₁, intent, M₁, j, filter, reason, now, n, M₂, c, h,
    (revoked_not_published_iff h hcovers hpending).1⟩

/-- An execution can publish its media after its pending intent was revoked. -/
theorem revoked_can_publish :
    ¬ ∀ (P : Platform) (calls : Nat → Call) (start : IntentTable) (L₁ : History) (i : Nat)
      (intent : SocialPublicationIntent) (M₁ : History) (j : Nat) (filter : RevokeFilter)
      (reason now : Str) (n : Nat) (M₂ : History) (c : State),
      Run P calls start (grantLog L₁ i intent
        (revokeLog M₁ j filter reason now n M₂)) c →
      filter.covers intent = true → (rowAfter M₁ intent).status = .pending →
      ¬ Publishes (M₂.trace i) := by
  intro hclaim
  obtain ⟨L₁, intent, M₁, j, filter, reason, now, n, M₂, c, h, hcovers, hpending, hpublishes⟩ :=
    Sample.revoked_then_published
  exact hclaim _ _ _ _ _ _ _ _ _ _ _ _ _ _ h hcovers hpending hpublishes

section
variable {P : Platform} {calls : Nat → Call} {start : IntentTable} {L₁ L₂ : History} {c : State}
variable {i : Nat} {intent : SocialPublicationIntent}

/-- When every revocation of the pending intent finds it unused, the intent does not end as revoked
although its post was requested; when one finds the post requested, it does. -/
theorem requested_not_revoked_of_unused (h : Run P calls start (grantLog L₁ i intent L₂) c) :
    ∃ r ∈ c.world.rows, r.core = intent.core ∧
      ((∀ M₁ j filter reason now n M₂ d,
        L₂ = revokeLog M₁ j filter reason now n M₂ →
        filter.covers intent = true → (rowAfter M₁ intent).status = .pending →
        Run P calls start (grantLog L₁ i intent M₁) d → Unused d i intent (M₁.trace i)) →
        CreatesPost (L₂.trace i) → r.status ≠ .revoked) ∧
      ((∃ M₁ j filter reason now n M₂,
        L₂ = revokeLog M₁ j filter reason now n M₂ ∧
        filter.covers intent = true ∧ (rowAfter M₁ intent).status = .pending ∧
        CreatesPost (M₁.trace i)) → CreatesPost (L₂.trace i) ∧ r.status = .revoked) := by
  obtain ⟨r, hr, hcore, hstatus⟩ := h.status_granted
  refine ⟨r, hr, hcore, ?_, ?_⟩
  · intro hunused ⟨q, hq, hphase⟩ hrevoked
    obtain ⟨M₁, j, filter, reason, now, n, M₂, rfl, hcovers, hpending⟩ :=
      h.life_revoked_iff.1 (hstatus.symm.trans hrevoked)
    have h' : Run P calls start (grantLog L₁ i intent M₁ ++
        .act j (called (.revokeUnused filter reason now) (.ok n)) :: M₂) c := by
      simpa using h
    obtain ⟨d, d', h1, hs, h2⟩ := Steps.split h'
    obtain ⟨hnone, hholder⟩ := hunused M₁ j filter reason now n M₂ d rfl hcovers hpending h1
    have hrest := (Steps.single hs).trans h2
    have htrace := h.trace_revoked
    rw [htrace, sent_append, List.mem_append] at hq
    rcases hq with hq | hq
    · exact hnone ⟨q, hq, hphase⟩
    -- The request comes after the revocation, so the holder still acts.
    have hacts (hidle : Log.trace ([.act j (called (.revokeUnused filter reason now) (.ok n))] ++
        M₂) i = []) : False := by
      rw [Log.trace_append] at hidle
      have : M₂.trace i = [] := (List.append_eq_nil_iff.1 hidle).2
      rw [this] at hq
      cases hq
    rcases hholder with hdead | hdone | ⟨hchannel, hrecorded⟩
    · exact hacts (hrest.dead hdead).2
    · exact hacts (hrest.done hdone)
    · rcases Phase.createsPost_iff.1 hphase with hx | hinstagram
      · obtain ⟨K₁, K₂, hK⟩ := List.append_of_mem (Log.mem_trace.1 (mem_sent.1 hq))
        have h'' : Run P calls start (grantLog L₁ i intent
            (revokeLog M₁ j filter reason now n K₁) ++ .act i (asked (.send q) ()) :: K₂) c := by
          simpa [hK] using h
        obtain ⟨A, command, J, s, -, hsince, -, -, -, honly⟩ := Run.send_permitted h''
        obtain ⟨d, d', h3, -⟩ := Steps.split h''
        obtain ⟨rfl, -⟩ := Run.since_eq h3 hsince
        exact hchannel (honly hx)
      · exact hrecorded (h.published_after hcovers hpending ⟨q, hq, hinstagram⟩).1
  · rintro ⟨M₁, j, filter, reason, now, n, M₂, rfl, hcovers, hpending, q, hq, hphase⟩
    refine ⟨⟨q, ?_, hphase⟩, ?_⟩
    · rw [h.trace_revoked, sent_append]
      exact List.mem_append_left _ hq
    · rw [hstatus]
      exact h.life_revoked_iff.2 ⟨M₁, j, filter, reason, now, n, M₂, rfl, hcovers, hpending⟩

end

/-- The theorem for a revocation of an intent whose execution crashed before any request. -/
theorem requested_not_revoked_sample :
    ∃ L₁ intent L₂ c, Run Sample.platform Sample.revokedCalls .empty (grantLog L₁ 0 intent L₂) c ∧
      c.dead 0 = true ∧
      ∃ r ∈ c.world.rows, r.core = intent.core ∧
        ((∀ M₁ j filter reason now n M₂ d,
          L₂ = revokeLog M₁ j filter reason now n M₂ →
          filter.covers intent = true → (rowAfter M₁ intent).status = .pending →
          Run Sample.platform Sample.revokedCalls .empty (grantLog L₁ 0 intent M₁) d →
          Unused d 0 intent (M₁.trace 0)) →
          CreatesPost (L₂.trace 0) → r.status ≠ .revoked) := by
  obtain ⟨L₁, intent, L₂, c, h, hdead, -⟩ := Sample.crashed_then_revoked
  obtain ⟨r, hr, hcore, hunused, -⟩ := requested_not_revoked_of_unused h
  exact ⟨L₁, intent, L₂, c, h, hdead, r, hr, hcore, hunused⟩

/-- An intent can end as revoked although its post was requested. -/
theorem requested_can_be_revoked :
    ¬ ∀ (P : Platform) (calls : Nat → Call) (start : IntentTable) (L₁ : History) (i : Nat)
      (intent : SocialPublicationIntent) (L₂ : History) (c : State),
      Run P calls start (grantLog L₁ i intent L₂) c → CreatesPost (L₂.trace i) →
      ∀ r ∈ c.world.rows, r.core = intent.core → r.status ≠ .revoked := by
  intro hclaim
  obtain ⟨L₁, intent, L₂, c, h, hsent, hrows⟩ := Sample.published_then_revoked
  obtain ⟨r, hr, hcore, -⟩ := h.status_granted
  have hstatus : r.status ∈ c.world.rows.map (·.status) := List.mem_map_of_mem hr
  rw [hrows, List.mem_singleton] at hstatus
  exact hclaim _ _ _ _ _ _ _ _ h hsent r hr hcore hstatus

end Publication

end AgencyRuntime
