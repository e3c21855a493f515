import AgencyRuntime.Publication.Holder

/-!
# The status an execution leaves behind

When `execute` is over, the status of the intent it was granted follows from the answers it got
(the decrypted tokens and the provider's replies) and from the revocations that committed meanwhile.
-/

namespace AgencyRuntime

open Effects Tables PublicationStatus

namespace Publication

/-- The provider rejected the request that reads the public post back. -/
def VerificationRejected (P : Platform) (t : Trace sig) : Prop :=
  ∃ x ∈ replies t, x.1.verifies = true ∧ Rejects P x.2

/-! ## Sample runs -/

namespace Sample

/-- The calls of these runs. -/
def calls : Nat → Call := fun _ => .execute authority (command 1)

def tokens : Option Obj := some [(Py.lit "access_token", .str (Py.lit "T"))]

/-- A reply that names the identifier `1`. -/
def identified : HttpReply := .reply 200 [] (body "id" "1")

def finished : HttpReply := .reply 200 [] (body "status_code" "FINISHED")

/-- The execution as far as the answer to `media_publish`. -/
def published : List (Choice (Oracle outside) Empty) :=
  moves 0 10 tokens identified ++ moves 0 2 tokens finished ++ moves 0 2 tokens identified

/-- The post is published and its verification answered with 404. -/
theorem rejected_verification :
    ∃ L₁ intent L₂ c, Run platform calls .empty (grantLog L₁ 0 intent L₂) c ∧
      (c.thread 0).Done ∧ Posted (L₂.trace 0) ∧ c.world.rows.map (·.status) = [.failed] := by
  obtain ⟨L, c, h, hg, hdone, hposted, hrows⟩ := @Run.of_schedule platform calls .empty
    (published ++ moves 0 5 tokens (.reply 404 [] []))
    (fun L c => (grants L).map (·.1) = [0] ∧ (c.thread 0).Done ∧ Posted (L.trace 0) ∧
      c.world.rows.map (·.status) = [.failed]) inferInstance (by decide +kernel)
  obtain ⟨L₁, intent, L₂, rfl⟩ := grantLog_of_grants hg
  rw [Posted, h.since_grant.2] at hposted
  exact ⟨L₁, intent, L₂, c, h, hdone, hposted, hrows⟩

/-- The decrypted payload has no access token. -/
theorem missing_token :
    ∃ L₁ intent L₂ c, Run platform calls .empty (grantLog L₁ 0 intent L₂) c ∧
      (c.thread 0).Done ∧ c.world.rows.map (·.status) = [.pending] := by
  obtain ⟨L, c, h, hg, hdone, hrows⟩ := @Run.of_schedule platform calls .empty
    (moves 0 5 (some []) .transportError)
    (fun L c => (grants L).map (·.1) = [0] ∧ (c.thread 0).Done ∧
      c.world.rows.map (·.status) = [.pending]) inferInstance (by decide +kernel)
  obtain ⟨L₁, intent, L₂, rfl⟩ := grantLog_of_grants hg
  exact ⟨L₁, intent, L₂, c, h, hdone, hrows⟩

end Sample

section
variable {P : Platform} {calls : Nat → Call} {start : IntentTable} {L₁ L₂ : History} {c : State}
variable {i : Nat} {intent : SocialPublicationIntent} {A : SocialPublicationAuthority}
variable {command : SocialPublicationCommand}

/-- An execution that is over, and whose create request was answered with a 2xx, has not recorded a
failure exactly when the verification was not rejected or a revocation came first. -/
theorem posted_not_failed_iff (h : Run P calls start (grantLog L₁ i intent L₂) c)
    (hcall : calls i = .execute A command) (hdone : (c.thread i).Done) :
    ∃ r ∈ c.world.rows, r.core = intent.core ∧
      ((Posted (L₂.trace i) → r.status ≠ .failed) ↔
        (Posted (L₂.trace i) → VerificationRejected P (L₂.trace i) →
          RevokedPending intent L₂)) := by
  obtain ⟨connection, -, hres⟩ := h.holder_done hcall hdone
  obtain ⟨r, hr, hcore, hstatus⟩ := h.status_granted
  refine ⟨r, hr, hcore, forall_congr' fun hposted => ?_⟩
  rw [hstatus, ← h.life_revoked_iff]
  constructor
  · rintro hne ⟨x, hx, hverifies, hrejects⟩
    have hcause : FailureCause P (L₂.trace i) := .inr ⟨x, hx, .inl hrejects⟩
    obtain ⟨m, hm, hfailed⟩ := hres.failed.2 hcause
    have hsettled : life .pending (lifeOf intent L₂) ≠ .pending :=
      life_settled_iff.2 (.inl ⟨.failed, nofun, h.settle_mem_iff.2 ⟨m, hm, hfailed⟩⟩)
    obtain ⟨a, e, b, hevents, ha, hidle, hlife⟩ := life_decided hsettled
    cases e with
    | settle status =>
      -- The only final status the holder asks for is `failed`.
      have hmem : .settle status ∈ lifeOf intent L₂ := by simp [hevents]
      obtain ⟨m', hm', rfl⟩ := h.settle_mem_iff.1 hmem
      rcases hres.only hcause m' hm' with hpending | hfailed'
      · exact absurd hpending hidle
      · have hfinal : Final .failed := ⟨nofun, nofun⟩
        rw [hfailed', show after .pending (.settle .failed) = .failed from rfl,
          hfinal.life] at hlife
        exact absurd hlife hne
    | revoke =>
      have hfinal : Final .revoked := ⟨nofun, nofun⟩
      exact hlife.trans (hfinal.life b)
    | reconcile => exact absurd rfl hidle
  · intro himp hfailed
    have hfinal : Final .failed := ⟨nofun, nofun⟩
    obtain ⟨a, e, b, hevents, -, he⟩ := (life_eq_final hfinal nofun).1 hfailed
    cases e with
    | settle status =>
      obtain rfl : status = .failed := he
      have hmem : .settle .failed ∈ lifeOf intent L₂ := by simp [hevents]
      have hcause := hres.failed.1 (h.settle_mem_iff.1 hmem)
      have hrevoked := himp (hres.late hposted hcause)
      rw [hfailed] at hrevoked
      cases hrevoked
    | revoke | reconcile => cases he

/-- The theorem for an execution whose verification was answered with 404. -/
theorem posted_not_failed_sample :
    ∃ L₁ intent L₂ c, Run Sample.platform Sample.calls .empty (grantLog L₁ 0 intent L₂) c ∧
      ∃ r ∈ c.world.rows, r.core = intent.core ∧
        ((Posted (L₂.trace 0) → r.status ≠ .failed) ↔
          (Posted (L₂.trace 0) → VerificationRejected Sample.platform (L₂.trace 0) →
            RevokedPending intent L₂)) := by
  obtain ⟨L₁, intent, L₂, c, h, hdone, -⟩ := Sample.rejected_verification
  exact ⟨L₁, intent, L₂, c, h, posted_not_failed_iff h rfl hdone⟩

/-- A failure can be recorded although the request that creates the post was answered with a 2xx. -/
theorem posted_can_fail :
    ¬ ∀ (P : Platform) (calls : Nat → Call) (start : IntentTable) (L₁ : History) (i : Nat)
      (intent : SocialPublicationIntent) (L₂ : History) (c : State),
      Run P calls start (grantLog L₁ i intent L₂) c → (c.thread i).Done → Posted (L₂.trace i) →
      ∀ r ∈ c.world.rows, r.core = intent.core → r.status ≠ .failed := by
  intro hclaim
  obtain ⟨L₁, intent, L₂, c, h, hdone, hposted, hrows⟩ := Sample.rejected_verification
  obtain ⟨r, hr, hcore, -⟩ := h.status_granted
  have hstatus : r.status ∈ c.world.rows.map (·.status) := List.mem_map_of_mem hr
  rw [hrows, List.mem_singleton] at hstatus
  exact hclaim _ _ _ _ _ _ _ _ h hdone hposted r hr hcore hstatus

end

end Publication

end AgencyRuntime
