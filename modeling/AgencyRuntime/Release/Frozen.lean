import AgencyRuntime.Orchestrator.Pipeline
import AgencyRuntime.Release.Authority

/-!
# What happens to a completed run

A run is saved from the status that was expected of it, so once a run is completed only a revocation
changes it, and that revocation is of the very run that is stored: every revocation saves what it
makes of the run it read, and what it read while the run was completed is what is stored
(`Run.read_settled`). Two facts about the endpoints follow. A completed run stays as it is, or is
revoked once and then stays so (`completed_run_frozen`); and no publish request that reads the run
after its revocation reserves an intent or reaches the provider (`revocation_fences`).
-/

namespace AgencyRuntime

open Effects Tables Py Orchestrator

namespace Release

/-! ## Revoked runs -/

/-- The second run is the first one with its Greenlight revoked. -/
structure RevokedFrom (run revoked : ExecutionRun) : Prop where
  runId : revoked.runId = run.runId
  status : revoked.status = .revoked
  artifacts : revoked.artifacts = run.artifacts
  greenlight : ∃ g g', run.greenlight = some g ∧ g.active = true ∧ revoked.greenlight = some g' ∧
    g'.active = false ∧ g'.greenlightId = g.greenlightId ∧
    g'.fencingToken = g.fencingToken + 1 ∧ g'.approvedArtifactIds = g.approvedArtifactIds ∧
    g'.approvedArtifactHashes = g.approvedArtifactHashes

theorem activeGreenlight_ok {run : ExecutionRun} {g : Greenlight}
    (h : activeGreenlight run = .ok g) :
    run.status = .completed ∧ run.greenlight = some g ∧ g.active = true := by
  unfold activeGreenlight at h
  split at h
  · next hg =>
    split at h
    · next hactive =>
      cases h
      exact ⟨hactive.1, hg, hactive.2⟩
    · cases h
  · cases h

/-- What a revocation makes of a completed run. -/
theorem revokedRun_ok {clock : Nat → Str} {run revoked : ExecutionRun} {reviewer reason : Str}
    (h : revokedRun clock run reviewer reason = .ok revoked) :
    run.status = .completed ∧ RevokedFrom run revoked := by
  have hends : (Orchestrator.revoke reviewer reason).Ends ⟨run, clock, []⟩ fun r s =>
      r = .ok () → run.status = .completed ∧ RevokedFrom run s.run := by
    refine Method.Ends.update (Method.Ends.ofExcept (fun e _ => nofun) fun g hg => ?_)
    refine Method.Ends.raiseIf (fun _ => nofun) fun _ => ?_
    refine Method.Ends.raiseIf (fun _ => nofun) fun _ => ?_
    refine Method.Ends.update (Method.Ends.ofExcept (fun e _ => nofun) fun g' hg' => ?_)
    have hfields := GreenlightDraft.build_ok hg'
    obtain ⟨hstatus, hgreenlight, hactive⟩ := activeGreenlight_ok hg
    refine Method.Ends.change (Method.Ends.change (Method.Ends.change (Method.Ends.change ?_)))
    refine event_ends fun e clock _ _ => ⟨hstatus, rfl, rfl, rfl, g, g', hgreenlight, hactive, rfl, ?_⟩
    have hrevoked : g'.active = false := by simp [Greenlight.active, hfields]
    exact ⟨hrevoked, by rw [hfields], by rw [hfields], by rw [hfields], by rw [hfields]⟩
  unfold revokedRun at h
  split at h
  · next s heq =>
    cases h
    rw [Method.Ends, heq] at hends
    exact hends rfl
  · cases h

/-! ## The row of a run -/

section
variable {w : Stores} {tenantId runId : Str} {run : ExecutionRun}

theorem isFor_iff {r : RunRecord} :
    r.isFor tenantId runId = true ↔ r.tenantId = tenantId ∧ r.run.runId = runId := by
  rw [RunRecord.isFor, Bool.and_eq_true, beq_iff_eq, beq_iff_eq]

/-- The key finds its row. -/
theorem getRun_eq_some : w.getRun tenantId runId = some run ↔
    ∃ r ∈ w.runs.rows, r.isFor tenantId runId = true ∧ r.run = run := by
  rw [Stores.getRun, Option.map_eq_some_iff]
  constructor
  · rintro ⟨r, hfind, rfl⟩
    have hfor : r.isFor tenantId runId = true := by simpa using List.find?_some hfind
    exact ⟨r, List.mem_of_find?_eq_some hfind, hfor, rfl⟩
  · rintro ⟨r, hr, hfor, rfl⟩
    cases hfind : w.runs.rows.find? (·.isFor tenantId runId) with
    | none => exact absurd hfor (List.find?_eq_none.1 hfind r hr)
    | some r' =>
      have hfor' : r'.tenantId = tenantId ∧ r'.run.runId = runId :=
        isFor_iff.1 (by simpa using List.find?_some hfind)
      obtain ⟨htenant, hrun⟩ := isFor_iff.1 hfor
      have hsame : r' = r := by
        refine Table.eq_of_clash (List.mem_of_find?_eq_some hfind) hr ?_
        change ((r'.tenantId, r'.run.runId) == (r.tenantId, r.run.runId)) = true
        rw [hfor'.1, hfor'.2, htenant, hrun]
        exact beq_self_eq_true _
      exact ⟨r', rfl, by rw [hsame]⟩

theorem getRun_runId (h : w.getRun tenantId runId = some run) : run.runId = runId := by
  obtain ⟨r, -, hfor, rfl⟩ := getRun_eq_some.1 h
  exact (isFor_iff.1 hfor).2

/-- A save leaves the run of a key as it is, or takes its place, in the status it expects. -/
theorem getRun_saveRun (tenantId' : Str) (saved : ExecutionRun) (expected : RunStatus)
    (fault : Option Exn) (h : w.getRun tenantId runId = some run) :
    (w.saveRun tenantId' saved expected fault).2.getRun tenantId runId = some run ∨
      tenantId' = tenantId ∧ saved.runId = runId ∧ run.status = expected ∧
        (w.saveRun tenantId' saved expected fault).2.getRun tenantId runId = some saved := by
  unfold Stores.saveRun
  split
  · cases fault with
    | some e => exact .inl h
    | none =>
      obtain ⟨r, hr, hfor, rfl⟩ := getRun_eq_some.1 h
      by_cases hsaved : savedRow tenantId' saved.runId expected r = true
      · rw [savedRow, Bool.and_eq_true, decide_eq_true_eq] at hsaved
        obtain ⟨hrow, hstatus⟩ := hsaved
        obtain ⟨rfl, hrun⟩ := isFor_iff.1 hrow
        obtain ⟨rfl, hid⟩ := isFor_iff.1 hfor
        refine .inr ⟨rfl, hrun.symm.trans hid, hstatus, getRun_eq_some.2
          ⟨{ r with run := saved }, Table.mem_modify.2 ⟨r, hr, ?_⟩, ?_, rfl⟩⟩
        · rw [if_pos (by rw [savedRow, hrow, decide_eq_true hstatus, Bool.and_true])]
          change ({ r with run := { saved with runId := r.run.runId } } : RunRecord) = _
          rw [hrun]
        · exact isFor_iff.2 ⟨rfl, hrun.symm.trans hid⟩
      · exact .inl (getRun_eq_some.2 ⟨r, Table.mem_modify.2 ⟨r, hr, if_neg hsaved⟩, hfor, rfl⟩)
  · split <;> exact .inl h

/-- A save that succeeds takes the place of a run in the status it expects. -/
theorem getRun_of_saved {saved : ExecutionRun} {expected : RunStatus} {fault : Option Exn}
    (h : (w.saveRun tenantId saved expected fault).1 = .ok ()) :
    (w.saveRun tenantId saved expected fault).2.getRun tenantId saved.runId = some saved := by
  unfold Stores.saveRun at h ⊢
  split at h
  · next hany =>
    rw [if_pos hany]
    cases fault with
    | some e => cases h
    | none =>
      obtain ⟨r, hr, hsaved⟩ := List.any_eq_true.1 hany
      have hrow : r.isFor tenantId saved.runId = true :=
        (Bool.and_eq_true_iff.1 hsaved).1
      obtain ⟨htenant, hrun⟩ := isFor_iff.1 hrow
      refine getRun_eq_some.2
        ⟨{ r with run := saved }, Table.mem_modify.2 ⟨r, hr, ?_⟩, isFor_iff.2 ⟨htenant, rfl⟩, rfl⟩
      rw [if_pos hsaved]
      change ({ r with run := { saved with runId := r.run.runId } } : RunRecord) = _
      rw [hrun]
  · split at h <;> cases h

end

/-! ## Steps -/

section
variable {D : Deployment} {requests : Nat → Request} {start : Stores} {L M : History}
variable {c d : State} {tenantId runId : Str} {run : ExecutionRun}

/-- A revocation of the run of the key saves what it makes of a run it read. -/
structure Revokes (requests : Nat → Request) (L : History) (tenantId runId : Str)
    (saved : ExecutionRun) (i : Nat) (read : ExecutionRun) : Prop where
  found : ReadRun (L.trace i) tenantId runId read
  revoked : ∃ r clock, requests i = .revoke r ∧ r.tenantId = tenantId ∧ r.runId = runId ∧
    revokedRun clock read r.subjectId r.reason = .ok saved

/-- A run that was read is stored under its key. -/
theorem Run.read_runId (h : Run D requests start L c) {i : Nat} {read : ExecutionRun}
    (hread : ReadRun (L.trace i) tenantId runId read) : read.runId = runId := by
  obtain ⟨-, -, d, -, -, hw⟩ := h.once hread
  exact getRun_runId hw

/-- Only a revocation saves a run. -/
theorem Run.save_revokes (h : Run D requests start L d) {i : Nat} {tenantId' : Str}
    {saved : ExecutionRun} {expected : RunStatus} {fault : Option Exn}
    {a : accesses.Ans (.saveRun tenantId' saved expected fault)} {c : State}
    (hstep : Step (service.machine questions) d
      (.act i (called (.saveRun tenantId' saved expected fault) a)) c) :
    expected = .completed ∧ ∃ read, Revokes requests L tenantId' saved.runId saved i read := by
  have hp := Steps.spec_last (Steps.snoc h hstep) (Spec_program (requests i))
  cases hrequest : requests i with
  | publish | disconnect =>
    rw [hrequest] at hp
    exact hp.elim
  | revoke r =>
    rw [hrequest] at hp
    obtain ⟨rfl, rfl, clock, read, hread, hrevoked⟩ := hp
    have hid : saved.runId = r.runId :=
      (revokedRun_ok hrevoked).2.runId.trans (h.read_runId hread)
    rw [hid]
    exact ⟨rfl, read, hread, r, clock, hrequest, rfl, rfl, hrevoked⟩

/-- A run that is no longer in production changes in one step by a revocation at most. -/
theorem Run.step_getRun (h : Run D requests start L d) {e : Entry sig Change}
    (hstep : Step (service.machine questions) d e c)
    (hstored : d.world.getRun tenantId runId = some run) (hsettled : inProduction run.status = false) :
    c.world.getRun tenantId runId = some run ∨
      run.status = .completed ∧ ∃ i read saved, Revokes requests L tenantId runId saved i read ∧
        c.world.getRun tenantId runId = some saved := by
  have hsame := hstep
  cases hstep with
  | crash => exact .inl hstored
  | @env x w hx =>
    refine .inl ?_
    cases x with
    | createRun record =>
      obtain ⟨runs, hinsert, rfl⟩ := Option.map_eq_some_iff.1 hx
      obtain ⟨r, hr, hfor, hrun⟩ := getRun_eq_some.1 hstored
      exact getRun_eq_some.2 ⟨r, (Table.mem_insert hinsert).2 (.inl hr), hfor, hrun⟩
    | saveRun tenantId' saved expected =>
      change (if inProduction expected = true then _ else none) = some w at hx
      split at hx
      · next hproduction =>
        cases hx
        rcases getRun_saveRun tenantId' saved expected none hstored with hkept | ⟨-, -, rfl, -⟩
        · exact hkept
        · rw [hsettled] at hproduction
          cases hproduction
      · cases hx
    | upsertConnection | media =>
      cases hx
      exact hstored
  | @act i o k oracle a w _ _ hex =>
    rcases o with o | o
    · cases hex
      exact .inl hstored
    · cases o with
      | account | getRun | getMedia | getContent =>
        cases hex
        exact .inl hstored
      | saveRun tenantId' saved expected fault =>
        obtain ⟨rfl, read, hrevokes⟩ := h.save_revokes hsame
        have hworld : (d.world.saveRun tenantId' saved .completed fault).2 = w :=
          (Prod.mk.inj (Option.some.inj hex)).2
        subst hworld
        rcases getRun_saveRun tenantId' saved .completed fault hstored with
          hkept | ⟨rfl, rfl, hstatus, hsaved⟩
        · exact .inl hkept
        · exact .inr ⟨hstatus, i, read, saved, hrevokes, hsaved⟩

/-- A revoked run stays as it is. -/
theorem Run.revoked_stays (h : Run D requests start L d)
    (hlater : Steps (service.machine questions) d M c)
    (hstored : d.world.getRun tenantId runId = some run) (hrevoked : run.status = .revoked) :
    c.world.getRun tenantId runId = some run := by
  induction hlater with
  | refl => exact hstored
  | @snoc c' _ M _ hsteps hstep ih =>
    have hrun : Run D requests start (L ++ M) c' := Steps.trans h hsteps
    rcases hrun.step_getRun hstep ih (by rw [hrevoked]; rfl) with hkept | ⟨hstatus, -⟩
    · exact hkept
    · rw [hrevoked] at hstatus
      cases hstatus

/-- A completed run stays as it is until it is revoked. -/
theorem Run.completed_settled (h : Run D requests start L d)
    (hlater : Steps (service.machine questions) d M c)
    (hstored : d.world.getRun tenantId runId = some run) (hcompleted : run.status = .completed) :
    c.world.getRun tenantId runId = some run ∨
      ∃ revoked, c.world.getRun tenantId runId = some revoked ∧ revoked.status = .revoked := by
  induction hlater with
  | refl => exact .inl hstored
  | @snoc c' _ M _ hsteps hstep ih =>
    have hrun : Run D requests start (L ++ M) c' := Steps.trans h hsteps
    rcases ih with hkept | ⟨revoked, hkept, hstatus⟩
    · rcases hrun.step_getRun hstep hkept (by rw [hcompleted]; rfl) with
        hkept | ⟨-, i, read, saved, ⟨-, r, clock, -, -, -, hrevoked⟩, hsaved⟩
      · exact .inl hkept
      · exact .inr ⟨saved, hsaved, (revokedRun_ok hrevoked).2.status⟩
    · exact .inr ⟨revoked, hrun.revoked_stays (.single hstep) hkept hstatus, hstatus⟩

/-- What is read is stored. -/
theorem read_step {i : Nat} {read : ExecutionRun}
    (hstep : Step (service.machine questions) d
      (.act i (called (.getRun tenantId runId) (some read))) c) :
    d.world.getRun tenantId runId = some read ∧ c.world = d.world := by
  cases hstep with
  | act _ _ hex =>
    obtain ⟨hread, hworld⟩ := Prod.mk.inj (Option.some.inj hex)
    exact ⟨hread, hworld.symm⟩

/-- What was read while it was completed is stored, or was revoked since. -/
theorem Run.read_settled (h : Run D requests start L c) {i : Nat} {read : ExecutionRun}
    (hread : ReadRun (L.trace i) tenantId runId read) (hcompleted : read.status = .completed) :
    c.world.getRun tenantId runId = some read ∨
      ∃ revoked, c.world.getRun tenantId runId = some revoked ∧ revoked.status = .revoked := by
  obtain ⟨K, M, rfl⟩ := List.append_of_mem (Log.mem_trace.1 hread)
  obtain ⟨d, d', hbefore, hstep, hafter⟩ := Steps.split h
  obtain ⟨hstored, hworld⟩ := read_step hstep
  have hrun : Run D requests start
      (K ++ [.act i (called (.getRun tenantId runId) (some read))]) d' := Steps.snoc hbefore hstep
  exact hrun.completed_settled hafter (hworld ▸ hstored) hcompleted

/-- The operation reserves an intent or sends a request to the provider. -/
def TakesEffect : sig.Op → Prop
  | .inr (.account (.publication (.reserve _))) => True
  | .inl (.account (.publication (.send _))) => True
  | _ => False

/-- An effect is one of a publish request whose last reading had an active Greenlight. -/
theorem Permits.lastActive {request : Request} {t : Trace sig} {o : sig.Op}
    (h : Permits D request t o) (ho : TakesEffect o) :
    ∃ r, request = .publish r ∧ LastActive t r.tenantId r.runId := by
  rcases o with (o | _ | _ | _ | _ | _) | (o | _ | _ | _ | _)
  case inl.account =>
    rcases o with o | _ | _
    case publication =>
      cases o with
      | send =>
        cases request with
        | publish r => exact ⟨r, rfl, h.1⟩
        | revoke | disconnect => exact h.elim
      | _ => exact ho.elim
    all_goals exact ho.elim
  case inr.account =>
    rcases o with o | _ | _
    case publication =>
      cases o with
      | reserve =>
        cases request with
        | publish r => exact ⟨r, rfl, h.1⟩
        | revoke | disconnect => exact h.elim
      | _ => exact ho.elim
    all_goals exact ho.elim
  all_goals exact ho.elim

/-- The last reading comes after any other one. -/
theorem LastActive.mem_after {t u : Trace sig} (h : LastActive (t ++ u) tenantId runId)
    (hu : ∃ e ∈ u, ReadsRun e.op) : ∃ checked greenlight,
      called (.getRun tenantId runId) (some checked) ∈ u ∧
        activeGreenlight checked = .ok greenlight := by
  obtain ⟨checked, greenlight, s, v, hsplit, hactive, hv⟩ := h
  obtain ⟨e, he, hreads⟩ := hu
  refine ⟨checked, greenlight, ?_, hactive⟩
  rcases List.append_eq_append_iff.1 hsplit with ⟨a, -, hu⟩ | ⟨a, -, hcons⟩
  · rw [hu]
    simp
  · cases a with
    | nil =>
      rw [List.nil_append] at hcons
      rw [← hcons]
      exact List.mem_cons_self
    | cons x a =>
      obtain ⟨-, rfl⟩ := List.cons.inj hcons
      exact absurd hreads (hv e (List.mem_append_right a he))

/-- A request that reads a run after its revocation was stored neither reserves an intent nor sends
a request to the provider. -/
theorem revocation_fences {j i : Nat} {e : Event sig} {saved : ExecutionRun} {fault : Option Exn}
    {N : History} {r : PublishRequest}
    (h : Run D requests start
      (L ++ .act j (called (.saveRun tenantId saved .completed fault) (.ok ())) ::
        (M ++ .act i e :: N)) c)
    (hi : requests i = .publish r) (htenant : r.tenantId = tenantId) (hrun : r.runId = saved.runId)
    (he : TakesEffect e.op) : ∀ e' ∈ Log.trace M i, ¬ ReadsRun e'.op := by
  intro e' he' hreads
  obtain ⟨d, d', hbefore, hstep, hafter⟩ := Steps.split h
  obtain ⟨-, read, -, revoke, clock, -, -, -, hrevoked⟩ := Run.save_revokes hbefore hstep
  have hstored : d'.world.getRun tenantId saved.runId = some saved := by
    cases hstep with
    | act _ _ hex =>
      obtain ⟨hanswer, hworld⟩ := Prod.mk.inj (Option.some.inj hex)
      exact hworld ▸ getRun_of_saved hanswer
  have hfirst : Run D requests start
      (L ++ [.act j (called (.saveRun tenantId saved .completed fault) (.ok ()))]) d' :=
    Steps.snoc hbefore hstep
  have hsplit : Run D requests start
      ((L ++ [.act j (called (.saveRun tenantId saved .completed fault) (.ok ()))] ++ M) ++
        .act i e :: N) c := by simpa using h
  obtain ⟨r', hr', hlast⟩ := (Steps.spec_op hsplit (Spec_program (requests i))).lastActive he
  rw [hi] at hr'
  cases hr'
  rw [Log.trace_append] at hlast
  obtain ⟨checked, greenlight, hmem, hactive⟩ := hlast.mem_after ⟨e', he', hreads⟩
  -- The reading was answered from the store, which had the revoked run.
  obtain ⟨M₁, M₂, rfl⟩ := List.append_of_mem (Log.mem_trace.1 hmem)
  obtain ⟨b, b', hM, hread, -⟩ := Steps.split (Steps.append_inv hafter).choose_spec.1
  have hsaved := hfirst.revoked_stays hM hstored (revokedRun_ok hrevoked).2.status
  obtain ⟨hfound, -⟩ := read_step hread
  rw [htenant, hrun] at hfound
  have hsame : checked = saved := Option.some.inj (hfound.symm.trans hsaved)
  have hstatus := (activeGreenlight_ok hactive).1
  rw [hsame, (revokedRun_ok hrevoked).2.status] at hstatus
  cases hstatus

end

/-! ## Sample runs -/

namespace Sample

def revokeRequest : RevokeRequest where
  tenantId := lit "t"
  runId := lit "r"
  subjectId := lit "reviewer"
  reason := lit "withdrawn"
  idempotencyKey := lit "revoke-key-1"

/-- One request publishes, the others revoke. -/
def requests (i : Nat) : Request :=
  if i = 0 then .publish publishRequest else .revoke revokeRequest

/-- Request 1 saves a revoked run. -/
def savedOf : Entry sig Change → Option ExecutionRun
  | .act 1 ⟨.inr (.saveRun tenantId saved .completed none), .ok ()⟩ =>
    if tenantId = lit "t" ∧ saved.runId = lit "r" then some saved else none
  | _ => none

theorem savedOf_sound {e : Entry sig Change} {saved : ExecutionRun} (h : savedOf e = some saved) :
    e = .act 1 (called (.saveRun (lit "t") saved .completed none) (.ok ())) ∧
      saved.runId = lit "r" := by
  unfold savedOf at h
  split at h
  · split at h
    · next hkey =>
      cases h
      exact ⟨by rw [hkey.1], hkey.2⟩
    · cases h
  · cases h

/-- The reservation comes after the revocation, with something in between. -/
def overtaken (L : History) : Bool :=
  match Log.split? savedOf L with
  | some (_, _, M) => (Log.split? reservationOf M).any fun s => !s.1.isEmpty
  | none => false

end Sample

/-- The theorem for a request that read the run before it was revoked. -/
theorem revocation_fences_sample : ∃ M : History, M ≠ [] ∧
    ∀ e ∈ Log.trace M 0, ¬ ReadsRun e.op := by
  obtain ⟨L, c, h, htest⟩ := @Run.of_schedule Sample.deployment Sample.requests Sample.stores
    (Sample.moves 0 3 ++ Sample.moves 1 5 ++ Sample.moves 0 5)
    (fun L _ => Sample.overtaken L = true) inferInstance (by decide +kernel)
  unfold Sample.overtaken at htest
  split at htest
  · next K saved M hsaved =>
    obtain ⟨e, rfl, he⟩ := Log.split?_sound hsaved
    obtain ⟨rfl, hid⟩ := Sample.savedOf_sound he
    obtain ⟨⟨M, intent, N⟩, hreserved, hsome⟩ := (Option.any_eq_true _ _).1 htest
    obtain ⟨e, rfl, he⟩ := Log.split?_sound hreserved
    obtain rfl := Sample.reservationOf_sound he
    refine ⟨M, ?_, revocation_fences h rfl rfl hid.symm trivial⟩
    rintro rfl
    cases hsome
  · cases htest

end Release

end AgencyRuntime
