import AgencyRuntime.Orchestrator.Pipeline

/-!
# The approval gate

What a decision and a revocation make of a run. A decision is refused with the run unchanged, or is
settled; an approval may also be cut short by an exception of another kind, which leaves the run at
the gate with one more compliance record at most.
-/

namespace AgencyRuntime

open Effects

namespace Orchestrator

variable {A : Agency} {R : Reading}

/-- What an approval by this reviewer needs. -/
structure Cleared (run : ExecutionRun) (approver : Str) : Prop where
  risk : ∃ report, run.artifact "risk_report" = .ok report ∧
    isTrue report.payload "passed" = true ∧
    (run.brief.political = true → isTrue report.payload "publication_eligible" = true)
  separation : run.brief.political = true → Py.strip run.brief.legalReviewedBy ≠ approver

/-- A run whose package was made under its Greenlight. -/
structure Approved (run : ExecutionRun) (records : Nat) (g : Greenlight) : Prop where
  ready : ∀ role, role ≠ .publisher → (run.agentStates role).status = .ready
  made : made run = executable.map product ++ List.replicate records recordProduct ++
    [product .publisher]
  greenlight : run.greenlight = some g
  decision : g.decision = .approved
  cleared : Cleared run g.reviewer
  envelope : ∃ present package, run.artifacts = present ++ [package] ∧
    g.approvedArtifactIds = present.map (·.artifactId)

/-- A run whose release was rejected. -/
structure Rejected (run : ExecutionRun) (records : Nat) (g : Greenlight) : Prop where
  ready : ∀ role, role ≠ .publisher → (run.agentStates role).status = .ready
  made : made run = executable.map product ++ List.replicate records recordProduct
  greenlight : run.greenlight = some g
  decision : g.decision = .rejected
  envelope : g.approvedArtifactIds = run.artifacts.map (·.artifactId)

/-- What the checks of a decision let through. -/
theorem admitDecision_ok {run : ExecutionRun} {decision : GreenlightDecision} {reviewer : Str}
    (h : admitDecision run decision reviewer = .ok ()) :
    run.status = .awaitingGreenlight ∧
      (decision = .approved → Cleared run (Py.strip reviewer)) := by
  obtain ⟨_, hstatus, h⟩ := exceptBind_ok h
  obtain ⟨report, hreport, h⟩ := exceptBind_ok h
  obtain ⟨_, hpassed, h⟩ := exceptBind_ok h
  obtain ⟨_, heligible, h⟩ := exceptBind_ok h
  obtain ⟨_, _, hseparation⟩ := exceptBind_ok h
  refine ⟨check_ok.1 hstatus, fun happroved => ⟨⟨report, hreport, check_ok.1 hpassed, ?_⟩, ?_⟩⟩
  · intro hpolitical
    by_contra hne
    exact check_ok.1 heligible ⟨hpolitical, hne⟩
  · exact fun hpolitical heq => check_ok.1 hseparation ⟨happroved, hpolitical, heq⟩

/-- The Greenlight of a decision lists the artifacts present. -/
theorem decided_ok {P : Platform} {run : ExecutionRun} {decision : GreenlightDecision}
    {reviewer note decidedAt : Str} {g : Greenlight}
    (h : decided P run decision reviewer note decidedAt = .ok g) :
    g.decision = decision ∧ g.reviewer = Py.strip reviewer ∧
      g.approvedArtifactIds = run.artifacts.map (·.artifactId) := by
  obtain ⟨_, _, h⟩ := exceptBind_ok h
  obtain ⟨_, _, h⟩ := exceptBind_ok h
  rw [GreenlightDraft.build_ok h]
  exact ⟨rfl, rfl, rfl⟩

theorem decided_raises {P : Platform} {run : ExecutionRun} {decision : GreenlightDecision}
    {reviewer note decidedAt : Str} :
    NoGreenlightError (decided P run decision reviewer note decidedAt) :=
  .bind (mapM_raises fun _ => .bind canonicalJson_raises fun _ => stableId_raises) fun _ =>
    .bind stableId_raises fun _ => GreenlightDraft.build_error

theorem complianceRecord_raises {P : Platform} {run : ExecutionRun} {reviewer : Str} :
    NoGreenlightError (complianceRecord P run reviewer) :=
  .bind (mapM_raises fun _ => .bind canonicalJson_raises fun _ => .bind digest_raises fun _ =>
      .bind digest_raises fun _ => .bind digest_raises fun _ => .ok _) fun _ =>
    .bind digest_raises fun _ => .bind stableId_raises fun _ => .ok _

/-- The compliance record has the id of its content. -/
theorem complianceRecord_ok {run : ExecutionRun} {reviewer : Str} {a : Artifact}
    (h : complianceRecord A.interpreter.toPlatform run reviewer = .ok a) :
    (a.createdBy, a.kind) = recordProduct ∧ idOf A run.runId a = .ok a.artifactId := by
  obtain ⟨_, _, h⟩ := exceptBind_ok h
  obtain ⟨_, _, h⟩ := exceptBind_ok h
  obtain ⟨_, hid, h⟩ := exceptBind_ok h
  cases h
  exact ⟨rfl, hid⟩

/-- An artifact of another kind does not hide the risk report. -/
theorem artifact_append {run run' : ExecutionRun} {a : Artifact} {kind : String}
    (h : run'.artifacts = run.artifacts ++ [a]) (hkind : a.kind ≠ Py.lit kind) :
    run'.artifact kind = run.artifact kind := by
  simp only [ExecutionRun.artifact, h, List.reverse_append, List.reverse_cons, List.reverse_nil,
    List.nil_append, List.singleton_append, List.find?_cons, beq_eq_false_iff_ne.2 hkind]

/-- What an approval needs does not depend on later artifacts. -/
theorem Cleared.append {run run' : ExecutionRun} {a : Artifact} {approver : Str}
    (h : Cleared run approver) (hartifacts : run'.artifacts = run.artifacts ++ [a])
    (hkind : a.kind ≠ Py.lit "risk_report") (hbrief : run'.brief = run.brief) :
    Cleared run' approver where
  risk := by
    rw [artifact_append hartifacts hkind, hbrief]
    exact h.risk
  separation := by
    rw [hbrief]
    exact h.separation

theorem Cleared.of_eq {run run' : ExecutionRun} {approver : Str} (h : Cleared run approver)
    (hartifacts : run'.artifacts = run.artifacts) (hbrief : run'.brief = run.brief) :
    Cleared run' approver where
  risk := by
    unfold ExecutionRun.artifact
    rw [hartifacts, hbrief]
    exact h.risk
  separation := by
    rw [hbrief]
    exact h.separation

/-- At the gate, only the Publisher's station and the Greenlight changed. -/
theorem Awaiting.of_eq {run run' : ExecutionRun} {records : Nat} (h : Awaiting run records)
    (hstatus : run'.status = .awaitingGreenlight)
    (hstates : ∀ role, role ≠ .publisher →
      (run'.agentStates role).status = (run.agentStates role).status)
    (hpublisher : (run'.agentStates .publisher).status ≠ .ready)
    (hartifacts : run'.artifacts = run.artifacts)
    (henvelope : ∀ g, run'.greenlight = some g →
      g.approvedArtifactIds = run.artifacts.map (·.artifactId)) : Awaiting run' records where
  status := hstatus
  ready role hrole := (hstates role hrole).trans (h.ready role hrole)
  publisher := hpublisher
  made := by
    rw [Orchestrator.made, hartifacts]
    exact h.made
  envelope g hg := ⟨run'.artifacts, [], by simp, by simp, by rw [hartifacts]; exact henvelope g hg⟩

/-- At the gate, a compliance record was added. -/
theorem Awaiting.addRecord {run : ExecutionRun} {records : Nat} {a : Artifact}
    (h : Awaiting run records) (ha : (a.createdBy, a.kind) = recordProduct) :
    Awaiting (run.addArtifact a) (records + 1) where
  status := h.status
  ready role hrole := (addArtifact_status run a role).trans (h.ready role hrole)
  publisher hp := h.publisher ((addArtifact_status run a .publisher).symm.trans hp)
  made := by
    rw [List.replicate_succ', ← List.append_assoc, ← h.made, Orchestrator.made, Orchestrator.made,
      ExecutionRun.addArtifact, List.map_append, List.map_singleton, ha]
  envelope g hg := by
    obtain ⟨present, later, hartifacts, hlater, hids⟩ := h.envelope g hg
    refine ⟨present, later ++ [a], ?_, ?_, hids⟩
    · rw [ExecutionRun.addArtifact, hartifacts, List.append_assoc]
    · intro b hb
      rcases List.mem_append.1 hb with hb | hb
      · exact hlater b hb
      · rw [List.mem_singleton.1 hb]
        exact (Prod.ext_iff.1 ha).2

/-- What a settled decision makes of a run with these artifacts at the gate. -/
inductive Settled (run : ExecutionRun) (records : Nat) (decision : GreenlightDecision) :
    Except Exn Unit → ExecutionRun → Prop
  | stopped {e : Exn} {run' : ExecutionRun} : e.isGreenlight = false → Awaiting run' records →
      (decision = .rejected → run' = run) → Settled run records decision (.error e) run'
  | rejected {run' : ExecutionRun} {g : Greenlight} : decision = .rejected →
      run'.status = .rejected → Rejected run' records g → run'.artifacts = run.artifacts →
      Settled run records decision (.ok ()) run'
  | approved {r : Except Exn Unit} {run' : ExecutionRun} {g : Greenlight} {package : Artifact} :
      decision = .approved → NoGreenlightError r → run'.status = .completed →
      Approved run' records g →
      g.approvedArtifactIds = run.artifacts.map (·.artifactId) →
      run'.artifacts = run.artifacts ++ [package] → package.kind = Py.lit "campaign_package" →
      Settled run records decision r run'

/-- The rejected branch blocks the Publisher. -/
theorem finishRejection_ends {s : Session} {records : Nat} {g : Greenlight} {decidedAt : Str}
    (h : Awaiting s.run records) (hs : Sound A s.run) (hg : s.run.greenlight = some g)
    (hdecision : g.decision = .rejected)
    (hids : g.approvedArtifactIds = s.run.artifacts.map (·.artifactId)) :
    (finishRejection decidedAt).Ends s fun r s' => r = .ok () ∧ Sound A s'.run ∧
      s'.run.status = .rejected ∧ Rejected s'.run records g ∧
      s'.run.artifacts = s.run.artifacts := by
  refine Method.Ends.change (Method.Ends.change (Method.Ends.change (Method.Ends.change ?_)))
  refine event_ends fun e clock he => ?_
  refine ⟨rfl, hs.of_eq (hs.numbered.grows ⟨e, rfl, he⟩) rfl rfl, rfl, ?_, rfl⟩
  exact
    { ready := fun role hrole => (updateState_status _ _ role _ _ _).trans
        ((if_neg hrole).trans (h.ready role hrole))
      made := h.made
      greenlight := hg
      decision := hdecision
      envelope := hids }

/-- The approved branch makes the package, or is cut short at the gate. -/
theorem finishApproval_ends {s : Session} {records : Nat} {g : Greenlight}
    (h : Awaiting s.run records) (hs : Sound A s.run) (hg : s.run.greenlight = some g)
    (hdecision : g.decision = .approved) (hclear : Cleared s.run g.reviewer)
    (hids : g.approvedArtifactIds = s.run.artifacts.map (·.artifactId)) :
    (finishApproval A R g).Ends s fun r s' => NoGreenlightError r ∧ Sound A s'.run ∧
      ((∃ e, r = .error e) ∧ Awaiting s'.run records ∨
        s'.run.status = .completed ∧ Approved s'.run records g ∧
          ∃ package, s'.run.artifacts = s.run.artifacts ++ [package] ∧
            package.kind = Py.lit "campaign_package") := by
  refine Method.Ends.change (Method.Ends.bind (R := fun r t => r = .ok () ∧ Sound A t.run ∧
    Awaiting t.run records ∧ t.run.greenlight = some g ∧ t.run.artifacts = s.run.artifacts ∧
    t.run.brief = s.run.brief) ?_ (fun e t ht => by cases ht.1) fun _ t ht => ?_)
  · refine event_ends fun e clock he => ?_
    refine ⟨rfl, hs.of_eq (hs.numbered.grows ⟨e, rfl, he⟩) rfl rfl, ?_, hg, rfl, rfl⟩
    refine h.of_eq h.status (fun role hrole => ?_) (fun hp => ?_) rfl fun g' hg' => ?_
    · exact (updateState_status _ _ role _ _ _).trans (if_neg hrole)
    · rw [updateState_status, if_pos rfl] at hp
      cases hp
    · have hg' : s.run.greenlight = some g' := hg'
      rw [hg] at hg'
      cases hg'
      exact hids
  obtain ⟨-, hsound, hawait, hgreen, hartifacts, hbrief⟩ := ht
  refine Method.Ends.update ((@completeAgent_ends A .publisher _ _ _ _ _).bind (fun e u hu => ?_)
    fun a u hu => ?_)
  · exact ⟨fun e' he' => by cases he'; exact hu.2, hu.1 ▸ hsound, .inl ⟨⟨e, rfl⟩, hu.1 ▸ hawait⟩⟩
  have hdone : Completed A .publisher t.run u.run := hu
  refine Method.Ends.change (Method.Ends.change (Method.Ends.update (Method.Ends.change ?_)))
  refine remember_ends.mono fun r s' hr => ⟨hr.2, ?_, .inr ?_⟩
  · rw [hr.1]
    exact (hsound.complete hdone).of_eq (hsound.complete hdone).numbered rfl rfl
  · rw [hr.1]
    obtain ⟨package, hpackage, hproduct, -⟩ := hdone.artifact
    have hkind : package.kind = Py.lit "campaign_package" := (Prod.ext_iff.1 hproduct).2
    refine ⟨rfl, ?_, package, hartifacts ▸ hpackage, hkind⟩
    exact
      { ready := fun role hrole => (hdone.statuses role).trans
          ((if_neg hrole).trans (hawait.ready role hrole))
        made := by
          rw [← hawait.made, ← hproduct]
          simp only [Orchestrator.made, setExecution, hpackage, List.map_append,
            List.map_singleton]
        greenlight := hdone.same.greenlight.trans hgreen
        decision := hdecision
        cleared := by
          refine Cleared.append (hclear.of_eq hartifacts hbrief) hpackage ?_ hdone.same.brief
          rw [hkind]
          decide
        envelope := ⟨t.run.artifacts, package, hpackage, by rw [hartifacts, hids]⟩ }

/-- A decision that the checks let through is settled. -/
theorem settle_ends {s : Session} {records : Nat} {decision : GreenlightDecision}
    {reviewer note decidedAt : Str} (h : Awaiting s.run records) (hs : Sound A s.run)
    (hclear : decision = .approved → Cleared s.run (Py.strip reviewer)) :
    (settle A R decision reviewer note decidedAt).Ends s fun r s' =>
      Sound A s'.run ∧ Settled s.run records decision r s'.run := by
  refine Method.Ends.update (Method.Ends.ofExcept (fun e he => ?_) fun g hg => ?_)
  · exact ⟨hs, .stopped (decided_raises e he) h fun _ => rfl⟩
  obtain ⟨hdecision, hreviewer, hids⟩ := decided_ok hg
  have hawait : Awaiting { s.run with greenlight := some g } records :=
    h.of_eq h.status (fun _ _ => rfl) h.publisher rfl fun g' hg' => by cases hg'; exact hids
  have hsound : Sound A { s.run with greenlight := some g } := ⟨hs.numbered, hs.identified⟩
  refine Method.Ends.change ?_
  let t : Session := { s with run := { s.run with greenlight := some g } }
  cases decision with
  | rejected =>
    refine (finishRejection_ends (s := t) hawait hsound rfl hdecision hids).mono fun r s' h' => ?_
    obtain ⟨rfl, hsound', hstatus, hrejected, hartifacts⟩ := h'
    exact ⟨hsound', .rejected rfl hstatus hrejected hartifacts⟩
  | approved =>
    have hcleared : Cleared { s.run with greenlight := some g } g.reviewer :=
      hreviewer ▸ (hclear rfl).of_eq rfl rfl
    refine (finishApproval_ends (s := t) hawait hsound rfl hdecision hcleared hids).mono
      fun r s' h' => ?_
    obtain ⟨hr, hsound', ⟨⟨e, rfl⟩, hstopped⟩ | ⟨hstatus, happroved, package, hpackage, hkind⟩⟩ := h'
    · exact ⟨hsound', .stopped (hr e rfl) hstopped nofun⟩
    · exact ⟨hsound', .approved rfl hr hstatus happroved hids hpackage hkind⟩

/-- What a decision makes of a run: it is refused, or settled on the artifacts present, to which a
political approval has added the compliance record. -/
inductive Decided (run : ExecutionRun) (records : Nat) (decision : GreenlightDecision) :
    Except Exn Unit → ExecutionRun → Prop
  | refused {e : Exn} : Decided run records decision (.error e) run
  | settled {r : Except Exn Unit} {run' : ExecutionRun} : Settled run records decision r run' →
      Decided run records decision r run'
  | recorded {a : Artifact} {r : Except Exn Unit} {run' : ExecutionRun} : decision = .approved →
      (a.createdBy, a.kind) = recordProduct →
      Settled (run.addArtifact a) (records + 1) decision r run' → Decided run records decision r run'

/-- What a decision makes of a run at the gate. -/
theorem decide_ends {s : Session} {records : Nat} {decision : GreenlightDecision}
    {reviewer note : Str} (h : Awaiting s.run records) (hs : Sound A s.run) :
    (decide A R decision reviewer note).Ends s fun r s' =>
      Sound A s'.run ∧ Decided s.run records decision r s'.run := by
  refine Method.Ends.update (Method.Ends.ofExcept (fun e he => ⟨hs, .refused⟩) fun _ hadmit => ?_)
  have hclear := (admitDecision_ok hadmit).2
  refine Method.Ends.update ?_
  unfold recordCompliance
  dsimp only
  by_cases hpolitical : decision = .approved ∧ s.run.brief.political = true
  · rw [if_pos hpolitical]
    refine Method.Ends.bind (R := fun r t => (∃ e, r = .error e ∧ t.run = s.run) ∨ ∃ a, r = .ok () ∧
      t.run = s.run.addArtifact a ∧ (a.createdBy, a.kind) = recordProduct ∧
      idOf A s.run.runId a = .ok a.artifactId) ?_ (fun e t ht => ?_) fun _ t ht => ?_
    · refine Method.Ends.ofExcept (fun e he => .inl ⟨e, rfl, rfl⟩) fun a ha => .inr ⟨a, rfl, rfl, ?_⟩
      exact complianceRecord_ok ha
    · rcases ht with ⟨e', he, hrun⟩ | ⟨a, he, -⟩
      · rw [hrun]
        exact ⟨hs, .refused⟩
      · cases he
    · obtain ⟨a, hrun, ha, hid⟩ : ∃ a, t.run = s.run.addArtifact a ∧
          (a.createdBy, a.kind) = recordProduct ∧ idOf A s.run.runId a = .ok a.artifactId := by
        rcases ht with ⟨e', he, -⟩ | ⟨a, -, h⟩
        · cases he
        · exact ⟨a, h⟩
      have hadded : Sound A (s.run.addArtifact a) := hs.add hs.numbered rfl rfl hid
      have hsound : Sound A t.run := hrun ▸ hadded
      refine (settle_ends (hrun ▸ h.addRecord ha) hsound fun happroved => ?_).mono fun r s' h' =>
        ⟨h'.1, .recorded hpolitical.1 ha (hrun ▸ h'.2)⟩
      rw [hrun]
      have hkind : a.kind = Py.lit "political_compliance_record" := (Prod.ext_iff.1 ha).2
      exact (hclear happroved).append rfl (by rw [hkind]; decide) rfl
  · rw [if_neg hpolitical]
    let t : Session := { s with clock := fun n => s.clock (n + 1) }
    exact (settle_ends (s := t) h hs hclear).mono fun r s' h' => ⟨h'.1, .settled h'.2⟩

/-- What a revocation makes of a completed run. -/
structure Revoked (run : ExecutionRun) (records : Nat) (g : Greenlight) (run' : ExecutionRun) :
    Prop where
  status : run'.status = .revoked
  approved : ∃ g', Approved run' records g' ∧ g'.fencingToken = g.fencingToken + 1

/-- A revocation is refused with the run unchanged, or ends the run with a higher fencing token. -/
theorem revoke_ends {s : Session} {records : Nat} {g : Greenlight} {reviewer reason : Str}
    (h : Approved s.run records g) (hs : Sound A s.run) :
    (revoke reviewer reason).Ends s fun r s' => Sound A s'.run ∧
      ((∃ e, r = .error e) ∧ s'.run = s.run ∨ r = .ok () ∧ Revoked s.run records g s'.run) := by
  refine Method.Ends.update (Method.Ends.ofExcept (fun e he => ⟨hs, .inl ⟨⟨e, rfl⟩, rfl⟩⟩)
    fun g' hg' => ?_)
  refine Method.Ends.raiseIf (fun _ => ⟨hs, .inl ⟨⟨_, rfl⟩, rfl⟩⟩) fun _ => ?_
  refine Method.Ends.raiseIf (fun _ => ⟨hs, .inl ⟨⟨_, rfl⟩, rfl⟩⟩) fun _ => ?_
  refine Method.Ends.update (Method.Ends.ofExcept (fun e he => ⟨hs, .inl ⟨⟨e, rfl⟩, rfl⟩⟩)
    fun revoked hrevoked => ?_)
  have hgg : g' = g := by
    have hg' : activeGreenlight s.run = .ok g' := hg'
    unfold activeGreenlight at hg'
    rw [h.greenlight] at hg'
    simp only at hg'
    split at hg'
    · exact (Except.ok.inj hg').symm
    · cases hg'
  subst hgg
  have hfields := GreenlightDraft.build_ok hrevoked
  refine Method.Ends.change (Method.Ends.change (Method.Ends.change (Method.Ends.change ?_)))
  refine event_ends fun e clock he => ?_
  refine ⟨hs.of_eq (hs.numbered.grows ⟨e, rfl, he⟩) rfl rfl, .inr ⟨rfl, rfl, revoked, ?_, ?_⟩⟩
  · exact
      { ready := fun role hrole => (updateState_status _ _ role _ _ _).trans
          ((if_neg hrole).trans (h.ready role hrole))
        made := h.made
        greenlight := rfl
        decision := by rw [hfields]; exact h.decision
        cleared := by
          rw [hfields]
          exact h.cleared.of_eq rfl rfl
        envelope := by
          rw [hfields]
          exact h.envelope }
  · rw [hfields]

end Orchestrator

end AgencyRuntime
