import AgencyRuntime.Orchestrator.Decisions

/-!
# The run state machine

A history is any sequence of `create` calls and of calls on the runs of an orchestrator, each with
its own readings. `Phase` is the invariant of a run: it is being built, at the approval gate, or
decided. One call keeps it (`perform_transition`), and so does a history (`History.phase`).
-/

namespace AgencyRuntime

open Effects

namespace Orchestrator

/-- A call on an orchestrator. -/
inductive Operation
  | create (brief : MissionBrief) (asynchronous : Bool)
  | call (runId : Str) (c : Call)

/-- What an operation comes to, and what it makes of the runs. -/
def Operation.perform (A : Agency) (R : Reading) : Operation → Runs → Except Exn Unit × Runs
  | .create brief asynchronous => Orchestrator.create A brief asynchronous R
  | .call runId c => Orchestrator.call A runId c R

/-- An operation with what it came to. -/
structure Entry where
  op : Operation
  result : Except Exn Unit

/-- The runs of an orchestrator after a sequence of operations. -/
inductive History (A : Agency) : List Entry → Runs → Prop
  | nil : History A [] fun _ => none
  | snoc {L : List Entry} {runs : Runs} (op : Operation) (R : Reading) : History A L runs →
      History A (L ++ [⟨op, (op.perform A R runs).1⟩]) (op.perform A R runs).2

/-- No approval of the run was cut short: each returned or raised a `GreenlightError`. -/
def Uncut (runId : Str) (L : List Entry) : Prop :=
  ∀ entry ∈ L, ∀ reviewer note e, entry.op = .call runId (.approve reviewer note) →
    entry.result = .error e → e.isGreenlight = true

/-- Where a run is, with its number of compliance records. -/
inductive Phase (run : ExecutionRun) : Nat → Prop
  | building {k : Nat} {working : Bool} : Building run k working → Phase run 0
  | awaiting {records : Nat} : Awaiting run records → Phase run records
  | completed {records : Nat} {g : Greenlight} : run.status = .completed →
      Approved run records g → Phase run records
  | rejected {records : Nat} {g : Greenlight} : run.status = .rejected →
      Rejected run records g → Phase run records
  | revoked {records : Nat} {g : Greenlight} : run.status = .revoked →
      Approved run records g → Phase run records

/-- What one call does to a run, whatever it comes to. -/
structure Transition (run : ExecutionRun) (r : Except Exn Unit) (run' : ExecutionRun) : Prop where
  /-- A ready station stays ready; a revocation blocks the Publisher. -/
  ready : ∀ role, (run.agentStates role).status = .ready →
    (run'.agentStates role).status = .ready ∨
      role = .publisher ∧ run.status = .completed ∧ run'.status = .revoked
  /-- Rejected and revoked runs never change. -/
  frozen : run.status = .rejected ∨ run.status = .revoked → run' = run
  /-- A revocation raises the fencing token. -/
  fenced : run.status ≠ .revoked → run'.status = .revoked → ∃ g g', run.greenlight = some g ∧
    run'.greenlight = some g' ∧ g.fencingToken < g'.fencingToken
  /-- A call rejected with `GreenlightError` leaves the run unchanged. -/
  refused : ∀ e, r = .error e → e.isGreenlight = true → run' = run
  /-- The envelope of a decision lists the artifacts present when it was made: those of the run
  before the call and the compliance record. The package comes after it. -/
  envelope : run.status = .awaitingGreenlight → run'.status ≠ .awaitingGreenlight →
    ∃ g records packages, run'.greenlight = some g ∧
      g.approvedArtifactIds = (run.artifacts ++ records).map (·.artifactId) ∧
      run'.artifacts = run.artifacts ++ records ++ packages ∧
      (∀ a ∈ records, a.kind = Py.lit "political_compliance_record") ∧
      ∀ a ∈ packages, a.kind = Py.lit "campaign_package"

/-- A call that leaves the run unchanged. -/
theorem Transition.refl (run : ExecutionRun) (r : Except Exn Unit) : Transition run r run where
  ready _ h := .inl h
  frozen _ := rfl
  fenced h h' := absurd h' h
  refused _ _ _ := rfl
  envelope h h' := absurd h h'

variable {A : Agency} {R : Reading}

/-- A decision raises no `GreenlightError` once the run has changed. -/
theorem Settled.noGreenlightError {run run' : ExecutionRun} {records : Nat}
    {decision : GreenlightDecision} {r : Except Exn Unit}
    (h : Settled run records decision r run') : NoGreenlightError r := by
  cases h with
  | stopped he => exact fun e h => by cases h; exact he
  | rejected => exact .ok ()
  | approved _ hr => exact hr

theorem Settled.phase {run run' : ExecutionRun} {records : Nat} {decision : GreenlightDecision}
    {r : Except Exn Unit} (h : Settled run records decision r run') : Phase run' records := by
  cases h with
  | stopped _ h => exact .awaiting h
  | rejected _ hs h => exact .rejected hs h
  | approved _ _ hs h => exact .completed hs h

/-- `advance` returns a run that is not under way. -/
theorem advance_idle {s : Session} (hq : s.run.status ≠ .queued) (hr : s.run.status ≠ .running) :
    (advance A R).Ends s fun r s' => r = .ok () ∧ s'.run = s.run := by
  unfold advance
  refine Method.Ends.change (Method.Ends.update ?_)
  have htake : takeUp s.run = s.run := if_neg hq
  dsimp only
  rw [htake, if_pos hr]
  exact ⟨rfl, rfl⟩

/-- A decision on a run that is not at the gate is refused. -/
theorem decide_refused {s : Session} {decision : GreenlightDecision} {reviewer note : Str}
    (h : s.run.status ≠ .awaitingGreenlight) :
    (decide A R decision reviewer note).Ends s fun _ s' => s'.run = s.run := by
  refine Method.Ends.update (Method.Ends.ofExcept (fun _ _ => rfl) fun _ hadmit => ?_)
  exact absurd (admitDecision_ok hadmit).1 h

/-- A revocation of a run that is not completed is refused. -/
theorem revoke_refused {s : Session} {reviewer reason : Str} (h : s.run.status ≠ .completed) :
    (revoke reviewer reason).Ends s fun _ s' => s'.run = s.run := by
  refine Method.Ends.update (Method.Ends.ofExcept (fun _ _ => rfl) fun g hg => ?_)
  have hg : activeGreenlight s.run = .ok g := hg
  unfold activeGreenlight at hg
  split at hg
  · rw [if_neg fun hc => h hc.1] at hg
    cases hg
  · cases hg

/-- At the gate there is no compliance record yet, and never more than one. -/
def Bounded (run : ExecutionRun) (records : Nat) : Prop :=
  (run.status = .awaitingGreenlight → records = 0) ∧ records ≤ 1

/-- What a call keeps; an approval that was not cut short keeps the bound on the records too. -/
structure Stepped (A : Agency) (run : ExecutionRun) (records : Nat) (approval : Prop)
    (r : Except Exn Unit) (run' : ExecutionRun) : Prop where
  transition : Transition run r run'
  sound : Sound A run'
  phase : ∃ records', Phase run' records' ∧ (Bounded run records →
    (approval → ∀ e, r = .error e → e.isGreenlight = true) → Bounded run' records')

theorem Stepped.unchanged {run run' : ExecutionRun} {records : Nat} {approval : Prop}
    {r : Except Exn Unit} (h : Phase run records) (hs : Sound A run) (heq : run' = run) :
    Stepped A run records approval r run' := by
  subst heq
  exact ⟨.refl _ _, hs, records, h, fun hb _ => hb⟩

/-- `advance` before the gate. -/
theorem Stepped.advance {run run' : ExecutionRun} {records : Nat} {approval : Prop}
    {r : Except Exn Unit} (hstatus : run.status = .queued ∨ run.status = .running)
    (h : Advanced A run r run') : Stepped A run records approval r run' := by
  have hne : ∀ status, status ≠ .queued → status ≠ .running → run.status ≠ status := by
    rintro status hq hr rfl
    exact hstatus.elim hq hr
  have hrevoked : run'.status ≠ .revoked := by
    rcases h.phase with ⟨k, working, hb⟩ | ha
    · rcases hb.status with hb | hb <;> rw [hb] <;> nofun
    · rw [ha.status]
      nofun
  refine ⟨?_, h.sound, 0, ?_, fun _ _ => ⟨fun _ => rfl, Nat.zero_le 1⟩⟩
  · exact
      { ready := fun role hrole => .inl (h.ready role hrole)
        frozen := fun hf => hf.elim (fun hf => absurd hf (hne _ nofun nofun)) fun hf =>
          absurd hf (hne _ nofun nofun)
        fenced := fun _ hf => absurd hf hrevoked
        refused := fun e he hg => by rw [h.noGreenlightError e he] at hg; cases hg
        envelope := fun hf => absurd hf (hne _ nofun nofun) }
  · rcases h.phase with ⟨k, working, hb⟩ | ha
    · exact .building hb
    · exact .awaiting ha

/-- What a settled decision does to the stations. -/
theorem Settled.ready {run run' : ExecutionRun} {records : Nat} {decision : GreenlightDecision}
    {r : Except Exn Unit} (h : Settled run records decision r run') (role : AgentRole)
    (hrole : role ≠ .publisher) : (run'.agentStates role).status = .ready := by
  cases h with
  | stopped _ h => exact h.ready role hrole
  | rejected _ _ h => exact h.ready role hrole
  | approved _ _ _ h => exact h.ready role hrole

/-- The envelope of a settled decision. -/
theorem Settled.envelope {run run' : ExecutionRun} {records : Nat} {decision : GreenlightDecision}
    {r : Except Exn Unit} (h : Settled run records decision r run')
    (hleft : run'.status ≠ .awaitingGreenlight) : ∃ g packages, run'.greenlight = some g ∧
      g.approvedArtifactIds = run.artifacts.map (·.artifactId) ∧
      run'.artifacts = run.artifacts ++ packages ∧
      ∀ a ∈ packages, a.kind = Py.lit "campaign_package" := by
  cases h with
  | stopped _ h => exact absurd h.status hleft
  | rejected _ _ h hartifacts =>
    exact ⟨_, [], h.greenlight, hartifacts ▸ h.envelope, by rw [hartifacts, List.append_nil],
      fun _ ha => absurd ha List.not_mem_nil⟩
  | @approved _ _ g package _ _ _ h hids hpackage hkind =>
    exact ⟨g, [package], h.greenlight, hids, hpackage, fun a ha => by
      rw [List.mem_singleton.1 ha]
      exact hkind⟩

/-- A settled decision does not revoke. -/
theorem Settled.not_revoked {run run' : ExecutionRun} {records : Nat}
    {decision : GreenlightDecision} {r : Except Exn Unit}
    (h : Settled run records decision r run') : run'.status ≠ .revoked := by
  cases h with
  | stopped _ h => rw [h.status]; nofun
  | rejected _ h => rw [h]; nofun
  | approved _ _ h => rw [h]; nofun

/-- A decision on artifacts to which compliance records were added. -/
theorem Settled.transition {run before run' : ExecutionRun} {records k : Nat}
    {decision : GreenlightDecision} {r : Except Exn Unit} (added : List Artifact)
    (hawait : Awaiting run k) (h : Settled before records decision r run')
    (hadded : before.artifacts = run.artifacts ++ added)
    (hkind : ∀ a ∈ added, a.kind = Py.lit "political_compliance_record") :
    Transition run r run' where
  ready role hrole := by
    by_cases hp : role = .publisher
    · exact absurd (hp ▸ hrole) hawait.publisher
    · exact .inl (h.ready role hp)
  frozen hf := by
    rw [hawait.status] at hf
    rcases hf with hf | hf <;> cases hf
  fenced _ hf := absurd hf h.not_revoked
  refused e he hg := by
    rw [h.noGreenlightError e he] at hg
    cases hg
  envelope _ hleft := by
    obtain ⟨g, packages, hgreen, hids, hartifacts, hpackages⟩ := h.envelope hleft
    exact ⟨g, added, packages, hgreen, by rw [hids, hadded], by rw [hartifacts, hadded], hkind,
      hpackages⟩

/-- A decision that was not cut short keeps the bound. -/
theorem Settled.bounded {run before run' : ExecutionRun} {records k : Nat}
    {decision : GreenlightDecision} {r : Except Exn Unit}
    (h : Settled before records decision r run') (hle : records ≤ 1)
    (hreject : decision = .rejected → before = run ∧ records = k) (hb : Bounded run k)
    (huncut : decision = .approved → ∀ e, r = .error e → e.isGreenlight = true) :
    Bounded run' records := by
  cases h with
  | @stopped e _ he _ hsame =>
    cases decision with
    | approved =>
      rw [huncut rfl e rfl] at he
      cases he
    | rejected =>
      obtain ⟨rfl, rfl⟩ := hreject rfl
      rw [hsame rfl]
      exact hb
  | rejected _ hs =>
    refine ⟨fun ha => ?_, hle⟩
    rw [hs] at ha
    cases ha
  | approved _ _ hs =>
    refine ⟨fun ha => ?_, hle⟩
    rw [hs] at ha
    cases ha

/-- A decision at the gate. -/
theorem Stepped.decided {run run' : ExecutionRun} {records : Nat} {decision : GreenlightDecision}
    {r : Except Exn Unit} (hawait : Awaiting run records) (hs : Sound A run)
    (hs' : Sound A run') (h : Decided run records decision r run') :
    Stepped A run records (decision = .approved) r run' := by
  cases h with
  | refused => exact .unchanged (.awaiting hawait) hs rfl
  | settled h =>
    refine ⟨h.transition [] hawait (List.append_nil _).symm fun _ ha => absurd ha List.not_mem_nil,
      hs', records, h.phase, fun hb huncut => ?_⟩
    exact h.bounded hb.2 (fun _ => ⟨rfl, rfl⟩) hb huncut
  | @recorded a _ _ happroved ha h =>
    refine ⟨h.transition [a] hawait rfl fun b hb => ?_, hs', records + 1, h.phase,
      fun hb huncut => ?_⟩
    · rw [List.mem_singleton.1 hb]
      exact (Prod.ext_iff.1 ha).2
    · refine h.bounded ?_ (fun hrejected => ?_) hb huncut
      · rw [hb.1 hawait.status]
      · rw [happroved] at hrejected
        cases hrejected

/-- A revocation of a completed run. -/
theorem Stepped.revoked {run run' : ExecutionRun} {records : Nat} {g : Greenlight} {approval : Prop}
    {r : Except Exn Unit} (hstatus : run.status = .completed) (h : Approved run records g)
    (hs : Sound A run) (hs' : Sound A run')
    (hstep : (∃ e, r = .error e) ∧ run' = run ∨ r = .ok () ∧ Revoked run records g run') :
    Stepped A run records approval r run' := by
  rcases hstep with ⟨-, rfl⟩ | ⟨rfl, hrevoked⟩
  · exact .unchanged (.completed hstatus h) hs rfl
  · obtain ⟨g', happroved, htoken⟩ := hrevoked.approved
    refine ⟨?_, hs', records, .revoked hrevoked.status happroved, fun hb _ => ⟨fun ha => ?_, hb.2⟩⟩
    · exact
        { ready := fun role hrole => by
            by_cases hp : role = .publisher
            · exact .inr ⟨hp, hstatus, hrevoked.status⟩
            · exact .inl (happroved.ready role hp)
          frozen := fun hf => by
            rw [hstatus] at hf
            rcases hf with hf | hf <;> cases hf
          fenced := fun _ _ => ⟨g, g', h.greenlight, happroved.greenlight, by omega⟩
          refused := fun e he => by cases he
          envelope := fun hf => by
            rw [hstatus] at hf
            cases hf }
    · rw [hrevoked.status] at ha
      cases ha

theorem Stepped.mono {run run' : ExecutionRun} {records : Nat} {P Q : Prop} {r : Except Exn Unit}
    (h : Stepped A run records P r run') (hPQ : P → Q) : Stepped A run records Q r run' := by
  obtain ⟨records', hphase, hbound⟩ := h.phase
  exact ⟨h.transition, h.sound, records', hphase, fun hb hQ => hbound hb fun hP => hQ (hPQ hP)⟩

/-- A decision on a run in any phase. -/
theorem decide_stepped {s : Session} {records : Nat} (h : Phase s.run records) (hs : Sound A s.run)
    (decision : GreenlightDecision) (reviewer note : Str) :
    (decide A R decision reviewer note).Ends s fun r s' =>
      Stepped A s.run records (decision = .approved) r s'.run := by
  by_cases hst : s.run.status = .awaitingGreenlight
  · cases h with
    | awaiting ha =>
      exact (decide_ends ha hs).mono fun r s' h' => .decided ha hs h'.1 h'.2
    | building hb =>
      rcases hb.status with hb | hb <;> cases hst.symm.trans hb
    | completed hc | rejected hc | revoked hc => cases hst.symm.trans hc
  · exact (decide_refused hst).mono fun r s' h' => .unchanged h hs h'

/-- One call on a run. -/
theorem perform_stepped {run : ExecutionRun} {records : Nat} (h : Phase run records)
    (hs : Sound A run) (c : Call) :
    Stepped A run records (∃ reviewer note, c = .approve reviewer note) (c.perform A R run).1
      (c.perform A R run).2 := by
  let s : Session := ⟨run, R.clock, []⟩
  have hsame {p : Action Unit} (hp : p.Ends s fun _ s' => s'.run = run) {approval : Prop} :
      Stepped A run records approval (p s).1 (p s).2.run := .unchanged h hs hp
  have hidle (hq : run.status ≠ .queued) (hr : run.status ≠ .running) :
      (advance A R).Ends s fun _ s' => s'.run = run :=
    (advance_idle (s := s) hq hr).mono fun _ _ h => h.2
  cases c with
  | advance =>
    cases h with
    | building hb => exact .advance hb.status (advance_ends (s := s) hb hs)
    | awaiting ha => exact hsame (hidle (by rw [ha.status]; nofun) (by rw [ha.status]; nofun))
    | completed hst | rejected hst | revoked hst =>
      exact hsame (hidle (by rw [hst]; nofun) (by rw [hst]; nofun))
  | approve reviewer note =>
    exact Stepped.mono (decide_stepped (R := R) (s := s) h hs .approved reviewer note) fun _ =>
      ⟨reviewer, note, rfl⟩
  | reject reviewer note =>
    exact Stepped.mono (decide_stepped (R := R) (s := s) h hs .rejected reviewer note) nofun
  | revoke reviewer reason =>
    cases h with
    | building hb =>
      refine hsame (revoke_refused (s := s) ?_)
      rcases hb.status with hst | hst <;> exact fun hc => by cases hst.symm.trans hc
    | awaiting ha => exact hsame (revoke_refused (s := s) fun hc => by cases ha.status.symm.trans hc)
    | completed hst happroved =>
      exact .revoked hst happroved hs (revoke_ends (s := s) happroved hs).1
        (revoke_ends (s := s) happroved hs).2
    | rejected hst | revoked hst =>
      exact hsame (revoke_refused (s := s) fun hc => by cases hst.symm.trans hc)

/-! ## Histories -/

/-- A run is created with no station begun. -/
theorem newRun_phase (runId : Str) (brief : MissionBrief) (asynchronous : Bool) (now : Str) :
    Sound A (newRun runId brief asynchronous now) ∧ Phase (newRun runId brief asynchronous now) 0 := by
  refine ⟨⟨rfl, fun _ ha => absurd ha List.not_mem_nil⟩, .building (?_ : Building _ 0 false)⟩
  exact
    { status := by cases asynchronous <;> simp [newRun]
      progress := ⟨Nat.zero_le 7, nofun, fun role => by simp [newRun, progressStatus]⟩
      made := rfl
      undecided := rfl }

theorem Uncut.left {runId : Str} {L L' : List Entry} (h : Uncut runId (L ++ L')) : Uncut runId L :=
  fun entry he => h entry (List.mem_append_left _ he)

/-- The run of an id after an operation: it was created now, a call acted on it, or it is as it
was. -/
theorem Operation.run_cases {op : Operation} {runs : Runs} {runId : Str} {run : ExecutionRun}
    (hrun : (op.perform A R runs).2 runId = some run) :
    (∃ brief asynchronous now, run = newRun runId brief asynchronous now) ∨
      runs runId = some run ∨
      ∃ c before, op = .call runId c ∧ runs runId = some before ∧
        (op.perform A R runs).1 = (c.perform A R before).1 ∧ run = (c.perform A R before).2 := by
  cases op with
  | create brief asynchronous =>
    simp only [Operation.perform, Orchestrator.create] at hrun
    split at hrun
    · exact .inr (.inl hrun)
    · next newId _ =>
      split at hrun
      · exact .inr (.inl hrun)
      · by_cases hid : runId = newId
        · subst hid
          simp only [Function.update_self, Option.some.injEq] at hrun
          exact .inl ⟨brief, asynchronous, _, hrun.symm⟩
        · simp only [Function.update_of_ne hid] at hrun
          exact .inr (.inl hrun)
  | call id c =>
    simp only [Operation.perform, Orchestrator.call] at hrun ⊢
    cases hbefore : runs id with
    | none =>
      simp only [hbefore] at hrun
      exact .inr (.inl hrun)
    | some before =>
      simp only [hbefore] at hrun ⊢
      by_cases hid : runId = id
      · subst hid
        simp only [Function.update_self, Option.some.injEq] at hrun
        exact .inr (.inr ⟨c, before, rfl, hbefore, rfl, hrun.symm⟩)
      · simp only [Function.update_of_ne hid] at hrun
        exact .inr (.inl hrun)

/-- Every run of a history is in a phase. -/
theorem History.phase {L : List Entry} {runs : Runs} (h : History A L runs) {runId : Str}
    {run : ExecutionRun} (hrun : runs runId = some run) :
    Sound A run ∧ ∃ records, Phase run records ∧ (Uncut runId L → Bounded run records) := by
  induction h generalizing run with
  | nil => cases hrun
  | @snoc L runs op R _ ih =>
    rcases Operation.run_cases hrun with ⟨brief, asynchronous, now, rfl⟩ | hsame |
      ⟨c, before, rfl, hbefore, hresult, rfl⟩
    · obtain ⟨hs, hp⟩ := newRun_phase (A := A) runId brief asynchronous now
      exact ⟨hs, 0, hp, fun _ => ⟨fun _ => rfl, Nat.zero_le 1⟩⟩
    · obtain ⟨hs, records, hp, hb⟩ := ih hsame
      exact ⟨hs, records, hp, fun hu => hb hu.left⟩
    · obtain ⟨hs, records, hp, hb⟩ := ih hbefore
      have hstep : Stepped A before records _ _ _ := perform_stepped (R := R) hp hs c
      obtain ⟨records', hp', hb'⟩ := hstep.phase
      refine ⟨hstep.sound, records', hp', fun hu => hb' (hb hu.left) ?_⟩
      rintro ⟨reviewer, note, rfl⟩ e he
      exact hu _ (List.mem_append_right _ (List.mem_singleton_self _)) reviewer note e rfl
        (hresult.trans he)

/-! ## The invariant of a run -/

/-- Hashing is injective on the artifacts of the run as far as their stations and kinds go. -/
def HashInjective (A : Agency) (run : ExecutionRun) : Prop :=
  ∀ a ∈ run.artifacts, ∀ b ∈ run.artifacts, idOf A run.runId a = idOf A run.runId b →
    a.createdBy = b.createdBy ∧ a.kind = b.kind

/-- What holds of every run. -/
structure RunInvariant (A : Agency) (uncut : Prop) (run : ExecutionRun) : Prop where
  /-- Until the gate the stations are a run of ready ones, at most one at work, then standby. -/
  stations : run.status = .queued ∨ run.status = .running → ∃ k working, k ≤ 7 ∧ working ≤ 1 ∧
    stationStatuses run = List.replicate k .ready ++ List.replicate working .processing ++
      List.replicate (8 - k - working) .standby
  /-- The package exists only under an approval of a run that was cleared for it. -/
  package : ∀ a ∈ run.artifacts, a.kind = Py.lit "campaign_package" →
    ∃ g, run.greenlight = some g ∧ g.decision = .approved ∧ Cleared run g.reviewer
  /-- Artifact ids are distinct. -/
  distinct : uncut → HashInjective A run → (run.artifacts.map (·.artifactId)).Nodup
  /-- The envelope lists the artifacts of the time of the decision, the first ones of the run. After
  them come the package, or at the gate the compliance records of later attempts. -/
  envelope : ∀ g, run.greenlight = some g → ∃ present later, run.artifacts = present ++ later ∧
    g.approvedArtifactIds = present.map (·.artifactId) ∧
    ∀ a ∈ later, a.kind = Py.lit "campaign_package" ∨
      run.status = .awaitingGreenlight ∧ a.kind = Py.lit "political_compliance_record"
  /-- The trace is numbered without gaps. -/
  numbered : run.trace.map (·.sequence) = List.range' 1 run.trace.length

/-- The products of a run in a phase with few compliance records are distinct. -/
theorem Phase.nodup {run : ExecutionRun} {records : Nat} (h : Phase run records)
    (hle : records ≤ 1) : (made run).Nodup := by
  have hall : ∀ j : Fin 2, (executable.map product ++ List.replicate j.val recordProduct ++
      [product .publisher]).Nodup := by decide
  have hpackaged := hall ⟨records, Nat.lt_succ_of_le hle⟩
  have hbase := (List.nodup_append.1 hpackaged).1
  cases h with
  | building hb =>
    rw [hb.made]
    exact (List.nodup_append.1 hbase).1.sublist (List.take_sublist _ _)
  | awaiting ha =>
    rw [ha.made]
    exact hbase
  | rejected _ hr =>
    rw [hr.made]
    exact hbase
  | completed _ ha | revoked _ ha =>
    rw [ha.made]
    exact hpackaged

/-- Artifacts with distinct products have distinct ids. -/
theorem Sound.ids_nodup {run : ExecutionRun} (hs : Sound A run) (hmade : (made run).Nodup)
    (hinj : HashInjective A run) : (run.artifacts.map (·.artifactId)).Nodup := by
  refine List.Nodup.map_on ?_ hmade.of_map
  intro a ha b hb hid
  obtain ⟨hcreated, hkind⟩ := hinj a ha b hb (by rw [hs.identified a ha, hs.identified b hb, hid])
  exact List.inj_on_of_nodup_map hmade ha hb (Prod.ext hcreated hkind)

/-- Before an approval no artifact is a package. -/
theorem no_package {records : Nat} {p : AgentRole × Str}
    (h : p ∈ executable.map product ++ List.replicate records recordProduct) :
    p.2 ≠ Py.lit "campaign_package" := by
  rcases List.mem_append.1 h with h | h
  · have hall : ∀ q ∈ executable.map product, q.2 ≠ Py.lit "campaign_package" := by decide
    exact hall p h
  · rw [List.eq_of_mem_replicate h]
    decide

/-- A package is made under an approval. -/
theorem Phase.package {run : ExecutionRun} {records : Nat} (h : Phase run records) {a : Artifact}
    (ha : a ∈ run.artifacts) (hkind : a.kind = Py.lit "campaign_package") :
    ∃ g, run.greenlight = some g ∧ g.decision = .approved ∧ Cleared run g.reviewer := by
  have hmem : (a.createdBy, a.kind) ∈ made run := List.mem_map_of_mem ha
  cases h with
  | @building k _ hb =>
    rw [hb.made] at hmem
    exact absurd hkind (@no_package 0 _ (List.mem_append_left _ (List.mem_of_mem_take hmem)))
  | awaiting hw =>
    rw [hw.made] at hmem
    exact absurd hkind (no_package hmem)
  | rejected _ hr =>
    rw [hr.made] at hmem
    exact absurd hkind (no_package hmem)
  | completed _ h | revoked _ h => exact ⟨_, h.greenlight, h.decision, h.cleared⟩

/-- After the artifacts of the envelope comes the package alone. -/
theorem Approved.envelope_later {run : ExecutionRun} {records : Nat} {g : Greenlight}
    (h : Approved run records g) : ∃ present later, run.artifacts = present ++ later ∧
      g.approvedArtifactIds = present.map (·.artifactId) ∧
      ∀ a ∈ later, a.kind = Py.lit "campaign_package" := by
  obtain ⟨present, package, hartifacts, hids⟩ := h.envelope
  refine ⟨present, [package], hartifacts, hids, fun a ha => ?_⟩
  rw [List.mem_singleton.1 ha]
  have hmade := h.made
  rw [Orchestrator.made, hartifacts, List.map_append] at hmade
  have hlast := (List.append_inj' hmade rfl).2
  exact (Prod.ext_iff.1 (List.cons.inj hlast).1).2

/-- The envelope of a run in a phase. -/
theorem Phase.envelope {run : ExecutionRun} {records : Nat} (h : Phase run records) {g : Greenlight}
    (hg : run.greenlight = some g) : ∃ present later, run.artifacts = present ++ later ∧
      g.approvedArtifactIds = present.map (·.artifactId) ∧
      ∀ a ∈ later, a.kind = Py.lit "campaign_package" ∨
        run.status = .awaitingGreenlight ∧ a.kind = Py.lit "political_compliance_record" := by
  cases h with
  | building hb =>
    rw [hb.undecided] at hg
    cases hg
  | awaiting ha =>
    obtain ⟨present, later, hartifacts, hlater, hids⟩ := ha.envelope g hg
    exact ⟨present, later, hartifacts, hids, fun a ha' => .inr ⟨ha.status, hlater a ha'⟩⟩
  | rejected _ hr =>
    cases hr.greenlight.symm.trans hg
    exact ⟨run.artifacts, [], (List.append_nil _).symm, hr.envelope, fun _ ha =>
      absurd ha List.not_mem_nil⟩
  | completed _ h | revoked _ h =>
    cases h.greenlight.symm.trans hg
    obtain ⟨present, later, hartifacts, hids, hlater⟩ := h.envelope_later
    exact ⟨present, later, hartifacts, hids, fun a ha => .inl (hlater a ha)⟩

/-- The stations of a run under way. -/
theorem Phase.stations {run : ExecutionRun} {records : Nat} (h : Phase run records)
    (hst : run.status = .queued ∨ run.status = .running) : ∃ k working, k ≤ 7 ∧ working ≤ 1 ∧
      stationStatuses run = List.replicate k .ready ++ List.replicate working .processing ++
        List.replicate (8 - k - working) .standby := by
  cases h with
  | @building k working hb =>
    exact ⟨k, working.toNat, hb.progress.bound, Bool.toNat_le working, hb.progress.stationStatuses⟩
  | awaiting ha =>
    rcases hst with hst | hst <;> cases ha.status.symm.trans hst
  | completed hc | rejected hc | revoked hc =>
    rcases hst with hst | hst <;> cases hc.symm.trans hst

/-- Every run of every history satisfies the invariant, and every further call is a transition. -/
theorem run_state_machine {L : List Entry} {runs : Runs} {runId : Str} {run : ExecutionRun}
    (h : History A L runs) (hrun : runs runId = some run) :
    RunInvariant A (Uncut runId L) run ∧
      ∀ (c : Call) (R : Reading), Transition run (c.perform A R run).1 (c.perform A R run).2 := by
  obtain ⟨hs, records, hp, hb⟩ := h.phase hrun
  refine ⟨?_, fun c R => (perform_stepped hp hs c).transition⟩
  exact
    { stations := hp.stations
      package := fun a ha hkind => hp.package ha hkind
      distinct := fun hu hinj => hs.ids_nodup (hp.nodup (hb hu).2) hinj
      envelope := fun g hg => hp.envelope hg
      numbered := hs.numbered }

/-! ## Sample runs -/

/-- Operations one after another, with the same readings. -/
def perform (A : Agency) (R : Reading) : List Operation → List Entry → Runs → List Entry × Runs
  | [], L, runs => (L, runs)
  | op :: ops, L, runs =>
    let performed := op.perform A R runs
    perform A R ops (L ++ [⟨op, performed.1⟩]) performed.2

theorem perform_history {ops : List Operation} {L : List Entry} {runs : Runs}
    (h : History A L runs) (R : Reading) :
    History A (perform A R ops L runs).1 (perform A R ops L runs).2 := by
  induction ops generalizing L runs with
  | nil => exact h
  | cons op ops ih => exact ih (h.snoc op R)

namespace Sample

/-- A digest that tells the artifacts of the sample apart. -/
def checksum (b : Bytes) : Str := Py.ofNat b.length

def interpreter : Interpreter where
  sha256 := checksum
  loads _ := .decodeError
  fromisoformat _ := none
  urlsplit _ := none
  hmacSha1 _ _ := []
  isprintable c := !Py.isSurrogate c
  surrogate := Py.not_isSurrogate

def agency : Agency where
  interpreter := interpreter
  campaign :=
    { claimLedger := fun _ _ => .ok []
      strategyPayload := fun _ => .ok [(Py.lit "pillars", .arr [])]
      growthPayload := fun _ fixture => .ok fixture
      copyPayload := fun _ _ => .ok [(Py.lit "variants", .obj [])]
      mediaPayload := fun _ _ _ => .ok []
      critiquePayload := fun _ _ _ =>
        .ok [(Py.lit "passed", .bool true), (Py.lit "publication_eligible", .bool true),
          (Py.lit "checks", .arr [])] }

def evidence : ToolEvidence where
  evidenceId := Py.lit "ev-1"
  tool := Py.lit "fixture"
  operation := Py.lit "read"
  sandbox := true
  summary := []
  payload := []
  references := []

def reading : Reading where
  tools :=
    { collect := fun _ _ _ => ⟨.null, evidence⟩
      forecast := fun _ _ _ _ => ⟨[], evidence⟩
      observe := fun _ _ => ⟨.null, evidence⟩
      inspect := fun _ _ _ => ⟨.null, evidence⟩
      lookup := fun _ _ => ⟨[], evidence⟩
      planVideo := fun _ _ _ => ⟨[], evidence⟩
      planMotion := fun _ _ _ => ⟨[], evidence⟩
      package := fun _ _ artifacts =>
        ⟨⟨Py.lit "sandbox://manifest", artifacts.map (·.artifactId), [], [], false⟩, evidence⟩ }
  memory _ := .ok ()
  clock _ := Py.lit "2026-01-01T00:00:00+00:00"

/-- A political brief. -/
def brief : MissionBrief where
  title := Py.lit "T"
  objective := Py.lit "O"
  audience := Py.lit "A"
  platforms := [.x]
  campaignType := Py.lit "political"
  jurisdiction := Py.lit "GT"
  office := Py.lit "alcalde"
  candidateName := Py.lit "C"
  locality := Py.lit "L"
  problem := Py.lit "P"
  proposal := Py.lit "Q"
  desiredAction := Py.lit "D"
  disclosure := Py.lit "E"
  legalReviewedBy := Py.lit "legal"
  evidenceClaims :=
    [[(Py.lit "statement", Py.lit "s"), (Py.lit "source", Py.lit "r"), (Py.lit "locator", Py.lit "l")]]
  checked := by decide

/-- The id of its run. -/
def runId : Str := Py.lit "run-501"

/-- The creation of the run, so many advances, and then these calls. -/
def operations (advances : Nat) (calls : List Call) : List Operation :=
  .create brief false :: (List.replicate advances Call.advance ++ calls).map (.call runId)

def approve : Call := .approve (Py.lit "reviewer") []

/-- A note with a lone surrogate. -/
def surrogateNote : Call := .approve (Py.lit "reviewer") [Fin.ofNat _ 0xD800]

/-- The run after so many advances and these calls. -/
def run (advances : Nat) (calls : List Call) : Option ExecutionRun :=
  (perform agency reading (operations advances calls) [] fun _ => none).2 runId

end Sample

/-- A sample run that passes a test is a run of a history. -/
theorem Sample.run_history (advances : Nat) (calls : List Call) (test : ExecutionRun → Bool)
    (h : (Sample.run advances calls).any test = true) : ∃ L runs run,
      History Sample.agency L runs ∧ runs Sample.runId = some run ∧ test run = true := by
  obtain ⟨run, hrun, htest⟩ := (Option.any_eq_true _ _).1 h
  exact ⟨_, _, run, perform_history .nil Sample.reading, hrun, htest⟩

/-- Hashing is injective on a run whose ids tell stations and kinds apart. -/
theorem History.hashInjective {L : List Entry} {runs : Runs} {runId : Str} {run : ExecutionRun}
    (h : History A L runs) (hrun : runs runId = some run)
    (hids : ∀ a ∈ run.artifacts, ∀ b ∈ run.artifacts, a.artifactId = b.artifactId →
      a.createdBy = b.createdBy ∧ a.kind = b.kind) : HashInjective A run := by
  obtain ⟨hs, -⟩ := h.phase hrun
  intro a ha b hb hid
  rw [hs.identified a ha, hs.identified b hb] at hid
  exact hids a ha b hb (Except.ok.inj hid)

/-- An approval whose note cannot be encoded leaves its compliance record behind, so that the next
one adds a second of the same id; and a revocation blocks the Publisher although it was ready. -/
theorem ready_and_distinct_fail : ∃ L runs run, History Sample.agency L runs ∧
    runs Sample.runId = some run ∧
    ((run.agentStates .publisher).status = .ready ∧ ∃ R, ∃ c : Call,
      ((c.perform Sample.agency R run).2.agentStates .publisher).status ≠ .ready) ∧
    HashInjective Sample.agency run ∧ ¬ (run.artifacts.map (·.artifactId)).Nodup := by
  obtain ⟨L, runs, run, h, hrun, htest⟩ :=
    Sample.run_history 14 [Sample.surrogateNote, Sample.approve]
      (fun run => ((run.agentStates .publisher).status = .ready ∧
        (((Call.revoke (Py.lit "reviewer") (Py.lit "reason")).perform Sample.agency Sample.reading
          run).2.agentStates .publisher).status ≠ .ready) ∧
        (∀ a ∈ run.artifacts, ∀ b ∈ run.artifacts, a.artifactId = b.artifactId →
          a.createdBy = b.createdBy ∧ a.kind = b.kind) ∧
        ¬ (run.artifacts.map (·.artifactId)).Nodup) (by decide +kernel)
  obtain ⟨⟨hready, hblocked⟩, hids, htwice⟩ := of_decide_eq_true htest
  exact ⟨L, runs, run, h, hrun, ⟨hready, Sample.reading, _, hblocked⟩,
    h.hashInjective hrun hids, htwice⟩

/-- A run with its first station ready satisfies the invariant. -/
theorem run_state_machine_chartered : ∃ L runs run, History Sample.agency L runs ∧
    runs Sample.runId = some run ∧ made run = [product .ceo] ∧
    RunInvariant Sample.agency (Uncut Sample.runId L) run := by
  obtain ⟨L, runs, run, h, hrun, htest⟩ := Sample.run_history 2 []
    (fun run => made run = [product .ceo]) (by decide +kernel)
  exact ⟨L, runs, run, h, hrun, of_decide_eq_true htest, (run_state_machine h hrun).1⟩

end Orchestrator

end AgencyRuntime
