import AgencyRuntime.Orchestrator.Calls

/-!
# The pipeline of stations

The stations work one after another: `Progress run k working` says that the first `k` are ready,
that the next one is at work when `working` holds, and that the others have not begun. Whatever a
station computes, it either leaves the run alone and raises, or adds one artifact of its own kind
and is ready (`executeRole_ends`). `Building` is what holds of a run until the approval gate.
-/

namespace AgencyRuntime

open Effects

namespace Orchestrator

/-- The place of a station in the sequence. -/
def place : AgentRole → Nat
  | .ceo => 0
  | .research => 1
  | .strategist => 2
  | .growth => 3
  | .writer => 4
  | .media => 5
  | .risk => 6
  | .publisher => 7

/-- The kind of a station's artifact. -/
def stationKind : AgentRole → String
  | .ceo => "mission_charter"
  | .research => "research_dossier"
  | .strategist => "channel_strategy"
  | .growth => "growth_forecast"
  | .writer => "copy_deck"
  | .media => "media_plan"
  | .risk => "risk_report"
  | .publisher => "campaign_package"

/-- What a station makes. -/
def product (role : AgentRole) : AgentRole × Str := (role, Py.lit (stationKind role))

/-- Who made the artifacts of a run, and of which kind they are. -/
def made (run : ExecutionRun) : List (AgentRole × Str) :=
  run.artifacts.map fun a => (a.createdBy, a.kind)

/-- The status of a station while the first `k` are ready. -/
def progressStatus (k : Nat) (working : Bool) (role : AgentRole) : AgentStatus :=
  if place role < k then .ready
  else if place role = k ∧ working = true then .processing
  else .standby

/-- The first `k` stations are ready, and the next one may be at work. -/
structure Progress (run : ExecutionRun) (k : Nat) (working : Bool) : Prop where
  bound : k ≤ 7
  gate : k = 7 → working = false
  statuses : ∀ role, (run.agentStates role).status = progressStatus k working role

/-- The statuses of the stations, in their order. -/
def stationStatuses (run : ExecutionRun) : List AgentStatus :=
  agentSequence.map fun role => (run.agentStates role).status

theorem executable_eq : executable = [.ceo, .research, .strategist, .growth, .writer, .media, .risk] :=
  rfl

/-- The executable station at a place below the Publisher's. -/
theorem exists_role {k : Nat} (h : k < 7) : ∃ role, place role = k ∧ role ≠ .publisher := by
  have hall : ∀ j : Fin 7, ∃ role ∈ executable, place role = j.val := by decide
  obtain ⟨role, hmem, hrole⟩ := hall ⟨k, h⟩
  refine ⟨role, hrole, ?_⟩
  rintro rfl
  exact absurd hmem (by decide)

theorem place_inj {r s : AgentRole} (h : place r = place s) : r = s := by
  revert h
  cases r <;> cases s <;> decide

theorem place_lt (role : AgentRole) (h : role ≠ .publisher) : place role < 7 := by
  revert h
  cases role <;> decide

/-- In progress, the stations are a run of ready ones, at most one at work, and then standby. -/
theorem Progress.stationStatuses {run : ExecutionRun} {k : Nat} {working : Bool}
    (h : Progress run k working) : stationStatuses run =
      List.replicate k .ready ++ List.replicate working.toNat .processing ++
        List.replicate (8 - k - working.toNat) .standby := by
  have hall : ∀ j : Fin 8, ∀ w : Bool, (j.val = 7 → w = false) →
      agentSequence.map (progressStatus j.val w) = List.replicate j.val .ready ++
        List.replicate w.toNat .processing ++ List.replicate (8 - j.val - w.toNat) .standby := by
    decide
  have heq : (fun role => (run.agentStates role).status) = progressStatus k working :=
    funext h.statuses
  rw [Orchestrator.stationStatuses, heq]
  exact hall ⟨k, Nat.lt_succ_of_le h.bound⟩ working h.gate

/-- The station that `advance` turns to. -/
theorem Progress.find? {run : ExecutionRun} {k : Nat} {working : Bool}
    (h : Progress run k working) :
    (executable.find? fun role => (run.agentStates role).status != .ready) = executable[k]? := by
  have hall : ∀ j : Fin 8, ∀ w : Bool,
      (executable.find? fun role => progressStatus j.val w role != .ready) = executable[j.val]? := by
    decide
  simp only [h.statuses]
  exact hall ⟨k, Nat.lt_succ_of_le h.bound⟩ working

theorem getElem?_executable {k : Nat} {role : AgentRole} (h : executable[k]? = some role) :
    place role = k ∧ k < 7 := by
  have hk : k < executable.length := (List.getElem?_eq_some_iff.1 h).1
  have hall : ∀ j : Fin 7, ∀ r, executable[j.val]? = some r → place r = j.val := by decide
  exact ⟨hall ⟨k, hk⟩ role h, hk⟩

/-- The products of the first stations, and of one more. -/
theorem take_succ_products {k : Nat} {role : AgentRole} (h : executable[k]? = some role) :
    (executable.map product).take (k + 1) = (executable.map product).take k ++ [product role] := by
  rw [List.take_add_one, List.getElem?_map, h]
  rfl

@[simp] theorem updateState_status (run : ExecutionRun) (role r : AgentRole) (status : AgentStatus)
    (progress : Fin 101) (detail : String) :
    ((run.updateState role status progress detail).agentStates r).status =
      if r = role then status else (run.agentStates r).status := by
  by_cases h : r = role
  · subst h
    simp [ExecutionRun.updateState, AgentState.update]
  · simp [ExecutionRun.updateState, h]

@[simp] theorem addArtifact_status (run : ExecutionRun) (artifact : Artifact) (r : AgentRole) :
    ((run.addArtifact artifact).agentStates r).status = (run.agentStates r).status := by
  by_cases h : r = artifact.createdBy
  · subst h
    simp [ExecutionRun.addArtifact]
  · simp [ExecutionRun.addArtifact, h]

/-- A station that begins. -/
theorem Progress.begin {run run' : ExecutionRun} {k : Nat} {role : AgentRole}
    (h : Progress run k false) (hrole : executable[k]? = some role)
    (hrun' : ∀ r, (run'.agentStates r).status =
      if r = role then .processing else (run.agentStates r).status) : Progress run' k true where
  bound := h.bound
  gate hk := absurd (getElem?_executable hrole).2 (by omega)
  statuses r := by
    have hplace := (getElem?_executable hrole).1
    rw [hrun' r, h.statuses r]
    by_cases hr : r = role
    · subst hr
      simp [progressStatus, hplace]
    · have hne : place r ≠ k := fun hk => hr (place_inj (hk.trans hplace.symm))
      simp [progressStatus, hr, hne]

/-- A station that is ready. -/
theorem Progress.complete {run run' : ExecutionRun} {k : Nat} {working : Bool} {role : AgentRole}
    (h : Progress run k working) (hrole : executable[k]? = some role)
    (hrun' : ∀ r, (run'.agentStates r).status =
      if r = role then .ready else (run.agentStates r).status) : Progress run' (k + 1) false where
  bound := (getElem?_executable hrole).2
  gate _ := rfl
  statuses r := by
    have hplace := (getElem?_executable hrole).1
    rw [hrun' r, h.statuses r]
    by_cases hr : r = role
    · subst hr
      simp [progressStatus, hplace]
    · have hne : place r ≠ k := fun hk => hr (place_inj (hk.trans hplace.symm))
      have hlt : place r < k + 1 ↔ place r < k := by omega
      simp [progressStatus, hr, hne, hlt]

/-! ## What the parts of a call do -/

/-- The parts of a run that no station touches. -/
structure SameDecision (run run' : ExecutionRun) : Prop where
  runId : run'.runId = run.runId
  brief : run'.brief = run.brief
  status : run'.status = run.status
  greenlight : run'.greenlight = run.greenlight

theorem SameDecision.refl (run : ExecutionRun) : SameDecision run run := ⟨rfl, rfl, rfl, rfl⟩

theorem SameDecision.trans {run run' run'' : ExecutionRun} (h : SameDecision run run')
    (h' : SameDecision run' run'') : SameDecision run run'' :=
  ⟨h'.runId.trans h.runId, h'.brief.trans h.brief, h'.status.trans h.status,
    h'.greenlight.trans h.greenlight⟩

/-- The trace has one more event, with the next number. -/
def TraceGrows (run run' : ExecutionRun) : Prop :=
  ∃ e, run'.trace = run.trace ++ [e] ∧ e.sequence = run.trace.length + 1

/-- The events of the trace are numbered from 1. -/
def Numbered (run : ExecutionRun) : Prop :=
  run.trace.map (·.sequence) = List.range' 1 run.trace.length

theorem Numbered.grows {run run' : ExecutionRun} (h : Numbered run) (hgrows : TraceGrows run run') :
    Numbered run' := by
  obtain ⟨e, htrace, hseq⟩ := hgrows
  rw [Numbered, htrace, List.map_append, h, List.length_append, List.range'_append_1.symm]
  simp [hseq, Nat.add_comm]

/-- `event` adds one event and changes nothing else. -/
theorem event_ends {role : AgentRole} {action : String} {status : AgentStatus} {detail : String}
    {artifactIds evidenceIds : List Str} {s : Session} {Q : Except Exn Unit → Session → Prop}
    (h : ∀ e clock, e.sequence = s.run.trace.length + 1 →
      Q (.ok ()) { s with run := { s.run with trace := s.run.trace ++ [e] }, clock := clock }) :
    (event role action status detail artifactIds evidenceIds).Ends s Q :=
  Method.Ends.update (h _ _ rfl)

variable {A : Agency} {R : Reading}

/-- The id a run's artifact must have. -/
def idOf (A : Agency) (runId : Str) (a : Artifact) : Except Exn Str :=
  if a.kind = Py.lit "political_compliance_record" then
    A.interpreter.stableId "political-compliance-record" [.str runId, .obj a.payload] 48
  else
    A.interpreter.stableId "art"
      [.str runId, .str a.createdBy.value, .str a.kind, .obj a.payload] 16

/-- The station has made its artifact and is ready. -/
structure Completed (A : Agency) (role : AgentRole) (run run' : ExecutionRun) : Prop where
  artifact : ∃ a : Artifact, run'.artifacts = run.artifacts ++ [a] ∧
    (a.createdBy, a.kind) = product role ∧ idOf A run.runId a = .ok a.artifactId
  statuses : ∀ r, (run'.agentStates r).status =
    if r = role then .ready else (run.agentStates r).status
  trace : TraceGrows run run'
  same : SameDecision run run'

/-- The exception, if any, is no `GreenlightError`. -/
def NoGreenlightError {α : Type} (r : Except Exn α) : Prop :=
  RaisesOnly (·.isGreenlight = false) r

theorem canonicalJson_raises {j : Json} : NoGreenlightError (canonicalJson j) := by
  intro e he
  unfold canonicalJson at he
  split at he
  · cases he
  · cases he; rfl

theorem digest_raises {P : Platform} {s : Str} : NoGreenlightError (P.digest s) := by
  refine RaisesOnly.bind (fun e he => ?_) fun _ => .ok _
  rw [(Py.encode_error.1 he).2]
  rfl

theorem stableId_raises {P : Platform} {label : String} {values : List Json} {length : Nat} :
    NoGreenlightError (P.stableId label values length) :=
  .bind canonicalJson_raises fun _ => .bind digest_raises fun _ => .ok _

theorem mapM_raises {α β : Type} {p : Exn → Prop} {f : α → Except Exn β} {xs : List α}
    (h : ∀ a, RaisesOnly p (f a)) : RaisesOnly p (xs.mapM f) := by
  induction xs with
  | nil => exact .ok _
  | cons x xs ih =>
    rw [List.mapM_cons]
    exact (h x).bind fun _ => ih.bind fun _ => .ok _

theorem kind_ne_record (role : AgentRole) :
    Py.lit (stationKind role) ≠ Py.lit "political_compliance_record" := by
  cases role <;> decide

/-- `_complete_agent` leaves the run alone and raises, or completes the station. -/
theorem completeAgent_ends {role : AgentRole} {title detail : String} {payload : Obj}
    {evidence : List ToolEvidence} {s : Session} :
    (completeAgent A role (stationKind role) title payload evidence detail).Ends s fun r s' =>
      match r with
      | .error e => s'.run = s.run ∧ e.isGreenlight = false
      | .ok _ => Completed A role s.run s'.run := by
  refine Method.Ends.update (Method.Ends.ofExcept (fun e he => ⟨rfl, stableId_raises e he⟩)
    fun id hid => ?_)
  refine Method.Ends.change (Method.Ends.change (Method.Ends.change ?_))
  refine Method.Ends.bind (event_ends fun e clock he => ?_) (R := fun r s' =>
    r = .ok () ∧ Completed A role s.run s'.run) (fun e t h => by cases h.1) fun _ t h => h.2
  refine ⟨rfl, ?_⟩
  exact
    { artifact := ⟨_, rfl, rfl, by rw [idOf, if_neg (kind_ne_record role)]; exact hid⟩
      statuses := fun r => (updateState_status _ role r .ready 100 detail).trans
        (if_congr Iff.rfl rfl (addArtifact_status _ _ r))
      trace := ⟨e, rfl, he⟩
      same := ⟨rfl, rfl, rfl, rfl⟩ }

theorem ofFailure_raises {α : Type} {x : Except Failure α} : NoGreenlightError (ofFailure x) := by
  intro e he
  cases x with
  | error f => cases he; exact f.2
  | ok _ => cases he

/-- `_remember` leaves the run alone. -/
theorem remember_ends {role : AgentRole} {content : Str} {confidence : String} {tags : List Str}
    {artifact : Artifact} {evidence : Option ToolEvidence} {s : Session} :
    (remember R role content confidence tags artifact evidence).Ends s fun r s' =>
      s'.run = s.run ∧ NoGreenlightError r :=
  Method.Ends.update (Method.Ends.update (Method.Ends.change ⟨rfl, ofFailure_raises⟩))

theorem item_raises {payload : Obj} {name : String} : NoGreenlightError (Py.item payload name) := by
  unfold Py.item
  intro e he
  cases h : payload.lookup (Py.lit name) with
  | none => rw [h] at he; cases he; rfl
  | some j => rw [h] at he; cases he

theorem len_raises {j : Json} : NoGreenlightError (Py.len j) := by
  intro e he
  cases j <;> cases he <;> rfl

theorem artifact_raises {run : ExecutionRun} {kind : String} :
    NoGreenlightError (run.artifact kind) := by
  unfold ExecutionRun.artifact
  intro e he
  generalize run.artifacts.reverse.find? _ = found at he
  cases found <;> cases he
  rfl

/-- A handler leaves the run alone and raises, or its station is completed; then it may raise
still. -/
def Executes (A : Agency) (role : AgentRole) (run : ExecutionRun) (r : Except Exn Unit)
    (s' : Session) : Prop :=
  NoGreenlightError r ∧ (Completed A role run s'.run ∨ s'.run = run ∧ ∃ e, r = .error e)

/-- A handler that raises before its station is completed. -/
theorem Executes.raised {role : AgentRole} {s : Session} {α : Type} {x : Except Exn α}
    (h : NoGreenlightError x) (e : Exn) (he : x = .error e) :
    Executes A role s.run (.error e) s :=
  ⟨fun _ h' => by cases h'; exact h e he, .inr ⟨rfl, e, rfl⟩⟩

/-- A handler whose station is completed, and what it does after that. -/
theorem Executes.complete {role : AgentRole} {title detail : String} {payload : Obj}
    {evidence : List ToolEvidence} {s : Session} {f : Artifact → Action Unit}
    (h : ∀ a t, (f a).Ends t fun r s' => s'.run = t.run ∧ NoGreenlightError r) :
    (completeAgent A role (stationKind role) title payload evidence detail >>= f).Ends s
      (Executes A role s.run) := by
  refine completeAgent_ends.bind (fun e t he => ?_) fun a t ha => (h a t).mono fun r s' hr => ?_
  · exact ⟨fun _ h' => by cases h'; exact he.2, .inr ⟨he.1, e, rfl⟩⟩
  · exact ⟨hr.2, .inl (hr.1 ▸ ha)⟩

/-- A computation between the artifact and the memory. -/
theorem quiet_ofExcept {α : Type} {x : Except Exn α} {f : α → Action Unit} {t : Session}
    (hx : NoGreenlightError x)
    (h : ∀ a, (f a).Ends t fun r s' => s'.run = t.run ∧ NoGreenlightError r) :
    ((Method.ofExcept x : Action α) >>= f).Ends t fun r s' => s'.run = t.run ∧ NoGreenlightError r :=
  Method.Ends.ofExcept (fun e he => ⟨rfl, fun _ h' => by cases h'; exact hx e he⟩) fun a _ => h a

/-- What a station does. -/
theorem executeRole_ends {role : AgentRole} {s : Session} :
    (executeRole A R role).Ends s (Executes A role s.run) := by
  cases role with
  | ceo => exact Method.Ends.update (Executes.complete fun a t => ⟨rfl, .ok ()⟩)
  | research =>
    refine Method.Ends.update (Method.Ends.ofExcept (Executes.raised ofFailure_raises) fun _ _ => ?_)
    exact Executes.complete fun a t => remember_ends
  | strategist =>
    refine Method.Ends.update (Method.Ends.ofExcept (Executes.raised ofFailure_raises) fun _ _ => ?_)
    exact Executes.complete fun a t =>
      quiet_ofExcept (item_raises.bind fun _ => len_raises) fun _ => remember_ends
  | growth =>
    refine Method.Ends.update (Method.Ends.ofExcept (Executes.raised ofFailure_raises) fun _ _ => ?_)
    exact Executes.complete fun a t => remember_ends
  | writer =>
    refine Method.Ends.update (Method.Ends.ofExcept (Executes.raised artifact_raises) fun _ _ => ?_)
    refine Method.Ends.ofExcept (Executes.raised ofFailure_raises) fun _ _ => ?_
    exact Executes.complete fun a t =>
      quiet_ofExcept (item_raises.bind fun _ => len_raises) fun _ => remember_ends
  | media =>
    have hplatform {platforms : List TargetPlatform} : NoGreenlightError
        (platforms.head?.elim (.error .indexError) .ok : Except Exn TargetPlatform) := by
      intro e he
      cases platforms with
      | nil => cases he; rfl
      | cons _ _ => cases he
    refine Method.Ends.update (Method.Ends.ofExcept (Executes.raised hplatform) fun _ _ => ?_)
    refine Method.Ends.ofExcept (Executes.raised ofFailure_raises) fun _ _ => ?_
    exact Executes.complete fun a t => remember_ends
  | risk =>
    refine Method.Ends.update (Method.Ends.ofExcept (Executes.raised artifact_raises) fun _ _ => ?_)
    refine Method.Ends.ofExcept (Executes.raised artifact_raises) fun _ _ => ?_
    refine Method.Ends.ofExcept (Executes.raised ofFailure_raises) fun _ _ => ?_
    exact Executes.complete fun a t =>
      quiet_ofExcept (item_raises.bind fun _ => len_raises) fun _ =>
        quiet_ofExcept item_raises fun _ => remember_ends
  | publisher => exact ⟨fun e he => by cases he; rfl, .inr ⟨rfl, _, rfl⟩⟩

/-! ## Until the approval gate -/

/-- The trace is numbered, and every artifact has the id of its content. -/
structure Sound (A : Agency) (run : ExecutionRun) : Prop where
  numbered : Numbered run
  identified : ∀ a ∈ run.artifacts, idOf A run.runId a = .ok a.artifactId

/-- A run before the approval gate. -/
structure Building (run : ExecutionRun) (k : Nat) (working : Bool) : Prop where
  status : run.status = .queued ∨ run.status = .running
  progress : Progress run k working
  made : made run = (executable.map product).take k
  undecided : run.greenlight = none

/-- Who makes the political compliance record. -/
def recordProduct : AgentRole × Str := (.risk, Py.lit "political_compliance_record")

/-- A run at the approval gate, with the compliance records of approvals that were cut short. -/
structure Awaiting (run : ExecutionRun) (records : Nat) : Prop where
  status : run.status = .awaitingGreenlight
  ready : ∀ role, role ≠ .publisher → (run.agentStates role).status = .ready
  publisher : (run.agentStates .publisher).status ≠ .ready
  made : made run = executable.map product ++ List.replicate records recordProduct
  envelope : ∀ g, run.greenlight = some g → ∃ present later, run.artifacts = present ++ later ∧
    (∀ a ∈ later, a.kind = Py.lit "political_compliance_record") ∧
    g.approvedArtifactIds = present.map (·.artifactId)

/-- No station that was ready is anything else now. -/
def ReadyStays (run run' : ExecutionRun) : Prop :=
  ∀ role, (run.agentStates role).status = .ready → (run'.agentStates role).status = .ready

theorem Sound.of_eq {run run' : ExecutionRun} (h : Sound A run) (hnum : Numbered run')
    (hid : run'.runId = run.runId) (hartifacts : run'.artifacts = run.artifacts) :
    Sound A run' where
  numbered := hnum
  identified a ha := by
    rw [hid]
    exact h.identified a (hartifacts ▸ ha)

/-- An artifact with the id of its content was added. -/
theorem Sound.add {run run' : ExecutionRun} {a : Artifact} (h : Sound A run)
    (hnum : Numbered run') (hid : run'.runId = run.runId)
    (hartifacts : run'.artifacts = run.artifacts ++ [a]) (ha : idOf A run.runId a = .ok a.artifactId) :
    Sound A run' where
  numbered := hnum
  identified b hb := by
    rw [hid]
    rw [hartifacts, List.mem_append, List.mem_singleton] at hb
    rcases hb with hb | rfl
    · exact h.identified b hb
    · exact ha

/-- A product of the run is found by its kind. -/
theorem artifact_isOk {run : ExecutionRun} {role : AgentRole} (h : product role ∈ made run) :
    ∃ a, run.artifact (stationKind role) = .ok a := by
  obtain ⟨a, ha, heq⟩ := List.mem_map.1 h
  have hkind : a.kind = Py.lit (stationKind role) := (Prod.ext_iff.1 heq).2
  unfold ExecutionRun.artifact
  cases hfind : run.artifacts.reverse.find? (·.kind == Py.lit (stationKind role)) with
  | none =>
    have := List.find?_eq_none.1 hfind a (List.mem_reverse.2 ha)
    simp [hkind] at this
  | some b => exact ⟨b, rfl⟩

/-- At the end of the pipeline the run comes to the approval gate. -/
theorem awaitGreenlight_ends {s : Session} (h : Building s.run 7 false) (hs : Sound A s.run) :
    awaitGreenlight.Ends s fun r s' =>
      NoGreenlightError r ∧ Sound A s'.run ∧ Awaiting s'.run 0 ∧ ReadyStays s.run s'.run := by
  have hmade : made s.run = executable.map product := h.made
  have hready (role : AgentRole) (hrole : role ≠ .publisher) :
      (s.run.agentStates role).status = .ready := by
    rw [h.progress.statuses role, progressStatus, if_pos (place_lt role hrole)]
  obtain ⟨riskReport, hrisk⟩ : ∃ a, s.run.artifact "risk_report" = .ok a :=
    artifact_isOk (show product .risk ∈ made s.run from hmade ▸ by decide)
  have hstatus : s.run.status ≠ .awaitingGreenlight := by
    rcases h.status with h | h <;> rw [h] <;> decide
  unfold awaitGreenlight
  refine Method.Ends.update ?_
  rw [if_neg hstatus]
  refine Method.Ends.ofExcept (fun e he => ?_) fun a ha => ?_
  · rw [hrisk] at he
    cases he
  · refine Method.Ends.change (Method.Ends.change (Method.Ends.change ?_))
    refine event_ends fun e clock he => ?_
    have hother (role : AgentRole) (hrole : role ≠ .publisher) (status : AgentStatus)
        (detail : String) : ((s.run.updateState .publisher status 0 detail).agentStates role).status =
          .ready := by
      rw [updateState_status, if_neg hrole, hready role hrole]
    refine ⟨.ok (), hs.of_eq (hs.numbered.grows ⟨e, rfl, he⟩) rfl rfl, ?_, fun role hrole => ?_⟩
    · exact
        { status := rfl
          ready := fun role hrole => hother role hrole _ _
          publisher := by
            refine fun hp => absurd ((updateState_status _ _ _ _ _ _).symm.trans hp) ?_
            rw [if_pos rfl]
            split <;> decide
          made := by
            rw [List.replicate_zero, List.append_nil]
            exact hmade
          envelope := fun g hg => by
            have : s.run.greenlight = some g := hg
            rw [h.undecided] at this
            cases this }
    · refine hother role ?_ _ _
      rintro rfl
      rw [h.progress.statuses .publisher] at hrole
      cases hrole

/-- What `advance` does before the gate. -/
structure Advanced (A : Agency) (run : ExecutionRun) (r : Except Exn Unit) (run' : ExecutionRun) :
    Prop where
  noGreenlightError : NoGreenlightError r
  sound : Sound A run'
  ready : ReadyStays run run'
  phase : (∃ k working, Building run' k working) ∨ Awaiting run' 0

/-- A call that starts on the same stations. -/
theorem Advanced.of_states {run run₀ run' : ExecutionRun} {r : Except Exn Unit}
    (h : Advanced A run r run') (hstates : run.agentStates = run₀.agentStates) :
    Advanced A run₀ r run' :=
  ⟨h.noGreenlightError, h.sound, fun role hrole => h.ready role (by rwa [hstates]), h.phase⟩

/-- `Building` does not depend on what the execution record says. -/
theorem Building.of_eq {run run' : ExecutionRun} {k : Nat} {working : Bool}
    (h : Building run k working) (hstatus : run'.status = .running)
    (hstates : run'.agentStates = run.agentStates) (hartifacts : run'.artifacts = run.artifacts)
    (hgreenlight : run'.greenlight = run.greenlight) : Building run' k working where
  status := .inr hstatus
  progress := ⟨h.progress.bound, h.progress.gate, fun role => by
    rw [hstates]
    exact h.progress.statuses role⟩
  made := by
    rw [Orchestrator.made, hartifacts]
    exact h.made
  undecided := hgreenlight.trans h.undecided

/-- The station at work is completed. -/
theorem Building.complete {run run' : ExecutionRun} {k : Nat} {working : Bool} {role : AgentRole}
    (h : Building run k working) (hrole : executable[k]? = some role)
    (hdone : Completed A role run run') : Building run' (k + 1) false where
  status := hdone.same.status ▸ h.status
  progress := h.progress.complete hrole hdone.statuses
  made := by
    obtain ⟨a, ha, hproduct, -⟩ := hdone.artifact
    rw [take_succ_products hrole, ← h.made, Orchestrator.made, Orchestrator.made, ha,
      List.map_append, List.map_singleton, hproduct]
  undecided := hdone.same.greenlight.trans h.undecided

theorem Sound.complete {run run' : ExecutionRun} {role : AgentRole} (h : Sound A run)
    (hdone : Completed A role run run') : Sound A run' := by
  obtain ⟨a, ha, -, hid⟩ := hdone.artifact
  exact h.add (h.numbered.grows hdone.trace) hdone.same.runId ha hid

theorem Completed.readyStays {run run' : ExecutionRun} {role : AgentRole}
    (h : Completed A role run run') : ReadyStays run run' := by
  intro r hr
  rw [h.statuses r]
  split
  · rfl
  · exact hr

/-- The station at work executes. -/
theorem executing_ends {s : Session} {k : Nat} {role : AgentRole} (h : Building s.run k true)
    (hs : Sound A s.run) (hrunning : s.run.status = .running)
    (hrole : executable[k]? = some role) :
    (do
      executeRole A R role
      modifyRun (setStation (stationAfter role))
      if role = .risk then awaitGreenlight else return () : Action Unit).Ends s
        fun r s' => Advanced A s.run r s'.run := by
  refine executeRole_ends.bind (fun e t he => ?_) fun _ t hok => Method.Ends.change ?_
  · rcases he.2 with hdone | ⟨hsame, -⟩
    · exact ⟨he.1, hs.complete hdone, hdone.readyStays, .inl ⟨_, _, h.complete hrole hdone⟩⟩
    · rw [hsame]
      exact ⟨he.1, hs, fun _ h => h, .inl ⟨_, _, h⟩⟩
  · have hdone : Completed A role s.run t.run := by
      rcases hok.2 with hdone | ⟨-, e, he⟩
      · exact hdone
      · cases he
    have hbuilding : Building (setStation (stationAfter role) t.run) (k + 1) false :=
      (h.complete hrole hdone).of_eq (hdone.same.status.trans hrunning) rfl rfl rfl
    have hsound : Sound A (setStation (stationAfter role) t.run) :=
      ⟨(hs.complete hdone).numbered, (hs.complete hdone).identified⟩
    by_cases hrisk : role = .risk
    · have hk : k + 1 = 7 := by
        rw [← (getElem?_executable hrole).1, hrisk]
        rfl
      rw [if_pos hrisk]
      rw [hk] at hbuilding
      refine (awaitGreenlight_ends hbuilding hsound).mono fun r s' h' => ?_
      exact ⟨h'.1, h'.2.1, fun r hr => h'.2.2.2 r (hdone.readyStays r hr), .inr h'.2.2.1⟩
    · rw [if_neg hrisk]
      exact ⟨.ok (), hsound, hdone.readyStays, .inl ⟨_, _, hbuilding⟩⟩

/-- A station begins. -/
theorem begin_ends {s : Session} {k : Nat} {role : AgentRole} {detail : String}
    (h : Building s.run k false) (hs : Sound A s.run) (hrole : executable[k]? = some role) :
    (begin role detail).Ends s fun r s' => Advanced A s.run r s'.run := by
  refine Method.Ends.change (event_ends fun e clock he => ?_)
  have hstatuses (r : AgentRole) :
      ((s.run.updateState role .processing 10 detail).agentStates r).status =
        if r = role then .processing else (s.run.agentStates r).status := updateState_status ..
  refine ⟨.ok (), hs.of_eq (hs.numbered.grows ⟨e, rfl, he⟩) rfl rfl, fun r hr => ?_, .inl ⟨k, true, ?_⟩⟩
  · refine (hstatuses r).trans ?_
    rw [if_neg, hr]
    rintro rfl
    rw [h.progress.statuses r, progressStatus, (getElem?_executable hrole).1] at hr
    simp at hr
  · exact
      { status := h.status
        progress := h.progress.begin hrole hstatuses
        made := h.made
        undecided := h.undecided }

/-- Taking up a run changes its status only. -/
theorem takeUp_eq {run : ExecutionRun} (h : run.status = .queued ∨ run.status = .running) :
    (takeUp run).status = .running ∧ (takeUp run).agentStates = run.agentStates ∧
      (takeUp run).artifacts = run.artifacts ∧ (takeUp run).greenlight = run.greenlight ∧
      (takeUp run).runId = run.runId ∧ (takeUp run).trace = run.trace := by
  unfold takeUp
  split
  · exact ⟨rfl, rfl, rfl, rfl, rfl, rfl⟩
  · next hq => exact ⟨h.resolve_left hq, rfl, rfl, rfl, rfl, rfl⟩

/-- What `advance` does with a run before the gate. -/
theorem advance_ends {s : Session} {k : Nat} {working : Bool} (h : Building s.run k working)
    (hs : Sound A s.run) :
    (advance A R).Ends s fun r s' => Advanced A s.run r s'.run := by
  unfold advance
  refine Method.Ends.change (Method.Ends.update ?_)
  obtain ⟨hrunning, hstates, hartifacts, hgreenlight, hid, htrace⟩ := takeUp_eq h.status
  dsimp only
  generalize takeUp s.run = run at *
  have hb : Building run k working := h.of_eq hrunning hstates hartifacts hgreenlight
  have hsound : Sound A run :=
    ⟨by rw [Numbered, htrace]; exact hs.numbered, by rw [hid, hartifacts]; exact hs.identified⟩
  refine Method.Ends.mono (Q := fun r s' => Advanced A run r s'.run) ?_ fun r s' h' =>
    h'.of_states hstates
  rw [if_neg (not_not.2 hrunning), hb.progress.find?]
  cases hrole : executable[k]? with
  | none =>
    have hk : k = 7 := by
      have h7 : executable.length ≤ k := List.getElem?_eq_none_iff.1 hrole
      have hbound := h.progress.bound
      rw [executable_eq] at h7
      simp only [List.length_cons, List.length_nil] at h7
      omega
    subst hk
    cases h.progress.gate rfl
    exact (awaitGreenlight_ends hb hsound).mono fun r s' h' =>
      ⟨h'.1, h'.2.1, h'.2.2.2, .inr h'.2.2.1⟩
  | some role =>
    have hplace := (getElem?_executable hrole).1
    have hb' : Building (setStation role run) k working := hb.of_eq hrunning rfl rfl rfl
    have hsound' : Sound A (setStation role run) := ⟨hsound.numbered, hsound.identified⟩
    have hst : (run.agentStates role).status = if working then .processing else .standby := by
      rw [hb.progress.statuses role, progressStatus, hplace, if_neg (Nat.lt_irrefl k)]
      simp only [true_and]
    refine Method.Ends.change (Method.Ends.mono
      (Q := fun r s' => Advanced A (setStation role run) r s'.run) ?_ fun r s' h' =>
      h'.of_states (show (setStation role run).agentStates = run.agentStates from rfl))
    dsimp only
    rw [hst]
    cases working with
    | true => exact executing_ends (s := { s with run := setStation role run }) hb' hsound' hrunning hrole
    | false =>
      refine Method.Ends.ofExcept (fun e he => ?_) fun detail _ =>
        begin_ends (s := { s with run := setStation role run }) hb' hsound' hrole
      have hdetail : NoGreenlightError (startDetail role) := by
        intro e he
        cases role <;> cases he
        rfl
      exact ⟨fun _ h' => by cases h'; exact hdetail e he, hsound', fun _ h => h, .inl ⟨_, _, hb'⟩⟩

end Orchestrator

end AgencyRuntime
