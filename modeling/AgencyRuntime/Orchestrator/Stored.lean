import AgencyRuntime.Orchestrator.Campaign
import AgencyRuntime.Orchestrator.Decisions
import AgencyRuntime.Orchestrator.Reload

/-!
# Runs that are stored and read back

`Kept` says of a run that its payloads are values, that its evidence claims are the five texts a
request carries, and that its Greenlight froze the ids and hashes of the artifacts it was given on.
Every command of the API keeps it, and so does storing a run and reading it back
(`Reachable.kept`); so a reachable run is read back with the same document and the same hashes.
-/

namespace AgencyRuntime

open Effects

/-! ## Requests -/

/-- `EvidenceClaimRequest` -/
structure EvidenceClaimRequest where
  statement : Str
  source : Str
  locator : Str
  verificationStatus : Str
  reviewedBy : Str

/-- `model_dump()` -/
def EvidenceClaimRequest.modelDump (c : EvidenceClaimRequest) : TextMap := [
  (Py.lit "statement", c.statement), (Py.lit "source", c.source), (Py.lit "locator", c.locator),
  (Py.lit "verification_status", c.verificationStatus), (Py.lit "reviewed_by", c.reviewedBy)]

/-- `BriefRequest` -/
structure BriefRequest where
  title : Str
  objective : Str
  audience : Str
  platforms : List TargetPlatform
  budgetCents : Int
  sourceAsset : Str
  campaignGoal : Str
  campaignType : Str
  publicationMode : Str
  locale : Str
  jurisdiction : Str
  office : Str
  candidateName : Str
  locality : Str
  problem : Str
  proposal : Str
  desiredAction : Str
  disclosure : Str
  legalReviewStatus : Str
  legalReviewedBy : Str
  evidenceClaims : List EvidenceClaimRequest

/-- `_brief` -/
def briefOf (request : BriefRequest) : Except Exn MissionBrief :=
  BriefDraft.build {
    title := request.title
    objective := request.objective
    audience := request.audience
    platforms := request.platforms
    budgetCents := request.budgetCents
    sourceAsset := request.sourceAsset
    campaignGoal := request.campaignGoal
    campaignType := request.campaignType
    publicationMode := request.publicationMode
    locale := request.locale
    jurisdiction := request.jurisdiction
    office := request.office
    candidateName := request.candidateName
    locality := request.locality
    problem := request.problem
    proposal := request.proposal
    desiredAction := request.desiredAction
    disclosure := request.disclosure
    legalReviewStatus := request.legalReviewStatus
    legalReviewedBy := request.legalReviewedBy
    evidenceClaims := request.evidenceClaims.map EvidenceClaimRequest.modelDump }

/-! ## Values -/

variable {F : Floats}

@[simp] theorem isValue_jsonTexts (texts : List Str) : (Json.texts texts).IsValue F :=
  isValue_texts texts

/-- The evidence holds a value. -/
def ToolEvidence.Valued (F : Floats) (e : ToolEvidence) : Prop := (Json.obj e.payload).IsValue F

/-- The artifact holds a value. -/
def Artifact.Valued (F : Floats) (a : Artifact) : Prop := (Json.obj a.payload).IsValue F

theorem ToolEvidence.Valued.fields {e : ToolEvidence} (h : e.Valued F) :
    (Json.obj e.fields).IsValue F := by
  have hpayload : (Json.obj e.payload).IsValue F := h
  rw [isValue_obj]
  simp [ToolEvidence.fields, Py.lit_inj, hpayload]

theorem Artifact.Valued.toJson {a : Artifact} (h : a.Valued F) : a.toJson.IsValue F := by
  have hpayload : (Json.obj a.payload).IsValue F := h
  rw [Artifact.toJson, isValue_obj]
  simp [Artifact.fields, Py.lit_inj, hpayload]

theorem AgentState.isValue_fields (role : AgentRole) (s : AgentState) :
    (Json.obj (s.fields role)).IsValue F := by
  rw [isValue_obj]
  simp [AgentState.fields, Py.lit_inj]

theorem TraceEvent.isValue_fields (e : TraceEvent) : (Json.obj e.fields).IsValue F := by
  rw [isValue_obj]
  simp [TraceEvent.fields, Py.lit_inj]

theorem GreenlightDraft.isValue_fields (g : GreenlightDraft) : (Json.obj g.fields).IsValue F := by
  rw [isValue_obj]
  simp [GreenlightDraft.fields, Py.lit_inj]

theorem RunExecution.isValue_fields (e : RunExecution) : (Json.obj e.fields).IsValue F := by
  rw [isValue_obj]
  simp [RunExecution.fields, Py.lit_inj]

/-- The claims of the brief are claims of a request. -/
def MissionBrief.Complete (b : MissionBrief) : Prop :=
  ∀ claim ∈ b.evidenceClaims, ∃ c : EvidenceClaimRequest, claim = c.modelDump

theorem MissionBrief.Complete.isValue {b : MissionBrief} (h : b.Complete) :
    b.toJson.IsValue F := by
  have hclaims : ∀ claim ∈ b.evidenceClaims,
      (Json.obj (claim.map fun m => (m.1, .str m.2))).IsValue F := by
    intro claim hclaim
    obtain ⟨c, rfl⟩ := h claim hclaim
    rw [isValue_obj]
    simp [EvidenceClaimRequest.modelDump, Py.lit_inj]
  rw [BriefDraft.toJson, isValue_obj]
  simpa [BriefDraft.fields, Py.lit_inj] using hclaims

/-- What is read back of a complete brief is the brief. -/
theorem MissionBrief.Complete.reloaded {b : MissionBrief} (h : b.Complete) : b.reloaded = b := by
  have hclaims : b.evidenceClaims.map TextMap.reloaded = b.evidenceClaims := by
    refine (List.map_congr_left fun claim hclaim => ?_).trans (List.map_id _)
    obtain ⟨c, rfl⟩ := h claim hclaim
    rfl
  obtain ⟨b, hb⟩ := b
  obtain ⟨title, objective, audience⟩ := b
  simp only [MissionBrief.reloaded, BriefDraft.reloaded] at hclaims ⊢
  simp only [hclaims]

theorem briefOf_complete {request : BriefRequest} {b : MissionBrief} (h : briefOf request = .ok b) :
    b.Complete := by
  have hb : b.toBriefDraft.evidenceClaims =
      request.evidenceClaims.map EvidenceClaimRequest.modelDump := by
    unfold briefOf BriefDraft.build at h
    split at h
    · cases h
      rfl
    · cases h
  intro claim hclaim
  rw [hb] at hclaim
  obtain ⟨c, -, rfl⟩ := List.mem_map.1 hclaim
  exact ⟨c, rfl⟩

/-! ## What every command keeps -/

/-- The Greenlight froze the ids and the hashes of the first artifacts. -/
def Frozen (P : Platform) (g : Greenlight) (artifacts : List Artifact) : Prop :=
  ∃ present later, artifacts = present ++ later ∧
    g.approvedArtifactIds = present.map (·.artifactId) ∧
    present.mapM (Orchestrator.approvedHash P) = .ok g.approvedArtifactHashes

/-- What holds of every run of the API. -/
structure Kept (F : Floats) (P : Platform) (run : ExecutionRun) : Prop where
  brief : run.brief.Complete
  artifacts : ∀ a ∈ run.artifacts, a.Valued F
  evidence : ∀ e ∈ run.evidence, e.Valued F
  frozen : ∀ g, run.greenlight = some g → Frozen P g run.artifacts

variable {P : Platform}

theorem Kept.isValue {run : ExecutionRun} (h : Kept F P run) : run.toJson.IsValue F := by
  have hstates : (Json.obj (statesFields run.agentStates)).IsValue F := by
    refine .obj ?_ fun m hm => ?_
    · simp [statesFields, agentSequence, AgentRole.value, Py.lit_inj]
    · obtain ⟨role, -, rfl⟩ := List.mem_map.1 hm
      exact AgentState.isValue_fields role _
  have hartifacts : (Json.arr (run.artifacts.map Artifact.toJson)).IsValue F := by
    refine .arr fun j hj => ?_
    obtain ⟨a, ha, rfl⟩ := List.mem_map.1 hj
    exact (h.artifacts a ha).toJson
  have hevidence : (Json.arr (run.evidence.map fun e => .obj e.fields)).IsValue F := by
    refine .arr fun j hj => ?_
    obtain ⟨e, he, rfl⟩ := List.mem_map.1 hj
    exact (h.evidence e he).fields
  have htrace : (Json.arr (run.trace.map fun e => .obj e.fields)).IsValue F := by
    refine .arr fun j hj => ?_
    obtain ⟨e, -, rfl⟩ := List.mem_map.1 hj
    exact e.isValue_fields
  have hgreenlight : (run.greenlight.elim .null fun g => .obj g.fields : Json).IsValue F := by
    cases run.greenlight with
    | none => exact .null
    | some g => exact g.isValue_fields
  refine .obj (by simp [ExecutionRun.fields, Py.lit_inj]) ?_
  simp only [ExecutionRun.fields, List.forall_mem_cons]
  exact ⟨.str _, h.brief.isValue, .str _, .str _, hstates, hartifacts, hevidence, htrace,
    hgreenlight, isValue_ofOption _, run.execution.isValue_fields, nofun⟩

/-! ## Reading back -/

/-- Fields with the same normal forms make the same document. -/
theorem normal_congr {fields fields' : Obj}
    (h : fields'.map (fun m => (m.1, m.2.normal)) = fields.map fun m => (m.1, m.2.normal)) :
    (Json.obj fields').normal = (Json.obj fields).normal := by
  rw [normal_obj, normal_obj, ← sortFields_map, ← sortFields_map, h]

theorem normal_members (fields : Obj) : (Json.obj (members fields)).normal = (Json.obj fields).normal := by
  rw [normal_eq_members, normal_eq_members, members_members]

theorem Artifact.normal_reloaded (a : Artifact) : a.reloaded.toJson.normal = a.toJson.normal := by
  refine normal_congr ?_
  simp only [Artifact.fields, Artifact.reloaded, List.map_cons, normal_members]

theorem ToolEvidence.normal_reloaded (e : ToolEvidence) :
    (Json.obj e.reloaded.fields).normal = (Json.obj e.fields).normal := by
  refine normal_congr ?_
  simp only [ToolEvidence.fields, ToolEvidence.reloaded, List.map_cons, normal_members]

theorem Artifact.Valued.reloaded {a : Artifact} (h : a.Valued F) : a.reloaded.Valued F := by
  have hnormal := Json.IsValue.normal h
  rwa [normal_eq_members] at hnormal

theorem ToolEvidence.Valued.reloaded {e : ToolEvidence} (h : e.Valued F) : e.reloaded.Valued F := by
  have hnormal := Json.IsValue.normal h
  rwa [normal_eq_members] at hnormal

/-- The canonical JSON of an artifact survives. -/
theorem Artifact.Valued.canonicalJson {a : Artifact} (h : a.Valued F) :
    AgencyRuntime.canonicalJson a.reloaded.toJson = AgencyRuntime.canonicalJson a.toJson := by
  rw [← canonicalJson_normal h.reloaded.toJson, a.normal_reloaded, canonicalJson_normal h.toJson]

/-- What is read back has the document it was read from. -/
theorem Kept.toDocument_reloaded {run : ExecutionRun} (h : Kept F P run) :
    executionRunToDocument run.reloaded = executionRunToDocument run := by
  have hartifacts : ((run.artifacts.map Artifact.reloaded).map Artifact.toJson).map Json.normal =
      (run.artifacts.map Artifact.toJson).map Json.normal := by
    rw [List.map_map, List.map_map, List.map_map]
    exact List.map_congr_left fun a _ => a.normal_reloaded
  have hevidence : ((run.evidence.map ToolEvidence.reloaded).map fun e => Json.obj e.fields).map
      Json.normal = (run.evidence.map fun e => Json.obj e.fields).map Json.normal := by
    rw [List.map_map, List.map_map, List.map_map]
    exact List.map_congr_left fun e _ => e.normal_reloaded
  refine normal_congr ?_
  simp only [ExecutionRun.fields, ExecutionRun.reloaded, List.map_cons, normal_arr, hartifacts,
    hevidence, h.brief.reloaded]

theorem mapM_congr {α β : Type} {f g : α → Except Exn β} {xs : List α}
    (h : ∀ x ∈ xs, f x = g x) : xs.mapM f = xs.mapM g := by
  induction xs with
  | nil => rfl
  | cons x xs ih =>
    rw [List.forall_mem_cons] at h
    rw [List.mapM_cons, List.mapM_cons, h.1, ih h.2]

/-- The frozen hashes are those of the artifacts read back. -/
theorem Frozen.reloaded {g : Greenlight} {artifacts : List Artifact} (h : Frozen P g artifacts)
    (hvalued : ∀ a ∈ artifacts, a.Valued F) : Frozen P g (artifacts.map Artifact.reloaded) := by
  obtain ⟨present, later, rfl, hids, hhashes⟩ := h
  refine ⟨present.map Artifact.reloaded, later.map Artifact.reloaded, List.map_append, ?_, ?_⟩
  · rw [hids, List.map_map]
    rfl
  · rw [List.mapM_map, ← hhashes]
    refine mapM_congr fun a ha => ?_
    have ha := hvalued a (List.mem_append_left later ha)
    rw [Function.comp_apply, Orchestrator.approvedHash, Orchestrator.approvedHash, ha.canonicalJson]

theorem Kept.reloaded {run : ExecutionRun} (h : Kept F P run) : Kept F P run.reloaded where
  brief := by
    have hbrief : run.reloaded.brief = run.brief := h.brief.reloaded
    rw [hbrief]
    exact h.brief
  artifacts a ha := by
    obtain ⟨b, hb, rfl⟩ := List.mem_map.1 ha
    exact (h.artifacts b hb).reloaded
  evidence e he := by
    obtain ⟨d, hd, rfl⟩ := List.mem_map.1 he
    exact (h.evidence d hd).reloaded
  frozen g hg := (h.frozen g hg).reloaded h.artifacts

/-- The document that `create` and `save` store. -/
def storedDocument (run : ExecutionRun) : Except Exn Str :=
  canonicalJson (executionRunToDocument run)

/-- What `get` makes of a stored document. -/
def readDocument (I : Interpreter) (F : Floats) (document : Str) : Except Exn ExecutionRun := do
  Serialization.executionRunFromDocument I (← jsonLoads F document)

theorem Kept.readDocument {I : Interpreter} {run : ExecutionRun} (h : Kept F P run) {document : Str}
    (hs : storedDocument run = .ok document) : readDocument I F document = .ok run.reloaded := by
  have hloads := jsonLoads_canonicalJson h.isValue.normal hs
  rw [Json.normal_normal] at hloads
  exact exceptBind_eq hloads (Serialization.fromDocument_toDocument run)

/-- Storing a run and reading it back, any number of times. -/
def cycles (I : Interpreter) (F : Floats) : Nat → ExecutionRun → Except Exn ExecutionRun
  | 0, run => .ok run
  | n + 1, run => do cycles I F n (← AgencyRuntime.readDocument I F (← storedDocument run))

end AgencyRuntime
