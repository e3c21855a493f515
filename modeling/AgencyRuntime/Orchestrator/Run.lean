import AgencyRuntime.Python.Json
import Mathlib.Logic.Function.Basic

/-!
# Runs

The data of an agency run (models.py). A brief and a Greenlight carry the checks of their
`__post_init__` as a field.
-/

namespace AgencyRuntime

/-- `Platform` (models.py) -/
inductive TargetPlatform
  | x
  | facebook
  | tiktok
  | instagram
deriving DecidableEq

def TargetPlatform.value : TargetPlatform → Str
  | .x => Py.lit "x"
  | .facebook => Py.lit "facebook"
  | .tiktok => Py.lit "tiktok"
  | .instagram => Py.lit "instagram"

/-- `AgentRole` -/
inductive AgentRole
  | ceo
  | research
  | strategist
  | growth
  | writer
  | media
  | risk
  | publisher
deriving DecidableEq

def AgentRole.value : AgentRole → Str
  | .ceo => Py.lit "ceo"
  | .research => Py.lit "research"
  | .strategist => Py.lit "strategist"
  | .growth => Py.lit "growth"
  | .writer => Py.lit "writer"
  | .media => Py.lit "media"
  | .risk => Py.lit "risk"
  | .publisher => Py.lit "publisher"

/-- `AGENT_SEQUENCE` -/
def agentSequence : List AgentRole :=
  [.ceo, .research, .strategist, .growth, .writer, .media, .risk, .publisher]

/-- `AgentStatus` -/
inductive AgentStatus
  | standby
  | processing
  | ready
  | waitingGreenlight
  | blocked
  | attention
deriving DecidableEq

def AgentStatus.value : AgentStatus → Str
  | .standby => Py.lit "standby"
  | .processing => Py.lit "processing"
  | .ready => Py.lit "ready"
  | .waitingGreenlight => Py.lit "waiting_greenlight"
  | .blocked => Py.lit "blocked"
  | .attention => Py.lit "attention"

/-- `RunStatus` -/
inductive RunStatus
  | queued
  | running
  | awaitingGreenlight
  | completed
  | rejected
  | revoked
  | failed
deriving DecidableEq

def RunStatus.value : RunStatus → Str
  | .queued => Py.lit "queued"
  | .running => Py.lit "running"
  | .awaitingGreenlight => Py.lit "awaiting_greenlight"
  | .completed => Py.lit "completed"
  | .rejected => Py.lit "rejected"
  | .revoked => Py.lit "revoked"
  | .failed => Py.lit "failed"

/-- `GreenlightDecision` -/
inductive GreenlightDecision
  | approved
  | rejected
deriving DecidableEq

def GreenlightDecision.value : GreenlightDecision → Str
  | .approved => Py.lit "approved"
  | .rejected => Py.lit "rejected"

/-- A `Mapping[str, str]`. -/
abbrev TextMap := List (Str × Str)

/-- `mapping.get(name, default)` -/
def TextMap.getD (m : TextMap) (name : String) (default : String) : Str :=
  (m.lookup (Py.lit name)).getD (Py.lit default)

/-- The arguments a `MissionBrief` is built from. -/
structure BriefDraft where
  title : Str
  objective : Str
  audience : Str
  platforms : List TargetPlatform
  budgetCents : Int := 0
  sourceAsset : Str := Py.lit "sandbox://brief/no-external-asset"
  campaignGoal : Str := Py.lit "awareness"
  campaignType : Str := Py.lit "commercial"
  publicationMode : Str := Py.lit "organic"
  locale : Str := Py.lit "es-GT"
  jurisdiction : Str := []
  office : Str := []
  candidateName : Str := []
  locality : Str := []
  problem : Str := []
  proposal : Str := []
  desiredAction : Str := []
  disclosure : Str := []
  legalReviewStatus : Str := Py.lit "pending"
  legalReviewedBy : Str := []
  evidenceClaims : List TextMap := []

/-- `campaign_type == "political"` -/
def BriefDraft.political (b : BriefDraft) : Bool := b.campaignType == Py.lit "political"

/-- The checks of one evidence claim. -/
def checkEvidenceClaim (claim : TextMap) : Except Exn Unit := do
  for fieldName in ["statement", "source", "locator"] do
    check (Py.strip (claim.getD fieldName "") ≠ [])
      (.valueError ("evidence claim " ++ fieldName ++ " must not be empty"))
  let verificationStatus := claim.getD "verification_status" "unverified"
  check (verificationStatus ∈ [Py.lit "unverified", Py.lit "verified"])
    (.valueError "evidence claim verification_status is invalid")
  check (¬ (verificationStatus = Py.lit "verified" ∧ Py.strip (claim.getD "reviewed_by" "") = []))
    (.valueError "verified evidence claims require reviewed_by")

/-- The checks of a political brief. -/
def BriefDraft.checkPolitical (b : BriefDraft) : Except Exn Unit := do
  for (fieldName, value) in
      [("jurisdiction", b.jurisdiction), ("office", b.office), ("candidate_name", b.candidateName),
        ("locality", b.locality), ("problem", b.problem), ("proposal", b.proposal),
        ("desired_action", b.desiredAction), ("disclosure", b.disclosure)] do
    requireNonEmpty value fieldName
  check (b.evidenceClaims ≠ [])
    (.valueError "political briefs require at least one evidence claim")

/-- `MissionBrief.__post_init__` -/
def BriefDraft.postInit (b : BriefDraft) : Except Exn Unit := do
  requireNonEmpty b.title "title"
  requireNonEmpty b.objective "objective"
  requireNonEmpty b.audience "audience"
  check (b.platforms ≠ []) (.valueError "platforms must contain at least one platform")
  check (0 ≤ b.budgetCents) (.valueError "budget_cents must not be negative")
  check (b.campaignType ∈ [Py.lit "commercial", Py.lit "political"])
    (.valueError "campaign_type must be commercial or political")
  check (b.publicationMode ∈ [Py.lit "organic", Py.lit "paid"])
    (.valueError "publication_mode must be organic or paid")
  requireNonEmpty b.locale "locale"
  check (b.legalReviewStatus ∈ [Py.lit "pending", Py.lit "approved"])
    (.valueError "legal_review_status must be pending or approved")
  check (¬ (b.legalReviewStatus = Py.lit "approved" ∧ Py.strip b.legalReviewedBy = []))
    (.valueError "approved legal review requires legal_reviewed_by")
  for claim in b.evidenceClaims do
    checkEvidenceClaim claim
  if b.political then b.checkPolitical else return ()

/-- `MissionBrief` -/
structure MissionBrief extends BriefDraft where
  checked : toBriefDraft.postInit = .ok ()

/-- Texts as a JSON array. -/
def Json.texts (items : List Str) : Json := .arr (items.map .str)

/-- The fields of a `MissionBrief`. -/
def BriefDraft.fields (b : BriefDraft) : Obj := [
  (Py.lit "title", .str b.title), (Py.lit "objective", .str b.objective),
  (Py.lit "audience", .str b.audience),
  (Py.lit "platforms", .texts (b.platforms.map (·.value))),
  (Py.lit "budget_cents", .int b.budgetCents), (Py.lit "source_asset", .str b.sourceAsset),
  (Py.lit "campaign_goal", .str b.campaignGoal), (Py.lit "campaign_type", .str b.campaignType),
  (Py.lit "publication_mode", .str b.publicationMode), (Py.lit "locale", .str b.locale),
  (Py.lit "jurisdiction", .str b.jurisdiction), (Py.lit "office", .str b.office),
  (Py.lit "candidate_name", .str b.candidateName), (Py.lit "locality", .str b.locality),
  (Py.lit "problem", .str b.problem), (Py.lit "proposal", .str b.proposal),
  (Py.lit "desired_action", .str b.desiredAction), (Py.lit "disclosure", .str b.disclosure),
  (Py.lit "legal_review_status", .str b.legalReviewStatus),
  (Py.lit "legal_reviewed_by", .str b.legalReviewedBy),
  (Py.lit "evidence_claims",
    .arr (b.evidenceClaims.map fun claim => .obj (claim.map fun m => (m.1, .str m.2))))]

/-- `to_primitive(brief)` -/
def BriefDraft.toJson (b : BriefDraft) : Json := .obj b.fields

/-- `ToolEvidence` -/
structure ToolEvidence where
  evidenceId : Str
  tool : Str
  operation : Str
  sandbox : Bool
  summary : Str
  payload : Obj
  references : List Str

/-- `Artifact` -/
structure Artifact where
  artifactId : Str
  kind : Str
  title : Str
  createdBy : AgentRole
  payload : Obj
  evidenceIds : List Str := []

/-- The fields of an `Artifact`. -/
def Artifact.fields (a : Artifact) : Obj := [
  (Py.lit "artifact_id", .str a.artifactId), (Py.lit "kind", .str a.kind),
  (Py.lit "title", .str a.title), (Py.lit "created_by", .str a.createdBy.value),
  (Py.lit "payload", .obj a.payload), (Py.lit "evidence_ids", .texts a.evidenceIds)]

/-- `to_primitive(artifact)` -/
def Artifact.toJson (a : Artifact) : Json := .obj a.fields

instance percent_neZero : NeZero 101 := ⟨by decide⟩

/-- `AgentState`; the role is the key it is stored under, and the progress is in percent. -/
structure AgentState where
  status : AgentStatus := .standby
  progress : Fin 101 := 0
  detail : Str := Py.lit "Awaiting mission"
  artifactIds : List Str := []

/-- `AgentState.update` -/
def AgentState.update (s : AgentState) (status : AgentStatus) (progress : Fin 101)
    (detail : String) : AgentState :=
  { s with status := status, progress := progress, detail := Py.lit detail }

/-- `TraceEvent` -/
structure TraceEvent where
  sequence : Nat
  timestamp : Str
  role : AgentRole
  action : Str
  status : Str
  detail : Str
  artifactIds : List Str := []
  evidenceIds : List Str := []

/-- The arguments a `Greenlight` is built from. -/
structure GreenlightDraft where
  greenlightId : Str
  runId : Str
  decision : GreenlightDecision
  reviewer : Str
  note : Str
  decidedAt : Str
  approvedArtifactIds : List Str := []
  approvedArtifactHashes : List Str := []
  authorizedChannels : List TargetPlatform := []
  authorizedBudgetCents : Int := 0
  fencingToken : Int := 1
  revokedAt : Option Str := none
  revokedBy : Str := []
  revocationReason : Str := []

/-- `Greenlight.__post_init__` -/
def GreenlightDraft.postInit (g : GreenlightDraft) : Except Exn Unit := do
  requireNonEmpty g.reviewer "reviewer"
  requireNonEmpty g.decidedAt "decided_at"
  check (g.approvedArtifactIds.length = g.approvedArtifactHashes.length)
    (.valueError "approved artifact ids and hashes must have equal length")
  check (0 ≤ g.authorizedBudgetCents) (.valueError "authorized_budget_cents must not be negative")
  check (1 ≤ g.fencingToken) (.valueError "fencing_token must be positive")
  match g.revokedAt with
  | none =>
    check (g.revokedBy = [] ∧ g.revocationReason = [])
      (.valueError "active Greenlight cannot contain revocation metadata")
  | some _ => do
    requireNonEmpty g.revokedBy "revoked_by"
    requireNonEmpty g.revocationReason "revocation_reason"

/-- `Greenlight` -/
structure Greenlight extends GreenlightDraft where
  checked : toGreenlightDraft.postInit = .ok ()

/-- Build a `Greenlight`. -/
def GreenlightDraft.build (g : GreenlightDraft) : Except Exn Greenlight :=
  match h : g.postInit with
  | .ok () => .ok ⟨g, h⟩
  | .error e => .error e

theorem GreenlightDraft.build_ok {g : GreenlightDraft} {greenlight : Greenlight}
    (h : g.build = .ok greenlight) : greenlight.toGreenlightDraft = g := by
  unfold GreenlightDraft.build at h
  split at h
  · cases h; rfl
  · cases h

/-- A refused Greenlight raises no `GreenlightError`. -/
theorem GreenlightDraft.build_error {g : GreenlightDraft} :
    RaisesOnly (·.isGreenlight = false) g.build := by
  have hinit : RaisesOnly (·.isGreenlight = false) g.postInit := by
    refine .bind (.check rfl) fun _ => .bind (.check rfl) fun _ => .bind (.check rfl) fun _ =>
      .bind (.check rfl) fun _ => .bind (.check rfl) fun _ => ?_
    cases g.revokedAt with
    | none => exact .check rfl
    | some _ => exact .bind (.check rfl) fun _ => .check rfl
  intro e he
  unfold GreenlightDraft.build at he
  split at he
  · cases he
  · next herr => cases he; exact hinit _ herr

/-- `Greenlight.active` -/
def Greenlight.active (g : Greenlight) : Bool :=
  g.decision = .approved && g.revokedAt.isNone

/-- The states of a `RunExecution`. -/
inductive ExecutionState
  | «inline»
  | queued
  | leased
  | running
  | awaitingGreenlight
  | completed
  | failed
deriving DecidableEq

/-- `RunExecution` -/
structure RunExecution where
  state : ExecutionState
  nextStation : Str
  leaseOwner : Str := []
  leaseExpiresAt : Option Str := none
  fencingToken : Nat := 0
  attempts : Nat := 0
  checkpointedAt : Option Str := none
  failureDetail : Str := []
  leased : leaseOwner ≠ [] → leaseExpiresAt.isSome

/-- A run without an owner needs no expiry. -/
theorem RunExecution.unleased : ([] : Str) ≠ [] → (none : Option Str).isSome :=
  fun h => absurd rfl h

/-- `ExecutionRun` -/
structure ExecutionRun where
  runId : Str
  brief : MissionBrief
  status : RunStatus
  startedAt : Str
  agentStates : AgentRole → AgentState
  artifacts : List Artifact := []
  evidence : List ToolEvidence := []
  trace : List TraceEvent := []
  greenlight : Option Greenlight := none
  completedAt : Option Str := none
  execution : RunExecution

namespace ExecutionRun

/-- `state_for(role).update(…)` -/
def updateState (run : ExecutionRun) (role : AgentRole) (status : AgentStatus) (progress : Fin 101)
    (detail : String) : ExecutionRun :=
  { run with
    agentStates := Function.update run.agentStates role
      ((run.agentStates role).update status progress detail) }

/-- `add_artifact` -/
def addArtifact (run : ExecutionRun) (artifact : Artifact) : ExecutionRun :=
  let state := run.agentStates artifact.createdBy
  { run with
    artifacts := run.artifacts ++ [artifact]
    agentStates := Function.update run.agentStates artifact.createdBy
      { state with artifactIds := state.artifactIds ++ [artifact.artifactId] } }

/-- `artifact(kind)`: the last one of the kind. -/
def artifact (run : ExecutionRun) (kind : String) : Except Exn Artifact :=
  (run.artifacts.reverse.find? (·.kind == Py.lit kind)).elim
    (.error (.keyError ("artifact kind not found: " ++ kind))) .ok

end ExecutionRun

end AgencyRuntime
