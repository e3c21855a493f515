import AgencyRuntime.Orchestrator.Run
import AgencyRuntime.Python.Records

/-!
# The document of a run

`execution_run_to_document` and `execution_run_from_document` (serialization.py). The first is
`to_primitive`, so every object of a document has its members in the order of their names; the
second rebuilds the records and runs their checks. A document the runtime did not write may fail
here earlier than in the source: a role without a state, a text that is no text or a number out of
its range is refused at once.
-/

namespace AgencyRuntime

/-! ## Encoding -/

def ExecutionState.value : ExecutionState → Str
  | .inline => Py.lit "inline"
  | .queued => Py.lit "queued"
  | .leased => Py.lit "leased"
  | .running => Py.lit "running"
  | .awaitingGreenlight => Py.lit "awaiting_greenlight"
  | .completed => Py.lit "completed"
  | .failed => Py.lit "failed"

/-- The fields of a `ToolEvidence`. -/
def ToolEvidence.fields (e : ToolEvidence) : Obj := [
  (Py.lit "evidence_id", .str e.evidenceId), (Py.lit "tool", .str e.tool),
  (Py.lit "operation", .str e.operation), (Py.lit "sandbox", .bool e.sandbox),
  (Py.lit "summary", .str e.summary), (Py.lit "payload", .obj e.payload),
  (Py.lit "references", .texts e.references)]

/-- The fields of an `AgentState`. -/
def AgentState.fields (role : AgentRole) (s : AgentState) : Obj := [
  (Py.lit "role", .str role.value), (Py.lit "status", .str s.status.value),
  (Py.lit "progress", .int s.progress.val), (Py.lit "detail", .str s.detail),
  (Py.lit "artifact_ids", .texts s.artifactIds)]

/-- The fields of a `TraceEvent`. -/
def TraceEvent.fields (e : TraceEvent) : Obj := [
  (Py.lit "sequence", .int e.sequence), (Py.lit "timestamp", .str e.timestamp),
  (Py.lit "role", .str e.role.value), (Py.lit "action", .str e.action),
  (Py.lit "status", .str e.status), (Py.lit "detail", .str e.detail),
  (Py.lit "artifact_ids", .texts e.artifactIds), (Py.lit "evidence_ids", .texts e.evidenceIds)]

/-- The fields of a `Greenlight`. -/
def GreenlightDraft.fields (g : GreenlightDraft) : Obj := [
  (Py.lit "greenlight_id", .str g.greenlightId), (Py.lit "run_id", .str g.runId),
  (Py.lit "decision", .str g.decision.value), (Py.lit "reviewer", .str g.reviewer),
  (Py.lit "note", .str g.note), (Py.lit "decided_at", .str g.decidedAt),
  (Py.lit "approved_artifact_ids", .texts g.approvedArtifactIds),
  (Py.lit "approved_artifact_hashes", .texts g.approvedArtifactHashes),
  (Py.lit "authorized_channels", .texts (g.authorizedChannels.map (·.value))),
  (Py.lit "authorized_budget_cents", .int g.authorizedBudgetCents),
  (Py.lit "fencing_token", .int g.fencingToken), (Py.lit "revoked_at", .ofOption g.revokedAt),
  (Py.lit "revoked_by", .str g.revokedBy), (Py.lit "revocation_reason", .str g.revocationReason)]

/-- The fields of a `RunExecution`. -/
def RunExecution.fields (e : RunExecution) : Obj := [
  (Py.lit "state", .str e.state.value), (Py.lit "next_station", .str e.nextStation),
  (Py.lit "lease_owner", .str e.leaseOwner),
  (Py.lit "lease_expires_at", .ofOption e.leaseExpiresAt),
  (Py.lit "fencing_token", .int e.fencingToken), (Py.lit "attempts", .int e.attempts),
  (Py.lit "checkpointed_at", .ofOption e.checkpointedAt),
  (Py.lit "failure_detail", .str e.failureDetail)]

/-- The `agent_states`, in the order in which `create` makes them. -/
def statesFields (states : AgentRole → AgentState) : Obj :=
  agentSequence.map fun role => (role.value, .obj ((states role).fields role))

/-- The fields of an `ExecutionRun`. -/
def ExecutionRun.fields (run : ExecutionRun) : Obj := [
  (Py.lit "run_id", .str run.runId), (Py.lit "brief", run.brief.toJson),
  (Py.lit "status", .str run.status.value), (Py.lit "started_at", .str run.startedAt),
  (Py.lit "agent_states", .obj (statesFields run.agentStates)),
  (Py.lit "artifacts", .arr (run.artifacts.map Artifact.toJson)),
  (Py.lit "evidence", .arr (run.evidence.map fun e => .obj e.fields)),
  (Py.lit "trace", .arr (run.trace.map fun e => .obj e.fields)),
  (Py.lit "greenlight", run.greenlight.elim .null fun g => .obj g.fields),
  (Py.lit "completed_at", .ofOption run.completedAt),
  (Py.lit "execution", .obj run.execution.fields)]

/-- `asdict(run)` -/
def ExecutionRun.toJson (run : ExecutionRun) : Json := .obj run.fields

/-- `execution_run_to_document` -/
def executionRunToDocument (run : ExecutionRun) : Json := run.toJson.normal

/-! ## Decoding -/

def TargetPlatform.of : Json → Except Exn TargetPlatform :=
  memberOf [.x, .facebook, .tiktok, .instagram] (·.value)

def AgentRole.of : Json → Except Exn AgentRole := memberOf agentSequence (·.value)

def AgentStatus.of : Json → Except Exn AgentStatus :=
  memberOf [.standby, .processing, .ready, .waitingGreenlight, .blocked, .attention] (·.value)

def RunStatus.of : Json → Except Exn RunStatus :=
  memberOf [.queued, .running, .awaitingGreenlight, .completed, .rejected, .revoked, .failed]
    (·.value)

def GreenlightDecision.of : Json → Except Exn GreenlightDecision :=
  memberOf [.approved, .rejected] (·.value)

def ExecutionState.of : Json → Except Exn ExecutionState :=
  memberOf [.inline, .queued, .leased, .running, .awaitingGreenlight, .completed, .failed] (·.value)

/-- Build a `MissionBrief`. -/
def BriefDraft.build (b : BriefDraft) : Except Exn MissionBrief :=
  match h : b.postInit with
  | .ok () => .ok ⟨b, h⟩
  | .error e => .error e

namespace Serialization

/-- `_mapping` -/
def mapping : Json → Except Exn Obj
  | .obj fields => .ok fields
  | _ => .error (.valueError "persisted runtime document contains a non-object value")

/-- A number that is never negative. -/
def natOf (j : Json) : Except Exn Nat := do
  let n ← intOf j
  check (0 ≤ n) (.valueError "run execution counters must not be negative")
  return n.toNat

/-- A percentage. -/
def percentOf (j : Json) : Except Exn (Fin 101) := do
  let n ← intOf j
  if h : 0 ≤ n ∧ n < 101 then return ⟨n.toNat, by omega⟩
  else throw (.valueError "progress must be between 0 and 100")

section
variable (I : Interpreter)

/-- One of the `evidence_claims`. -/
def claimFrom (j : Json) : Except Exn TextMap := do
  let item ← mapping j
  return [
    (Py.lit "statement", strOr I item "statement" ""), (Py.lit "source", strOr I item "source" ""),
    (Py.lit "locator", strOr I item "locator" ""),
    (Py.lit "verification_status", strOr I item "verification_status" "unverified"),
    (Py.lit "reviewed_by", strOr I item "reviewed_by" "")]

/-- The `brief` -/
def briefFrom (j : Json) : Except Exn MissionBrief := do
  let data ← mapping j
  let title ← strItem I data "title"
  let objective ← strItem I data "objective"
  let audience ← strItem I data "audience"
  let platforms ← (← itemsOf (← Py.item data "platforms")).mapM TargetPlatform.of
  let budgetCents ← intOf (Py.getOr data "budget_cents" (.int 0))
  let evidenceClaims ← (← itemsOf (Py.getOr data "evidence_claims" (.arr []))).mapM (claimFrom I)
  BriefDraft.build {
    title := title
    objective := objective
    audience := audience
    platforms := platforms
    budgetCents := budgetCents
    sourceAsset := strOr I data "source_asset" "sandbox://brief/no-external-asset"
    campaignGoal := strOr I data "campaign_goal" "awareness"
    campaignType := strOr I data "campaign_type" "commercial"
    publicationMode := strOr I data "publication_mode" "organic"
    locale := strOr I data "locale" "es-GT"
    jurisdiction := strOr I data "jurisdiction" ""
    office := strOr I data "office" ""
    candidateName := strOr I data "candidate_name" ""
    locality := strOr I data "locality" ""
    problem := strOr I data "problem" ""
    proposal := strOr I data "proposal" ""
    desiredAction := strOr I data "desired_action" ""
    disclosure := strOr I data "disclosure" ""
    legalReviewStatus := strOr I data "legal_review_status" "pending"
    legalReviewedBy := strOr I data "legal_reviewed_by" ""
    evidenceClaims := evidenceClaims }

/-- One of the `agent_states`, under its role. -/
def stateFrom (entry : Str × Json) : Except Exn (AgentRole × AgentState) := do
  let data ← mapping entry.2
  let role ← AgentRole.of (.str entry.1)
  let status ← AgentStatus.of (.str (← strItem I data "status"))
  let progress ← percentOf (← Py.item data "progress")
  let detail ← strItem I data "detail"
  let artifactIds ← textsOf (Py.getOr data "artifact_ids" (.arr []))
  return (role, { status := status, progress := progress, detail := detail, artifactIds := artifactIds })

/-- The `agent_states` -/
def statesFrom (j : Json) : Except Exn (AgentRole → AgentState) := do
  let states ← (← mapping j).mapM (stateFrom I)
  check (∀ role ∈ agentSequence, (states.lookup role).isSome) (.keyError "agent_states")
  return fun role => (states.lookup role).getD {}

/-- One of the `artifacts`. -/
def artifactFrom (j : Json) : Except Exn Artifact := do
  let item ← mapping j
  let artifactId ← strItem I item "artifact_id"
  let kind ← strItem I item "kind"
  let title ← strItem I item "title"
  let createdBy ← AgentRole.of (.str (← strItem I item "created_by"))
  let payload ← mapping (← Py.item item "payload")
  let evidenceIds ← textsOf (Py.getOr item "evidence_ids" (.arr []))
  return { artifactId := artifactId, kind := kind, title := title, createdBy := createdBy
           payload := payload, evidenceIds := evidenceIds }

/-- One piece of the `evidence`. -/
def evidenceFrom (j : Json) : Except Exn ToolEvidence := do
  let item ← mapping j
  let evidenceId ← strItem I item "evidence_id"
  let tool ← strItem I item "tool"
  let operation ← strItem I item "operation"
  let sandbox ← Py.item item "sandbox"
  let summary ← strItem I item "summary"
  let payload ← mapping (← Py.item item "payload")
  let references ← textsOf (Py.getOr item "references" (.arr []))
  return { evidenceId := evidenceId, tool := tool, operation := operation, sandbox := sandbox.truthy
           summary := summary, payload := payload, references := references }

/-- One event of the `trace`. -/
def eventFrom (j : Json) : Except Exn TraceEvent := do
  let item ← mapping j
  let sequence ← natOf (← Py.item item "sequence")
  let timestamp ← strItem I item "timestamp"
  let role ← AgentRole.of (.str (← strItem I item "role"))
  let action ← strItem I item "action"
  let status ← strItem I item "status"
  let detail ← strItem I item "detail"
  let artifactIds ← textsOf (Py.getOr item "artifact_ids" (.arr []))
  let evidenceIds ← textsOf (Py.getOr item "evidence_ids" (.arr []))
  return { sequence := sequence, timestamp := timestamp, role := role, action := action
           status := status, detail := detail, artifactIds := artifactIds, evidenceIds := evidenceIds }

/-- The `greenlight` that is not `None`. -/
def greenlightFrom (j : Json) : Except Exn Greenlight := do
  let item ← mapping j
  let greenlightId ← strItem I item "greenlight_id"
  let runId ← strItem I item "run_id"
  let decision ← GreenlightDecision.of (.str (← strItem I item "decision"))
  let reviewer ← strItem I item "reviewer"
  let decidedAt ← strItem I item "decided_at"
  let approvedArtifactIds ← textsOf (Py.getOr item "approved_artifact_ids" (.arr []))
  let approvedArtifactHashes ← textsOf (Py.getOr item "approved_artifact_hashes" (.arr []))
  let authorizedChannels ←
    (← itemsOf (Py.getOr item "authorized_channels" (.arr []))).mapM TargetPlatform.of
  let authorizedBudgetCents ← intOf (Py.getOr item "authorized_budget_cents" (.int 0))
  let fencingToken ← intOf (Py.getOr item "fencing_token" (.int 1))
  GreenlightDraft.build {
    greenlightId := greenlightId
    runId := runId
    decision := decision
    reviewer := reviewer
    note := strOr I item "note" ""
    decidedAt := decidedAt
    approvedArtifactIds := approvedArtifactIds
    approvedArtifactHashes := approvedArtifactHashes
    authorizedChannels := authorizedChannels
    authorizedBudgetCents := authorizedBudgetCents
    fencingToken := fencingToken
    revokedAt := strOption I item "revoked_at"
    revokedBy := strOr I item "revoked_by" ""
    revocationReason := strOr I item "revocation_reason" "" }

/-- The `greenlight` -/
def optionalGreenlight : Json → Except Exn (Option Greenlight)
  | .null => .ok none
  | raw => do return some (← greenlightFrom I raw)

/-- The `execution`, `RunExecution()` where there is none. -/
def executionFrom : Json → Except Exn RunExecution
  | .null =>
    return { state := .inline, nextStation := Py.lit "ceo", leased := RunExecution.unleased }
  | j => do
    let data ← mapping j
    let state ← ExecutionState.of (.str (strOr I data "state" "inline"))
    let fencingToken ← natOf (Py.getOr data "fencing_token" (.int 0))
    let attempts ← natOf (Py.getOr data "attempts" (.int 0))
    let leaseOwner := strOr I data "lease_owner" ""
    let leaseExpiresAt := strOption I data "lease_expires_at"
    if h : leaseOwner ≠ [] → leaseExpiresAt.isSome then
      return {
        state := state
        nextStation := strOr I data "next_station" "ceo"
        leaseOwner := leaseOwner
        leaseExpiresAt := leaseExpiresAt
        fencingToken := fencingToken
        attempts := attempts
        checkpointedAt := strOption I data "checkpointed_at"
        failureDetail := strOr I data "failure_detail" ""
        leased := h }
    else throw (.valueError "run execution lease requires an expiry")

/-- `execution_run_from_document` -/
def executionRunFromDocument (j : Json) : Except Exn ExecutionRun := do
  let document ← mapping j
  let brief ← briefFrom I (← Py.item document "brief")
  let agentStates ← statesFrom I (← Py.item document "agent_states")
  let artifacts ← (← itemsOf (Py.getOr document "artifacts" (.arr []))).mapM (artifactFrom I)
  let evidence ← (← itemsOf (Py.getOr document "evidence" (.arr []))).mapM (evidenceFrom I)
  let trace ← (← itemsOf (Py.getOr document "trace" (.arr []))).mapM (eventFrom I)
  let greenlight ← optionalGreenlight I (Py.get document "greenlight")
  let execution ← executionFrom I (Py.get document "execution")
  let runId ← strItem I document "run_id"
  let status ← RunStatus.of (.str (← strItem I document "status"))
  let startedAt ← strItem I document "started_at"
  return {
    runId := runId
    brief := brief
    status := status
    startedAt := startedAt
    agentStates := agentStates
    artifacts := artifacts
    evidence := evidence
    trace := trace
    greenlight := greenlight
    completedAt := strOption I document "completed_at"
    execution := execution }

end

end Serialization

end AgencyRuntime
