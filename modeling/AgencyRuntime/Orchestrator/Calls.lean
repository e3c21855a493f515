import AgencyRuntime.Orchestrator.Agents

/-!
# The calls of the orchestrator

`create`, `advance`, `approve`, `reject` and `revoke` of `AgencyOrchestrator` (orchestrator.py). An
orchestrator keeps its runs by their ids and changes them in place: what a call changed before it
raised stays.
-/

namespace AgencyRuntime

open Effects

namespace Orchestrator

/-- `AGENT_SEQUENCE[:-1]` -/
def executable : List AgentRole := agentSequence.dropLast

/-- `_start_detail` -/
def startDetail : AgentRole → Except Exn String
  | .ceo => .ok "Interpreting mission constraints"
  | .research => .ok "Collecting synthetic market evidence"
  | .strategist => .ok "Designing channel strategy"
  | .growth => .ok "Forecasting sandbox acquisition envelope"
  | .writer => .ok "Writing platform variants"
  | .media => .ok "Planning video and motion assets"
  | .risk => .ok "Auditing release constraints"
  | .publisher => .error (.keyError "publisher")

/-- The station after a role of the executable ones. -/
def stationAfter (role : AgentRole) : AgentRole :=
  ((executable.dropWhile (· != role)).drop 1).headD .publisher

/-- `payload.get(name) is True` -/
def isTrue (payload : Obj) (name : String) : Bool :=
  match Py.get payload name with
  | .bool b => b
  | _ => false

/-- Set the state and the next station of the execution. -/
def setExecution (state : ExecutionState) (nextStation : Str) (run : ExecutionRun) :
    ExecutionRun :=
  { run with execution := { run.execution with state := state, nextStation := nextStation } }

/-- `_await_greenlight` -/
def awaitGreenlight : Action Unit := do
  let run ← theRun
  if run.status = .awaitingGreenlight then return ()
  else do
    let riskReport ← .ofExcept (run.artifact "risk_report")
    let critiquePassed := isTrue riskReport.payload "passed"
    let publicationEligible := isTrue riskReport.payload "publication_eligible"
    let attention := !critiquePassed || (run.brief.political && !publicationEligible)
    let status : AgentStatus := if attention then .attention else .waitingGreenlight
    modifyRun fun run => run.updateState .publisher status 0
      (if attention then "Critique requires revision; Greenlight and publication are blocked."
        else "Risk passed; manual Greenlight is required before packaging.")
    modifyRun fun run => { run with status := .awaitingGreenlight }
    modifyRun (setExecution .awaitingGreenlight AgentRole.publisher.value)
    event .publisher (if attention then "critique_revision_required" else "approval_gate") status
      (if attention then "The run is reviewable, but it cannot receive Greenlight."
        else "No packaging or publication has occurred.") [] []

/-- `run.execution.next_station = …` -/
def setStation (role : AgentRole) (run : ExecutionRun) : ExecutionRun :=
  { run with execution := { run.execution with nextStation := role.value } }

/-- A queued run is taken up. -/
def takeUp (run : ExecutionRun) : ExecutionRun :=
  if run.status = .queued then
    { run with status := .running, execution := { run.execution with state := .running } }
  else run

/-- `advance` -/
def advance (A : Agency) (R : Reading) : Action Unit := do
  modifyRun takeUp
  let run ← theRun
  if run.status ≠ .running then return ()
  else
    match executable.find? fun role => (run.agentStates role).status != .ready with
    | none => awaitGreenlight
    | some role => do
      modifyRun (setStation role)
      match (run.agentStates role).status with
      | .standby => do
        let detail ← .ofExcept (startDetail role)
        begin role detail
      | .processing => do
        executeRole A R role
        modifyRun (setStation (stationAfter role))
        if role = .risk then awaitGreenlight else return ()
      | _ => .raise (.runtimeError "run contains an invalid station state")

/-- `hashlib.sha256(text.encode("utf-8")).hexdigest()` of the parts of an evidence claim. -/
def claimHashes (P : Platform) (claim : TextMap) : Except Exn Json := do
  let source := Py.strip (claim.getD "source" "")
  let locator := Py.strip (claim.getD "locator" "")
  let contract : Json := .obj
    [(Py.lit "statement", .str (Py.strip (claim.getD "statement" ""))),
      (Py.lit "source", .str source), (Py.lit "locator", .str locator),
      (Py.lit "verification_status", .str (claim.getD "verification_status" "unverified")),
      (Py.lit "reviewed_by", .str (Py.strip (claim.getD "reviewed_by" "")))]
  let claimSha256 ← P.digest (← canonicalJson contract)
  let sourceSha256 ← P.digest source
  let locatorSha256 ← P.digest locator
  return .obj [(Py.lit "claim_sha256", .str claimSha256), (Py.lit "source_sha256", .str sourceSha256),
    (Py.lit "locator_sha256", .str locatorSha256)]

/-- The political compliance record of an approval. -/
def complianceRecord (P : Platform) (run : ExecutionRun) (normalizedReviewer : Str) :
    Except Exn Artifact := do
  let brief := run.brief
  let hashes ← brief.evidenceClaims.mapM (claimHashes P)
  let disclosureSha256 ← P.digest (Py.strip brief.disclosure)
  let payload : Obj :=
    [(Py.lit "jurisdiction", .str (Py.strip brief.jurisdiction)),
      (Py.lit "publication_mode", .str brief.publicationMode),
      (Py.lit "disclosure_sha256", .str disclosureSha256),
      (Py.lit "legal_reviewer", .str (Py.strip brief.legalReviewedBy)),
      (Py.lit "greenlight_approver", .str normalizedReviewer),
      (Py.lit "claim_source_hashes", .arr hashes),
      (Py.lit "retention_state", .str (Py.lit "durable_until_governed_deletion"))]
  let id ← P.stableId "political-compliance-record" [.str run.runId, .obj payload] 48
  return {
    artifactId := id
    kind := Py.lit "political_compliance_record"
    title := Py.lit "Political compliance approval record"
    createdBy := .risk
    payload := payload }

/-- `stable_id("sha256", canonical_json(item), length=64)` -/
def approvedHash (P : Platform) (item : Artifact) : Except Exn Str := do
  P.stableId "sha256" [.str (← canonicalJson item.toJson)] 64

/-- The Greenlight of a decision. -/
def decided (P : Platform) (run : ExecutionRun) (decision : GreenlightDecision)
    (reviewer note decidedAt : Str) : Except Exn Greenlight := do
  let approvedIds := run.artifacts.map (·.artifactId)
  let approvedHashes ← run.artifacts.mapM (approvedHash P)
  let greenlightId ← P.stableId "greenlight"
    [.str run.runId, .str decision.value, .str (Py.strip reviewer), .str (Py.strip note),
      .str decidedAt, .texts approvedIds, .texts approvedHashes] 16
  GreenlightDraft.build
    { greenlightId := greenlightId
      runId := run.runId
      decision := decision
      reviewer := Py.strip reviewer
      note := Py.strip note
      decidedAt := decidedAt
      approvedArtifactIds := approvedIds
      approvedArtifactHashes := approvedHashes
      authorizedChannels := run.brief.platforms
      authorizedBudgetCents := run.brief.budgetCents }

/-- The checks of `_decide`. -/
def admitDecision (run : ExecutionRun) (decision : GreenlightDecision) (reviewer : Str) :
    Except Exn Unit := do
  check (run.status = .awaitingGreenlight)
    (.greenlight ("run " ++ Py.display run.runId ++ " is not awaiting Greenlight (status=" ++
      Py.display run.status.value ++ ")"))
  let riskReport ← run.artifact "risk_report"
  check (isTrue riskReport.payload "passed")
    (.greenlight "Risk must pass before a Greenlight decision")
  check (¬ (run.brief.political ∧ ¬ isTrue riskReport.payload "publication_eligible"))
    (.greenlight "Political critique must pass before Greenlight")
  check (reviewer ≠ [] ∧ Py.strip reviewer ≠ []) (.greenlight "reviewer must not be empty")
  check (¬ (decision = .approved ∧ run.brief.political ∧
      Py.strip run.brief.legalReviewedBy = Py.strip reviewer))
    (.politicalReviewerSeparation
      "political legal reviewer and Greenlight approver must be distinct")

variable (A : Agency)

/-- The rejected branch of `_decide`. -/
def finishRejection (decidedAt : Str) : Action Unit := do
  modifyRun fun run => { run with status := .rejected }
  modifyRun fun run => { run with execution := { run.execution with state := .completed } }
  modifyRun fun run => { run with completedAt := some decidedAt }
  modifyRun fun run => run.updateState .publisher .blocked 0
    "Greenlight rejected; sandbox package was not created."
  event .publisher "greenlight_rejected" .blocked
    "Reviewer rejected release. No packaging or publication occurred." [] []

/-- The approved branch of `_decide`. -/
def finishApproval (R : Reading) (greenlight : Greenlight) : Action Unit := do
  modifyRun fun run => run.updateState .publisher .processing 50
    "Greenlight recorded; creating local sandbox manifest."
  event .publisher "greenlight_approved" .processing
    "Approval recorded locally; publication remains disabled." [] []
  let run ← theRun
  let response := R.tools.package run.runId run.brief.platforms run.artifacts
  let package := response.result
  let artifact ← completeAgent A .publisher "campaign_package" "Sandbox campaign manifest"
    package.toObj [response.evidence]
    "Manifest packaged locally; external publication was not performed."
  modifyRun fun run => { run with status := .completed }
  modifyRun (setExecution .completed AgentRole.publisher.value)
  let completedAt ← now
  modifyRun fun run => { run with completedAt := some completedAt }
  remember R .publisher
    (Py.lit "Greenlight " ++ greenlight.greenlightId ++ Py.lit " produced sandbox manifest " ++
      package.manifestUri ++ Py.lit " with publication_performed=false.")
    "1.0" [Py.lit "greenlight", Py.lit "publisher", Py.lit "sandbox"] artifact
    (some response.evidence)

/-- An approval of a political run first adds the compliance record. -/
def recordCompliance (run : ExecutionRun) (decision : GreenlightDecision) (reviewer : Str) :
    Action Unit :=
  if decision = .approved ∧ run.brief.political = true then do
    let record ← .ofExcept (complianceRecord A.interpreter.toPlatform run (Py.strip reviewer))
    modifyRun fun run => run.addArtifact record
  else return ()

/-- The Greenlight over the artifacts now present, and what follows from it. -/
def settle (R : Reading) (decision : GreenlightDecision) (reviewer note decidedAt : Str) :
    Action Unit := do
  let run ← theRun
  let greenlight ← .ofExcept
    (decided A.interpreter.toPlatform run decision reviewer note decidedAt)
  modifyRun fun run => { run with greenlight := some greenlight }
  match decision with
  | .rejected => finishRejection decidedAt
  | .approved => finishApproval A R greenlight

/-- `_decide` -/
def decide (R : Reading) (decision : GreenlightDecision) (reviewer note : Str) : Action Unit := do
  let run ← theRun
  .ofExcept (admitDecision run decision reviewer)
  let decidedAt ← now
  recordCompliance A run decision reviewer
  settle A R decision reviewer note decidedAt

/-- The Greenlight to revoke. -/
def activeGreenlight (run : ExecutionRun) : Except Exn Greenlight :=
  match run.greenlight with
  | some greenlight =>
    if run.status = .completed ∧ greenlight.active then .ok greenlight
    else .error (.greenlight "Greenlight is not active")
  | none => .error (.greenlight "Greenlight is not active")

/-- `revoke` -/
def revoke (reviewer reason : Str) : Action Unit := do
  let run ← theRun
  let greenlight ← .ofExcept (activeGreenlight run)
  .raiseIf (Py.strip reviewer = []) (.greenlight "reviewer must not be empty")
  .raiseIf (Py.strip reason = []) (.greenlight "revocation reason must not be empty")
  let revokedAt ← now
  let revoked ← .ofExcept (GreenlightDraft.build
    { greenlight with
      fencingToken := greenlight.fencingToken + 1
      revokedAt := some revokedAt
      revokedBy := Py.strip reviewer
      revocationReason := Py.strip reason })
  modifyRun fun run => { run with greenlight := some revoked }
  modifyRun fun run => { run with status := .revoked }
  modifyRun fun run => { run with execution := { run.execution with state := .completed } }
  modifyRun fun run => run.updateState .publisher .blocked 100
    "Greenlight revoked; all prior effect tokens are fenced."
  event .publisher "greenlight_revoked" .blocked
    "Approval revoked locally; publication remains disabled." [] []

/-- A call on a run. -/
inductive Call
  | advance
  | approve (reviewer note : Str)
  | reject (reviewer note : Str)
  | revoke (reviewer reason : Str)

/-- `advance`, `approve`, `reject` and `revoke` -/
def Call.action (R : Reading) : Call → Action Unit
  | .advance => Orchestrator.advance A R
  | .approve reviewer note => decide A R .approved reviewer note
  | .reject reviewer note => decide A R .rejected reviewer note
  | .revoke reviewer reason => Orchestrator.revoke reviewer reason

/-- What a call comes to, and what it makes of the run. -/
def Call.perform (R : Reading) (call : Call) (run : ExecutionRun) : Except Exn Unit × ExecutionRun :=
  let ended := call.action A R ⟨run, R.clock, []⟩
  (ended.1, ended.2.run)

/-- The run `create` builds. -/
def newRun (runId : Str) (brief : MissionBrief) (asynchronous : Bool) (now : Str) : ExecutionRun where
  runId := runId
  brief := brief
  status := if asynchronous then .queued else .running
  startedAt := now
  agentStates _ := {}
  execution :=
    { state := if asynchronous then .queued else .inline
      nextStation := AgentRole.ceo.value
      checkpointedAt := some now
      leased := RunExecution.unleased }

/-- `self._runs` -/
abbrev Runs := Str → Option ExecutionRun

/-- `create` -/
def create (brief : MissionBrief) (asynchronous : Bool) (R : Reading) (runs : Runs) :
    Except Exn Unit × Runs :=
  match A.interpreter.stableId "run" [brief.toJson] 16 with
  | .error e => (.error e, runs)
  | .ok runId =>
    if (runs runId).isSome then
      (.error (.valueError ("run already exists in this orchestrator: " ++ Py.display runId)), runs)
    else
      (.ok (), Function.update runs runId (some (newRun runId brief asynchronous (R.clock 0))))

/-- A call on the run of an id, which `get_run` looks up. -/
def call (runId : Str) (c : Call) (R : Reading) (runs : Runs) : Except Exn Unit × Runs :=
  match runs runId with
  | none => (.error (.keyError ("run not found: " ++ Py.display runId)), runs)
  | some run =>
    let performed := c.perform A R run
    (performed.1, Function.update runs runId (some performed.2))

end Orchestrator

end AgencyRuntime
