import AgencyRuntime.Effects.Method
import AgencyRuntime.Orchestrator.Run
import AgencyRuntime.Python.Records

/-!
# The eight agents

What the stations of a run do (orchestrator.py). The sandbox tools, the memory and the clock are
read anew by every call, so they are part of its reading: a tool returns some response, the memory
takes an observation or raises, and the clock gives a text for each time it is asked. The payload
functions of campaign_intelligence.py are parameters.
-/

namespace AgencyRuntime

open Effects

/-- An exception of the code an orchestrator calls, which knows no `GreenlightError`. -/
abbrev Failure := {e : Exn // e.isGreenlight = false}

/-- `ToolResponse` -/
structure ToolResponse (α : Type) where
  result : α
  evidence : ToolEvidence

/-- `CampaignPackage` -/
structure CampaignPackage where
  manifestUri : Str
  artifactIds : List Str
  platformTargets : List TargetPlatform
  checksums : List Str
  publicationPerformed : Bool

/-- `to_primitive(package)` -/
def CampaignPackage.toObj (p : CampaignPackage) : Obj :=
  [(Py.lit "artifact_ids", .texts p.artifactIds), (Py.lit "checksums", .texts p.checksums),
    (Py.lit "manifest_uri", .str p.manifestUri),
    (Py.lit "platform_targets", .texts (p.platformTargets.map (·.value))),
    (Py.lit "publication_performed", .bool p.publicationPerformed)]

/-- `SandboxToolset`, on the arguments of its requests. A result of which only `to_primitive` is
used is that primitive; of the documentation only the recommendations are read. -/
structure SandboxToolset where
  collect : (query audience : Str) → List TargetPlatform → ToolResponse Json
  forecast : (objective audience : Str) → (budgetCents : Int) → List TargetPlatform →
    ToolResponse Obj
  observe : (url purpose : Str) → ToolResponse Json
  inspect : (repository : Str) → (paths : List Str) → (question : Str) → ToolResponse Json
  lookup : (library topic : Str) → ToolResponse (List Str)
  planVideo : (sourceAsset : Str) → TargetPlatform → (targetDurationSeconds : Nat) →
    ToolResponse Obj
  planMotion : (sourceAsset prompt : Str) → (targetDurationSeconds : Nat) → ToolResponse Obj
  package : (runId : Str) → List TargetPlatform → List Artifact → ToolResponse CampaignPackage

/-- What `_remember` hands to the memory: the arguments of `observe` and the provenance. -/
structure Observation where
  content : Str
  locator : Str
  observedAt : Str
  tool : Str
  traceId : Str
  confidence : Str
  tags : List Str

/-- The payload functions of campaign_intelligence.py. -/
structure CampaignIntelligence where
  claimLedger : MissionBrief → (runId : Str) → Except Failure (List Json)
  strategyPayload : MissionBrief → Except Failure Obj
  growthPayload : MissionBrief → (syntheticFixture : Obj) → Except Failure Obj
  copyPayload : MissionBrief → (claims : Json) → Except Failure Obj
  mediaPayload : MissionBrief → (video imageToVideo : Obj) → Except Failure Obj
  critiquePayload : MissionBrief → (claims variants : Json) → Except Failure Obj

/-- The code an orchestrator is built on. -/
structure Agency where
  interpreter : Interpreter
  campaign : CampaignIntelligence

/-- `len(value)` -/
def Py.len : Json → Except Exn Nat
  | .str s => .ok s.length
  | .arr items => .ok items.length
  | .obj fields => .ok fields.length
  | _ => .error (.typeError "object has no len()")

namespace Orchestrator

/-- What one call reads from outside. -/
structure Reading where
  tools : SandboxToolset
  memory : Observation → Except Failure Unit
  clock : Nat → Str

/-- The exceptions of called code. -/
def ofFailure {α : Type} : Except Failure α → Except Exn α
  | .ok a => .ok a
  | .error e => .error e.1

/-- A run in the hands of a call, what the clock still has to say, and what was handed to the
memory. -/
structure Session where
  run : ExecutionRun
  clock : Nat → Str
  observations : List Observation

/-- A part of a call on a run. -/
abbrev Action := Method Session Exn

/-- `self._clock()` -/
def now : Action Str := .update fun s => (s.clock 0, { s with clock := fun n => s.clock (n + 1) })

/-- The run. -/
def theRun : Action ExecutionRun := .update fun s => (s.run, s)

/-- Change the run. -/
def modifyRun (f : ExecutionRun → ExecutionRun) : Action Unit :=
  .change fun s => { s with run := f s.run }

/-- `_event` -/
def event (role : AgentRole) (action : String) (status : AgentStatus) (detail : String)
    (artifactIds evidenceIds : List Str) : Action Unit := do
  let timestamp ← now
  modifyRun fun run =>
    { run with
      trace := run.trace ++
        [{ sequence := run.trace.length + 1, timestamp := timestamp, role := role
           action := Py.lit action, status := status.value, detail := Py.lit detail
           artifactIds := artifactIds, evidenceIds := evidenceIds }] }

/-- `_begin` -/
def begin (role : AgentRole) (detail : String) : Action Unit := do
  modifyRun fun run => run.updateState role .processing 10 detail
  event role "agent_started" .processing detail [] []

/-- The evidence a run keeps: each id once. -/
def addEvidence (kept : List ToolEvidence) (item : ToolEvidence) : List ToolEvidence :=
  if kept.all (·.evidenceId != item.evidenceId) then kept ++ [item] else kept

variable (A : Agency)

/-- The id of a station's artifact. -/
def artifactId (runId : Str) (role : AgentRole) (kind : String) (payload : Obj) : Except Exn Str :=
  A.interpreter.stableId "art"
    [.str runId, .str role.value, .str (Py.lit kind), .obj payload] 16

/-- `_complete_agent` -/
def completeAgent (role : AgentRole) (kind title : String) (payload : Obj)
    (evidence : List ToolEvidence) (detail : String) : Action Artifact := do
  let run ← theRun
  let id ← .ofExcept (artifactId A run.runId role kind payload)
  let artifact : Artifact :=
    { artifactId := id, kind := Py.lit kind, title := Py.lit title, createdBy := role
      payload := payload, evidenceIds := evidence.map (·.evidenceId) }
  modifyRun fun run => { run with evidence := evidence.foldl addEvidence run.evidence }
  modifyRun fun run => run.addArtifact artifact
  modifyRun fun run => run.updateState role .ready 100 detail
  event role "artifact_ready" .ready detail [id] artifact.evidenceIds
  return artifact

/-- `_remember` -/
def remember (R : Reading) (role : AgentRole) (content : Str) (confidence : String)
    (tags : List Str) (artifact : Artifact) (evidence : Option ToolEvidence) : Action Unit := do
  let run ← theRun
  let traceId := run.trace.getLast?.elim 0 (·.sequence)
  let observedAt ← now
  let observation : Observation :=
    { content := content
      locator := Py.lit "sandbox://runs/" ++ run.runId ++ Py.lit "/artifacts/" ++
        artifact.artifactId
      observedAt := observedAt
      tool := evidence.elim (Py.lit "agency_runtime") (·.tool)
      traceId := run.runId ++ Py.lit ":" ++ Py.ofNat traceId
      confidence := Py.lit confidence
      tags := tags ++ [role.value] }
  .change fun s => { s with observations := s.observations ++ [observation] }
  .ofExcept (ofFailure (R.memory observation))

/-- `_run_ceo` -/
def runCeo : Action Unit := do
  let run ← theRun
  let brief := run.brief
  let _ ← completeAgent A .ceo "mission_charter" "Mission charter"
    [(Py.lit "title", .str brief.title), (Py.lit "objective", .str brief.objective),
      (Py.lit "audience", .str brief.audience),
      (Py.lit "platforms", .texts (brief.platforms.map (·.value))),
      (Py.lit "budget_cents", .int brief.budgetCents),
      (Py.lit "campaign_type", .str brief.campaignType), (Py.lit "locale", .str brief.locale),
      (Py.lit "jurisdiction", .str brief.jurisdiction), (Py.lit "office", .str brief.office),
      (Py.lit "candidate_name", .str brief.candidateName),
      (Py.lit "locality", .str brief.locality),
      (Py.lit "legal_review_status", .str brief.legalReviewStatus),
      (Py.lit "legal_reviewed_by", .str brief.legalReviewedBy),
      (Py.lit "constraints", .texts
        [Py.lit "sandbox adapters only", Py.lit "manual Greenlight before Publisher",
          Py.lit "no external side effects"])]
    [] "Mission chartered with sandbox and approval constraints."

/-- `_run_research` -/
def runResearch (R : Reading) : Action Unit := do
  let run ← theRun
  let brief := run.brief
  let trends := R.tools.collect brief.objective brief.audience brief.platforms
  let browser := R.tools.observe (Py.lit "sandbox://market-pulse/fixture")
    (Py.lit "audience language and category framing")
  let claims ← .ofExcept (ofFailure (A.campaign.claimLedger brief run.runId))
  let artifact ← completeAgent A .research "research_dossier"
    "Dossier de investigación y afirmaciones"
    [(Py.lit "trends", trends.result), (Py.lit "browser_observation", browser.result),
      (Py.lit "claim_ledger", .arr claims),
      (Py.lit "scholar", .obj
        [(Py.lit "reencuadre_cognitivo", .str (Py.lit
            "Convertir una propuesta verificable en una decisión comprensible.")),
          (Py.lit "tension_del_trade_off", .str (Py.lit
            "La claridad no puede simplificar una afirmación más allá de su fuente.")),
          (Py.lit "resolucion_operativa", .str (Py.lit
            "Mapear claims, adaptar el canal y mantener Critique y Greenlight."))]),
      (Py.lit "live_sources_contacted", .bool false)]
    [trends.evidence, browser.evidence]
    "Afirmaciones y fuentes consolidadas sin navegación externa."
  remember R .research
    (Py.lit "Research mapped " ++ Py.ofNat claims.length ++ Py.lit " claims for " ++
      brief.audience ++ Py.lit ".")
    (if claims.isEmpty then "0.72" else "0.84")
    [Py.lit "research", Py.lit "claims", brief.campaignGoal] artifact (some trends.evidence)

/-- `_run_strategist` -/
def runStrategist (R : Reading) : Action Unit := do
  let run ← theRun
  let brief := run.brief
  let docs := R.tools.lookup (Py.lit "sandbox-adapter-contracts")
    (Py.lit "idempotent approval-gated orchestration")
  let strategy ← .ofExcept (ofFailure (A.campaign.strategyPayload brief))
  let payload := Py.update strategy
    [(Py.lit "platforms", .texts (brief.platforms.map (·.value))),
      (Py.lit "documentation_guardrails", .texts docs.result)]
  let artifact ← completeAgent A .strategist "channel_strategy"
    "Arquitectura de mensaje por canal" payload [docs.evidence]
    "Estrategia basada en problema, propuesta, prueba y acción."
  let pillars ← .ofExcept (Py.item payload "pillars" >>= Py.len)
  remember R .strategist
    (Py.lit "Strategy prepared " ++ Py.ofNat pillars ++ Py.lit " governed message pillars.")
    (if brief.political then "0.9" else "0.83") [Py.lit "strategy", Py.lit "pillars"] artifact
    (some docs.evidence)

/-- `_run_growth` -/
def runGrowth (R : Reading) : Action Unit := do
  let run ← theRun
  let brief := run.brief
  let forecast := R.tools.forecast brief.campaignGoal brief.audience brief.budgetCents
    brief.platforms
  let payload ← .ofExcept (ofFailure (A.campaign.growthPayload brief forecast.result))
  let artifact ← completeAgent A .growth "growth_forecast"
    (if brief.political then "Plan de distribución orgánica" else "Synthetic growth forecast")
    payload [forecast.evidence]
    (if brief.political then "Métricas y guardrails definidos sin afirmar alcance electoral."
      else "Forecast calculated without ad-account access or spend.")
  remember R .growth
    (Py.lit "Growth plan remains synthetic and external spend is disabled.")
    (if brief.political then "0.82" else "0.58")
    [Py.lit "growth", Py.lit "organic", Py.lit "synthetic"] artifact (some forecast.evidence)

/-- `_run_writer` -/
def runWriter (R : Reading) : Action Unit := do
  let run ← theRun
  let brief := run.brief
  let research ← .ofExcept (run.artifact "research_dossier")
  let payload ← .ofExcept (ofFailure
    (A.campaign.copyPayload brief (Py.getOr research.payload "claim_ledger" (.arr []))))
  let artifact ← completeAgent A .writer "copy_deck" "Copy gobernado por plataforma" payload []
    "Variantes listas para crítica factual y revisión humana."
  let variants ← .ofExcept (Py.item payload "variants" >>= Py.len)
  remember R .writer
    (Py.lit "Drafted " ++ Py.ofNat variants ++
      Py.lit " platform variants with explicit claim mapping.")
    "0.93" [Py.lit "copy", Py.lit "draft", brief.locale] artifact none

/-- `_run_media` -/
def runMedia (R : Reading) : Action Unit := do
  let run ← theRun
  let brief := run.brief
  let primaryPlatform ← .ofExcept (brief.platforms.head?.elim (.error .indexError) .ok)
  let video := R.tools.planVideo brief.sourceAsset primaryPlatform 15
  let motion := R.tools.planMotion brief.sourceAsset (Py.lit "Motion study for " ++ brief.title) 8
  let payload ← .ofExcept (ofFailure
    (A.campaign.mediaPayload brief video.result motion.result))
  let artifact ← completeAgent A .media "media_plan" "Plan de medios accesible" payload
    [video.evidence, motion.evidence]
    "Plan editorial creado; no se renderizó ni publicó media."
  remember R .media
    (Py.lit "Media plan is accessible, non-rendered and publication-blocking.") "0.96"
    [Py.lit "media", Py.lit "plan", Py.lit "sandbox"] artifact (some video.evidence)

/-- `_run_risk` -/
def runRisk (R : Reading) : Action Unit := do
  let run ← theRun
  let brief := run.brief
  let inspection := R.tools.inspect (Py.lit "sandbox://local/agency-runtime")
    [Py.lit "policy/claims", Py.lit "policy/platforms"]
    (Py.lit "Does the sandbox package preserve the Greenlight boundary?")
  let research ← .ofExcept (run.artifact "research_dossier")
  let writer ← .ofExcept (run.artifact "copy_deck")
  let critique ← .ofExcept (ofFailure
    (A.campaign.critiquePayload brief (Py.getOr research.payload "claim_ledger" (.arr []))
      (Py.getOr writer.payload "variants" (.obj []))))
  let payload := Py.update critique [(Py.lit "codebase_inspection", inspection.result)]
  let artifact ← completeAgent A .risk "risk_report" "Crítica pre-Greenlight" payload
    [inspection.evidence]
    "Crítica factual y de canal completada; Greenlight humano sigue siendo obligatorio."
  let checks ← .ofExcept (Py.item payload "checks" >>= Py.len)
  let eligible ← .ofExcept (Py.item payload "publication_eligible")
  remember R .risk
    (Py.lit "Critique evaluated " ++ Py.ofNat checks ++ Py.lit " checks; publication_eligible=" ++
      Py.str A.interpreter eligible ++ Py.lit ".")
    "1.0" [Py.lit "risk", Py.lit "critique", Py.lit "greenlight"] artifact
    (some inspection.evidence)

/-- `_execute_role`; there is no handler for the Publisher. -/
def executeRole (R : Reading) : AgentRole → Action Unit
  | .ceo => runCeo A
  | .research => runResearch A R
  | .strategist => runStrategist A R
  | .growth => runGrowth A R
  | .writer => runWriter A R
  | .media => runMedia A R
  | .risk => runRisk A R
  | .publisher => .raise (.keyError "publisher")

end Orchestrator

end AgencyRuntime
