import AgencyRuntime.Orchestrator.Pipeline

/-!
# Campaign intelligence

The payload functions of campaign_intelligence.py, with `find_text_risks` and
`unsupported_numeric_tokens` (semantic_evals.py). What they take from the text methods and the
regular expressions of the Python library is a `TextLibrary`.
-/

namespace AgencyRuntime

open Orchestrator

/-- The text functions of the Python library that campaign intelligence calls. -/
structure TextLibrary where
  /-- `str.lower` -/
  lower : Str → Str
  /-- `" ".join(unicodedata.normalize("NFKC", value).casefold().split())` -/
  normalizeText : Str → Str
  /-- `_NUMBER.findall` -/
  numbers : Str → List Str

/-- `part in text` -/
def Py.contains (text part : Str) : Bool := text.tails.any part.isPrefixOf

/-- `text.startswith(prefix)` -/
def Py.startswith (text : Str) (start : String) : Bool := (Py.lit start).isPrefixOf text

/-- An `Exn` as the failure it is. -/
def asFailure {α : Type} (x : Except Exn α) (h : RaisesOnly (·.isGreenlight = false) x) :
    Except Failure α :=
  match x, h with
  | .ok a, _ => .ok a
  | .error e, h => .error ⟨e, h e rfl⟩

namespace Campaign

/-! ## Texts -/

/-- `_INJECTION` -/
def injection : List String := [
  "ignore previous instructions", "ignore all previous instructions",
  "reveal the system prompt", "show the system prompt", "developer message",
  "system message", "execute this command", "call the tool", "exfiltrate",
  "ignora las instrucciones anteriores", "ignora todas las instrucciones",
  "muestra el prompt del sistema", "revela el prompt del sistema",
  "mensaje del desarrollador", "mensaje del sistema", "ejecuta este comando",
  "llama a la herramienta", "extrae los secretos", "<system>", "</system>"]

/-- `_OVERCLAIM` -/
def overclaim : List String := [
  "garantizado", "garantiza", "el mejor", "sin duda", "100%",
  "resultados garantizados", "resultado garantizado", "garantiza la victoria",
  "garantiza el resultado", "todos apoyan", "todo el mundo apoya",
  "100% de apoyo", "cumple con todas las leyes",
  "legalmente aprobado en todas partes", "sin ningún riesgo legal",
  "no legal risk", "complies with every law", "guaranteed victory",
  "everyone supports"]

variable (I : Interpreter) (T : TextLibrary)

/-- `"instruction_injection" in find_text_risks(value)` -/
def injects (value : Str) : Bool :=
  injection.any fun pattern => Py.contains (T.normalizeText value) (Py.lit pattern)

/-- `"unsupported_overclaim" in find_text_risks(value)` -/
def overclaims (value : Str) : Bool :=
  overclaim.any fun pattern => Py.contains (T.normalizeText value) (Py.lit pattern)

/-- The claims, each of which must be an object. -/
def claimObjects (claims : Json) : Except Exn (List Obj) := do
  (← itemsOf claims).mapM fun
    | .obj fields => .ok fields
    | _ => .error (.typeError "object has no attribute 'get'")

/-- `str(claim.get(field, ""))` of the fields that name a claim's evidence. -/
def evidenceTexts (claim : Obj) : List Str :=
  [strOr I claim "statement" "", strOr I claim "source" "", strOr I claim "locator" ""]

/-- `not unsupported_numeric_tokens(rendered_text, claims)` -/
def numbersSupported (renderedText : Str) (claims : List Obj) : Bool :=
  let evidence := Py.join (Py.lit " ") (claims.flatMap (evidenceTexts I))
  (T.numbers (T.normalizeText renderedText)).all
    (T.numbers (T.normalizeText evidence)).contains

/-- The ids of the supported claims. -/
def supportedIds (claims : List Obj) : List Str :=
  (claims.filter fun item => isTrue item "supported" && (Py.get item "claim_id").truthy).map
    fun item => Py.str I (Py.get item "claim_id")

/-! ## Payloads -/

/-- An entry of `claim_ledger`. -/
def ledgerEntry (P : Platform) (runId : Str) (claim : TextMap) : Except Exn Json := do
  let statement := Py.strip (claim.getD "statement" "")
  let source := Py.strip (claim.getD "source" "")
  let locator := Py.strip (claim.getD "locator" "")
  let status := claim.getD "verification_status" "unverified"
  let reviewedBy := Py.strip (claim.getD "reviewed_by" "")
  let claimId ← P.stableId "claim" [.str runId, .str statement, .str source, .str locator] 24
  return .obj [
    (Py.lit "claim_id", .str claimId), (Py.lit "statement", .str statement),
    (Py.lit "source", .str source), (Py.lit "locator", .str locator),
    (Py.lit "verification_status", .str status), (Py.lit "reviewed_by", .str reviewedBy),
    (Py.lit "supported", .bool (status == Py.lit "verified" && !reviewedBy.isEmpty))]

/-- `claim_ledger` -/
def claimLedger (P : Platform) (brief : MissionBrief) (runId : Str) : Except Exn (List Json) :=
  brief.evidenceClaims.mapM (ledgerEntry P runId)

/-- `strategy_payload` -/
def strategyPayload (brief : MissionBrief) : Obj :=
  if brief.political then [
    (Py.lit "pillars", .texts [
      Py.lit "Problema: describir la tensión local sin exageración",
      Py.lit "Propuesta: explicar una acción dentro de las competencias del cargo",
      Py.lit "Prueba: mostrar fuente y locator de cada afirmación",
      Py.lit "Acción: invitar a consultar el plan y formular preguntas"]),
    (Py.lit "message_architecture", .obj [
      (Py.lit "audience_tension", .str brief.problem),
      (Py.lit "campaign_thesis", .str brief.proposal),
      (Py.lit "office_relevance", .str (brief.office ++ Py.lit " · " ++ brief.locality)),
      (Py.lit "proof_strategy", .str (Py.lit "claim ledger visible y revisable")),
      (Py.lit "desired_action", .str brief.desiredAction)])]
  else [
    (Py.lit "pillars", .texts [
      Py.lit "Evidencia: partir de una tensión verificable",
      Py.lit "Expresión: adaptar el ritmo a cada plataforma",
      Py.lit "Acción: mantener una llamada a la acción medible"]),
    (Py.lit "message_architecture", .obj [
      (Py.lit "audience_tension", .str brief.objective),
      (Py.lit "campaign_thesis", .str brief.title),
      (Py.lit "proof_strategy", .str (Py.lit "revisión humana de afirmaciones")),
      (Py.lit "desired_action", .str (Py.lit "Conoce la propuesta y participa."))])]

/-- `growth_payload` -/
def growthPayload (brief : MissionBrief) (syntheticFixture : Obj) : Obj :=
  if brief.political then [
    (Py.lit "mode", .str (Py.lit "organic_only")),
    (Py.lit "primary_metric", .str (Py.lit "qualified_replies_and_plan_views")),
    (Py.lit "guardrails", .texts [
      Py.lit "no paid activation", Py.lit "no inferred voter targeting",
      Py.lit "no fabricated reach or conversion forecast",
      Py.lit "stop on legal, factual or account-scope uncertainty"]),
    (Py.lit "forecast_status", .str (Py.lit "not_claimed_without_live_authorized_data")),
    (Py.lit "synthetic_fixture", .obj syntheticFixture)]
  else syntheticFixture

/-- The `hook` of a political variant. -/
def politicalHook (brief : MissionBrief) : Str :=
  let office := T.lower (Py.strip brief.office)
  if office = Py.lit "alcalde" then
    let locality := Py.strip brief.locality
    let municipalSubject :=
      if Py.startswith (T.lower locality) "municipio" then Py.lit "el " ++ locality
      else Py.lit "el municipio de " ++ locality
    Py.lit "¿Cómo puede " ++ municipalSubject ++ Py.lit " rendir cuentas con información clara?"
  else if office = Py.lit "diputado" then
    Py.lit "Una propuesta legislativa verificable para representar y fiscalizar en " ++
      brief.locality ++ Py.lit "."
  else
    Py.lit "Una propuesta verificable para " ++ Py.strip brief.office ++ Py.lit " en " ++
      brief.locality ++ Py.lit "."

/-- The `body` of a political variant. -/
def politicalBody (brief : MissionBrief) : Str :=
  let sources := Py.join (Py.lit " ") (brief.evidenceClaims.map fun claim =>
    Py.lit "Fuente: " ++ claim.getD "source" "" ++ Py.lit " (" ++ claim.getD "locator" "" ++
      Py.lit ").")
  Py.strip brief.candidateName ++ Py.lit " propone: " ++ Py.strip brief.proposal ++
    Py.lit "\n\n" ++ sources ++ Py.lit "\n\n" ++ Py.strip brief.disclosure

/-- A variant of `copy_payload`, which is the same for every platform. -/
def variant (brief : MissionBrief) (supported : List Str) : Obj :=
  if brief.political then [
    (Py.lit "hook", .str (politicalHook T brief)), (Py.lit "body", .str (politicalBody brief)),
    (Py.lit "cta", .str (Py.strip brief.desiredAction)), (Py.lit "claim_map", .texts supported),
    (Py.lit "language", .str brief.locale), (Py.lit "candidate", .str brief.candidateName),
    (Py.lit "office", .str brief.office)]
  else [
    (Py.lit "hook", .str (brief.title ++ Py.lit ": una propuesta clara para " ++ brief.audience ++
      Py.lit ".")),
    (Py.lit "body", .str brief.objective),
    (Py.lit "cta", .str (Py.lit "Conoce la propuesta y participa.")),
    (Py.lit "claim_map", .texts supported), (Py.lit "language", .str brief.locale)]

/-- The `variants`, one for each platform. -/
def variantsOf (brief : MissionBrief) (supported : List Str) : Obj :=
  dictOf (brief.platforms.map fun p => (p.value, .obj (variant T brief supported)))

/-- `copy_payload` -/
def copyPayload (brief : MissionBrief) (claims : Json) : Except Exn Obj := do
  let claims ← claimObjects claims
  return [
    (Py.lit "variants", .obj (variantsOf T brief (supportedIds I claims))),
    (Py.lit "claims_status", .str (Py.lit (if brief.political then "grounded_requires_human_review"
      else "draft_requires_human_review"))),
    (Py.lit "prohibited_claims", .texts (if brief.political then [
        Py.lit "resultados garantizados", Py.lit "encuestas o respaldos no documentados",
        Py.lit "ataques personales", Py.lit "urgencia o miedo artificial"]
      else []))]

/-- A slide of the carousel. -/
def slide (index : Int) (purpose : String) (copy : Str) : Json := .obj [
  (Py.lit "index", .int index), (Py.lit "purpose", .str (Py.lit purpose)), (Py.lit "copy", .str copy)]

/-- The carousel of a political brief. -/
def carousel (brief : MissionBrief) : Json := .obj [
  (Py.lit "format", .str (Py.lit "carousel")),
  (Py.lit "dimensions", .obj [(Py.lit "width", .int 1080), (Py.lit "height", .int 1350)]),
  (Py.lit "slides", .arr [
    slide 1 "problema" brief.problem, slide 2 "propuesta" brief.proposal,
    slide 3 "evidencia" (Py.lit "Fuentes: " ++
      Py.join (Py.lit "; ") (brief.evidenceClaims.map fun claim =>
        claim.getD "source" "" ++ Py.lit " (" ++ claim.getD "locator" "" ++ Py.lit ")")),
    slide 4 "acción" brief.desiredAction]),
  (Py.lit "alt_text", .str (Py.lit "Carrusel sobre una propuesta de " ++ brief.office ++
    Py.lit " en " ++ brief.locality ++
    Py.lit "; presenta problema, propuesta, fuentes y llamada a la participación.")),
  (Py.lit "rights_status", .str (Py.lit "operator_must_confirm"))]

/-- `media_payload` -/
def mediaPayload (brief : MissionBrief) (video imageToVideo : Obj) : Obj :=
  [(Py.lit "video", .obj video), (Py.lit "image_to_video", .obj imageToVideo),
    (Py.lit "source_asset_read", .bool false), (Py.lit "media_rendered", .bool false)] ++
  if brief.political then [(Py.lit "instagram", carousel brief)] else []

/-! ## The critique -/

/-- The variants that are objects. -/
def variantObjects (variants : Obj) : List Obj :=
  variants.filterMap fun
    | (_, .obj fields) => some fields
    | _ => none

/-- `rendered_text` -/
def renderedText (variants : List Obj) : Str :=
  T.lower (Py.join (Py.lit " ") (variants.flatMap fun v =>
    [strOr I v "hook" "", strOr I v "body" "", strOr I v "cta" ""]))

/-- `office_message_alignment` -/
def officeAligned (brief : MissionBrief) (rendered : Str) : Bool :=
  let office := T.lower (Py.strip brief.office)
  if office = Py.lit "alcalde" then
    ["municipio", "municipal"].any fun term => Py.contains rendered (Py.lit term)
  else if office = Py.lit "diputado" then
    ["legislativa", "legislativo", "congreso", "fiscalizar", "fiscalización"].any
      fun term => Py.contains rendered (Py.lit term)
  else Py.contains rendered office

/-- The ids in the `claim_map` of a variant. -/
def mappedIds (v : Obj) : Except Exn (List Str) := do
  return (← itemsOf (Py.getOr v "claim_map" (.arr []))).map (Py.str I)

/-- The names and outcomes of the checks of a political brief. -/
def politicalChecks (brief : MissionBrief) (claims variants : List Obj) :
    Except Exn (List (String × Bool)) := do
  let supported := supportedIds I claims
  let mapped ← variants.mapM (mappedIds I)
  let rendered := renderedText I T variants
  return [
    ("language_consistency", Py.startswith (T.lower brief.locale) "es"),
    ("office_message_alignment", officeAligned T brief rendered),
    ("evidence_verified", supported.dedup.length == brief.evidenceClaims.length),
    ("evidence_coverage", !supported.isEmpty && mapped.flatten.all supported.contains &&
      supported.all mapped.flatten.contains),
    ("source_visibility", brief.evidenceClaims.all fun claim =>
      Py.contains rendered (T.lower (Py.strip (claim.getD "source" "")))),
    ("office_relevance", Py.strip brief.office ≠ [] && Py.strip brief.locality ≠ []),
    ("disclosure_present", variants.all fun v =>
      Py.contains (T.lower (strOr I v "body" "")) (T.lower (Py.strip brief.disclosure))),
    ("legal_review_approved", brief.legalReviewStatus == Py.lit "approved" &&
      Py.strip brief.legalReviewedBy ≠ []),
    ("instruction_injection_absent", !injects T rendered &&
      (claims.flatMap (evidenceTexts I)).all fun text => !injects T text),
    ("unsupported_promotion_absent", !overclaims T rendered),
    ("unsupported_numeric_claim_absent", numbersSupported I T rendered claims),
    ("legal_review_gate_present", true)]

/-- The checks that every brief passes. -/
def sandboxChecks : List (String × Bool) :=
  [("sandbox_only", true), ("human_greenlight_required", true), ("publisher_not_run", true),
    ("media_not_rendered", true)]

/-- A check as JSON. -/
def checkJson (c : String × Bool) : Json :=
  .obj [(Py.lit "name", .str (Py.lit c.1)), (Py.lit "passed", .bool c.2)]

/-- The payload of a critique with these political checks. -/
def critiqueOf (brief : MissionBrief) (political : List (String × Bool)) : Obj :=
  let checks := sandboxChecks ++ political
  let passed := checks.all (·.2)
  let eligible := political.all (·.2)
  [(Py.lit "passed", .bool passed), (Py.lit "publication_eligible", .bool eligible),
    (Py.lit "decision", .str (Py.lit (if passed && eligible then "pass" else "revise"))),
    (Py.lit "checks", .arr (checks.map checkJson)),
    (Py.lit "human_greenlight_required", .bool true),
    (Py.lit "legal_review_required", .bool brief.political),
    (Py.lit "limitations", .texts (if brief.political then [
        Py.lit "language_consistency validates the declared locale and deterministic copy rules; it is not full linguistic review",
        Py.lit "source visibility does not independently prove source authenticity",
        Py.lit "jurisdiction-specific legal review remains an external human gate"]
      else []))]

/-- `critique_payload` -/
def critiquePayload (brief : MissionBrief) (claims variants : Json) : Except Exn Obj :=
  if brief.political then do
    let claims ← claimObjects claims
    match variants with
    | .obj variants =>
      return critiqueOf brief (← politicalChecks I T brief claims (variantObjects variants))
    | _ => throw (.typeError "object has no attribute 'values'")
  else return critiqueOf brief []

/-! ## What they raise -/

theorem itemsOf_raises {j : Json} : NoGreenlightError (itemsOf j) := by
  intro e he
  cases j <;> cases he <;> rfl

theorem claimObjects_raises {claims : Json} : NoGreenlightError (claimObjects claims) := by
  refine itemsOf_raises.bind fun items => mapM_raises fun j => ?_
  intro e he
  cases j <;> cases he <;> rfl

theorem claimLedger_raises {P : Platform} {brief : MissionBrief} {runId : Str} :
    NoGreenlightError (claimLedger P brief runId) :=
  mapM_raises fun _ => stableId_raises.bind fun _ => .ok _

theorem copyPayload_raises {brief : MissionBrief} {claims : Json} :
    NoGreenlightError (copyPayload I T brief claims) :=
  claimObjects_raises.bind fun _ => .ok _

theorem politicalChecks_raises {brief : MissionBrief} {claims variants : List Obj} :
    NoGreenlightError (politicalChecks I T brief claims variants) :=
  (mapM_raises fun _ => itemsOf_raises.bind fun _ => .ok _).bind fun _ => .ok _

theorem critiquePayload_raises {brief : MissionBrief} {claims variants : Json} :
    NoGreenlightError (critiquePayload I T brief claims variants) := by
  unfold critiquePayload
  split
  · refine claimObjects_raises.bind fun claims => ?_
    cases variants with
    | obj fields => exact (politicalChecks_raises I T).bind fun _ => .ok _
    | null | bool | int | float | str | arr => intro e he; cases he; rfl
  · exact .ok _

end Campaign

/-- The payload functions an orchestrator runs. -/
def campaignIntelligence (I : Interpreter) (T : TextLibrary) : CampaignIntelligence where
  claimLedger brief runId :=
    asFailure (Campaign.claimLedger I.toPlatform brief runId) Campaign.claimLedger_raises
  strategyPayload brief := .ok (Campaign.strategyPayload brief)
  growthPayload brief fixture := .ok (Campaign.growthPayload brief fixture)
  copyPayload brief claims :=
    asFailure (Campaign.copyPayload I T brief claims) (Campaign.copyPayload_raises I T)
  mediaPayload brief video imageToVideo := .ok (Campaign.mediaPayload brief video imageToVideo)
  critiquePayload brief claims variants :=
    asFailure (Campaign.critiquePayload I T brief claims variants)
      (Campaign.critiquePayload_raises I T)

/-- The code the runtime's orchestrators are built on. -/
def agency (I : Interpreter) (T : TextLibrary) : Agency := ⟨I, campaignIntelligence I T⟩

end AgencyRuntime
