import AgencyRuntime.Orchestrator.Document

/-!
# Documents read back

What `execution_run_from_document` makes of the document of a run (`fromDocument_toDocument`): the
run itself, with the members of its free-form payloads in the order of their names and its evidence
claims cut to the five texts the runtime knows. Each record has one lemma.
-/

namespace AgencyRuntime

/-! ## Enumerations -/

@[simp] theorem TargetPlatform.of_value (p : TargetPlatform) : of (.str p.value) = .ok p := by
  cases p <;> rfl

@[simp] theorem AgentRole.of_value (role : AgentRole) : of (.str role.value) = .ok role := by
  cases role <;> rfl

@[simp] theorem AgentStatus.of_value (s : AgentStatus) : of (.str s.value) = .ok s := by
  cases s <;> rfl

@[simp] theorem RunStatus.of_value (s : RunStatus) : of (.str s.value) = .ok s := by
  cases s <;> rfl

@[simp] theorem GreenlightDecision.of_value (d : GreenlightDecision) : of (.str d.value) = .ok d := by
  cases d <;> rfl

@[simp] theorem ExecutionState.of_value (s : ExecutionState) : of (.str s.value) = .ok s := by
  cases s <;> rfl

/-! ## Records -/

/-- The evidence as it is read back. -/
def ToolEvidence.reloaded (e : ToolEvidence) : ToolEvidence := { e with payload := members e.payload }

/-- The artifact as it is read back. -/
def Artifact.reloaded (a : Artifact) : Artifact := { a with payload := members a.payload }

/-- The evidence claim as it is read back. -/
def TextMap.reloaded (claim : TextMap) : TextMap := [
  (Py.lit "statement", claim.getD "statement" ""), (Py.lit "source", claim.getD "source" ""),
  (Py.lit "locator", claim.getD "locator" ""),
  (Py.lit "verification_status", claim.getD "verification_status" "unverified"),
  (Py.lit "reviewed_by", claim.getD "reviewed_by" "")]

/-- A claim is checked through the texts that are kept. -/
theorem checkEvidenceClaim_reloaded (claim : TextMap) :
    checkEvidenceClaim claim.reloaded = checkEvidenceClaim claim := rfl

/-- The brief as it is read back. -/
def BriefDraft.reloaded (b : BriefDraft) : BriefDraft :=
  { b with evidenceClaims := b.evidenceClaims.map TextMap.reloaded }

theorem check_congr {c d : Prop} [Decidable c] [Decidable d] {e : Exn} (h : c ↔ d) :
    check c e = check d e := by
  unfold check
  by_cases hd : d
  · rw [if_pos hd, if_pos (h.2 hd)]
  · rw [if_neg hd, if_neg (mt h.1 hd)]

theorem BriefDraft.checkPolitical_reloaded (b : BriefDraft) :
    b.reloaded.checkPolitical = b.checkPolitical := by
  have hnil : b.reloaded.evidenceClaims ≠ [] ↔ b.evidenceClaims ≠ [] :=
    not_congr List.map_eq_nil_iff
  unfold BriefDraft.checkPolitical
  rw [check_congr hnil]
  rfl

theorem BriefDraft.postInit_reloaded (b : BriefDraft) : b.reloaded.postInit = b.postInit := by
  unfold BriefDraft.postInit
  rw [checkPolitical_reloaded]
  simp only [BriefDraft.reloaded, List.forIn_map, checkEvidenceClaim_reloaded]
  rfl

def MissionBrief.reloaded (b : MissionBrief) : MissionBrief :=
  ⟨b.toBriefDraft.reloaded, by rw [BriefDraft.postInit_reloaded, b.checked]⟩

/-- The run as it is read back. -/
def ExecutionRun.reloaded (run : ExecutionRun) : ExecutionRun :=
  { run with
    brief := run.brief.reloaded
    artifacts := run.artifacts.map Artifact.reloaded
    evidence := run.evidence.map ToolEvidence.reloaded }

namespace Serialization

variable {I : Interpreter}

theorem mapping_normal (fields : Obj) : mapping (Json.obj fields).normal = .ok (members fields) := by
  rw [normal_eq_members]
  rfl

theorem natOf_nat (n : Nat) : natOf (.int n) = .ok n := by
  unfold natOf
  refine exceptBind_eq rfl ?_
  refine exceptBind_eq ((check_ok (u := ())).2 (Int.natCast_nonneg n)) ?_
  exact congrArg Except.ok (Int.toNat_natCast n)

theorem percentOf_fin (n : Fin 101) : percentOf (.int n.val) = .ok n := by
  unfold percentOf
  refine exceptBind_eq rfl ?_
  rw [dif_pos ⟨Int.natCast_nonneg _, by omega⟩]
  rfl

theorem textsOf_reads {o fields : Obj} {name : String} {texts : List Str} {default : Json}
    (h : Holds o fields) (ht : fields.lookup (Py.lit name) = some (.texts texts)) :
    textsOf (Py.getOr o name default) = .ok texts := by
  rw [getOr_holds h ht, Json.texts, normal_texts]
  exact textsOf_texts texts

theorem artifactFrom_fields (a : Artifact) :
    artifactFrom I (Json.obj a.fields).normal = .ok a.reloaded := by
  have h : Holds (members a.fields) a.fields := holds_members _
  unfold artifactFrom
  refine exceptBind_eq (mapping_normal _) ?_
  refine exceptBind_eq (strItem_holds h rfl) ?_
  refine exceptBind_eq (strItem_holds h rfl) ?_
  refine exceptBind_eq (strItem_holds h rfl) ?_
  refine exceptBind_eq (strItem_holds h rfl) ?_
  refine exceptBind_eq (AgentRole.of_value _) ?_
  refine exceptBind_eq (item_holds h rfl) ?_
  refine exceptBind_eq (mapping_normal _) ?_
  exact exceptBind_eq (textsOf_reads h rfl) rfl

theorem evidenceFrom_fields (e : ToolEvidence) :
    evidenceFrom I (Json.obj e.fields).normal = .ok e.reloaded := by
  have h : Holds (members e.fields) e.fields := holds_members _
  unfold evidenceFrom
  refine exceptBind_eq (mapping_normal _) ?_
  refine exceptBind_eq (strItem_holds h rfl) ?_
  refine exceptBind_eq (strItem_holds h rfl) ?_
  refine exceptBind_eq (strItem_holds h rfl) ?_
  refine exceptBind_eq (item_holds h rfl) ?_
  refine exceptBind_eq (strItem_holds h rfl) ?_
  refine exceptBind_eq (item_holds h rfl) ?_
  refine exceptBind_eq (mapping_normal _) ?_
  exact exceptBind_eq (textsOf_reads h rfl) rfl

theorem eventFrom_fields (e : TraceEvent) :
    eventFrom I (Json.obj e.fields).normal = .ok e := by
  have h : Holds (members e.fields) e.fields := holds_members _
  unfold eventFrom
  refine exceptBind_eq (mapping_normal _) ?_
  refine exceptBind_eq (item_holds h rfl) ?_
  refine exceptBind_eq (natOf_nat e.sequence) ?_
  refine exceptBind_eq (strItem_holds h rfl) ?_
  refine exceptBind_eq (strItem_holds h rfl) ?_
  refine exceptBind_eq (AgentRole.of_value _) ?_
  refine exceptBind_eq (strItem_holds h rfl) ?_
  refine exceptBind_eq (strItem_holds h rfl) ?_
  refine exceptBind_eq (strItem_holds h rfl) ?_
  refine exceptBind_eq (textsOf_reads h rfl) ?_
  exact exceptBind_eq (textsOf_reads h rfl) rfl

theorem stateFrom_fields (role : AgentRole) (s : AgentState) :
    stateFrom I (role.value, (Json.obj (s.fields role)).normal) = .ok (role, s) := by
  have h : Holds (members (s.fields role)) (s.fields role) := holds_members _
  unfold stateFrom
  refine exceptBind_eq (mapping_normal _) ?_
  refine exceptBind_eq (AgentRole.of_value _) ?_
  refine exceptBind_eq (strItem_holds h rfl) ?_
  refine exceptBind_eq (AgentStatus.of_value _) ?_
  refine exceptBind_eq (item_holds h rfl) ?_
  refine exceptBind_eq (percentOf_fin s.progress) ?_
  refine exceptBind_eq (strItem_holds h rfl) ?_
  exact exceptBind_eq (textsOf_reads h rfl) rfl

theorem itemsOf_reads {o fields : Obj} {name : String} {items : List Json} {default : Json}
    (h : Holds o fields) (hi : fields.lookup (Py.lit name) = some (.arr items)) :
    itemsOf (Py.getOr o name default) = .ok (items.map Json.normal) := by
  rw [getOr_holds h hi, normal_arr]
  rfl

theorem mapM_map {α β γ : Type} {encode : α → β} {decode : β → Except Exn γ} {g : α → γ}
    (h : ∀ a, decode (encode a) = .ok (g a)) {xs : List α} :
    (xs.map encode).mapM decode = .ok (xs.map g) := by
  induction xs with
  | nil => rfl
  | cons x xs ih =>
    rw [List.map_cons, List.mapM_cons, h, ih]
    rfl

/-- Records that are each read back as `g` of them. -/
theorem mapM_records {α β : Type} {encode : α → Json} {decode : Json → Except Exn β} {g : α → β}
    (h : ∀ a, decode (encode a).normal = .ok (g a)) (xs : List α) :
    ((xs.map encode).map Json.normal).mapM decode = .ok (xs.map g) := by
  rw [List.map_map]
  exact mapM_map h

theorem channels_records (platforms : List TargetPlatform) :
    (((platforms.map (·.value)).map Json.str).map Json.normal).mapM TargetPlatform.of =
      .ok platforms := by
  have h : ((platforms.map fun p => Json.str p.value).map Json.normal).mapM TargetPlatform.of =
      .ok (platforms.map id) := mapM_records (fun p => TargetPlatform.of_value p) platforms
  rw [List.map_id] at h
  rwa [List.map_map (f := TargetPlatform.value)]

/-- A brief is built from what was kept of it. -/
theorem build_brief (b : MissionBrief) : b.toBriefDraft.build = .ok b := by
  unfold BriefDraft.build
  split
  · rfl
  · next e he =>
    rw [b.checked] at he
    cases he

/-- A Greenlight is built from what was kept of it. -/
theorem build_greenlight (g : Greenlight) : g.toGreenlightDraft.build = .ok g := by
  unfold GreenlightDraft.build
  split
  · rfl
  · next e he =>
    rw [g.checked] at he
    cases he

theorem greenlightFrom_fields (g : Greenlight) :
    greenlightFrom I (Json.obj g.fields).normal = .ok g := by
  have h : Holds (members g.fields) g.fields := holds_members _
  unfold greenlightFrom
  refine exceptBind_eq (mapping_normal _) ?_
  refine exceptBind_eq (strItem_holds h rfl) ?_
  refine exceptBind_eq (strItem_holds h rfl) ?_
  refine exceptBind_eq (strItem_holds h rfl) ?_
  refine exceptBind_eq (GreenlightDecision.of_value _) ?_
  refine exceptBind_eq (strItem_holds h rfl) ?_
  refine exceptBind_eq (strItem_holds h rfl) ?_
  refine exceptBind_eq (textsOf_reads h rfl) ?_
  refine exceptBind_eq (textsOf_reads h rfl) ?_
  refine exceptBind_eq (itemsOf_reads h rfl) ?_
  refine exceptBind_eq (channels_records _) ?_
  rw [getOr_holds h rfl, getOr_holds h rfl]
  refine exceptBind_eq rfl ?_
  refine exceptBind_eq rfl ?_
  rw [strOr_holds h rfl, strOption_holds h rfl, strOr_holds h rfl, strOr_holds h rfl]
  exact build_greenlight g

theorem optionalGreenlight_fields (g : Option Greenlight) :
    optionalGreenlight I (g.elim .null fun g => .obj g.fields : Json).normal = .ok g := by
  cases g with
  | none => rfl
  | some g =>
    have hg := greenlightFrom_fields (I := I) g
    rw [normal_eq_members] at hg
    change optionalGreenlight I (Json.obj g.fields).normal = _
    rw [normal_eq_members]
    exact exceptBind_eq hg rfl

theorem executionFrom_fields (e : RunExecution) :
    executionFrom I (Json.obj e.fields).normal = .ok e := by
  have h : Holds (members e.fields) e.fields := holds_members _
  rw [normal_eq_members]
  unfold executionFrom
  dsimp only
  refine exceptBind_eq rfl ?_
  rw [strOr_holds h rfl]
  refine exceptBind_eq (ExecutionState.of_value _) ?_
  rw [getOr_holds h rfl, getOr_holds h rfl]
  refine exceptBind_eq (natOf_nat _) ?_
  refine exceptBind_eq (natOf_nat _) ?_
  have howner : strOr I (members e.fields) "lease_owner" "" = e.leaseOwner := strOr_holds h rfl
  have hexpires : strOption I (members e.fields) "lease_expires_at" = e.leaseExpiresAt :=
    strOption_holds h rfl
  have hstation : strOr I (members e.fields) "next_station" "ceo" = e.nextStation :=
    strOr_holds h rfl
  have hcheckpoint : strOption I (members e.fields) "checkpointed_at" = e.checkpointedAt :=
    strOption_holds h rfl
  have hdetail : strOr I (members e.fields) "failure_detail" "" = e.failureDetail :=
    strOr_holds h rfl
  simp only [howner, hexpires, hstation, hcheckpoint, hdetail]
  rw [dif_pos e.leased]
  rfl

theorem strOr_claim (claim : TextMap) (name default : String) :
    strOr I (members (claim.map fun m => (m.1, .str m.2))) name default =
      claim.getD name default := by
  rw [strOr, Py.getOr, holds_members, lookup_map, TextMap.getD]
  cases claim.lookup (Py.lit name) <;> rfl

theorem claimFrom_fields (claim : TextMap) :
    claimFrom I (Json.obj (claim.map fun m => (m.1, .str m.2))).normal = .ok claim.reloaded := by
  unfold claimFrom
  refine exceptBind_eq (mapping_normal _) ?_
  simp only [strOr_claim]
  rfl

theorem briefFrom_fields (b : MissionBrief) : briefFrom I b.toJson.normal = .ok b.reloaded := by
  unfold BriefDraft.toJson briefFrom
  have h := holds_members b.fields
  refine exceptBind_eq (mapping_normal _) ?_
  refine exceptBind_eq (strItem_holds h rfl) ?_
  refine exceptBind_eq (strItem_holds h rfl) ?_
  refine exceptBind_eq (strItem_holds h rfl) ?_
  refine exceptBind_eq (item_holds h rfl) ?_
  rw [Json.texts, normal_arr]
  refine exceptBind_eq rfl ?_
  refine exceptBind_eq (channels_records _) ?_
  rw [getOr_holds h rfl]
  refine exceptBind_eq rfl ?_
  refine exceptBind_eq (itemsOf_reads h rfl) ?_
  refine exceptBind_eq (mapM_records claimFrom_fields b.evidenceClaims) ?_
  rw [strOr_holds h rfl, strOr_holds h rfl, strOr_holds h rfl, strOr_holds h rfl,
    strOr_holds h rfl, strOr_holds h rfl, strOr_holds h rfl, strOr_holds h rfl,
    strOr_holds h rfl, strOr_holds h rfl, strOr_holds h rfl, strOr_holds h rfl,
    strOr_holds h rfl, strOr_holds h rfl, strOr_holds h rfl]
  exact build_brief b.reloaded

theorem statesFrom_fields (states : AgentRole → AgentState) :
    statesFrom I (Json.obj (statesFields states)).normal = .ok states := by
  have hsorted : members (statesFields states) =
      ([.ceo, .growth, .media, .publisher, .research, .risk, .strategist, .writer] :
        List AgentRole).map fun role =>
          (role.value, (Json.obj ((states role).fields role)).normal) := rfl
  unfold statesFrom
  rw [normal_eq_members, hsorted]
  refine exceptBind_eq rfl ?_
  refine exceptBind_eq (mapM_map fun role => stateFrom_fields role (states role)) ?_
  refine exceptBind_eq ((check_ok (u := ())).2 ?_) ?_
  · intro role _
    cases role <;> rfl
  · refine congrArg Except.ok (funext fun role => ?_)
    cases role <;> rfl

/-- The document of a run is read back as the run with its payloads in order. -/
theorem fromDocument_toDocument (run : ExecutionRun) :
    executionRunFromDocument I (executionRunToDocument run) = .ok run.reloaded := by
  have h : Holds (members run.fields) run.fields := holds_members _
  unfold executionRunFromDocument executionRunToDocument ExecutionRun.toJson
  refine exceptBind_eq (mapping_normal _) ?_
  refine exceptBind_eq (item_holds h rfl) ?_
  refine exceptBind_eq (briefFrom_fields run.brief) ?_
  refine exceptBind_eq (item_holds h rfl) ?_
  refine exceptBind_eq (statesFrom_fields run.agentStates) ?_
  refine exceptBind_eq (itemsOf_reads h rfl) ?_
  refine exceptBind_eq (mapM_records artifactFrom_fields run.artifacts) ?_
  refine exceptBind_eq (itemsOf_reads h rfl) ?_
  refine exceptBind_eq (mapM_records evidenceFrom_fields run.evidence) ?_
  refine exceptBind_eq (itemsOf_reads h rfl) ?_
  refine exceptBind_eq (mapM_records (g := id) eventFrom_fields run.trace) ?_
  rw [List.map_id]
  rw [get_holds h rfl]
  refine exceptBind_eq (optionalGreenlight_fields run.greenlight) ?_
  rw [get_holds h rfl]
  refine exceptBind_eq (executionFrom_fields run.execution) ?_
  refine exceptBind_eq (strItem_holds h rfl) ?_
  refine exceptBind_eq (strItem_holds h rfl) ?_
  refine exceptBind_eq (RunStatus.of_value _) ?_
  refine exceptBind_eq (strItem_holds h rfl) ?_
  rw [strOption_holds h rfl]
  rfl

end Serialization

end AgencyRuntime
