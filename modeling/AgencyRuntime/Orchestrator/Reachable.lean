import AgencyRuntime.Orchestrator.StateMachine
import AgencyRuntime.Orchestrator.Stored

/-!
# Reachable runs

The stations make values out of values (`runStation_kept`), so every call of the orchestrator keeps
`Kept` (`perform_kept`), and with it every command of the API does (`Reachable.kept`).
-/

namespace AgencyRuntime

open Effects Orchestrator

variable {F : Floats} {I : Interpreter} {T : TextLibrary}

/-! ## Payloads -/

theorem isValue_update {o new : Obj} (ho : (Json.obj o).IsValue F)
    (hnew : (Json.obj new).IsValue F) : (Json.obj (Py.update o new)).IsValue F := by
  rw [isValue_obj] at ho hnew ⊢
  obtain ⟨honames, hovalues⟩ := ho
  obtain ⟨hnames, hvalues⟩ := hnew
  constructor
  · rw [Py.update, List.map_append, List.map_map, List.nodup_append]
    refine ⟨honames, hnames.sublist (List.filter_sublist.map _), ?_⟩
    rintro _ hold _ hadded rfl
    obtain ⟨m, hm, hname⟩ := List.mem_map.1 hadded
    obtain ⟨n, hn, rfl⟩ := List.mem_map.1 hold
    have habsent := (List.mem_filter.1 hm).2
    rw [Option.isNone_iff_eq_none, List.lookup_eq_none_iff] at habsent
    exact bne_iff_ne.1 (habsent n hn) hname
  · intro m hm
    rcases List.mem_append.1 hm with hm | hm
    · obtain ⟨n, hn, rfl⟩ := List.mem_map.1 hm
      cases hfind : new.lookup n.1 with
      | none =>
        simp only [Option.getD_none]
        exact hovalues n hn
      | some j =>
        simp only [Option.getD_some]
        exact hvalues _ ((lookup_eq_some hnames).1 hfind)
    · exact hvalues m (List.mem_filter.1 hm).1

theorem isValue_dictOf {fields : Obj} (h : ∀ m ∈ fields, m.2.IsValue F) :
    (Json.obj (dictOf fields)).IsValue F :=
  .obj (dictOf_spec fields).1 fun m hm => h m ((dictOf_spec fields).2 m hm)

/-- A pass over a list returns what its members give, in order. -/
theorem forall₂_mapM {α β : Type} {f : α → Except Exn β} {xs : List α} {ys : List β}
    (h : xs.mapM f = .ok ys) : List.Forall₂ (fun x y => f x = .ok y) xs ys := by
  induction xs generalizing ys with
  | nil =>
    cases h
    exact .nil
  | cons x xs ih =>
    rw [List.mapM_cons] at h
    obtain ⟨b, hb, h⟩ := exceptBind_ok h
    obtain ⟨bs, hbs, h⟩ := exceptBind_ok h
    cases h
    exact .cons hb (ih hbs)

theorem mapM_mem {α β : Type} {f : α → Except Exn β} {xs : List α} {ys : List β}
    (h : xs.mapM f = .ok ys) : ∀ y ∈ ys, ∃ x ∈ xs, f x = .ok y := by
  intro y hy
  obtain ⟨hlen, hget⟩ := List.forall₂_iff_get.1 (forall₂_mapM h)
  obtain ⟨i, hi, rfl⟩ := List.getElem_of_mem hy
  exact ⟨xs.get ⟨i, hlen ▸ hi⟩, List.get_mem .., hget i (hlen ▸ hi) hi⟩

namespace Campaign

theorem isValue_ledgerEntry {P : Platform} {runId : Str} {claim : TextMap} {j : Json}
    (h : ledgerEntry P runId claim = .ok j) : j.IsValue F := by
  obtain ⟨id, -, h⟩ := exceptBind_ok h
  cases h
  rw [isValue_obj]
  simp [Py.lit_inj]

theorem isValue_claimLedger {P : Platform} {brief : MissionBrief} {runId : Str} {claims : List Json}
    (h : claimLedger P brief runId = .ok claims) : (Json.arr claims).IsValue F := by
  refine .arr fun j hj => ?_
  obtain ⟨claim, -, hclaim⟩ := mapM_mem h j hj
  exact isValue_ledgerEntry hclaim

theorem isValue_strategyPayload (brief : MissionBrief) :
    (Json.obj (strategyPayload brief)).IsValue F := by
  unfold strategyPayload
  split <;> · rw [isValue_obj]; simp [isValue_obj, Py.lit_inj]

theorem isValue_growthPayload (brief : MissionBrief) {fixture : Obj}
    (h : (Json.obj fixture).IsValue F) : (Json.obj (growthPayload brief fixture)).IsValue F := by
  unfold growthPayload
  split
  · rw [isValue_obj]
    simp [Py.lit_inj, h]
  · exact h

theorem isValue_variant (brief : MissionBrief) (supported : List Str) :
    (Json.obj (variant T brief supported)).IsValue F := by
  unfold variant
  split <;> · rw [isValue_obj]; simp [Py.lit_inj]

theorem isValue_copyPayload {brief : MissionBrief} {claims : Json} {payload : Obj}
    (h : copyPayload I T brief claims = .ok payload) : (Json.obj payload).IsValue F := by
  obtain ⟨objects, -, h⟩ := exceptBind_ok h
  cases h
  have hvariants : (Json.obj (variantsOf T brief (supportedIds I objects))).IsValue F := by
    refine isValue_dictOf fun m hm => ?_
    obtain ⟨p, -, rfl⟩ := List.mem_map.1 hm
    exact isValue_variant brief _
  rw [isValue_obj]
  simp [Py.lit_inj, hvariants]

theorem isValue_carousel (brief : MissionBrief) : (carousel brief).IsValue F := by
  rw [carousel, isValue_obj]
  simp [isValue_obj, slide, Py.lit_inj]

theorem isValue_mediaPayload (brief : MissionBrief) {video imageToVideo : Obj}
    (hvideo : (Json.obj video).IsValue F) (hmotion : (Json.obj imageToVideo).IsValue F) :
    (Json.obj (mediaPayload brief video imageToVideo)).IsValue F := by
  unfold mediaPayload
  split <;> · rw [isValue_obj]; simp [Py.lit_inj, hvideo, hmotion, isValue_carousel]

theorem isValue_critiqueOf (brief : MissionBrief) (political : List (String × Bool)) :
    (Json.obj (critiqueOf brief political)).IsValue F := by
  have hcheck (c : String × Bool) : (checkJson c).IsValue F := by
    rw [checkJson, isValue_obj]
    simp [Py.lit_inj]
  have hchecks (checks : List (String × Bool)) : (Json.arr (checks.map checkJson)).IsValue F := by
    refine .arr fun j hj => ?_
    obtain ⟨c, -, rfl⟩ := List.mem_map.1 hj
    exact hcheck c
  unfold critiqueOf
  refine .obj (by simp [Py.lit_inj]) ?_
  simp only [List.forall_mem_cons]
  exact ⟨.bool _, .bool _, .str _, hchecks _, .bool _, .bool _, isValue_jsonTexts _, nofun⟩

theorem isValue_critiquePayload {brief : MissionBrief} {claims variants : Json} {payload : Obj}
    (h : critiquePayload I T brief claims variants = .ok payload) :
    (Json.obj payload).IsValue F := by
  unfold critiquePayload at h
  split at h
  · obtain ⟨objects, -, h⟩ := exceptBind_ok h
    cases variants with
    | obj fields =>
      obtain ⟨checks, -, h⟩ := exceptBind_ok h
      cases h
      exact isValue_critiqueOf brief _
    | null | bool | int | float | str | arr => cases h
  · cases h
    exact isValue_critiqueOf brief _

end Campaign

theorem ofFailure_asFailure {α : Type} {x : Except Exn α}
    {h : RaisesOnly (·.isGreenlight = false) x} : ofFailure (asFailure x h) = x := by
  cases x <;> rfl

/-- The tools return values. -/
structure SandboxToolset.Valued (F : Floats) (tools : SandboxToolset) : Prop where
  collect : ∀ query audience platforms, (tools.collect query audience platforms).result.IsValue F ∧
    (tools.collect query audience platforms).evidence.Valued F
  forecast : ∀ objective audience budgetCents platforms,
    (Json.obj (tools.forecast objective audience budgetCents platforms).result).IsValue F ∧
      (tools.forecast objective audience budgetCents platforms).evidence.Valued F
  observe : ∀ url purpose, (tools.observe url purpose).result.IsValue F ∧
    (tools.observe url purpose).evidence.Valued F
  inspect : ∀ repository paths question,
    (tools.inspect repository paths question).result.IsValue F ∧
      (tools.inspect repository paths question).evidence.Valued F
  lookup : ∀ library topic, (tools.lookup library topic).evidence.Valued F
  planVideo : ∀ sourceAsset platform seconds,
    (Json.obj (tools.planVideo sourceAsset platform seconds).result).IsValue F ∧
      (tools.planVideo sourceAsset platform seconds).evidence.Valued F
  planMotion : ∀ sourceAsset prompt seconds,
    (Json.obj (tools.planMotion sourceAsset prompt seconds).result).IsValue F ∧
      (tools.planMotion sourceAsset prompt seconds).evidence.Valued F
  package : ∀ runId platforms artifacts, (tools.package runId platforms artifacts).evidence.Valued F

theorem CampaignPackage.isValue_toObj (p : CampaignPackage) : (Json.obj p.toObj).IsValue F := by
  rw [isValue_obj]
  simp [CampaignPackage.toObj, Py.lit_inj]

/-! ## Stations -/

variable {P : Platform}

/-- `Kept` depends on four fields of a run. -/
theorem Kept.of_eq {run run' : ExecutionRun} (h : Kept F P run) (hbrief : run'.brief = run.brief)
    (hartifacts : run'.artifacts = run.artifacts) (hevidence : run'.evidence = run.evidence)
    (hgreenlight : run'.greenlight = run.greenlight) : Kept F P run' where
  brief := hbrief ▸ h.brief
  artifacts := hartifacts ▸ h.artifacts
  evidence := hevidence ▸ h.evidence
  frozen g hg := hartifacts ▸ h.frozen g (hgreenlight ▸ hg)

theorem Frozen.append {g : Greenlight} {artifacts : List Artifact} (h : Frozen P g artifacts)
    (added : List Artifact) : Frozen P g (artifacts ++ added) := by
  obtain ⟨present, later, rfl, hids, hhashes⟩ := h
  exact ⟨present, later ++ added, List.append_assoc .., hids, hhashes⟩

/-- One more artifact. -/
theorem Kept.append {run run' : ExecutionRun} {a : Artifact} (h : Kept F P run) (ha : a.Valued F)
    (hbrief : run'.brief = run.brief) (hartifacts : run'.artifacts = run.artifacts ++ [a])
    (hevidence : ∀ e ∈ run'.evidence, e.Valued F) (hgreenlight : run'.greenlight = run.greenlight) :
    Kept F P run' where
  brief := hbrief ▸ h.brief
  artifacts b hb := by
    rw [hartifacts, List.mem_append, List.mem_singleton] at hb
    rcases hb with hb | rfl
    · exact h.artifacts b hb
    · exact ha
  evidence := hevidence
  frozen g hg := hartifacts ▸ (h.frozen g (hgreenlight ▸ hg)).append [a]

theorem mem_addEvidence {added kept : List ToolEvidence} {e : ToolEvidence}
    (h : e ∈ added.foldl addEvidence kept) : e ∈ kept ∨ e ∈ added := by
  induction added generalizing kept with
  | nil => exact .inl h
  | cons item added ih =>
    rcases ih h with hkept | hadded
    · unfold addEvidence at hkept
      split at hkept
      · rcases List.mem_append.1 hkept with hkept | hitem
        · exact .inl hkept
        · exact .inr (List.mem_cons.2 (.inl (List.mem_singleton.1 hitem)))
      · exact .inl hkept
    · exact .inr (List.mem_cons_of_mem item hadded)

/-- The method keeps `Kept`. -/
def Keeps (F : Floats) (P : Platform) {α : Type} (p : Action α) : Prop :=
  ∀ s, Kept F P s.run → p.Ends s fun _ s' => Kept F P s'.run

section
variable {α β : Type} {p : Action α} {f : α → Action β}

theorem Keeps.bind (hp : Keeps F P p) (hf : ∀ a, Keeps F P (f a)) : Keeps F P (p >>= f) :=
  fun s hs => (hp s hs).bind (fun _ _ h => h) fun a t ht => hf a t ht

theorem Keeps.ofExcept {x : Except Exn α} (hf : ∀ a, x = .ok a → Keeps F P (f a)) :
    Keeps F P ((Method.ofExcept x : Action α) >>= f) :=
  fun s hs => Method.Ends.ofExcept (fun _ _ => hs) fun a ha => hf a ha s hs

theorem Keeps.theRun {f : ExecutionRun → Action β}
    (hf : ∀ run, Kept F P run → Keeps F P (f run)) : Keeps F P (theRun >>= f) :=
  fun s hs => Method.Ends.update (hf s.run hs s hs)

theorem Keeps.now {f : Str → Action β} (hf : ∀ t, Keeps F P (f t)) :
    Keeps F P (now >>= f) :=
  fun s hs => Method.Ends.update (hf (s.clock 0) { s with clock := _ } hs)

theorem Keeps.modify {g : ExecutionRun → ExecutionRun} {f : Unit → Action β}
    (hg : ∀ run, Kept F P run → Kept F P (g run)) (hf : Keeps F P (f ())) :
    Keeps F P (modifyRun g >>= f) :=
  fun s hs => Method.Ends.change (hf { s with run := g s.run } (hg s.run hs))

theorem Keeps.raise {e : Exn} : Keeps F P (Method.raise e : Action α) := fun _ hs => hs

theorem Keeps.pure {a : α} : Keeps F P (Pure.pure a : Action α) := fun _ hs => hs

theorem Keeps.raiseIf {c : Prop} [Decidable c] {e : Exn} {f : Unit → Action β}
    (hf : Keeps F P (f ())) : Keeps F P ((Method.raiseIf c e : Action Unit) >>= f) :=
  fun s hs => Method.Ends.raiseIf (fun _ => hs) fun _ => hf s hs

end

theorem event_keeps {role : AgentRole} {action : String} {status : AgentStatus} {detail : String}
    {artifactIds evidenceIds : List Str} :
    Keeps F P (event role action status detail artifactIds evidenceIds) :=
  .now fun _ => fun _ hs => hs.of_eq rfl rfl rfl rfl

theorem completeAgent_keeps {A : Agency} {role : AgentRole} {kind title detail : String}
    {payload : Obj} {evidence : List ToolEvidence} (hpayload : (Json.obj payload).IsValue F)
    (hevidence : ∀ e ∈ evidence, e.Valued F) :
    Keeps F P (completeAgent A role kind title payload evidence detail) := by
  refine .theRun fun run _ => .ofExcept fun id _ => ?_
  refine .modify (fun run hrun => ⟨hrun.brief, hrun.artifacts, fun e he => ?_, hrun.frozen⟩) ?_
  · exact (mem_addEvidence he).elim (hrun.evidence e) (hevidence e)
  · refine .modify (fun run hrun => hrun.append (a := ⟨id, _, _, role, payload, _⟩) hpayload rfl rfl
      hrun.evidence rfl) ?_
    exact .modify (fun run hrun => hrun.of_eq rfl rfl rfl rfl) (.bind event_keeps fun _ => .pure)

theorem remember_keeps {R : Reading} {role : AgentRole} {content : Str} {confidence : String}
    {tags : List Str} {artifact : Artifact} {evidence : Option ToolEvidence} :
    Keeps F P (remember R role content confidence tags artifact evidence) :=
  fun _ hs => remember_ends.mono fun _ _ h => h.1 ▸ hs

theorem lookup_isValue {fields : Obj} (h : (Json.obj fields).IsValue F) {name : String} {j : Json}
    (hj : fields.lookup (Py.lit name) = some j) : j.IsValue F := by
  rw [isValue_obj] at h
  exact h.2 _ ((lookup_eq_some h.1).1 hj)

variable {R : Reading}

/-- What a station does keeps `Kept`. -/
theorem runStation_keeps (htools : R.tools.Valued F) (role : AgentRole) :
    Keeps F P (executeRole (agency I T) R role) := by
  cases role with
  | ceo =>
    refine .theRun fun run _ => .bind (completeAgent_keeps ?_ fun e he => ?_) fun _ => .pure
    · rw [isValue_obj]
      simp [Py.lit_inj]
    · exact absurd he List.not_mem_nil
  | research =>
    refine .theRun fun run _ => .ofExcept fun claims hclaims => .bind
      (completeAgent_keeps ?_ fun e he => ?_) fun _ => remember_keeps
    · have hclaims : Campaign.claimLedger I.toPlatform run.brief run.runId = .ok claims :=
        ofFailure_asFailure.symm.trans hclaims
      have hledger := Campaign.isValue_claimLedger (F := F) hclaims
      have htrends := (htools.collect run.brief.objective run.brief.audience run.brief.platforms).1
      have hbrowser := fun url purpose => (htools.observe url purpose).1
      refine .obj (by simp [Py.lit_inj]) ?_
      simp only [List.forall_mem_cons]
      refine ⟨htrends, hbrowser _ _, hledger, ?_, .bool _, nofun⟩
      rw [isValue_obj]
      simp [Py.lit_inj]
    · rcases List.mem_cons.1 he with rfl | he
      · exact (htools.collect _ _ _).2
      · rw [List.mem_singleton.1 he]
        exact (htools.observe _ _).2
  | strategist =>
    refine .theRun fun run _ => .ofExcept fun strategy hstrategy => .bind
      (completeAgent_keeps ?_ fun e he => ?_) fun _ => .ofExcept fun _ _ => remember_keeps
    · cases hstrategy
      refine isValue_update (Campaign.isValue_strategyPayload _) ?_
      rw [isValue_obj]
      simp [Py.lit_inj]
    · rw [List.mem_singleton.1 he]
      exact htools.lookup _ _
  | growth =>
    refine .theRun fun run _ => .ofExcept fun payload hpayload => .bind
      (completeAgent_keeps ?_ fun e he => ?_) fun _ => remember_keeps
    · cases hpayload
      exact Campaign.isValue_growthPayload _ (htools.forecast _ _ _ _).1
    · rw [List.mem_singleton.1 he]
      exact (htools.forecast _ _ _ _).2
  | writer =>
    refine .theRun fun run _ => .ofExcept fun research _ => .ofExcept fun payload hpayload => .bind
      (completeAgent_keeps ?_ fun e he => ?_) fun _ => .ofExcept fun _ _ => remember_keeps
    · exact Campaign.isValue_copyPayload (I := I) (T := T) (ofFailure_asFailure.symm.trans hpayload)
    · exact absurd he List.not_mem_nil
  | media =>
    refine .theRun fun run _ => .ofExcept fun platform _ => .ofExcept fun payload hpayload => .bind
      (completeAgent_keeps ?_ fun e he => ?_) fun _ => remember_keeps
    · cases hpayload
      exact Campaign.isValue_mediaPayload _ (htools.planVideo _ _ _).1 (htools.planMotion _ _ _).1
    · rcases List.mem_cons.1 he with rfl | he
      · exact (htools.planVideo _ _ _).2
      · rw [List.mem_singleton.1 he]
        exact (htools.planMotion _ _ _).2
  | risk =>
    refine .theRun fun run _ => .ofExcept fun research _ => .ofExcept fun writer _ =>
      .ofExcept fun critique hcritique => .bind
      (completeAgent_keeps ?_ fun e he => ?_) fun _ => .ofExcept fun _ _ => .ofExcept fun _ _ =>
        remember_keeps
    · refine isValue_update (Campaign.isValue_critiquePayload (I := I) (T := T)
        (ofFailure_asFailure.symm.trans hcritique)) ?_
      rw [isValue_obj]
      simp [(htools.inspect _ _ _).1]
    · rw [List.mem_singleton.1 he]
      exact (htools.inspect _ _ _).2
  | publisher => exact .raise

/-! ## Calls -/

theorem awaitGreenlight_keeps : Keeps F P awaitGreenlight := by
  refine .theRun fun run _ => ?_
  split
  · exact .pure
  · refine .ofExcept fun riskReport _ => ?_
    refine .modify (fun run hrun => hrun.of_eq rfl rfl rfl rfl) ?_
    refine .modify (fun run hrun => hrun.of_eq rfl rfl rfl rfl) ?_
    exact .modify (fun run hrun => hrun.of_eq rfl rfl rfl rfl) event_keeps

theorem advance_keeps (htools : R.tools.Valued F) : Keeps F P (advance (agency I T) R) := by
  refine .modify (fun run hrun => ?_) (.theRun fun run _ => ?_)
  · unfold takeUp
    split
    · exact hrun.of_eq rfl rfl rfl rfl
    · exact hrun
  · split
    · exact .pure
    · split
      · exact awaitGreenlight_keeps
      · next role _ =>
        refine .modify (fun run hrun => hrun.of_eq rfl rfl rfl rfl) ?_
        split
        · exact .ofExcept fun detail _ =>
            .modify (fun run hrun => hrun.of_eq rfl rfl rfl rfl) event_keeps
        · refine .bind (runStation_keeps htools role) fun _ =>
            .modify (fun run hrun => hrun.of_eq rfl rfl rfl rfl) ?_
          split
          · exact awaitGreenlight_keeps
          · exact .pure
        · exact .raise

theorem complianceRecord_valued {run : ExecutionRun} {reviewer : Str} {record : Artifact}
    (h : complianceRecord P run reviewer = .ok record) : record.Valued F := by
  obtain ⟨hashes, hhashes, h⟩ := exceptBind_ok h
  obtain ⟨disclosure, -, h⟩ := exceptBind_ok h
  obtain ⟨id, -, h⟩ := exceptBind_ok h
  cases h
  have hclaims : (Json.arr hashes).IsValue F := by
    refine .arr fun j hj => ?_
    obtain ⟨claim, -, hclaim⟩ := mapM_mem hhashes j hj
    obtain ⟨_, _, hclaim⟩ := exceptBind_ok hclaim
    obtain ⟨_, _, hclaim⟩ := exceptBind_ok hclaim
    obtain ⟨_, _, hclaim⟩ := exceptBind_ok hclaim
    obtain ⟨_, _, hclaim⟩ := exceptBind_ok hclaim
    cases hclaim
    rw [isValue_obj]
    simp [Py.lit_inj]
  refine .obj (by simp [Py.lit_inj]) ?_
  simp only [List.forall_mem_cons]
  exact ⟨.str _, .str _, .str _, .str _, .str _, hclaims, .str _, nofun⟩

/-- The envelope of a decision is that of the artifacts present. -/
theorem decided_frozen {run : ExecutionRun} {decision : GreenlightDecision}
    {reviewer note decidedAt : Str} {g : Greenlight}
    (h : decided P run decision reviewer note decidedAt = .ok g) : Frozen P g run.artifacts := by
  obtain ⟨hashes, hhashes, h⟩ := exceptBind_ok h
  obtain ⟨id, -, h⟩ := exceptBind_ok h
  have hfields := GreenlightDraft.build_ok h
  refine ⟨run.artifacts, [], (List.append_nil _).symm, ?_, ?_⟩
  · rw [hfields]
  · rw [hfields, hhashes]

theorem finishRejection_keeps {decidedAt : Str} : Keeps F P (finishRejection decidedAt) := by
  refine .modify (fun run hrun => hrun.of_eq rfl rfl rfl rfl) ?_
  refine .modify (fun run hrun => hrun.of_eq rfl rfl rfl rfl) ?_
  refine .modify (fun run hrun => hrun.of_eq rfl rfl rfl rfl) ?_
  exact .modify (fun run hrun => hrun.of_eq rfl rfl rfl rfl) event_keeps

theorem finishApproval_keeps {A : Agency} (htools : R.tools.Valued F) {g : Greenlight} :
    Keeps F P (finishApproval A R g) := by
  refine .modify (fun run hrun => hrun.of_eq rfl rfl rfl rfl) (.bind event_keeps fun _ => ?_)
  refine .theRun fun run _ => .bind (completeAgent_keeps ?_ fun e he => ?_) fun _ => ?_
  · exact CampaignPackage.isValue_toObj _
  · rw [List.mem_singleton.1 he]
    exact htools.package _ _ _
  · refine .modify (fun run hrun => hrun.of_eq rfl rfl rfl rfl) ?_
    refine .modify (fun run hrun => hrun.of_eq rfl rfl rfl rfl) (.now fun _ => ?_)
    exact .modify (fun run hrun => hrun.of_eq rfl rfl rfl rfl) remember_keeps

theorem recordCompliance_keeps {A : Agency} {run : ExecutionRun} {decision : GreenlightDecision}
    {reviewer : Str} : Keeps F P (recordCompliance A run decision reviewer) := by
  unfold recordCompliance
  split
  · refine .ofExcept fun record hrecord => fun s hs => ?_
    exact hs.append (complianceRecord_valued hrecord) rfl rfl hs.evidence rfl
  · exact .pure

/-- A settled decision freezes the artifacts it was made on. -/
theorem settle_keeps {A : Agency} (htools : R.tools.Valued F) {decision : GreenlightDecision}
    {reviewer note decidedAt : Str} :
    Keeps F A.interpreter.toPlatform (settle A R decision reviewer note decidedAt) := by
  intro s hs
  refine Method.Ends.update (Method.Ends.ofExcept (fun e he => hs) fun g hg => ?_)
  refine Method.Ends.change ?_
  have hsettled : Kept F A.interpreter.toPlatform { s.run with greenlight := some g } :=
    { brief := hs.brief
      artifacts := hs.artifacts
      evidence := hs.evidence
      frozen := fun g' hg' => by
        cases hg'
        exact decided_frozen hg }
  cases decision with
  | rejected => exact finishRejection_keeps { s with run := _ } hsettled
  | approved => exact finishApproval_keeps htools { s with run := _ } hsettled

theorem decide_keeps {A : Agency} (htools : R.tools.Valued F) {decision : GreenlightDecision}
    {reviewer note : Str} :
    Keeps F A.interpreter.toPlatform (Orchestrator.decide A R decision reviewer note) :=
  .theRun fun _ _ => .ofExcept fun _ _ => .now fun _ =>
    .bind recordCompliance_keeps fun _ => settle_keeps htools

/-- A revocation keeps the envelope. -/
theorem revoke_keeps {reviewer reason : Str} : Keeps F P (revoke reviewer reason) := by
  intro s hs
  refine Method.Ends.update (Method.Ends.ofExcept (fun _ _ => hs) fun g hg => ?_)
  refine Method.Ends.raiseIf (fun _ => hs) fun _ => Method.Ends.raiseIf (fun _ => hs) fun _ => ?_
  refine Method.Ends.update (Method.Ends.ofExcept (fun _ _ => hs) fun revoked hrevoked => ?_)
  refine Method.Ends.change ?_
  have hgreen : s.run.greenlight = some g := by
    have hg : activeGreenlight s.run = .ok g := hg
    unfold activeGreenlight at hg
    cases hs : s.run.greenlight with
    | none =>
      rw [hs] at hg
      cases hg
    | some g' =>
      simp only [hs] at hg
      split at hg
      · cases hg
        rfl
      · cases hg
  have hfields := GreenlightDraft.build_ok hrevoked
  have hkept : Kept F P { s.run with greenlight := some revoked } :=
    { brief := hs.brief
      artifacts := hs.artifacts
      evidence := hs.evidence
      frozen := fun g' hg' => by
        cases hg'
        obtain ⟨present, later, heq, hids, hhashes⟩ := hs.frozen g hgreen
        refine ⟨present, later, heq, ?_, ?_⟩
        · rw [hfields]
          exact hids
        · rw [hfields]
          exact hhashes }
  have hrest : Keeps F P (do
      modifyRun fun run => { run with status := .revoked }
      modifyRun fun run => { run with execution := { run.execution with state := .completed } }
      modifyRun fun run => run.updateState .publisher .blocked 100
        "Greenlight revoked; all prior effect tokens are fenced."
      event .publisher "greenlight_revoked" .blocked
        "Approval revoked locally; publication remains disabled." [] [] : Action Unit) := by
    refine .modify (fun run hrun => hrun.of_eq rfl rfl rfl rfl) ?_
    refine .modify (fun run hrun => hrun.of_eq rfl rfl rfl rfl) ?_
    exact .modify (fun run hrun => hrun.of_eq rfl rfl rfl rfl) event_keeps
  exact hrest { s with run := _, clock := _ } hkept

/-- Every call keeps `Kept`, whatever it comes to. -/
theorem perform_kept {run : ExecutionRun} (h : Kept F I.toPlatform run) (htools : R.tools.Valued F)
    (call : Call) : Kept F I.toPlatform (call.perform (agency I T) R run).2 := by
  cases call with
  | advance => exact advance_keeps htools ⟨run, R.clock, []⟩ h
  | approve reviewer note => exact decide_keeps (A := agency I T) htools ⟨run, R.clock, []⟩ h
  | reject reviewer note => exact decide_keeps (A := agency I T) htools ⟨run, R.clock, []⟩ h
  | revoke reviewer reason => exact revoke_keeps ⟨run, R.clock, []⟩ h

/-! ## Commands -/

/-- `attach_model_effect_result`: the station of a model's output lists it once. -/
def ExecutionRun.attachCompletion (run : ExecutionRun) (a : Artifact) : ExecutionRun :=
  let state := run.agentStates a.createdBy
  { run with
    artifacts := run.artifacts ++ [a]
    agentStates := Function.update run.agentStates a.createdBy
      { state with artifactIds :=
          if a.artifactId ∈ state.artifactIds then state.artifactIds
          else state.artifactIds ++ [a.artifactId] } }

/-- The runs that the commands of the API make, whatever they read and wherever they stop. -/
inductive Reachable (I : Interpreter) (T : TextLibrary) (F : Floats) : ExecutionRun → Prop
  /-- `create` -/
  | created {request : BriefRequest} {brief : MissionBrief} (runId : Str) (asynchronous : Bool)
      (now : Str) : briefOf request = .ok brief →
      Reachable I T F (newRun runId brief asynchronous now)
  /-- `advance`, `approve`, `reject` and `revoke` -/
  | called {run : ExecutionRun} {R : Reading} (call : Call) : Reachable I T F run →
      R.tools.Valued F → Reachable I T F (call.perform (agency I T) R run).2
  /-- `execute_one_queued_run` leases, checkpoints or fails the run. -/
  | executed {run : ExecutionRun} (status : RunStatus) (execution : RunExecution) :
      Reachable I T F run →
      Reachable I T F { run with status := status, execution := execution }
  /-- `attach_publication_media` -/
  | mediaAttached {run : ExecutionRun} {a : Artifact} : Reachable I T F run → a.Valued F →
      Reachable I T F (run.addArtifact a)
  /-- `attach_model_effect_result` -/
  | completionAttached {run : ExecutionRun} {a : Artifact} : Reachable I T F run → a.Valued F →
      Reachable I T F (run.attachCompletion a)
  /-- `save` and `get` -/
  | loaded {run run' : ExecutionRun} {document : Str} : Reachable I T F run →
      storedDocument run = .ok document → readDocument I F document = .ok run' →
      Reachable I T F run'

theorem Reachable.kept {run : ExecutionRun} (h : Reachable I T F run) : Kept F I.toPlatform run := by
  induction h with
  | created runId asynchronous now hbrief =>
    exact ⟨briefOf_complete hbrief, nofun, nofun, nofun⟩
  | called call _ htools ih => exact perform_kept ih htools call
  | executed status execution _ ih => exact ih.of_eq rfl rfl rfl rfl
  | mediaAttached _ ha ih => exact ih.append ha rfl rfl ih.evidence rfl
  | completionAttached _ ha ih => exact ih.append ha rfl rfl ih.evidence rfl
  | loaded _ hs hr ih =>
    obtain rfl := Except.ok.inj ((ih.readDocument hs).symm.trans hr)
    exact ih.reloaded

/-! ## What was approved -/

/-- The recheck of `prepare_social_publication`: the hash of the artifact that an id names, and the
one that the Greenlight froze for the id. -/
def recheck (P : Platform) (run : ExecutionRun) (g : Greenlight) (artifactId : Str) :
    Option (Except Exn Str × Str) := do
  let artifact ← run.artifacts.reverse.find? (·.artifactId == artifactId)
  let expected ← g.approvedArtifactHashes[g.approvedArtifactIds.idxOf artifactId]?
  return (approvedHash P artifact, expected)

/-- No two artifacts of the run share an id. -/
def Identified (run : ExecutionRun) : Prop :=
  ∀ a ∈ run.artifacts, ∀ b ∈ run.artifacts, a.artifactId = b.artifactId → a = b

/-- The frozen artifacts pass the recheck. -/
theorem Kept.recheck {run : ExecutionRun} {g : Greenlight} (h : Kept F P run)
    (hg : run.greenlight = some g) (hids : Identified run) {artifactId : Str}
    (hid : artifactId ∈ g.approvedArtifactIds) :
    ∃ hash, AgencyRuntime.recheck P run g artifactId = some (.ok hash, hash) := by
  obtain ⟨present, later, hartifacts, henvelope, hhashes⟩ := h.frozen g hg
  obtain ⟨hlen, hget⟩ := List.forall₂_iff_get.1 (forall₂_mapM hhashes)
  have hi := List.idxOf_lt_length_of_mem hid
  have hname := List.getElem_idxOf hi
  unfold AgencyRuntime.recheck
  generalize g.approvedArtifactIds.idxOf artifactId = i at hi hname ⊢
  have hpresent : i < present.length := by simpa [henvelope] using hi
  have hhash : i < g.approvedArtifactHashes.length := hlen ▸ hpresent
  have hat : present[i].artifactId = artifactId := by simpa [henvelope] using hname
  have hmem : present[i] ∈ run.artifacts :=
    hartifacts ▸ List.mem_append_left later (List.getElem_mem hpresent)
  have hfind : run.artifacts.reverse.find? (·.artifactId == artifactId) = some present[i] := by
    cases hfound : run.artifacts.reverse.find? (·.artifactId == artifactId) with
    | none =>
      have habsent := List.find?_eq_none.1 hfound _ (List.mem_reverse.2 hmem)
      exact absurd (beq_iff_eq.2 hat) habsent
    | some b =>
      have hb : b.artifactId = artifactId := by simpa using List.find?_some hfound
      have hbmem := List.mem_reverse.1 (List.mem_of_find?_eq_some hfound)
      rw [hids b hbmem _ hmem (hb.trans hat.symm)]
  refine ⟨g.approvedArtifactHashes[i], ?_⟩
  have hsame : approvedHash P present[i] = .ok g.approvedArtifactHashes[i] := hget i hpresent hhash
  rw [hfind, List.getElem?_eq_getElem hhash]
  exact congrArg (fun r => some (r, g.approvedArtifactHashes[i])) hsame

/-- What storing and reading back leave as it was. -/
structure Preserved (P : Platform) (run run' : ExecutionRun) : Prop where
  document : storedDocument run' = storedDocument run
  canonical : (run'.artifacts.map fun a => canonicalJson a.toJson) =
    run.artifacts.map fun a => canonicalJson a.toJson
  greenlight : run'.greenlight = run.greenlight
  recheck : ∀ g artifactId,
    AgencyRuntime.recheck P run' g artifactId = AgencyRuntime.recheck P run g artifactId
  identified : Identified run → Identified run'

theorem Preserved.refl (run : ExecutionRun) : Preserved P run run :=
  ⟨rfl, rfl, rfl, fun _ _ => rfl, fun h => h⟩

theorem Preserved.trans {run run' run'' : ExecutionRun} (h : Preserved P run run')
    (h' : Preserved P run' run'') : Preserved P run run'' :=
  ⟨h'.document.trans h.document, h'.canonical.trans h.canonical, h'.greenlight.trans h.greenlight,
    fun g id => (h'.recheck g id).trans (h.recheck g id), fun hids => h'.identified (h.identified hids)⟩

theorem Artifact.Valued.approvedHash {a : Artifact} (h : a.Valued F) :
    Orchestrator.approvedHash P a.reloaded = Orchestrator.approvedHash P a := by
  rw [Orchestrator.approvedHash, Orchestrator.approvedHash, h.canonicalJson]

theorem Kept.preserved_reloaded {run : ExecutionRun} (h : Kept F P run) :
    Preserved P run run.reloaded where
  document := by rw [storedDocument, storedDocument, h.toDocument_reloaded]
  canonical := by
    simp only [ExecutionRun.reloaded, List.map_map]
    exact List.map_congr_left fun a ha => (h.artifacts a ha).canonicalJson
  greenlight := rfl
  recheck g artifactId := by
    have hfind : (run.artifacts.map Artifact.reloaded).reverse.find? (·.artifactId == artifactId) =
        (run.artifacts.reverse.find? (·.artifactId == artifactId)).map Artifact.reloaded := by
      rw [← List.map_reverse, List.find?_map]
      rfl
    simp only [AgencyRuntime.recheck, ExecutionRun.reloaded, hfind]
    cases hfound : run.artifacts.reverse.find? (·.artifactId == artifactId) with
    | none => rfl
    | some a =>
      have ha := h.artifacts a (List.mem_reverse.1 (List.mem_of_find?_eq_some hfound))
      simp only [Option.map_some, Option.bind_eq_bind, Option.bind_some, ha.approvedHash]
  identified hids a ha b hb hab := by
    obtain ⟨a, hamem, rfl⟩ := List.mem_map.1 ha
    obtain ⟨b, hbmem, rfl⟩ := List.mem_map.1 hb
    rw [hids a hamem b hbmem hab]

/-- Any number of cycles succeeds once the run has a document. -/
theorem Kept.cycles {run : ExecutionRun} (h : Kept F I.toPlatform run) {document : Str}
    (hs : storedDocument run = .ok document) (n : Nat) :
    ∃ run', AgencyRuntime.cycles I F n run = .ok run' ∧ Kept F I.toPlatform run' ∧
      Preserved I.toPlatform run run' := by
  induction n generalizing run with
  | zero => exact ⟨run, rfl, h, .refl run⟩
  | succ n ih =>
    have hone := h.preserved_reloaded
    obtain ⟨run', hcycles, hkept, hrest⟩ := ih h.reloaded (hone.document.trans hs)
    refine ⟨run', ?_, hkept, hone.trans hrest⟩
    exact exceptBind_eq hs (exceptBind_eq (h.readDocument hs) hcycles)

/-- Reload preserves what was approved. -/
theorem Reachable.reload {run : ExecutionRun} (h : Reachable I T F run) {document : Str}
    (hs : storedDocument run = .ok document) (n : Nat) :
    ∃ run', AgencyRuntime.cycles I F n run = .ok run' ∧ storedDocument run' = .ok document ∧
      (run'.artifacts.map fun a => canonicalJson a.toJson) =
        (run.artifacts.map fun a => canonicalJson a.toJson) ∧
      run'.greenlight = run.greenlight ∧
      ∀ g, run.greenlight = some g →
        Frozen I.toPlatform g run'.artifacts ∧
        (∀ artifactId, AgencyRuntime.recheck I.toPlatform run' g artifactId =
          AgencyRuntime.recheck I.toPlatform run g artifactId) ∧
        (Identified run → ∀ artifactId ∈ g.approvedArtifactIds,
          ∃ hash, AgencyRuntime.recheck I.toPlatform run' g artifactId = some (.ok hash, hash)) := by
  obtain ⟨run', hcycles, hkept, hpreserved⟩ := h.kept.cycles hs n
  refine ⟨run', hcycles, hpreserved.document.trans hs, hpreserved.canonical,
    hpreserved.greenlight, fun g hg => ?_⟩
  have hg' : run'.greenlight = some g := hpreserved.greenlight.trans hg
  exact ⟨hkept.frozen g hg', hpreserved.recheck g, fun hids id hid =>
    hkept.recheck hg' (hpreserved.identified hids) hid⟩

/-! ## A sample run -/

/-- Calls one after another, with the same readings. -/
def performCalls (A : Agency) (R : Reading) (calls : List Call) (run : ExecutionRun) :
    ExecutionRun :=
  calls.foldl (fun run call => (call.perform A R run).2) run

theorem Reachable.calls {run : ExecutionRun} (h : Reachable I T F run) (htools : R.tools.Valued F)
    (calls : List Call) : Reachable I T F (performCalls (agency I T) R calls run) := by
  induction calls generalizing run with
  | nil => exact h
  | cons call calls ih => exact ih (h.called call htools)

namespace Sample

def floats : Floats where
  text _ := Py.lit "NaN"
  isFloatText := isFloatText_nan

def texts : TextLibrary where
  lower s := s
  normalizeText s := s
  numbers _ := []

theorem valued_tools : Orchestrator.Sample.reading.tools.Valued floats := by
  constructor <;> intros <;>
    simp [Orchestrator.Sample.reading, Orchestrator.Sample.evidence, ToolEvidence.Valued,
      isValue_obj]

/-- A request for a commercial run. -/
def request : BriefRequest where
  title := Py.lit "T"
  objective := Py.lit "O"
  audience := Py.lit "A"
  platforms := [.x]
  budgetCents := 0
  sourceAsset := []
  campaignGoal := []
  campaignType := Py.lit "commercial"
  publicationMode := Py.lit "organic"
  locale := Py.lit "es-GT"
  jurisdiction := []
  office := []
  candidateName := []
  locality := []
  problem := []
  proposal := []
  desiredAction := []
  disclosure := []
  legalReviewStatus := Py.lit "pending"
  legalReviewedBy := []
  evidenceClaims := []

/-- The stations one after another, and an approval. -/
def calls : List Call := List.replicate 14 .advance ++ [.approve (Py.lit "reviewer") []]

/-- The run of a brief after these calls. -/
def run (calls : List Call) (brief : MissionBrief) : ExecutionRun :=
  performCalls (agency Orchestrator.Sample.interpreter texts) Orchestrator.Sample.reading calls
    (newRun (Py.lit "run-1") brief true (Py.lit "2026-01-01T00:00:00+00:00"))

end Sample

/-- An approved run that passes three times through the store passes every recheck. -/
theorem Reachable.reload_approved : ∃ run g document, run.greenlight = some g ∧
    g.approvedArtifactIds.length = 7 ∧ storedDocument run = .ok document ∧
    ∃ run', AgencyRuntime.cycles Orchestrator.Sample.interpreter Sample.floats 3 run = .ok run' ∧
      ∀ artifactId ∈ g.approvedArtifactIds, ∃ hash,
        AgencyRuntime.recheck Orchestrator.Sample.interpreter.toPlatform run' g artifactId =
          some (.ok hash, hash) := by
  have hsample : (briefOf Sample.request).toOption.any (fun brief =>
      (Sample.run Sample.calls brief).greenlight.any (·.approvedArtifactIds.length = 7) &&
        (executionRunToDocument (Sample.run Sample.calls brief)).renderable &&
        ((Sample.run Sample.calls brief).artifacts.map (·.artifactId)).Nodup) = true := by
    decide +kernel
  obtain ⟨brief, hbrief, htest⟩ := (Option.any_eq_true _ _).1 hsample
  have hrequest : briefOf Sample.request = .ok brief := by
    cases h : briefOf Sample.request with
    | error e =>
      rw [h] at hbrief
      cases hbrief
    | ok b =>
      rw [h] at hbrief
      cases hbrief
      rfl
  have hreach : Reachable Orchestrator.Sample.interpreter Sample.texts Sample.floats
      (Sample.run Sample.calls brief) :=
    (Reachable.created _ true _ hrequest).calls Sample.valued_tools Sample.calls
  generalize Sample.run Sample.calls brief = run at htest hreach
  rw [Bool.and_eq_true, Bool.and_eq_true, decide_eq_true_eq] at htest
  obtain ⟨⟨hgreen, hrender⟩, hnodup⟩ := htest
  obtain ⟨g, hg, hlength⟩ := (Option.any_eq_true _ _).1 hgreen
  have hdocument : storedDocument run = .ok (canonicalText (executionRunToDocument run)) :=
    if_pos hrender
  obtain ⟨run', hcycles, -, -, -, happroved⟩ := hreach.reload hdocument 3
  refine ⟨run, g, _, hg, of_decide_eq_true hlength, hdocument, run', hcycles, ?_⟩
  refine (happroved g hg).2.2 fun a ha b hb hab => ?_
  exact List.inj_on_of_nodup_map hnodup ha hb hab

end AgencyRuntime
