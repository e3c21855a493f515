import AgencyRuntime.Effects.Follows
import AgencyRuntime.Orchestrator.Reachable

/-!
# Runs that are alike

Two runs are `Alike` when they differ in timestamps, in their execution records and in the order of
payload members only. A station reads of a run its brief and, of earlier payloads, the claim ledger
and the variants, whose texts do not depend on the order of members; so whatever `advance` makes of
one of two runs that are alike, it makes of the other (`advance_follows`).
-/

namespace AgencyRuntime

open Effects Orchestrator

/-! ## Values with the same normal form -/

theorem normal_eq_str {j : Json} {s : Str} : j.normal = .str s ↔ j = .str s := by
  cases j <;> simp [Json.normal]

theorem normal_eq_bool {j : Json} {b : Bool} : j.normal = .bool b ↔ j = .bool b := by
  cases j <;> simp [Json.normal]

theorem normal_eq_arr {j : Json} {items : List Json} (h : j.normal = .arr items) :
    ∃ xs, j = .arr xs ∧ xs.map Json.normal = items := by
  cases j with
  | arr xs =>
    rw [normal_arr] at h
    exact ⟨xs, rfl, Json.arr.inj h⟩
  | null | bool | int | float | str => cases h
  | obj fields =>
    rw [normal_eq_members] at h
    cases h

theorem normal_eq_obj {j : Json} {m : Obj} (h : j.normal = .obj m) :
    ∃ fields, j = .obj fields ∧ members fields = m := by
  cases j with
  | obj fields =>
    rw [normal_eq_members] at h
    exact ⟨fields, rfl, Json.obj.inj h⟩
  | null | bool | int | float | str => cases h
  | arr xs =>
    rw [normal_arr] at h
    cases h

section
variable {o o' : Obj}

theorem lookup_members_congr (h : members o' = members o) (name : Str) :
    (o'.lookup name).map Json.normal = (o.lookup name).map Json.normal := by
  rw [← holds_members o' name, h, holds_members]

/-- A text is found in both. -/
theorem lookup_str_congr (h : members o' = members o) {name s : Str}
    (hs : o.lookup name = some (.str s)) : o'.lookup name = some (.str s) := by
  have hname := lookup_members_congr h name
  rw [hs, Option.map_some] at hname
  obtain ⟨j, hj, hnormal⟩ := Option.map_eq_some_iff.1 hname
  rw [hj, normal_eq_str.1 hnormal]

theorem lookup_bool_congr (h : members o' = members o) {name : Str} {b : Bool}
    (hb : o.lookup name = some (.bool b)) : o'.lookup name = some (.bool b) := by
  have hname := lookup_members_congr h name
  rw [hb, Option.map_some] at hname
  obtain ⟨j, hj, hnormal⟩ := Option.map_eq_some_iff.1 hname
  rw [hj, normal_eq_bool.1 hnormal]

theorem getOr_members_congr (h : members o' = members o) (name : String) (default : Json) :
    (Py.getOr o' name default).normal = (Py.getOr o name default).normal := by
  have hname := lookup_members_congr h (Py.lit name)
  rw [Py.getOr, Py.getOr]
  cases ho : o.lookup (Py.lit name) with
  | none =>
    rw [ho, Option.map_none, Option.map_eq_none_iff] at hname
    rw [hname]
  | some j =>
    rw [ho, Option.map_some] at hname
    obtain ⟨j', hj', hnormal⟩ := Option.map_eq_some_iff.1 hname
    rw [hj']
    exact hnormal

/-- A flag is set in both or in neither. -/
theorem isTrue_congr (h : members o' = members o) (name : String) :
    Orchestrator.isTrue o' name = Orchestrator.isTrue o name := by
  have hnormal : (Py.get o' name).normal = (Py.get o name).normal :=
    getOr_members_congr h name .null
  unfold Orchestrator.isTrue
  cases hj : Py.get o name with
  | bool b =>
    rw [hj] at hnormal
    rw [normal_eq_bool.1 hnormal]
  | null | int | float | str | arr | obj =>
    rw [hj] at hnormal
    cases hj' : Py.get o' name with
    | bool b =>
      rw [hj'] at hnormal
      have := normal_eq_bool.1 hnormal.symm
      cases this
    | null | int | float | str | arr | obj => rfl

end

theorem map_congr_of_forall₂ {α β γ : Type} {R : α → β → Prop} {f : α → γ} {g : β → γ}
    {xs : List α} {ys : List β} (h : List.Forall₂ R xs ys) (hfg : ∀ x y, R x y → f x = g y) :
    xs.map f = ys.map g := by
  induction h with
  | nil => rfl
  | cons hxy _ ih => rw [List.map_cons, List.map_cons, hfg _ _ hxy, ih]

/-! ## Claims and variants -/

namespace Campaign

/-- The texts and the flag that the writer and the critique read of a claim. -/
structure ClaimTexts (o : Obj) : Prop where
  claimId : ∃ s, o.lookup (Py.lit "claim_id") = some (.str s)
  statement : ∃ s, o.lookup (Py.lit "statement") = some (.str s)
  source : ∃ s, o.lookup (Py.lit "source") = some (.str s)
  locator : ∃ s, o.lookup (Py.lit "locator") = some (.str s)
  supported : ∃ b, o.lookup (Py.lit "supported") = some (.bool b)

/-- A claim of the ledger. -/
def IsClaim (j : Json) : Prop := ∃ o, j = .obj o ∧ ClaimTexts o

theorem isClaim_ledgerEntry {P : Platform} {runId : Str} {claim : TextMap} {j : Json}
    (h : ledgerEntry P runId claim = .ok j) : IsClaim j := by
  obtain ⟨id, -, h⟩ := exceptBind_ok h
  cases h
  exact ⟨_, rfl, ⟨_, rfl⟩, ⟨_, rfl⟩, ⟨_, rfl⟩, ⟨_, rfl⟩, ⟨_, rfl⟩⟩

theorem isClaim_claimLedger {P : Platform} {brief : MissionBrief} {runId : Str} {claims : List Json}
    (h : claimLedger P brief runId = .ok claims) : ∀ j ∈ claims, IsClaim j := by
  intro j hj
  obtain ⟨claim, -, hclaim⟩ := mapM_mem h j hj
  exact isClaim_ledgerEntry hclaim

variable {I : Interpreter} {T : TextLibrary}

/-- The same claim, up to the order of its members. -/
def SameClaim (o' o : Obj) : Prop := ClaimTexts o ∧ members o' = members o

theorem SameClaim.evidenceTexts {o o' : Obj} (h : SameClaim o' o) :
    Campaign.evidenceTexts I o' = Campaign.evidenceTexts I o := by
  obtain ⟨htexts, hsame⟩ := h
  obtain ⟨statement, hstatement⟩ := htexts.statement
  obtain ⟨source, hsource⟩ := htexts.source
  obtain ⟨locator, hlocator⟩ := htexts.locator
  simp only [Campaign.evidenceTexts, strOr, Py.getOr, hstatement, hsource, hlocator,
    lookup_str_congr hsame hstatement, lookup_str_congr hsame hsource,
    lookup_str_congr hsame hlocator]

theorem SameClaim.claimId {o o' : Obj} (h : SameClaim o' o) :
    Py.get o' "claim_id" = Py.get o "claim_id" := by
  obtain ⟨id, hid⟩ := h.1.claimId
  rw [Py.get, Py.get, hid, lookup_str_congr h.2 hid]

/-- The claims are read alike. -/
theorem claimObjects_congr {items claims : List Json} (hclaims : ∀ j ∈ claims, IsClaim j)
    (h : items.map Json.normal = claims.map Json.normal) :
    ∃ objects' objects, claimObjects (.arr items) = .ok objects' ∧
      claimObjects (.arr claims) = .ok objects ∧ List.Forall₂ SameClaim objects' objects := by
  induction claims generalizing items with
  | nil =>
    obtain rfl := List.map_eq_nil_iff.1 h
    exact ⟨[], [], rfl, rfl, .nil⟩
  | cons claim claims ih =>
    obtain ⟨item, items', rfl, hitem, hitems⟩ := List.map_eq_cons_iff.1 h
    rw [List.forall_mem_cons] at hclaims
    obtain ⟨⟨o, rfl, htexts⟩, hrest⟩ := hclaims
    obtain ⟨objects', objects, hobjects', hobjects, hsame⟩ := ih hrest hitems
    rw [normal_eq_members] at hitem
    obtain ⟨o', rfl, ho'⟩ := normal_eq_obj hitem
    refine ⟨o' :: objects', o :: objects, ?_, ?_, .cons ⟨htexts, ho'⟩ hsame⟩
    · unfold claimObjects at hobjects' ⊢
      refine exceptBind_eq rfl ?_
      rw [List.mapM_cons]
      exact exceptBind_eq rfl (exceptBind_eq hobjects' rfl)
    · unfold claimObjects at hobjects ⊢
      refine exceptBind_eq rfl ?_
      rw [List.mapM_cons]
      exact exceptBind_eq rfl (exceptBind_eq hobjects rfl)

theorem supportedIds_congr {objects' objects : List Obj}
    (h : List.Forall₂ SameClaim objects' objects) :
    supportedIds I objects' = supportedIds I objects := by
  unfold supportedIds
  induction h with
  | nil => rfl
  | cons hclaim _ ih =>
    rw [List.filter_cons, List.filter_cons, isTrue_congr hclaim.2, hclaim.claimId]
    split
    · rw [List.map_cons, List.map_cons, ih, hclaim.claimId]
    · exact ih

theorem evidenceTexts_congr {objects' objects : List Obj}
    (h : List.Forall₂ SameClaim objects' objects) :
    objects'.flatMap (evidenceTexts I) = objects.flatMap (evidenceTexts I) := by
  rw [List.flatMap_def, List.flatMap_def,
    map_congr_of_forall₂ h fun _ _ hclaim => hclaim.evidenceTexts]

/-- The copy does not depend on the order of members in the ledger. -/
theorem copyPayload_congr {brief : MissionBrief} {j : Json} {claims : List Json}
    (hclaims : ∀ c ∈ claims, IsClaim c) (h : j.normal = (Json.arr claims).normal) :
    copyPayload I T brief j = copyPayload I T brief (.arr claims) := by
  rw [normal_arr] at h
  obtain ⟨items, rfl, hitems⟩ := normal_eq_arr h
  obtain ⟨objects', objects, hobjects', hobjects, hsame⟩ := claimObjects_congr hclaims hitems
  unfold copyPayload
  rw [hobjects', hobjects]
  simp only [bind, Except.bind, supportedIds_congr hsame]

/-- The texts that the critique reads of a variant. -/
structure VariantTexts (o : Obj) : Prop where
  hook : ∃ s, o.lookup (Py.lit "hook") = some (.str s)
  body : ∃ s, o.lookup (Py.lit "body") = some (.str s)
  cta : ∃ s, o.lookup (Py.lit "cta") = some (.str s)
  claimMap : ∃ texts, o.lookup (Py.lit "claim_map") = some (.texts texts)

theorem variantTexts_variant (brief : MissionBrief) (supported : List Str) :
    VariantTexts (variant T brief supported) := by
  unfold variant
  split <;> exact ⟨⟨_, rfl⟩, ⟨_, rfl⟩, ⟨_, rfl⟩, ⟨_, rfl⟩⟩

/-- The same variant, up to the order of its members. -/
def SameVariant (o' o : Obj) : Prop := VariantTexts o ∧ members o' = members o

theorem normal_eq_texts {j : Json} {texts : List Str} (h : j.normal = .texts texts) :
    j = .texts texts := by
  obtain ⟨items, rfl, hitems⟩ := normal_eq_arr h
  refine congrArg Json.arr ?_
  clear h
  induction items generalizing texts with
  | nil => rw [← hitems, List.map_nil]
  | cons item items ih =>
    cases texts with
    | nil => cases hitems
    | cons t texts =>
      rw [List.map_cons, List.map_cons] at hitems
      obtain ⟨hitem, hrest⟩ := List.cons.inj hitems
      rw [normal_eq_str.1 hitem, List.map_cons, ih hrest]

theorem lookup_texts_congr {o o' : Obj} (h : members o' = members o) {name : Str}
    {texts : List Str} (ht : o.lookup name = some (.texts texts)) :
    o'.lookup name = some (.texts texts) := by
  have hname := lookup_members_congr h name
  rw [ht, Option.map_some, Json.texts, normal_texts] at hname
  obtain ⟨j, hj, hnormal⟩ := Option.map_eq_some_iff.1 hname
  rw [hj, normal_eq_texts hnormal]

theorem SameVariant.texts {o o' : Obj} (h : SameVariant o' o) :
    [strOr I o' "hook" "", strOr I o' "body" "", strOr I o' "cta" ""] =
      [strOr I o "hook" "", strOr I o "body" "", strOr I o "cta" ""] := by
  obtain ⟨htexts, hsame⟩ := h
  obtain ⟨hook, hhook⟩ := htexts.hook
  obtain ⟨body, hbody⟩ := htexts.body
  obtain ⟨cta, hcta⟩ := htexts.cta
  simp only [strOr, Py.getOr, hhook, hbody, hcta, lookup_str_congr hsame hhook,
    lookup_str_congr hsame hbody, lookup_str_congr hsame hcta]

theorem SameVariant.body {o o' : Obj} (h : SameVariant o' o) :
    strOr I o' "body" "" = strOr I o "body" "" := by
  obtain ⟨body, hbody⟩ := h.1.body
  simp only [strOr, Py.getOr, hbody, lookup_str_congr h.2 hbody]

theorem SameVariant.mappedIds {o o' : Obj} (h : SameVariant o' o) :
    Campaign.mappedIds I o' = Campaign.mappedIds I o := by
  obtain ⟨texts, ht⟩ := h.1.claimMap
  simp only [Campaign.mappedIds, Py.getOr, ht, lookup_texts_congr h.2 ht]

/-- The checks do not depend on the order of members. -/
theorem politicalChecks_congr {brief : MissionBrief} {claims' claims variants' variants : List Obj}
    (hc : List.Forall₂ SameClaim claims' claims) (hv : List.Forall₂ SameVariant variants' variants) :
    politicalChecks I T brief claims' variants' = politicalChecks I T brief claims variants := by
  have hmapped : variants'.mapM (mappedIds I) = variants.mapM (mappedIds I) := by
    induction hv with
    | nil => rfl
    | cons hvariant _ ih => rw [List.mapM_cons, List.mapM_cons, hvariant.mappedIds, ih]
  have htexts := map_congr_of_forall₂ hv fun o' o h => SameVariant.texts (I := I) h
  have hrendered : renderedText I T variants' = renderedText I T variants := by
    rw [renderedText, renderedText, List.flatMap_def, List.flatMap_def, htexts]
  have hbodies := map_congr_of_forall₂ hv fun o' o h => SameVariant.body (I := I) h
  have hbody (p : Str → Bool) : (variants'.all fun v => p (strOr I v "body" "")) =
      variants.all fun v => p (strOr I v "body" "") := by
    have hall := congrArg (fun texts => texts.all p) hbodies
    rw [List.all_map, List.all_map] at hall
    exact hall
  simp only [politicalChecks, supportedIds_congr hc, numbersSupported, evidenceTexts_congr hc,
    hmapped, hrendered, hbody fun text =>
      Py.contains (T.lower text) (T.lower (Py.strip brief.disclosure))]

/-- The variants that are objects, when all are. -/
theorem variantObjects_spec {fields : Obj} {p : Obj → Prop}
    (h : ∀ m ∈ fields, ∃ o, m.2 = .obj o ∧ p o) :
    (variantObjects fields).length = fields.length ∧ ∀ o ∈ variantObjects fields, p o := by
  induction fields with
  | nil => exact ⟨rfl, nofun⟩
  | cons m fields ih =>
    rw [List.forall_mem_cons] at h
    obtain ⟨⟨o, ho, hp⟩, hrest⟩ := h
    obtain ⟨name, j⟩ := m
    obtain rfl : j = .obj o := ho
    obtain ⟨hlength, hall⟩ := ih hrest
    exact ⟨congrArg (· + 1) hlength, List.forall_mem_cons.2 ⟨hp, hall⟩⟩

/-- The variants as they are read back are those that were written. -/
theorem variantObjects_congr {brief : MissionBrief} {supported : List Str} {j : Json}
    (h : j.normal = (Json.obj (variantsOf T brief supported)).normal) :
    ∃ fields, j = .obj fields ∧ List.Forall₂ SameVariant (variantObjects fields)
      (variantObjects (variantsOf T brief supported)) := by
  rw [normal_eq_members] at h
  obtain ⟨fields, rfl, hfields⟩ := normal_eq_obj h
  have hwritten : ∀ m ∈ variantsOf T brief supported,
      ∃ o, m.2 = .obj o ∧ o = variant T brief supported := by
    intro m hm
    obtain ⟨p, -, rfl⟩ := List.mem_map.1 ((dictOf_spec _).2 m hm)
    exact ⟨_, rfl, rfl⟩
  have hread : ∀ m ∈ fields, ∃ o, m.2 = .obj o ∧ members o = members (variant T brief supported) := by
    intro m hm
    have hmem : (m.1, m.2.normal) ∈ members fields :=
      List.mem_map.2 ⟨m, mem_sortFields.2 hm, rfl⟩
    rw [hfields] at hmem
    obtain ⟨n, hn, hnm⟩ := List.mem_map.1 hmem
    obtain ⟨o, ho, rfl⟩ := hwritten n (mem_sortFields.1 hn)
    have hnormal : m.2.normal = (Json.obj (variant T brief supported)).normal := by
      rw [← ho]
      exact (Prod.ext_iff.1 hnm).2.symm
    rw [normal_eq_members] at hnormal
    exact normal_eq_obj hnormal
  obtain ⟨hlength, hall⟩ := variantObjects_spec hwritten
  obtain ⟨hlength', hall'⟩ := variantObjects_spec hread
  have hsize : fields.length = (variantsOf T brief supported).length := by
    have hmembers := congrArg List.length hfields
    simpa only [members, List.length_map, sortFields, List.length_insertionSort] using hmembers
  refine ⟨fields, rfl, List.forall₂_iff_get.2 ⟨by omega, fun i hi' hi => ?_⟩⟩
  have hwrote := hall _ (List.get_mem _ ⟨i, hi⟩)
  rw [SameVariant, hwrote]
  exact ⟨variantTexts_variant brief supported, hall' _ (List.get_mem _ ⟨i, hi'⟩)⟩

/-- The critique does not depend on the order of members in the ledger and the variants. -/
theorem critiquePayload_congr {brief : MissionBrief} {j v : Json} {claims : List Json}
    {supported : List Str} (hclaims : ∀ c ∈ claims, IsClaim c)
    (hj : j.normal = (Json.arr claims).normal)
    (hv : v.normal = (Json.obj (variantsOf T brief supported)).normal) :
    critiquePayload I T brief j v =
      critiquePayload I T brief (.arr claims) (.obj (variantsOf T brief supported)) := by
  rw [normal_arr] at hj
  obtain ⟨items, rfl, hitems⟩ := normal_eq_arr hj
  obtain ⟨objects', objects, hobjects', hobjects, hsame⟩ := claimObjects_congr hclaims hitems
  obtain ⟨fields, rfl, hvariants⟩ := variantObjects_congr hv
  unfold critiquePayload
  rw [hobjects', hobjects]
  simp only [bind, Except.bind, politicalChecks_congr hsame hvariants]

end Campaign

/-! ## Runs -/

/-- The event less its timestamp. -/
def TraceEvent.untimed (e : TraceEvent) : TraceEvent := { e with timestamp := [] }

/-- The observation less the time of the artifact. -/
def Orchestrator.Observation.untimed (o : Observation) : Observation := { o with observedAt := [] }

/-- The ledger and the variants of a run are those of campaign intelligence. -/
structure Regular (T : TextLibrary) (brief : MissionBrief) (run : ExecutionRun) : Prop where
  ledger : ∀ a ∈ run.artifacts, a.kind = Py.lit "research_dossier" →
    ∃ claims, a.payload.lookup (Py.lit "claim_ledger") = some (.arr claims) ∧
      ∀ c ∈ claims, Campaign.IsClaim c
  variants : ∀ a ∈ run.artifacts, a.kind = Py.lit "copy_deck" →
    ∃ supported, a.payload.lookup (Py.lit "variants") =
      some (.obj (Campaign.variantsOf T brief supported))

/-- Two runs of a brief are the same up to timestamps, execution record and the order of payload
members. -/
structure Alike (T : TextLibrary) (mission : MissionBrief) (run other : ExecutionRun) : Prop where
  runId : run.runId = other.runId
  brief : run.brief = mission
  otherBrief : other.brief = mission
  states : run.agentStates = other.agentStates
  artifacts : run.artifacts.map Artifact.reloaded = other.artifacts.map Artifact.reloaded
  evidence : run.evidence.map ToolEvidence.reloaded = other.evidence.map ToolEvidence.reloaded
  trace : run.trace.map TraceEvent.untimed = other.trace.map TraceEvent.untimed
  regular : Regular T mission other

section
variable {T : TextLibrary} {brief : MissionBrief} {run other : ExecutionRun}

theorem Alike.trace_length (h : Alike T brief run other) : run.trace.length = other.trace.length := by
  simpa using congrArg List.length h.trace

/-- The artifact of a kind is the same up to the order of members. -/
theorem Alike.artifact (h : Alike T brief run other) {kind : String} {a : Artifact}
    (ha : run.artifact kind = .ok a) : ∃ b, other.artifact kind = .ok b ∧
      members a.payload = members b.payload ∧ b ∈ other.artifacts ∧ b.kind = Py.lit kind := by
  have hfind (artifacts : List Artifact) :
      (artifacts.map Artifact.reloaded).reverse.find? (·.kind == Py.lit kind) =
        (artifacts.reverse.find? (·.kind == Py.lit kind)).map Artifact.reloaded := by
    rw [← List.map_reverse, List.find?_map]
    rfl
  have hsame := hfind run.artifacts
  rw [h.artifacts, hfind other.artifacts] at hsame
  unfold ExecutionRun.artifact at ha ⊢
  cases hrun : run.artifacts.reverse.find? (·.kind == Py.lit kind) with
  | none =>
    rw [hrun] at ha
    cases ha
  | some a' =>
    rw [hrun] at ha hsame
    cases ha
    obtain ⟨b, hb, hreloaded⟩ := Option.map_eq_some_iff.1 hsame
    rw [hb]
    refine ⟨b, rfl, (congrArg Artifact.payload hreloaded).symm,
      List.mem_reverse.1 (List.mem_of_find?_eq_some hb), ?_⟩
    simpa using List.find?_some hb

theorem Alike.updateState (h : Alike T brief run other) (role : AgentRole) (status : AgentStatus)
    (progress : Fin 101) (detail : String) :
    Alike T brief (run.updateState role status progress detail)
      (other.updateState role status progress detail) :=
  { h with
    states := by simp only [ExecutionRun.updateState, h.states]
    regular := ⟨h.regular.ledger, h.regular.variants⟩ }

end

/-- Two calls on runs that are alike. -/
structure Paired (T : TextLibrary) (brief : MissionBrief) (s t : Session) : Prop where
  alike : Alike T brief s.run t.run
  status : s.run.status = t.run.status
  observations : s.observations.map Observation.untimed = t.observations.map Observation.untimed

section
variable {T : TextLibrary} {brief : MissionBrief} {α β : Type} {V : α → β → Prop}

theorem theRun_follows {f : ExecutionRun → Action α} {g : ExecutionRun → Action β}
    (h : ∀ run other, Alike T brief run other → run.status = other.status →
      Method.Follows (Paired T brief) V (f run) (g other)) :
    Method.Follows (Paired T brief) V (theRun >>= f) (theRun >>= g) :=
  .update fun s t hst => ⟨hst, h s.run t.run hst.alike hst.status⟩

theorem modifyRun_follows {u v : ExecutionRun → ExecutionRun} {f : Unit → Action α}
    {g : Unit → Action β}
    (h : ∀ run other, Alike T brief run other → run.status = other.status →
      Alike T brief (u run) (v other) ∧ (u run).status = (v other).status)
    (hf : Method.Follows (Paired T brief) V (f ()) (g ())) :
    Method.Follows (Paired T brief) V (modifyRun u >>= f) (modifyRun v >>= g) :=
  .change (fun s t hst =>
    ⟨(h s.run t.run hst.alike hst.status).1, (h s.run t.run hst.alike hst.status).2,
      hst.observations⟩) hf

/-- The same event, at two times. -/
theorem event_follows {role : AgentRole} {action : String} {status : AgentStatus} {detail : String}
    {artifactIds evidenceIds : List Str} :
    Method.Follows (Paired T brief) (fun _ _ => True)
      (event role action status detail artifactIds evidenceIds)
      (event role action status detail artifactIds evidenceIds) := by
  refine .update fun s t hst => ⟨⟨hst.alike, hst.status, hst.observations⟩, ?_⟩
  refine .changed (fun s t hst => ⟨?_, hst.status, hst.observations⟩) trivial
  have h := hst.alike
  refine { h with
    trace := ?_
    regular := ⟨h.regular.ledger, h.regular.variants⟩ }
  simp only [List.map_append, List.map_singleton, h.trace, h.trace_length, TraceEvent.untimed]

/-- What the writer and the critique rely on in an artifact. -/
def RegularPayload (T : TextLibrary) (brief : MissionBrief) (kind : String) (payload : Obj) : Prop :=
  (Py.lit kind = Py.lit "research_dossier" →
    ∃ claims, payload.lookup (Py.lit "claim_ledger") = some (.arr claims) ∧
      ∀ c ∈ claims, Campaign.IsClaim c) ∧
  (Py.lit kind = Py.lit "copy_deck" → ∃ supported, payload.lookup (Py.lit "variants") =
    some (.obj (Campaign.variantsOf T brief supported)))

/-- The same evidence is kept. -/
theorem addEvidence_reloaded {added kept kept' : List ToolEvidence}
    (h : kept'.map ToolEvidence.reloaded = kept.map ToolEvidence.reloaded) :
    (added.foldl addEvidence kept').map ToolEvidence.reloaded =
      (added.foldl addEvidence kept).map ToolEvidence.reloaded := by
  induction added generalizing kept kept' with
  | nil => exact h
  | cons item added ih =>
    refine ih ?_
    have hids : kept'.map (·.evidenceId) = kept.map (·.evidenceId) := by
      have hids := congrArg (List.map ToolEvidence.evidenceId) h
      rw [List.map_map, List.map_map] at hids
      exact hids
    have hall : (kept'.all fun e => e.evidenceId != item.evidenceId) =
        kept.all fun e => e.evidenceId != item.evidenceId := by
      have hall := congrArg (fun ids => ids.all (· != item.evidenceId)) hids
      rw [List.all_map, List.all_map] at hall
      exact hall
    unfold addEvidence
    rw [hall]
    split
    · rw [List.map_append, List.map_append, h]
    · exact h

/-- One more artifact, the same in both. -/
theorem Alike.addArtifact {run other : ExecutionRun} {a : Artifact} (h : Alike T brief run other)
    {kind : String} (hkind : a.kind = Py.lit kind)
    (hregular : RegularPayload T brief kind a.payload) :
    Alike T brief (run.addArtifact a) (other.addArtifact a) where
  runId := h.runId
  brief := h.brief
  otherBrief := h.otherBrief
  states := by simp only [ExecutionRun.addArtifact, h.states]
  artifacts := by simp only [ExecutionRun.addArtifact, List.map_append, h.artifacts]
  evidence := h.evidence
  trace := h.trace
  regular := by
    constructor
    · intro b hb hdossier
      rcases List.mem_append.1 hb with hb | hb
      · exact h.regular.ledger b hb hdossier
      · obtain rfl := List.mem_singleton.1 hb
        exact hregular.1 (hkind.symm.trans hdossier)
    · intro b hb hdeck
      rcases List.mem_append.1 hb with hb | hb
      · exact h.regular.variants b hb hdeck
      · obtain rfl := List.mem_singleton.1 hb
        exact hregular.2 (hkind.symm.trans hdeck)

/-- The same artifact is made. -/
theorem completeAgent_follows {A : Agency} {role : AgentRole} {kind title detail : String}
    {payload : Obj} {evidence : List ToolEvidence} (h : RegularPayload T brief kind payload) :
    Method.Follows (Paired T brief) (fun a b => a = b)
      (completeAgent A role kind title payload evidence detail)
      (completeAgent A role kind title payload evidence detail) := by
  refine theRun_follows fun run other halike _ => .ofExcept (by rw [halike.runId]) fun id _ => ?_
  refine modifyRun_follows (fun run other halike hstatus =>
    ⟨{ halike with
      evidence := addEvidence_reloaded halike.evidence
      regular := ⟨halike.regular.ledger, halike.regular.variants⟩ }, hstatus⟩) ?_
  refine modifyRun_follows (fun run other halike hstatus =>
    ⟨halike.addArtifact rfl h, hstatus⟩) ?_
  refine modifyRun_follows (fun run other halike hstatus =>
    ⟨halike.updateState role .ready 100 detail, hstatus⟩) ?_
  exact event_follows.bind fun _ _ _ => .pure rfl

/-- The same observation is handed over, and the other memory takes it. -/
theorem remember_follows {R R' : Reading} (hmemory : ∀ o, R'.memory o = .ok ()) {role : AgentRole}
    {content : Str} {confidence : String} {tags : List Str} {artifact : Artifact}
    {evidence : Option ToolEvidence} :
    Method.Follows (Paired T brief) (fun _ _ => True)
      (remember R role content confidence tags artifact evidence)
      (remember R' role content confidence tags artifact evidence) := by
  refine theRun_follows fun run other halike _ => .update fun s t hst =>
    ⟨⟨hst.alike, hst.status, hst.observations⟩, ?_⟩
  have hlast : run.trace.getLast?.elim 0 (·.sequence) =
      other.trace.getLast?.elim 0 (·.sequence) := by
    have h := congrArg List.getLast? halike.trace
    rw [List.getLast?_map, List.getLast?_map] at h
    have hmap := congrArg (fun e => e.elim 0 TraceEvent.sequence) h
    rwa [Option.elim_map, Option.elim_map] at hmap
  refine .change (fun s t hst => ⟨hst.alike, hst.status, ?_⟩) (.compute fun _ _ => ?_)
  · simp only [List.map_append, List.map_singleton, hst.observations, halike.runId, hlast,
      Observation.untimed]
  · exact ⟨(), by rw [hmemory]; rfl, trivial⟩

variable {I : Interpreter} {R R' : Reading}

theorem regularPayload_other {kind : String} {payload : Obj}
    (hdossier : kind ≠ "research_dossier") (hdeck : kind ≠ "copy_deck") :
    RegularPayload T brief kind payload :=
  ⟨fun h => absurd (Py.lit_inj.1 h) hdossier, fun h => absurd (Py.lit_inj.1 h) hdeck⟩

/-- The claims that a station reads in the dossier. -/
theorem Alike.claims {run other : ExecutionRun} (h : Alike T brief run other) {a : Artifact}
    (ha : run.artifact "research_dossier" = .ok a) :
    ∃ b claims, other.artifact "research_dossier" = .ok b ∧
      (Py.getOr a.payload "claim_ledger" (.arr [])).normal = (Json.arr claims).normal ∧
      Py.getOr b.payload "claim_ledger" (.arr []) = .arr claims ∧
      ∀ c ∈ claims, Campaign.IsClaim c := by
  obtain ⟨b, hb, hmembers, hmem, hkind⟩ := h.artifact ha
  obtain ⟨claims, hlookup, hclaims⟩ := h.regular.ledger b hmem hkind
  have hledger : Py.getOr b.payload "claim_ledger" (.arr []) = .arr claims := by
    rw [Py.getOr, hlookup]
    rfl
  refine ⟨b, claims, hb, ?_, hledger, hclaims⟩
  rw [← hledger]
  exact getOr_members_congr hmembers _ _

/-- The variants that the critique reads in the deck. -/
theorem Alike.variants {run other : ExecutionRun} (h : Alike T brief run other) {a : Artifact}
    (ha : run.artifact "copy_deck" = .ok a) :
    ∃ b supported, other.artifact "copy_deck" = .ok b ∧
      (Py.getOr a.payload "variants" (.obj [])).normal =
        (Json.obj (Campaign.variantsOf T brief supported)).normal ∧
      Py.getOr b.payload "variants" (.obj []) = .obj (Campaign.variantsOf T brief supported) := by
  obtain ⟨b, hb, hmembers, hmem, hkind⟩ := h.artifact ha
  obtain ⟨supported, hlookup⟩ := h.regular.variants b hmem hkind
  have hvariants : Py.getOr b.payload "variants" (.obj []) =
      .obj (Campaign.variantsOf T brief supported) := by
    rw [Py.getOr, hlookup]
    rfl
  refine ⟨b, supported, hb, ?_, hvariants⟩
  rw [← hvariants]
  exact getOr_members_congr hmembers _ _

/-- The same computation on both sides, one of which may need other arguments. -/
theorem ofExcept_follows {γ δ : Type} {W : α → β → Prop} {x : Except Exn γ} {y : Except Exn δ}
    {f : γ → Action α} {g : δ → Action β}
    (h : ∀ a, x = .ok a → ∃ b, y = .ok b ∧ Method.Follows (Paired T brief) W (f a) (g b)) :
    Method.Follows (Paired T brief) W ((Method.ofExcept x : Action γ) >>= f)
      ((Method.ofExcept y : Action δ) >>= g) := by
  cases x with
  | error e => exact fun _ _ _ _ _ hp => by cases hp
  | ok a =>
    obtain ⟨b, rfl, hfg⟩ := h a rfl
    exact hfg

/-- What a station does in one run it does in the other. -/
theorem executeRole_follows (htools : R'.tools = R.tools) (hmemory : ∀ o, R'.memory o = .ok ())
    (role : AgentRole) :
    Method.Follows (Paired T brief) (fun _ _ => True) (executeRole (agency I T) R role)
      (executeRole (agency I T) R' role) := by
  cases role with
  | ceo =>
    refine theRun_follows fun run other h _ => ?_
    dsimp only
    rw [h.brief, h.otherBrief]
    refine (completeAgent_follows ?_).bind fun _ _ _ => .pure trivial
    exact regularPayload_other (by decide) (by decide)
  | research =>
    refine theRun_follows fun run other h _ => ?_
    dsimp only
    rw [h.brief, h.otherBrief, h.runId, htools]
    refine .ofExcept rfl fun claims hclaims => (completeAgent_follows ?_).bind ?_
    · have hclaims : Campaign.claimLedger I.toPlatform brief other.runId = .ok claims :=
        ofFailure_asFailure.symm.trans hclaims
      exact ⟨fun _ => ⟨claims, rfl, Campaign.isClaim_claimLedger hclaims⟩,
        fun hkind => absurd (Py.lit_inj.1 hkind) (by decide)⟩
    · rintro _ _ rfl
      exact remember_follows hmemory
  | strategist =>
    refine theRun_follows fun run other h _ => ?_
    dsimp only
    rw [h.brief, h.otherBrief, htools]
    refine .ofExcept rfl fun strategy _ => (completeAgent_follows ?_).bind ?_
    · exact regularPayload_other (by decide) (by decide)
    · rintro _ _ rfl
      exact .ofExcept rfl fun _ _ => remember_follows hmemory
  | growth =>
    refine theRun_follows fun run other h _ => ?_
    dsimp only
    rw [h.brief, h.otherBrief, htools]
    refine .ofExcept rfl fun payload _ => (completeAgent_follows ?_).bind ?_
    · exact regularPayload_other (by decide) (by decide)
    · rintro _ _ rfl
      exact remember_follows hmemory
  | writer =>
    refine theRun_follows fun run other h _ => ofExcept_follows fun research hresearch => ?_
    obtain ⟨dossier, claims, hdossier, hread, hledger, hclaims⟩ := h.claims hresearch
    refine ⟨dossier, hdossier, ?_⟩
    rw [h.brief, h.otherBrief, hledger]
    have hsame : (agency I T).campaign.copyPayload brief
        (Py.getOr research.payload "claim_ledger" (.arr [])) =
          (agency I T).campaign.copyPayload brief (.arr claims) := by
      simp only [agency, campaignIntelligence, Campaign.copyPayload_congr hclaims hread]
    refine .ofExcept (congrArg ofFailure hsame.symm) fun payload hpayload =>
      (completeAgent_follows ?_).bind ?_
    · have hpayload : Campaign.copyPayload I T brief
          (Py.getOr research.payload "claim_ledger" (.arr [])) = .ok payload :=
        ofFailure_asFailure.symm.trans hpayload
      obtain ⟨objects, -, hpayload⟩ := exceptBind_ok hpayload
      cases hpayload
      exact ⟨fun hkind => absurd (Py.lit_inj.1 hkind) (by decide), fun _ => ⟨_, rfl⟩⟩
    · rintro _ _ rfl
      exact .ofExcept rfl fun _ _ => remember_follows hmemory
  | media =>
    refine theRun_follows fun run other h _ => ?_
    dsimp only
    rw [h.brief, h.otherBrief, htools]
    refine .ofExcept rfl fun platform _ => .ofExcept rfl fun payload _ =>
      (completeAgent_follows ?_).bind ?_
    · exact regularPayload_other (by decide) (by decide)
    · rintro _ _ rfl
      exact remember_follows hmemory
  | risk =>
    refine theRun_follows fun run other h _ => ?_
    dsimp only
    rw [h.brief, h.otherBrief, htools]
    refine ofExcept_follows fun research hresearch => ?_
    obtain ⟨dossier, claims, hdossier, hread, hledger, hclaims⟩ := h.claims hresearch
    refine ⟨dossier, hdossier, ofExcept_follows fun writer hwriter => ?_⟩
    obtain ⟨deck, supported, hdeck, hdeckRead, hvariants⟩ := h.variants hwriter
    refine ⟨deck, hdeck, ?_⟩
    rw [hledger, hvariants]
    have hsame : (agency I T).campaign.critiquePayload brief
        (Py.getOr research.payload "claim_ledger" (.arr []))
        (Py.getOr writer.payload "variants" (.obj [])) =
          (agency I T).campaign.critiquePayload brief (.arr claims)
            (.obj (Campaign.variantsOf T brief supported)) := by
      simp only [agency, campaignIntelligence,
        Campaign.critiquePayload_congr hclaims hread hdeckRead]
    refine .ofExcept (congrArg ofFailure hsame.symm) fun critique _ =>
      (completeAgent_follows ?_).bind ?_
    · exact regularPayload_other (by decide) (by decide)
    · rintro _ _ rfl
      exact .ofExcept rfl fun _ _ => .ofExcept rfl fun _ _ => remember_follows hmemory
  | publisher => exact .raise

/-! ## Advances -/

theorem awaitGreenlight_follows :
    Method.Follows (Paired T brief) (fun _ _ => True) awaitGreenlight awaitGreenlight := by
  refine theRun_follows fun run other h hstatus => ?_
  rw [hstatus]
  split
  · exact .pure trivial
  · refine ofExcept_follows fun report hreport => ?_
    obtain ⟨report', hreport', hmembers, -⟩ := h.artifact hreport
    refine ⟨report', hreport', ?_⟩
    dsimp only
    rw [isTrue_congr hmembers, isTrue_congr hmembers, h.brief, h.otherBrief]
    refine modifyRun_follows (fun run other h hstatus => ⟨h.updateState _ _ _ _, hstatus⟩) ?_
    refine modifyRun_follows (fun run other h _ =>
      ⟨{ h with regular := ⟨h.regular.ledger, h.regular.variants⟩ }, rfl⟩) ?_
    refine modifyRun_follows (fun run other h hstatus =>
      ⟨{ h with regular := ⟨h.regular.ledger, h.regular.variants⟩ }, hstatus⟩) ?_
    exact event_follows

/-- Two runs that are to be advanced. -/
structure Executable (T : TextLibrary) (brief : MissionBrief) (run other : ExecutionRun) : Prop where
  alike : Alike T brief run other
  status : run.status = .queued ∨ run.status = .running
  otherStatus : other.status = .queued ∨ other.status = .running

/-- Taking up makes both run. -/
theorem Executable.takeUp {run other : ExecutionRun} (h : Executable T brief run other)
    (clock clock' : Nat → Str) (observations : List Observation) :
    Paired T brief ⟨Orchestrator.takeUp run, clock, observations⟩
      ⟨Orchestrator.takeUp other, clock', observations⟩ where
  alike := by
    have hrest {run other : ExecutionRun} (h : Alike T brief run other) :
        Alike T brief (Orchestrator.takeUp run) (Orchestrator.takeUp other) := by
      unfold Orchestrator.takeUp
      split <;> split <;>
        exact { h with regular := ⟨h.regular.ledger, h.regular.variants⟩ }
    exact hrest h.alike
  status := (takeUp_eq h.status).1.trans (takeUp_eq h.otherStatus).1.symm
  observations := rfl

/-- What follows once both runs are taken up. -/
theorem Executable.follows {run other : ExecutionRun} (h : Executable T brief run other)
    {f g : Unit → Action Unit}
    (hf : Method.Follows (Paired T brief) (fun _ _ => True) (f ()) (g ())) (clock clock' : Nat → Str)
    {s : Session} (hs : (modifyRun Orchestrator.takeUp >>= f) ⟨run, clock, []⟩ = (.ok (), s)) :
    ∃ t, (modifyRun Orchestrator.takeUp >>= g) ⟨other, clock', []⟩ = (.ok (), t) ∧
      Paired T brief s t := by
  obtain ⟨_, t, ht, -, hst⟩ := hf _ _ (h.takeUp clock clock' []) () s hs
  exact ⟨t, ht, hst⟩

/-- What `advance` makes of one run it makes of the other. -/
theorem advance_follows (htools : R'.tools = R.tools) (hmemory : ∀ o, R'.memory o = .ok ())
    {run other : ExecutionRun} (h : Executable T brief run other) {s : Session}
    (hs : advance (agency I T) R ⟨run, R.clock, []⟩ = (.ok (), s)) :
    ∃ t, advance (agency I T) R' ⟨other, R'.clock, []⟩ = (.ok (), t) ∧ Paired T brief s t := by
  refine h.follows (theRun_follows fun run other halike hstatus => ?_) _ _ hs
  rw [hstatus, halike.states]
  split
  · exact .pure trivial
  · split
    · exact awaitGreenlight_follows
    · next role _ =>
      refine modifyRun_follows (fun run other h hstatus =>
        ⟨{ h with regular := ⟨h.regular.ledger, h.regular.variants⟩ }, hstatus⟩) ?_
      split
      · refine .ofExcept rfl fun detail _ => ?_
        exact modifyRun_follows (fun run other h hstatus => ⟨h.updateState _ _ _ _, hstatus⟩)
          event_follows
      · refine (executeRole_follows htools hmemory role).bind fun _ _ _ => ?_
        refine modifyRun_follows (fun run other h hstatus =>
          ⟨{ h with regular := ⟨h.regular.ledger, h.regular.variants⟩ }, hstatus⟩) ?_
        split
        · exact awaitGreenlight_follows
        · exact .pure trivial
      · exact .raise

end

end AgencyRuntime
