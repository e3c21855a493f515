import AgencyRuntime.Orchestrator.Alike
import AgencyRuntime.Release.Frozen

/-!
# What was approved is what is published

All completed runs that are read under one key are the same run (`Run.reads_agree`), so the two
readings of a preparation are of one run, and so are those of any two requests: they reserve the same
text for an artifact and a channel (`reservations_agree`). A Greenlight freezes the ids and the
hashes of the artifacts it is given on; when the hash tells the artifacts apart, the text and the
media of a reserved intent are those of artifacts that were there at the decision
(`reserved_text_approved`).
-/

namespace AgencyRuntime

open Effects Tables Py Orchestrator

namespace Release

section
variable {P : Platform} {F : Floats}

/-! ## Artifacts with the same document -/

/-- Two artifacts differ in the order of payload members only, as far as a preparation looks. -/
structure SameDocument (a b : Artifact) : Prop where
  artifactId : a.artifactId = b.artifactId
  kind : a.kind = b.kind
  payload : members a.payload = members b.payload

/-- The canonical JSON of an artifact tells its id, its kind and its payload. -/
theorem SameDocument.of_canonicalJson {a b : Artifact} {s : Str} (ha : a.Valued F) (hb : b.Valued F)
    (has : canonicalJson a.toJson = .ok s) (hbs : canonicalJson b.toJson = .ok s) :
    SameDocument a b := by
  have hnormal : a.toJson.normal = b.toJson.normal := by
    have hread := jsonLoads_canonicalJson ha.toJson has
    rw [jsonLoads_canonicalJson hb.toJson hbs] at hread
    exact (Except.ok.inj hread).symm
  have hmembers : members a.fields = members b.fields := by
    rw [Artifact.toJson, Artifact.toJson, normal_eq_members, normal_eq_members] at hnormal
    exact Json.obj.inj hnormal
  have htext {name s : Str} (h : b.fields.lookup name = some (.str s)) :
      a.fields.lookup name = some (.str s) := lookup_str_congr hmembers h
  have hid := htext (show b.fields.lookup (lit "artifact_id") = some (.str b.artifactId) from rfl)
  have hkind := htext (show b.fields.lookup (lit "kind") = some (.str b.kind) from rfl)
  have hpayload := lookup_members_congr hmembers (lit "payload")
  have hobj : (Json.obj a.payload).normal = (Json.obj b.payload).normal := Option.some.inj hpayload
  rw [normal_eq_members, normal_eq_members] at hobj
  exact ⟨Json.str.inj (Option.some.inj hid), Json.str.inj (Option.some.inj hkind),
    Json.obj.inj hobj⟩

section
variable {o o' : Obj}

/-- A text is held under the name in both or in neither. -/
theorem get_str_congr (h : members o' = members o) {name : String} {s : Str} :
    Py.get o' name = .str s ↔ Py.get o name = .str s := by
  have hnormal : (Py.get o' name).normal = (Py.get o name).normal :=
    getOr_members_congr h name .null
  rw [← normal_eq_str, hnormal, normal_eq_str]

/-- The texts of a variant do not depend on the order of its members. -/
theorem variantParts_congr (h : members o' = members o) : variantParts o' = variantParts o := by
  unfold variantParts
  congr 1
  funext field
  cases hfield : Py.get o field with
  | str s => rw [(get_str_congr h).2 hfield]
  | null | bool | int | float | arr | obj =>
    cases hfield' : Py.get o' field with
    | str s =>
      rw [(get_str_congr h).1 hfield'] at hfield
      cases hfield
    | null | bool | int | float | arr | obj => rfl

theorem holdsText_congr (h : members o' = members o) (name : String) (value : Str) :
    holdsText o' name value = holdsText o name value := by
  unfold holdsText
  cases hname : Py.get o name with
  | str s => rw [(get_str_congr h).2 hname]
  | null | bool | int | float | arr | obj =>
    cases hname' : Py.get o' name with
    | str s =>
      rw [(get_str_congr h).1 hname'] at hname
      cases hname
    | null | bool | int | float | arr | obj => rfl

/-- An object is found under the name in both. -/
theorem lookup_obj_congr (h : members o' = members o) {name : Str} {fields : Obj}
    (hf : o.lookup name = some (.obj fields)) :
    ∃ fields', o'.lookup name = some (.obj fields') ∧ members fields' = members fields := by
  have hname := lookup_members_congr h name
  rw [hf, Option.map_some, normal_eq_members] at hname
  obtain ⟨j, hj, hnormal⟩ := Option.map_eq_some_iff.1 hname
  obtain ⟨fields', rfl, hfields⟩ := normal_eq_obj hnormal
  exact ⟨fields', hj, hfields⟩

theorem get_obj {name : String} {fields : Obj} :
    Py.get o name = .obj fields ↔ o.lookup (lit name) = some (.obj fields) := by
  rw [Py.get]
  cases o.lookup (lit name) with
  | none => simp
  | some j => simp

end

/-- The parts a text for a channel is made of. -/
theorem channelContent_ok {a : Artifact} {channelId content : Str} :
    channelContent a channelId = .ok content ↔ ∃ variants variant,
      a.payload.lookup (lit "variants") = some (.obj variants) ∧
      variants.lookup channelId = some (.obj variant) ∧ variantParts variant ≠ [] ∧
      (lit "\n\n").intercalate (variantParts variant) = content := by
  constructor
  · intro h
    unfold channelContent at h
    split at h
    · next variants hvariants =>
      obtain ⟨_, heq, h⟩ := exceptBind_ok h
      cases heq
      simp only at h
      split at h
      · next variant hvariant =>
        obtain ⟨_, heq, h⟩ := exceptBind_ok h
        cases heq
        obtain ⟨hparts, h⟩ := checkBind_ok.1 h
        exact ⟨variants, variant, get_obj.1 hvariants, hvariant, hparts, Except.ok.inj h⟩
      · cases h
    · cases h
  · rintro ⟨variants, variant, hvariants, hvariant, hparts, rfl⟩
    have hget := get_obj.2 hvariants
    unfold channelContent
    rw [hget]
    simp only
    rw [exceptBind_ok_iff]
    refine ⟨variants, rfl, ?_⟩
    rw [hvariant]
    exact exceptBind_ok_iff.2 ⟨variant, rfl, checkBind_ok.2 ⟨hparts, rfl⟩⟩

/-- Artifacts with the same document have the same texts. -/
theorem SameDocument.content {a b : Artifact} (h : SameDocument a b) {channelId content : Str}
    (ha : channelContent a channelId = .ok content) : channelContent b channelId = .ok content := by
  obtain ⟨variants, variant, hvariants, hvariant, hparts, hcontent⟩ := channelContent_ok.1 ha
  obtain ⟨variants', hvariants', hsame⟩ := lookup_obj_congr h.payload.symm hvariants
  obtain ⟨variant', hvariant', hsame'⟩ := lookup_obj_congr hsame hvariant
  refine channelContent_ok.2 ⟨variants', variant', hvariants', hvariant', ?_, ?_⟩
  · rwa [variantParts_congr hsame']
  · rwa [variantParts_congr hsame']

/-! ## What a Greenlight froze -/

/-- A frozen hash is that of an artifact at the decision. -/
theorem frozenHash_decided {run : ExecutionRun} {decision : GreenlightDecision}
    {reviewer note decidedAt artifactId hash : Str} {g : Greenlight}
    (h : decided P run decision reviewer note decidedAt = .ok g)
    (hfrozen : frozenHash g artifactId = some hash) :
    ∃ a ∈ run.artifacts, a.artifactId = artifactId ∧ approvedHash P a = .ok hash := by
  obtain ⟨hashes, hhashes, h⟩ := exceptBind_ok h
  obtain ⟨_, _, h⟩ := exceptBind_ok h
  have hfields := GreenlightDraft.build_ok h
  rw [frozenHash, hfields] at hfrozen
  obtain ⟨hi, hget⟩ := List.getElem?_eq_some_iff.1 hfrozen
  obtain ⟨hlen, hall⟩ := List.forall₂_iff_get.1 (forall₂_mapM hhashes)
  generalize hindex : (run.artifacts.map (·.artifactId)).idxOf artifactId = i at hi hget
  have hbound : i < run.artifacts.length := hlen ▸ hi
  refine ⟨run.artifacts[i], List.getElem_mem hbound, ?_, ?_⟩
  · have hat : i < (run.artifacts.map (·.artifactId)).length := by simpa using hbound
    subst hindex
    have hid := List.getElem_idxOf hat
    rwa [List.getElem_map] at hid
  · have hhash := hall i hbound hi
    rw [← hget]
    exact hhash

end

/-! ## What was read -/

section
variable {D : Deployment} {requests : Nat → Request} {start : Stores} {L M : History}
variable {c d : State} {tenantId runId : Str} {run run' : ExecutionRun} {i j : Nat}

/-- Every completed run that a request reads is the one that is stored at some moment. -/
theorem Run.read_stored (h : Run D requests start L d)
    (hlater : Steps (service.machine questions) d M c)
    (hstored : d.world.getRun tenantId runId = some run) (hcompleted : run.status = .completed)
    (hread : ReadRun ((L ++ M).trace i) tenantId runId run') (hcompleted' : run'.status = .completed) :
    run' = run := by
  -- A revoked run is not completed.
  have hsame {w : Stores} {x y : ExecutionRun} (hy : y.status = .completed)
      (hw : w.getRun tenantId runId = some y) (h : w.getRun tenantId runId = some x ∨
        ∃ revoked, w.getRun tenantId runId = some revoked ∧ revoked.status = .revoked) : x = y := by
    rcases h with hx | ⟨revoked, hx, hstatus⟩
    · exact Option.some.inj (hx.symm.trans hw)
    · obtain rfl := Option.some.inj (hx.symm.trans hw)
      rw [hy] at hstatus
      cases hstatus
  rw [Log.trace_append] at hread
  rcases List.mem_append.1 hread with hearlier | hlast
  · exact hsame hcompleted hstored (h.read_settled hearlier hcompleted')
  · obtain ⟨M₁, M₂, rfl⟩ := List.append_of_mem (Log.mem_trace.1 hlast)
    obtain ⟨b, b', hM, hstep, -⟩ := Steps.split hlater
    have hfound := (read_step hstep).1
    exact (hsame hcompleted' hfound (h.completed_settled hM hstored hcompleted)).symm

/-- Two completed runs of one key that requests read are the same. -/
theorem Run.reads_agree (h : Run D requests start L c)
    (hi : ReadRun (L.trace i) tenantId runId run) (hj : ReadRun (L.trace j) tenantId runId run')
    (hcompleted : run.status = .completed) (hcompleted' : run'.status = .completed) :
    run' = run := by
  obtain ⟨K, M, rfl⟩ := List.append_of_mem (Log.mem_trace.1 hi)
  obtain ⟨d, d', hbefore, hstep, hafter⟩ := Steps.split h
  obtain ⟨hstored, hworld⟩ := read_step hstep
  have hrun : Run D requests start
      (K ++ [.act i (called (.getRun tenantId runId) (some run))]) d' := Steps.snoc hbefore hstep
  refine hrun.read_stored hafter (hworld ▸ hstored) hcompleted (i := j) ?_ hcompleted'
  simpa using hj

/-- The media artifact of an intent, that the Greenlight froze. -/
structure CarriesMedia (P : Platform) (intent : SocialPublicationIntent) (artifact : Artifact)
    (hash : Str) : Prop where
  kind : artifact.kind = lit "publication_media"
  approved : approvedHash P artifact = .ok hash
  mediaHash : ∃ sha256, intent.mediaHash = some sha256 ∧
    Py.get artifact.payload "sha256" = .str sha256

/-- The intent takes its text and its media from this run, under the run's Greenlight. -/
structure ReservedFrom (P : Platform) (intent : SocialPublicationIntent) (run : ExecutionRun)
    (greenlight : Greenlight) (artifact : Artifact) : Prop where
  active : activeGreenlight run = .ok greenlight
  greenlightId : greenlight.greenlightId = intent.greenlightId
  fencingToken : greenlight.fencingToken = intent.greenlightFencingToken
  found : artifactById run intent.artifactId = some artifact
  carries : ∃ hash, Carries P intent artifact hash ∧
    frozenHash greenlight intent.artifactId = some hash
  media : intent.channelId = lit "instagram" → ∃ m ∈ run.artifacts, ∃ hash,
    CarriesMedia P intent m hash ∧ frozenHash greenlight m.artifactId = some hash

theorem approvedMedia_ok {P : Platform} {greenlight : Greenlight} {mediaArtifactId : Option Str}
    {reference : MediaReference}
    (h : approvedMedia P run greenlight mediaArtifactId = .ok reference) :
    ∃ m ∈ run.artifacts, m.kind = lit "publication_media" ∧
      (∃ hash, frozenHash greenlight m.artifactId = some hash ∧ approvedHash P m = .ok hash) ∧
      Py.get m.payload "sha256" = .str reference.sha256 := by
  obtain ⟨artifactId, -, h⟩ := exceptBind_ok h
  obtain ⟨m, hfound, h⟩ := exceptBind_ok h
  obtain ⟨_, hfrozen, h⟩ := exceptBind_ok h
  obtain ⟨-, h⟩ := checkBind_ok.1 h
  obtain ⟨hsome, hkind⟩ := elim_filter_ok hfound
  refine ⟨m, (artifactById_mem hsome).1, hkind, checkFrozen_ok hfrozen, ?_⟩
  split at h
  · next hsha _ =>
    cases h
    exact hsha
  · cases h

/-- What a reserved intent takes from the run that was read. -/
theorem Run.reserved_from (h : Run D requests start L c) {intent : SocialPublicationIntent}
    {answer : accesses.Ans (.account (.publication (.reserve intent)))}
    (hi : .act i (called (.account (.publication (.reserve intent))) answer) ∈ L) :
    ∃ run greenlight artifact, ReadRun (L.trace i) intent.tenantId intent.runId run ∧
      ReservedFrom D.platform intent run greenlight artifact := by
  obtain ⟨K, M, rfl⟩ := List.append_of_mem hi
  have hpermits := Steps.spec_op h (Spec_program (requests i))
  cases hrequest : requests i with
  | revoke | disconnect =>
    rw [hrequest] at hpermits
    exact hpermits.elim
  | publish r =>
    rw [hrequest] at hpermits
    obtain ⟨-, command, ⟨-, run, greenlight, copy, media, connection, hprepared⟩, hbuilds⟩ := hpermits
    obtain ⟨hash, checked, hcarries, hchecked, g, hactive, hid, hfence, -, -, -, hfrozen⟩ :=
      hprepared.covers hbuilds
    obtain ⟨⟨contentHash, mediaUrlHash, _, _, _, _, _, -, -, -, -, rfl⟩, -⟩ := hbuilds
    have hmedia := hprepared.mediaRead
    have hcommand := hprepared.command
    generalize hconfirmed : command.confirmationHash = confirmationHash at *
    subst hcommand
    have hlater {x : ExecutionRun} (hx : ReadRun (Log.trace K i) r.tenantId r.runId x) (N : History) :
        ReadRun (Log.trace (K ++ N) i) r.tenantId r.runId x := by
      rw [Log.trace_append]
      exact List.mem_append_left _ hx
    -- Both readings are of one run, for both found an active Greenlight.
    have hsame : checked = run := h.reads_agree (hlater hprepared.read _) (hlater hchecked _)
      (activeGreenlight_ok hprepared.active).1 (activeGreenlight_ok hactive).1
    subst hsame
    obtain rfl : g = greenlight := Except.ok.inj (hactive.symm.trans hprepared.active)
    obtain ⟨hsome, -⟩ := approvedCopy_ok hprepared.copied
    refine ⟨checked, g, copy.artifact, hlater hchecked _, hactive, hid, hfence, ?_,
      ⟨hash, hcarries, hfrozen⟩, fun hchannel => ?_⟩
    · rw [← hcarries.artifactId, (artifactById_mem hsome).2]
      exact hsome
    · cases media with
      | none => exact absurd hchannel hmedia
      | some reference =>
        obtain ⟨m, hm, hkind, ⟨mediaHash, hfrozen, happroved⟩, hsha⟩ := approvedMedia_ok hmedia.2.1
        exact ⟨m, hm, mediaHash, ⟨hkind, happroved, reference.sha256, rfl, hsha⟩, hfrozen⟩

/-! ## What is published -/

/-- Two reservations of one artifact of a run for one channel, by whatever requests, are of the same
text under the same Greenlight. -/
theorem reservations_agree {intent intent' : SocialPublicationIntent}
    {answer : accesses.Ans (.account (.publication (.reserve intent)))}
    {answer' : accesses.Ans (.account (.publication (.reserve intent')))}
    (h : Run D requests start L c)
    (hi : .act i (called (.account (.publication (.reserve intent))) answer) ∈ L)
    (hj : .act j (called (.account (.publication (.reserve intent'))) answer') ∈ L)
    (htenant : intent'.tenantId = intent.tenantId) (hrun : intent'.runId = intent.runId)
    (hartifact : intent'.artifactId = intent.artifactId)
    (hchannel : intent'.channelId = intent.channelId) :
    intent'.contentHash = intent.contentHash ∧ intent'.artifactHash = intent.artifactHash ∧
      intent'.greenlightId = intent.greenlightId ∧
      intent'.greenlightFencingToken = intent.greenlightFencingToken := by
  obtain ⟨run, g, artifact, hread, hfrom⟩ := h.reserved_from hi
  obtain ⟨run', g', artifact', hread', hfrom'⟩ := h.reserved_from hj
  rw [htenant, hrun] at hread'
  obtain rfl : run' = run := h.reads_agree hread hread' (activeGreenlight_ok hfrom.active).1
    (activeGreenlight_ok hfrom'.active).1
  obtain rfl : g' = g := Except.ok.inj (hfrom'.active.symm.trans hfrom.active)
  have hfound := hfrom'.found
  rw [hartifact] at hfound
  obtain rfl : artifact' = artifact := Option.some.inj (hfound.symm.trans hfrom.found)
  obtain ⟨_, ⟨-, -, -, hhash, content, hcontent, hdigest⟩, -⟩ := hfrom.carries
  obtain ⟨_, ⟨-, -, -, hhash', content', hcontent', hdigest'⟩, -⟩ := hfrom'.carries
  rw [hchannel] at hcontent'
  obtain rfl : content' = content := Except.ok.inj (hcontent'.symm.trans hcontent)
  exact ⟨Except.ok.inj (hdigest'.symm.trans hdigest), Except.ok.inj (hhash'.symm.trans hhash),
    hfrom'.greenlightId.symm.trans hfrom.greenlightId,
    hfrom'.fencingToken.symm.trans hfrom.fencingToken⟩

/-- When the stored run bears the Greenlight of a decision, what is reserved for it, before or
after, has the text and the media of artifacts that were there at the decision, unless two artifacts
collide under the hash. -/
theorem reserved_text_approved {F : Floats} {intent : SocialPublicationIntent}
    {answer : accesses.Ans (.account (.publication (.reserve intent)))}
    {decidedRun : ExecutionRun} {decision : GreenlightDecision} {reviewer note decidedAt : Str}
    {g : Greenlight} (h : Run D requests start L d)
    (hlater : Steps (service.machine questions) d M c)
    (hdecided : decided D.platform decidedRun decision reviewer note decidedAt = .ok g)
    (hstored : d.world.getRun intent.tenantId intent.runId = some run)
    (hcompleted : run.status = .completed) (hgreenlight : run.greenlight = some g)
    (hvalued : ∀ a ∈ run.artifacts ++ decidedRun.artifacts, a.Valued F)
    (hdistinct : ∀ a ∈ run.artifacts, ∀ b ∈ decidedRun.artifacts, ∀ hash,
      approvedHash D.platform a = .ok hash → approvedHash D.platform b = .ok hash →
        canonicalJson a.toJson = canonicalJson b.toJson)
    (hi : .act i (called (.account (.publication (.reserve intent))) answer) ∈ L ++ M) :
    (∃ a ∈ decidedRun.artifacts, ∃ hash, Carries D.platform intent a hash) ∧
      (intent.channelId = lit "instagram" →
        ∃ m ∈ decidedRun.artifacts, ∃ hash, CarriesMedia D.platform intent m hash) := by
  have hrun : Run D requests start (L ++ M) c := Steps.trans h hlater
  obtain ⟨read, g', artifact, hread, hfrom⟩ := hrun.reserved_from hi
  obtain rfl : read = run := h.read_stored hlater hstored hcompleted hread
    (activeGreenlight_ok hfrom.active).1
  obtain rfl : g' = g :=
    Option.some.inj ((activeGreenlight_ok hfrom.active).2.1.symm.trans hgreenlight)
  -- The artifact of a hash is one of the decision, with the same document.
  have horigin {a : Artifact} {hash : Str} (ha : a ∈ read.artifacts)
      (happroved : approvedHash D.platform a = .ok hash)
      (hfrozen : frozenHash g' a.artifactId = some hash) : ∃ b ∈ decidedRun.artifacts,
        SameDocument a b ∧ approvedHash D.platform b = .ok hash ∧
          canonicalJson a.toJson = canonicalJson b.toJson := by
    obtain ⟨b, hb, -, hhash⟩ := frozenHash_decided hdecided hfrozen
    have hsame := hdistinct a ha b hb hash happroved hhash
    obtain ⟨s, hs, -⟩ := exceptBind_ok happroved
    exact ⟨b, hb, .of_canonicalJson (hvalued a (List.mem_append_left _ ha))
      (hvalued b (List.mem_append_right _ hb)) hs (hsame ▸ hs), hhash, hsame⟩
  refine ⟨?_, fun hchannel => ?_⟩
  · obtain ⟨hash, ⟨hid, hkind, happroved, hhash, content, hcontent, hdigest⟩, hfrozen⟩ := hfrom.carries
    obtain ⟨b, hb, hsame, hbhash, hdocument⟩ :=
      horigin (artifactById_mem hfrom.found).1 happroved (hid ▸ hfrozen)
    exact ⟨b, hb, hash, hsame.artifactId.symm.trans hid, hsame.kind.symm.trans hkind, hbhash,
      hdocument ▸ hhash, content, hsame.content hcontent, hdigest⟩
  · obtain ⟨m, hm, hash, ⟨hkind, happroved, sha256, hmedia, hsha⟩, hfrozen⟩ := hfrom.media hchannel
    obtain ⟨b, hb, hsame, hbhash, -⟩ := horigin hm happroved hfrozen
    exact ⟨b, hb, hash, hsame.kind.symm.trans hkind, hbhash, sha256, hmedia,
      (get_str_congr hsame.payload.symm).2 hsha⟩

end

/-! ## Sample runs -/

namespace Sample

/-- Request `i` reserves an intent. -/
def reservedBy (i : Nat) : Entry sig Change → Option SocialPublicationIntent
  | .act j ⟨.inr (.account (.publication (.reserve intent))), _⟩ => if j = i then some intent else none
  | _ => none

theorem reservedBy_sound {i : Nat} {e : Entry sig Change} {intent : SocialPublicationIntent}
    (h : reservedBy i e = some intent) :
    ∃ answer, e = .act i (called (.account (.publication (.reserve intent))) answer) := by
  unfold reservedBy at h
  split at h
  · split at h
    · next answer hi =>
      cases h
      exact ⟨answer, by rw [hi]⟩
    · cases h
  · cases h

/-- Request `i` reserves an intent of the copy deck for X. -/
def reserves (i : Nat) (L : History) : Bool :=
  (L.findSome? (reservedBy i)).any fun intent => decide (intent.tenantId = lit "t" ∧
    intent.runId = lit "r" ∧ intent.artifactId = lit "copy" ∧ intent.channelId = lit "x")

theorem reserves_sound {i : Nat} {L : History} (h : reserves i L = true) :
    ∃ intent answer, .act i (called (.account (.publication (.reserve intent))) answer) ∈ L ∧
      intent.tenantId = lit "t" ∧ intent.runId = lit "r" ∧ intent.artifactId = lit "copy" ∧
      intent.channelId = lit "x" := by
  obtain ⟨intent, hfound, hkey⟩ := (Option.any_eq_true _ _).1 h
  obtain ⟨e, he, hreserved⟩ := List.exists_of_findSome?_eq_some hfound
  obtain ⟨answer, rfl⟩ := reservedBy_sound hreserved
  exact ⟨intent, answer, he, of_decide_eq_true hkey⟩

def floats : Floats where
  text _ := lit "NaN"
  isFloatText := isFloatText_nan

theorem valued_copyDeck : copyDeck.Valued floats := by
  simp [Artifact.Valued, copyDeck, isValue_obj]

/-- The Greenlight of the decision on the run. -/
def approval : Except Exn Greenlight :=
  decided platform run .approved (lit "reviewer") [] (lit "2026-01-01T00:00:00+00:00")

/-- The run as the decision leaves it. -/
def approvedRun : ExecutionRun := { run with greenlight := approval.toOption }

/-- The run is stored as the decision leaves it. -/
def approvedStores : Stores := { stores with runs := Table.empty.replace ⟨lit "t", approvedRun⟩ }

/-- A request under this Greenlight. -/
def approvedRequest : PublishRequest :=
  { publishRequest with request :=
      ⟨lit "copy", none, (approval.toOption.map (·.greenlightId)).getD [], 1, []⟩ }

end Sample

/-- The theorem for two requests. -/
theorem reservations_agree_sample : ∃ (L : History) (intent intent' : SocialPublicationIntent),
    Sample.reserves 0 L = true ∧ Sample.reserves 1 L = true ∧
      intent'.contentHash = intent.contentHash ∧ intent'.artifactHash = intent.artifactHash ∧
      intent'.greenlightId = intent.greenlightId ∧
      intent'.greenlightFencingToken = intent.greenlightFencingToken := by
  obtain ⟨L, c, h, htest⟩ := @Run.of_schedule Sample.deployment
    (fun _ => .publish Sample.publishRequest) Sample.stores (Sample.moves 0 3 ++ Sample.moves 1 8 ++
      Sample.moves 0 5) (fun L _ => Sample.reserves 0 L = true ∧ Sample.reserves 1 L = true)
    inferInstance (by decide +kernel)
  obtain ⟨intent, answer, hi, htenant, hrun, hartifact, hchannel⟩ := Sample.reserves_sound htest.1
  obtain ⟨intent', answer', hj, htenant', hrun', hartifact', hchannel'⟩ :=
    Sample.reserves_sound htest.2
  exact ⟨L, intent, intent', htest.1, htest.2, reservations_agree h hi hj (htenant'.trans htenant.symm)
    (hrun'.trans hrun.symm) (hartifact'.trans hartifact.symm) (hchannel'.trans hchannel.symm)⟩

/-- The theorem for the run of a decision. -/
theorem reserved_text_approved_sample : ∃ intent : SocialPublicationIntent,
    intent.artifactId = lit "copy" ∧
      ∃ a ∈ Sample.run.artifacts, ∃ hash, Carries Sample.platform intent a hash := by
  obtain ⟨L, c, h, htest⟩ := @Run.of_schedule Sample.deployment
    (fun _ => .publish Sample.approvedRequest) Sample.approvedStores (Sample.moves 0 8)
    (fun L _ => Sample.reserves 0 L = true) inferInstance (by decide +kernel)
  obtain ⟨intent, answer, hi, htenant, hrun, hartifact, hchannel⟩ := Sample.reserves_sound htest
  have hstart : Run Sample.deployment (fun _ => .publish Sample.approvedRequest)
      Sample.approvedStores [] _ := .refl
  obtain ⟨g, hdecided⟩ : ∃ g, Sample.approval = .ok g := by
    have hok : Sample.approval.isOk = true := by decide
    cases hg : Sample.approval with
    | error e =>
      rw [hg] at hok
      cases hok
    | ok g => exact ⟨g, rfl⟩
  have hgreenlight : Sample.approvedRun.greenlight = some g := by
    rw [Sample.approvedRun, hdecided]
    rfl
  have hdeck {a : Artifact} (ha : a ∈ Sample.run.artifacts) : a = Sample.copyDeck :=
    List.mem_singleton.1 ha
  refine ⟨intent, hartifact, (reserved_text_approved (F := Sample.floats) hstart h hdecided ?_ rfl
    hgreenlight ?_ ?_ hi).1⟩
  · rw [htenant, hrun]
    rfl
  · intro a ha
    rw [(List.mem_append.1 ha).elim hdeck hdeck]
    exact Sample.valued_copyDeck
  · intro a ha b hb _ _ _
    rw [hdeck ha, hdeck hb]

end Release

end AgencyRuntime
