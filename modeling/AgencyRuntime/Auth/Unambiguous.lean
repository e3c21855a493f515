import AgencyRuntime.Auth.Authenticator
import AgencyRuntime.Chains.Paired

/-!
# Lookups of credentials are unambiguous

What the constructor has added so far never holds two entries of one key or of one key id within a
tenant, nor two authorities for one subject (`Builder.Sound`). So the last entry a lookup keeps is
the only one that matches.
-/

namespace AgencyRuntime

namespace Auth

open Chains Py

variable {P : Platform}

/-! ## The entries of a configuration -/

/-- The credentials of a configuration, less the inactive ones. -/
def activeCredentials (config : CredentialConfig) : Except Exn (List Credential) := do
  let legacy ← (sortFields config.tenantApiKeys).mapM legacyCredential
  let individual ← config.identityCredentials.zipIdx.mapM identityCredential
  return legacy.reduceOption ++ individual.reduceOption

/-- The entries are those of the credentials and can be told apart, and the constructor knows their
keys, key ids and authorities. -/
structure Builder.Sound (P : Platform) (credentials : List Credential) (b : Builder) : Prop where
  entries : List.Forall₂ (fun c e => c.entry P = .ok e) credentials b.entries
  digests : ∀ e ∈ b.entries, e.digest ∈ b.seenDigests
  keyIds : ∀ e ∈ b.entries, (e.tenantId, e.keyId) ∈ b.seenKeyIds
  authority : ∀ e ∈ b.entries,
    b.subjectAuthority.lookup (e.tenantId, e.subjectId) = some (e.role, e.entitlements)
  distinctDigests : (b.entries.map (·.digest)).Nodup
  distinctKeyIds : (b.entries.map fun e => (e.tenantId, e.keyId)).Nodup

theorem sound_empty : Builder.Sound P [] {} := by
  constructor <;> simp

/-- Different images stay different with one that is not among them. -/
theorem nodup_map_concat {α β : Type} {f : α → β} {xs : List α} {x : α}
    (h : (xs.map f).Nodup) (hx : ∀ a ∈ xs, f a ≠ f x) : ((xs ++ [x]).map f).Nodup := by
  rw [List.map_append, List.map_singleton, ← List.concat_eq_append, List.nodup_concat]
  refine ⟨fun hmem => ?_, h⟩
  obtain ⟨a, ha, heq⟩ := List.mem_map.1 hmem
  exact hx a ha heq

theorem Builder.Sound.insert {credentials : List Credential} {c : Credential} {b b' : Builder}
    {e : CredentialEntry} (hb : b.Sound P credentials) (he : c.entry P = .ok e)
    (h : b.insert e = .ok b') : b'.Sound P (credentials ++ [c]) := by
  obtain ⟨hdigest, h⟩ := checkBind_ok.1 h
  obtain ⟨hkeyId, h⟩ := checkBind_ok.1 h
  obtain ⟨hauthority, h⟩ := checkBind_ok.1 h
  cases h
  refine ⟨List.rel_append hb.entries (.cons he .nil), ?_, ?_, ?_, ?_, ?_⟩
  · intro e' he'
    rcases List.mem_append.1 he' with he' | he'
    · exact List.mem_cons_of_mem _ (hb.digests e' he')
    · cases List.mem_singleton.1 he'
      exact List.mem_cons_self
  · intro e' he'
    rcases List.mem_append.1 he' with he' | he'
    · exact List.mem_cons_of_mem _ (hb.keyIds e' he')
    · cases List.mem_singleton.1 he'
      exact List.mem_cons_self
  · intro e' he'
    rw [List.lookup_cons]
    rcases List.mem_append.1 he' with he' | he'
    · have hold := hb.authority e' he'
      split
      · next hsame =>
        rw [beq_iff_eq] at hsame
        rw [hsame] at hold
        exact congrArg some (hauthority _ hold).symm
      · exact hold
    · cases List.mem_singleton.1 he'
      rw [beq_self_eq_true]
  · refine nodup_map_concat hb.distinctDigests fun e' he' heq => hdigest ?_
    exact heq ▸ hb.digests e' he'
  · refine nodup_map_concat hb.distinctKeyIds fun e' he' heq => hkeyId ?_
    exact heq ▸ hb.keyIds e' he'

/-- A loop that ends has read every item, and added what it did not skip. -/
theorem Builder.Sound.addEach {α : Type} {read : α → Except Exn (Option Credential)}
    {items : List α} {credentials : List Credential} {b b' : Builder}
    (hb : b.Sound P credentials) (h : b.addEach P read items = .ok b') :
    ∃ results, items.mapM read = .ok results ∧
      b'.Sound P (credentials ++ results.reduceOption) := by
  induction items generalizing credentials b with
  | nil =>
    cases h
    exact ⟨[], rfl, by simpa using hb⟩
  | cons item items ih =>
    rw [Builder.addEach, List.foldlM_cons] at h
    obtain ⟨b₁, hfirst, hrest⟩ := exceptBind_ok h
    obtain ⟨result, hread, hfirst⟩ := exceptBind_ok hfirst
    have hmap {results : List (Option Credential)} (hresults : items.mapM read = .ok results) :
        (item :: items).mapM read = .ok (result :: results) := by
      rw [List.mapM_cons, hread, hresults]
      rfl
    cases result with
    | none =>
      cases hfirst
      obtain ⟨results, hresults, hsound⟩ := ih hb hrest
      exact ⟨_, hmap hresults, by simpa using hsound⟩
    | some c =>
      obtain ⟨e, he, hinsert⟩ := exceptBind_ok hfirst
      obtain ⟨results, hresults, hsound⟩ := ih (hb.insert he hinsert) hrest
      refine ⟨_, hmap hresults, ?_⟩
      simpa using hsound

/-- An authenticator that was constructed has the entries of the active credentials, in another
order. -/
theorem init_ok {config : CredentialConfig} {auth : TenantAuthenticator}
    (h : TenantAuthenticator.init P config = .ok auth) :
    ∃ credentials b, activeCredentials config = .ok credentials ∧ Builder.Sound P credentials b ∧
      auth.entries.Perm b.entries := by
  obtain ⟨b₁, hlegacy, h⟩ := exceptBind_ok h
  obtain ⟨b, hindividual, h⟩ := exceptBind_ok h
  cases h
  obtain ⟨legacy, hreadLegacy, hsound⟩ := sound_empty.addEach hlegacy
  obtain ⟨individual, hreadIndividual, hsound⟩ := hsound.addEach hindividual
  refine ⟨legacy.reduceOption ++ individual.reduceOption, b, ?_, ?_, List.perm_insertionSort ..⟩
  · rw [activeCredentials, hreadLegacy]
    change (config.identityCredentials.zipIdx.mapM identityCredential >>= _) = _
    rw [hreadIndividual]
    rfl
  · simpa using hsound

/-! ## Lookups -/

section
variable {test : CredentialEntry → Except Exn Bool} {entries : List CredentialEntry}

theorem lastMatch_concat (e : CredentialEntry) :
    lastMatch test (entries ++ [e]) = lastMatch test entries >>= fun found =>
      test e >>= fun passed => pure (if passed then some e else found) := by
  simp only [lastMatch, List.foldlM_append, List.foldlM_cons, List.foldlM_nil, bind_pure]

/-- A lookup that ends has tested every entry, and found one exactly when one passes. -/
theorem lastMatch_ok {found : Option CredentialEntry} (h : lastMatch test entries = .ok found) :
    (∀ e, found = some e → e ∈ entries ∧ test e = .ok true) ∧
      (found = none → ∀ e ∈ entries, test e = .ok false) := by
  induction entries using List.reverseRecOn generalizing found with
  | nil =>
    cases h
    refine ⟨fun e he => ?_, fun _ e he => ?_⟩ <;> cases he
  | append_singleton entries last ih =>
    rw [lastMatch_concat] at h
    obtain ⟨before, hbefore, h⟩ := exceptBind_ok h
    obtain ⟨passed, hpassed, h⟩ := exceptBind_ok h
    cases h
    obtain ⟨hsome, hnone⟩ := ih hbefore
    cases passed with
    | true =>
      refine ⟨fun e he => ?_, fun hfalse => by cases hfalse⟩
      cases he
      exact ⟨List.mem_append_right _ (List.mem_singleton_self _), hpassed⟩
    | false =>
      refine ⟨fun e he => ?_, fun hfound e he => ?_⟩
      · obtain ⟨hmem, htest⟩ := hsome e he
        exact ⟨List.mem_append_left _ hmem, htest⟩
      · rcases List.mem_append.1 he with he | he
        · exact hnone hfound e he
        · cases List.mem_singleton.1 he
          exact hpassed

theorem lastMatch_total (h : ∀ e ∈ entries, ∃ passed, test e = .ok passed) :
    ∃ found, lastMatch test entries = .ok found := by
  induction entries using List.reverseRecOn with
  | nil => exact ⟨none, rfl⟩
  | append_singleton entries last ih =>
    obtain ⟨found, hfound⟩ := ih fun e he => h e (List.mem_append_left _ he)
    obtain ⟨passed, hpassed⟩ := h last (List.mem_append_right _ (List.mem_singleton_self _))
    refine ⟨if passed then some last else found, ?_⟩
    rw [lastMatch_concat]
    exact exceptBind_ok_iff.2 ⟨found, hfound, exceptBind_ok_iff.2 ⟨passed, hpassed, rfl⟩⟩

/-- A lookup whose tests all end, and that at most one entry passes, finds this entry. -/
theorem lastMatch_eq_some {e : CredentialEntry} (htests : ∀ e ∈ entries, ∃ passed, test e = .ok passed)
    (hunique : ∀ e' ∈ entries, test e' = .ok true → e' = e) (he : e ∈ entries)
    (hpasses : test e = .ok true) : lastMatch test entries = .ok (some e) := by
  obtain ⟨found, hfound⟩ := lastMatch_total htests
  obtain ⟨hsome, hnone⟩ := lastMatch_ok hfound
  cases found with
  | none =>
    have hfails := hnone rfl e he
    rw [hpasses] at hfails
    cases hfails
  | some e' =>
    obtain ⟨he', hpasses'⟩ := hsome e' rfl
    rw [hfound, hunique e' he' hpasses']

end

/-! ## The two lookups -/

theorem isascii_of_isHex64 {s : Str} (h : Ledger.isHex64 s = true) : isascii s = true := by
  rw [Ledger.isHex64, Bool.and_eq_true, List.all_eq_true] at h
  rw [isascii, List.all_eq_true]
  intro c hc
  have hdigit := h.2 c hc
  simp only [Ledger.isHexDigit, inRange, Bool.or_eq_true, Bool.and_eq_true, decide_eq_true_eq]
    at hdigit
  rw [decide_eq_true_eq]
  have h9 : '9'.toNat = 57 := rfl
  have hf : 'f'.toNat = 102 := rfl
  omega

theorem Credential.entry_digest {c : Credential} {e : CredentialEntry} (h : c.entry P = .ok e) :
    P.digest c.apiKey = .ok e.digest := by
  obtain ⟨tenantId, -, h⟩ := exceptBind_ok h
  obtain ⟨subjectId, -, h⟩ := exceptBind_ok h
  obtain ⟨role, -, h⟩ := exceptBind_ok h
  obtain ⟨keyId, -, h⟩ := exceptBind_ok h
  obtain ⟨entitlements, -, h⟩ := exceptBind_ok h
  obtain ⟨-, h⟩ := checkBind_ok.1 h
  obtain ⟨digest, hdigest, h⟩ := exceptBind_ok h
  cases h
  exact hdigest

/-- Credentials whose digests differ have different keys. -/
theorem nodup_apiKeys {credentials : List Credential} {entries : List CredentialEntry}
    (h : List.Forall₂ (fun c e => c.entry P = .ok e) credentials entries)
    (hdistinct : (entries.map (·.digest)).Nodup) : (credentials.map (·.apiKey)).Nodup := by
  induction h with
  | nil => exact List.nodup_nil
  | @cons c e credentials entries hentry hrest ih =>
    obtain ⟨hnew, hdistinct⟩ := List.nodup_cons.1 hdistinct
    refine List.nodup_cons.2 ⟨fun hmem => ?_, ih hdistinct⟩
    obtain ⟨c', hc', hkey⟩ := List.mem_map.1 hmem
    obtain ⟨e', he', hentry'⟩ := exists_right hrest hc'
    have hdigest := Credential.entry_digest hentry'
    rw [hkey, Credential.entry_digest hentry] at hdigest
    exact hnew (List.mem_map.2 ⟨e', he', (Except.ok.inj hdigest).symm⟩)

theorem digest_ascii (hsha : ∀ b, Ledger.isHex64 (P.sha256 b) = true) {s digest : Str}
    (h : P.digest s = .ok digest) : isascii digest = true := by
  obtain ⟨bytes, -, h⟩ := exceptBind_ok h
  cases h
  exact isascii_of_isHex64 (hsha bytes)

section
variable {credentials : List Credential} {b : Builder} {auth : TenantAuthenticator}

/-- The authenticator returns the identity of the entry with the digest of the key. -/
theorem authenticate_ok (hsha : ∀ b, Ledger.isHex64 (P.sha256 b) = true)
    (hb : b.Sound P credentials) (hperm : auth.entries.Perm b.entries) {apiKey : Str}
    {p : TenantPrincipal} :
    auth.authenticate P apiKey = .ok p ↔
      ∃ e ∈ auth.entries, P.digest apiKey = .ok e.digest ∧ e.principal = p := by
  have hascii : ∀ e ∈ auth.entries, isascii e.digest = true := by
    intro e he
    obtain ⟨c, -, hentry⟩ := exists_left hb.entries (hperm.mem_iff.1 he)
    exact digest_ascii hsha (Credential.entry_digest hentry)
  rw [TenantAuthenticator.authenticate, exceptBind_ok_iff]
  constructor
  · rintro ⟨candidate, hdigest, h⟩
    obtain ⟨found, hfound, h⟩ := exceptBind_ok h
    cases found with
    | none => cases h
    | some e =>
      cases h
      obtain ⟨he, htest⟩ := (lastMatch_ok hfound).1 e rfl
      have hsame : candidate = e.digest := by simpa using (compareDigest_ok.1 htest).2
      exact ⟨e, he, hsame ▸ hdigest, rfl⟩
  · rintro ⟨e, he, hdigest, rfl⟩
    refine ⟨_, hdigest, exceptBind_ok_iff.2 ⟨some e, ?_, rfl⟩⟩
    refine lastMatch_eq_some (fun e' he' => ?_) (fun e' he' htest => ?_) he ?_
    · exact ⟨_, compareDigest_ok.2 ⟨by rw [hascii e he, hascii e' he']; rfl, rfl⟩⟩
    · have hsame : e.digest = e'.digest := by simpa using (compareDigest_ok.1 htest).2
      exact List.inj_on_of_nodup_map hb.distinctDigests (hperm.mem_iff.1 he') (hperm.mem_iff.1 he)
        hsame.symm
    · exact compareDigest_ok.2 ⟨by rw [hascii e he]; rfl, beq_self_eq_true _⟩

theorem fingerprintMatch_ok {credentialFingerprint : Str} {e : CredentialEntry} {matched : Bool}
    (h : fingerprintMatch credentialFingerprint e = .ok matched) :
    matched = true ↔ e.digest = credentialFingerprint ∨
      credentialFingerprint.length = 16 ∧ credentialFingerprint <+: e.digest := by
  obtain ⟨full, hfull, h⟩ := exceptBind_ok h
  obtain ⟨legacy, hlegacy, h⟩ := exceptBind_ok h
  cases h
  have hfull := (compareDigest_ok.1 hfull).2
  rw [Bool.or_eq_true, ← hfull, beq_iff_eq]
  refine or_congr_right ?_
  unfold legacyFingerprintMatch at hlegacy
  split at hlegacy
  · next hlength =>
    have hlegacy := (compareDigest_ok.1 hlegacy).2
    rw [← hlegacy, beq_iff_eq, List.prefix_iff_eq_take, hlength]
    exact ⟨fun h => ⟨rfl, h.symm⟩, fun h => h.2.symm⟩
  · next hlength =>
    cases hlegacy
    simp [hlength]

/-- The test of a fingerprint ends when the fingerprint is ASCII. -/
theorem fingerprintMatch_total {credentialFingerprint : Str} {e : CredentialEntry}
    (hascii : isascii credentialFingerprint = true) (hdigest : isascii e.digest = true) :
    ∃ matched, fingerprintMatch credentialFingerprint e = .ok matched := by
  have htake : isascii (e.digest.take 16) = true := by
    rw [isascii, List.all_eq_true] at hdigest ⊢
    exact fun c hc => hdigest c (List.mem_of_mem_take hc)
  have hfull : compareDigest e.digest credentialFingerprint =
      .ok (e.digest == credentialFingerprint) :=
    compareDigest_ok.2 ⟨by rw [hdigest, hascii]; rfl, rfl⟩
  have hlegacy : ∃ legacy, legacyFingerprintMatch credentialFingerprint e = .ok legacy := by
    unfold legacyFingerprintMatch
    split
    · exact ⟨_, compareDigest_ok.2 ⟨by rw [htake, hascii]; rfl, rfl⟩⟩
    · exact ⟨false, rfl⟩
  obtain ⟨legacy, hlegacy⟩ := hlegacy
  refine ⟨(e.digest == credentialFingerprint) || legacy, ?_⟩
  exact exceptBind_ok_iff.2 ⟨_, hfull, exceptBind_ok_iff.2 ⟨legacy, hlegacy, rfl⟩⟩

/-- The authenticator resolves a session exactly by the entry of its tenant, subject and key id. -/
theorem resolveActiveSession_ok (hsha : ∀ b, Ledger.isHex64 (P.sha256 b) = true)
    (hb : b.Sound P credentials) (hperm : auth.entries.Perm b.entries)
    {tenantId subjectId keyId credentialFingerprint sessionId : Str} {p : TenantPrincipal} :
    auth.resolveActiveSession tenantId subjectId keyId credentialFingerprint sessionId = .ok p ↔
      ∃ e ∈ auth.entries, (e.tenantId = tenantId ∧ e.subjectId = subjectId ∧ e.keyId = keyId) ∧
        (e.digest = credentialFingerprint ∨
          credentialFingerprint.length = 16 ∧ credentialFingerprint <+: e.digest) ∧
        e.principal (lit "session") sessionId = p := by
  have hdigests : ∀ e ∈ auth.entries, isascii e.digest = true := by
    intro e he
    obtain ⟨c, -, hentry⟩ := exists_left hb.entries (hperm.mem_iff.1 he)
    exact digest_ascii hsha (Credential.entry_digest hentry)
  rw [TenantAuthenticator.resolveActiveSession, exceptBind_ok_iff]
  constructor
  · rintro ⟨found, hfound, h⟩
    cases found with
    | none => cases h
    | some e =>
      cases h
      obtain ⟨he, htest⟩ := (lastMatch_ok hfound).1 e rfl
      obtain ⟨matched, hmatched, htest⟩ := exceptBind_ok htest
      have htest := Except.ok.inj htest
      rw [Bool.and_eq_true, decide_eq_true_eq] at htest
      exact ⟨e, he, htest.1, (fingerprintMatch_ok hmatched).1 htest.2, rfl⟩
  · rintro ⟨e, he, hidentity, hfingerprint, rfl⟩
    have hascii : isascii credentialFingerprint = true := by
      rcases hfingerprint with rfl | ⟨-, hpre⟩
      · exact hdigests e he
      · have hall := hdigests e he
        rw [isascii, List.all_eq_true] at hall ⊢
        exact fun c hc => hall c (hpre.subset hc)
    refine ⟨some e, lastMatch_eq_some (fun e' he' => ?_) (fun e' he' htest => ?_) he ?_, rfl⟩
    · obtain ⟨matched, hmatched⟩ := fingerprintMatch_total hascii (hdigests e' he')
      exact ⟨_, exceptBind_ok_iff.2 ⟨matched, hmatched, rfl⟩⟩
    · obtain ⟨matched, -, htest⟩ := exceptBind_ok htest
      have htest := Except.ok.inj htest
      rw [Bool.and_eq_true, decide_eq_true_eq] at htest
      obtain ⟨⟨htenant, -, hkeyId⟩, -⟩ := htest
      refine List.inj_on_of_nodup_map hb.distinctKeyIds (hperm.mem_iff.1 he') (hperm.mem_iff.1 he) ?_
      rw [htenant, hkeyId, hidentity.1, hidentity.2.2]
    · obtain ⟨matched, hmatched⟩ := fingerprintMatch_total hascii (hdigests e he)
      have htrue : matched = true := (fingerprintMatch_ok hmatched).2 hfingerprint
      refine exceptBind_ok_iff.2 ⟨matched, hmatched, ?_⟩
      rw [htrue, decide_eq_true hidentity]
      rfl

end

/-- An authenticator that was constructed has one entry for each active credential of its
configuration. No two credentials have one key; as long as none has the hash of the key that is
presented, `authenticate` returns the identity of the credential with this key and raises when there
is none. The entries of one subject agree in role and entitlements; and `resolve_active_session`
returns the identity of the entry with the tenant, subject and key id whose digest is the stored
fingerprint, or begins with it when this has 16 characters, and no two entries have these. -/
theorem credentials_unambiguous (P : Platform) (hsha : ∀ b, Ledger.isHex64 (P.sha256 b) = true)
    (config : CredentialConfig) (auth : TenantAuthenticator)
    (hauth : TenantAuthenticator.init P config = .ok auth) :
    ∃ credentials entries, activeCredentials config = .ok credentials ∧
      List.Forall₂ (fun c e => c.entry P = .ok e) credentials entries ∧
      auth.entries.Perm entries ∧ auth.entries.Nodup ∧
      (credentials.map (·.apiKey)).Nodup ∧
      (∀ apiKey,
        (∀ c ∈ credentials, P.digest c.apiKey = P.digest apiKey → c.apiKey = apiKey) → ∀ p,
        (auth.authenticate P apiKey = .ok p ↔ ∃ c ∈ credentials, c.apiKey = apiKey ∧
          ∃ e, c.entry P = .ok e ∧ e.principal = p)) ∧
      (∀ e ∈ auth.entries, ∀ e' ∈ auth.entries, e.tenantId = e'.tenantId →
        e.subjectId = e'.subjectId → e.role = e'.role ∧ e.entitlements = e'.entitlements) ∧
      ∀ tenantId subjectId keyId,
        (∀ credentialFingerprint sessionId p,
          auth.resolveActiveSession tenantId subjectId keyId credentialFingerprint sessionId =
              .ok p ↔
            ∃ e ∈ auth.entries,
              (e.tenantId = tenantId ∧ e.subjectId = subjectId ∧ e.keyId = keyId) ∧
              (e.digest = credentialFingerprint ∨
                credentialFingerprint.length = 16 ∧ credentialFingerprint <+: e.digest) ∧
              e.principal (lit "session") sessionId = p) ∧
        ∀ e ∈ auth.entries, ∀ e' ∈ auth.entries,
          e.tenantId = tenantId ∧ e.subjectId = subjectId ∧ e.keyId = keyId →
          e'.tenantId = tenantId ∧ e'.subjectId = subjectId ∧ e'.keyId = keyId → e = e' := by
  obtain ⟨credentials, b, hcredentials, hb, hperm⟩ := init_ok hauth
  have hmem {e : CredentialEntry} : e ∈ auth.entries ↔ e ∈ b.entries := hperm.mem_iff
  refine ⟨credentials, b.entries, hcredentials, hb.entries, hperm, ?_, ?_, fun apiKey hkey p => ?_,
    fun e he e' he' htenant hsubject => ?_, fun tenantId subjectId keyId =>
      ⟨fun _ _ _ => resolveActiveSession_ok hsha hb hperm, fun e he e' he' hid hid' => ?_⟩⟩
  · exact hperm.nodup_iff.2 (List.Nodup.of_map _ hb.distinctDigests)
  · exact nodup_apiKeys hb.entries hb.distinctDigests
  · rw [authenticate_ok hsha hb hperm]
    constructor
    · rintro ⟨e, he, hdigest, rfl⟩
      obtain ⟨c, hc, hentry⟩ := exists_left hb.entries (hmem.1 he)
      have hsame := (Credential.entry_digest hentry).trans hdigest.symm
      exact ⟨c, hc, hkey c hc hsame, e, hentry, rfl⟩
    · rintro ⟨c, hc, rfl, e, hentry, rfl⟩
      obtain ⟨e', he', hentry'⟩ := exists_right hb.entries hc
      obtain rfl : e' = e := Except.ok.inj (hentry'.symm.trans hentry)
      exact ⟨e', hmem.2 he', Credential.entry_digest hentry, rfl⟩
  · have hauthority := hb.authority e (hmem.1 he)
    rw [htenant, hsubject, hb.authority e' (hmem.1 he')] at hauthority
    exact ⟨(Prod.mk.inj (Option.some.inj hauthority)).1.symm,
      (Prod.mk.inj (Option.some.inj hauthority)).2.symm⟩
  · refine List.inj_on_of_nodup_map hb.distinctKeyIds (hmem.1 he) (hmem.1 he') ?_
    rw [hid.1, hid.2.2, hid'.1, hid'.2.2]

namespace AuthSample

def apiKey : Str := lit "0123456789abcdef01234567"

/-- SHA-256 of the one key. -/
def platform : Platform where
  sha256 _ := lit "8865fea8edb697169ac2b4f5e6339e16439381033640eeb4f55edbad9bdc2d3d"
  loads _ := .decodeError
  fromisoformat _ := none
  urlsplit _ := none
  hmacSha1 _ _ := []

/-- One tenant key, and an individual credential that is not active. -/
def config : CredentialConfig where
  tenantApiKeys := [(lit "T", apiKey)]
  identityCredentials := [.obj [(lit "active", .bool false)]]

def entry : CredentialEntry where
  digest := platform.sha256 []
  tenantId := lit "t"
  subjectId := lit "tenant:t"
  role := .admin
  keyId := lit "legacy:t"
  entitlements := []
  legacy := true

def authenticator : TenantAuthenticator := ⟨[entry], false⟩

end AuthSample

/-- The tenant key authenticates as the administrator of its tenant. -/
theorem credentials_unambiguous_legacy :
    TenantAuthenticator.init AuthSample.platform AuthSample.config = .ok AuthSample.authenticator ∧
      AuthSample.authenticator.authenticate AuthSample.platform AuthSample.apiKey =
        .ok AuthSample.entry.principal := by
  have hinit : TenantAuthenticator.init AuthSample.platform AuthSample.config =
      .ok AuthSample.authenticator := by decide
  refine ⟨hinit, ?_⟩
  obtain ⟨credentials, entries, hcredentials, -, -, -, -, hkeys, -⟩ :=
    credentials_unambiguous AuthSample.platform
      (fun _ => show Ledger.isHex64 (AuthSample.platform.sha256 []) = true by decide)
      AuthSample.config AuthSample.authenticator hinit
  let credential : Credential :=
    { tenantId := lit "t", subjectId := lit "tenant:t", role := lit "admin"
      keyId := lit "legacy:t", apiKey := AuthSample.apiKey, entitlements := [], legacy := true }
  have hone : activeCredentials AuthSample.config = .ok [credential] := by decide
  obtain rfl : credentials = [credential] := Except.ok.inj (hcredentials.symm.trans hone)
  refine (hkeys AuthSample.apiKey (fun c hc _ => ?_) _).2
    ⟨credential, List.mem_singleton_self _, rfl, AuthSample.entry, ?_, rfl⟩
  · rw [List.mem_singleton.1 hc]
  · decide

end Auth

end AgencyRuntime
