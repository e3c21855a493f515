import AgencyRuntime.Publication.Execute
import AgencyRuntime.Python.NormalForm

/-!
# Canonical JSON and the binding digest

Two commands get one binding digest exactly when they agree on every bound field, where the digests
of the texts that are hashed for them are the digests of these texts only.
-/

namespace AgencyRuntime

open Effects Py

/-- The commands agree on every field that the binding digest is made of. -/
structure SameBoundFields (c d : SocialPublicationCommand) : Prop where
  tenantId : c.tenantId = d.tenantId
  channelId : c.channelId = d.channelId
  accountId : c.accountId = d.accountId
  runId : c.runId = d.runId
  artifactId : c.artifactId = d.artifactId
  artifactHash : c.artifactHash = d.artifactHash
  content : c.content = d.content
  mediaUrl : c.mediaUrl = d.mediaUrl
  mediaHash : c.mediaHash = d.mediaHash
  greenlightId : c.greenlightId = d.greenlightId
  greenlightFencingToken : c.greenlightFencingToken = d.greenlightFencingToken
  budgetCents : c.budgetCents = d.budgetCents
  confirmationHash : c.confirmationHash = d.confirmationHash

theorem ofOption_meaning_inj {s t : Option Str}
    (h : (Json.ofOption s).meaning = (Json.ofOption t).meaning) : s = t := by
  cases s <;> cases t <;> cases h <;> rfl

theorem bindingOf_nodup (command : SocialPublicationCommand) (contentHash : Str)
    (mediaUrlHash : Option Str) :
    ((bindingOf command contentHash mediaUrlHash).map Prod.fst).Nodup := by
  show List.Nodup [lit "tenant_id", lit "channel_id", lit "account_id", lit "run_id",
    lit "artifact_id", lit "artifact_hash", lit "content_hash", lit "media_url_hash",
    lit "media_hash", lit "greenlight_id", lit "greenlight_fencing_token", lit "budget_cents",
    lit "confirmation_hash"]
  decide

theorem bindingOf_isValue {F : Floats} (command : SocialPublicationCommand) (contentHash : Str)
    (mediaUrlHash : Option Str) :
    (Json.obj (bindingOf command contentHash mediaUrlHash)).IsValue F := by
  have hoption : ∀ s : Option Str, (Json.ofOption s).IsValue F := by
    intro s
    cases s with
    | none => exact .null
    | some s => exact .str s
  refine .obj (bindingOf_nodup command contentHash mediaUrlHash) ?_
  simp [bindingOf, hoption]

/-- Bindings that have canonical texts have the same one exactly when their values are the same. -/
theorem bindingOf_text_eq (F : Floats) {c d : SocialPublicationCommand} {hash hash' : Str}
    {urlHash urlHash' : Option Str} {s t : Str}
    (hs : canonicalJson (.obj (bindingOf c hash urlHash)) = .ok s)
    (ht : canonicalJson (.obj (bindingOf d hash' urlHash')) = .ok t) (h : s = t) :
    (bindingOf c hash urlHash).map (fun m => m.2.meaning) =
      (bindingOf d hash' urlHash').map fun m => m.2.meaning := by
  have hc := (bindingOf_isValue (F := F) c hash urlHash).wellFormed_of_ok hs
  have hd := (bindingOf_isValue (F := F) d hash' urlHash').wellFormed_of_ok ht
  have hmeaning := (hc.1.canonicalText_eq hd.1).1 (hc.2.trans (h.trans hd.2.symm))
  rw [Json.meaning, Json.meaning, Meaning.object.injEq] at hmeaning
  exact meaningFields_inj rfl (bindingOf_nodup c hash urlHash) hmeaning

namespace Publication

/-- The text that the binding digest of the command is the SHA-256 of. -/
def bindingText (P : Platform) (command : SocialPublicationCommand) : Except Exn Str := do
  let contentHash ← P.digest command.content
  let mediaUrlHash ← command.mediaUrl.elim (.ok none) fun url => some <$> P.digest url
  canonicalJson (.obj (bindingOf command contentHash mediaUrlHash))

/-- The bytes that are hashed for the binding digest of the command. -/
def hashedBytes (P : Platform) (command : SocialPublicationCommand) : List Bytes :=
  utf8 command.content :: command.mediaUrl.toList.map utf8 ++
    (bindingText P command).toOption.toList.map utf8

/-- `_build_intent` puts the digest of the binding into the intent. -/
theorem Spec_bindingDigest {P : Platform} {command : SocialPublicationCommand} :
    (buildIntent P command).Spec (fun _ _ => True)
      (fun _ r => ∀ intent, r = .ok intent →
        ∃ text, bindingText P command = .ok text ∧ P.digest text = .ok intent.bindingDigest) [] := by
  have herr (e : Exn) : ∀ intent, (.error e : Except Exn SocialPublicationIntent) = .ok intent →
      ∃ text, bindingText P command = .ok text ∧ P.digest text = .ok intent.bindingDigest :=
    fun _ h => by cases h
  simp only [buildIntent, Prog.bind_eq]
  refine (Prog.Spec_ofExcept_bind _ _ _).2 ⟨fun e _ => herr e, fun contentHash hcontent => ?_⟩
  refine (Prog.Spec_ofExcept_bind _ _ _).2 ⟨fun e _ => herr e, fun urlHash hurl => ?_⟩
  refine (Prog.Spec_ofExcept_bind _ _ _).2 ⟨fun e _ => herr e, fun binding hb => ?_⟩
  refine (Prog.Spec_ofExcept_bind _ _ _).2 ⟨fun e _ => herr e, fun digest hd => ?_⟩
  refine (Prog.Spec_ofExcept_bind _ _ _).2 ⟨fun e _ => herr e, fun key hk => ?_⟩
  refine (Prog.Spec_ask_bind _ _).2 ⟨trivial, fun now => ?_⟩
  refine (Prog.Spec_ofExcept_bind _ _ _).2 ⟨fun e _ => herr e, fun intentId hid => ?_⟩
  intro intent h
  cases h
  refine ⟨binding, ?_, hd⟩
  exact exceptBind_ok_iff.2 ⟨contentHash, hcontent, exceptBind_ok_iff.2 ⟨urlHash, hurl, hb⟩⟩

/-- An intent that `_build_intent` returned was built with the binding digest. -/
theorem bindingDigest_of_path {P : Platform} {command : SocialPublicationCommand} {t : Trace sig}
    {intent : SocialPublicationIntent} (h : (buildIntent P command).Path t (.ret intent)) :
    ∃ text, bindingText P command = .ok text ∧ P.digest text = .ok intent.bindingDigest :=
  Spec_bindingDigest.path h intent rfl

theorem eq_of_digest_ok {P : Platform} {s digest : Str} (h : P.digest s = .ok digest) :
    digest = P.sha256 (utf8 s) := by
  obtain ⟨bytes, hbytes, h⟩ := exceptBind_ok h
  cases h
  rw [(encode_ok.1 hbytes).2]

/-- The hashes in the text of a binding. -/
theorem bindingText_ok {P : Platform} {command : SocialPublicationCommand} {text : Str}
    (h : bindingText P command = .ok text) :
    canonicalJson (.obj (bindingOf command (P.sha256 (utf8 command.content))
      (command.mediaUrl.map fun url => P.sha256 (utf8 url)))) = .ok text := by
  obtain ⟨contentHash, hcontent, h⟩ := exceptBind_ok h
  obtain ⟨urlHash, hurl, h⟩ := exceptBind_ok h
  have hurl : urlHash = command.mediaUrl.map fun url => P.sha256 (utf8 url) := by
    cases hmedia : command.mediaUrl with
    | none =>
      rw [hmedia] at hurl
      cases hurl
      rfl
    | some url =>
      rw [hmedia] at hurl
      obtain ⟨digest, hdigest, hsome⟩ := exceptBind_ok (x := P.digest url) hurl
      cases hsome
      rw [eq_of_digest_ok hdigest, Option.map_some]
  rw [← eq_of_digest_ok hcontent, ← hurl]
  exact h

/-- No two of the byte strings hashed for the commands have one SHA-256. -/
def NoCollision (P : Platform) (c d : SocialPublicationCommand) : Prop :=
  Set.InjOn P.sha256 {b | b ∈ hashedBytes P c ∨ b ∈ hashedBytes P d}

theorem NoCollision.content {P : Platform} {c d : SocialPublicationCommand}
    (h : NoCollision P c d) (heq : P.sha256 (utf8 c.content) = P.sha256 (utf8 d.content)) :
    c.content = d.content := by
  refine utf8_inj (h (.inl ?_) (.inr ?_) heq)
  · exact List.mem_cons_self
  · exact List.mem_cons_self

theorem NoCollision.mediaUrl {P : Platform} {c d : SocialPublicationCommand}
    (h : NoCollision P c d)
    (heq : (c.mediaUrl.map fun url => P.sha256 (utf8 url)) =
      d.mediaUrl.map fun url => P.sha256 (utf8 url)) : c.mediaUrl = d.mediaUrl := by
  have hmem {command : SocialPublicationCommand} {url : Str} (hurl : command.mediaUrl = some url) :
      utf8 url ∈ hashedBytes P command := by
    simp [hashedBytes, hurl]
  cases hc : c.mediaUrl with
  | none =>
    cases hd : d.mediaUrl with
    | none => rfl
    | some url' => rw [hc, hd] at heq; cases heq
  | some url =>
    cases hd : d.mediaUrl with
    | none => rw [hc, hd] at heq; cases heq
    | some url' =>
      rw [hc, hd, Option.map_some, Option.map_some, Option.some.injEq] at heq
      exact congrArg some (utf8_inj (h (.inl (hmem hc)) (.inr (hmem hd)) heq))

theorem NoCollision.bindingText {P : Platform} {c d : SocialPublicationCommand}
    (h : NoCollision P c d) {s t : Str} (hs : bindingText P c = .ok s)
    (ht : bindingText P d = .ok t) (heq : P.sha256 (utf8 s) = P.sha256 (utf8 t)) : s = t := by
  have hmem {command : SocialPublicationCommand} {text : Str}
      (htext : Publication.bindingText P command = .ok text) :
      utf8 text ∈ hashedBytes P command := by
    simp [hashedBytes, htext, Except.toOption]
  exact utf8_inj (h (.inl (hmem hs)) (.inr (hmem ht)) heq)

/-- The binding text depends on the bound fields only. -/
theorem bindingText_congr {P : Platform} {c d : SocialPublicationCommand}
    (h : SameBoundFields c d) : bindingText P c = bindingText P d := by
  have hbinding (hash : Str) (urlHash : Option Str) :
      bindingOf c hash urlHash = bindingOf d hash urlHash := by
    rw [bindingOf, bindingOf, h.tenantId, h.channelId, h.accountId, h.runId, h.artifactId,
      h.artifactHash, h.mediaHash, h.greenlightId, h.greenlightFencingToken, h.budgetCents,
      h.confirmationHash]
  simp only [Publication.bindingText, h.content, h.mediaUrl, hbinding]

/-- Commands with one binding digest agree on every bound field. -/
theorem bindingDigest_eq_iff (F : Floats) {P : Platform} {c d : SocialPublicationCommand}
    {t u : Trace sig} {intent intent' : SocialPublicationIntent}
    (hc : (buildIntent P c).Path t (.ret intent)) (hd : (buildIntent P d).Path u (.ret intent'))
    (h : NoCollision P c d) :
    intent.bindingDigest = intent'.bindingDigest ↔ SameBoundFields c d := by
  obtain ⟨text, htext, hdigest⟩ := bindingDigest_of_path hc
  obtain ⟨text', htext', hdigest'⟩ := bindingDigest_of_path hd
  constructor
  · intro heq
    rw [eq_of_digest_ok hdigest, eq_of_digest_ok hdigest'] at heq
    have hfields := bindingOf_text_eq F (bindingText_ok htext) (bindingText_ok htext')
      (h.bindingText htext htext' heq)
    simp only [bindingOf, List.map_cons, List.cons.injEq, Json.meaning, Meaning.str.injEq,
      Meaning.int.injEq] at hfields
    obtain ⟨h1, h2, h3, h4, h5, h6, hcontent, hurl, hmedia, h10, h11, h12, hconfirm, -⟩ := hfields
    exact ⟨h1, h2, h3, h4, h5, h6, h.content hcontent, h.mediaUrl (ofOption_meaning_inj hurl),
      ofOption_meaning_inj hmedia, h10, h11, h12, ofOption_meaning_inj hconfirm⟩
  · intro hsame
    rw [bindingText_congr hsame, htext'] at htext
    cases htext
    rw [hdigest] at hdigest'
    exact Except.ok.inj hdigest'

namespace BindingSample

def hash : Str := lit "2cf24dba5fb0a30e26e83b2ac5b9e29e1b161e5c1fa7425e73043362938b9824"

def key : Str := lit "e6537ffc30aa789aaa2ff3671b9eb2bea7604e0bc8df187e10973d5a36efac4f"

/-- SHA-256 of the five texts that are hashed below, told apart by their lengths. -/
def sha256 (b : Bytes) : Str :=
  match b.length with
  | 5 => hash
  | 9 => key
  | 72 => lit "6ed95f24a05eb7fd2f38811d05e6a55dfe946c9ade6cbf06f6172bd679f71c2b"
  | 378 => lit "f947f2d1e80facc373e9e43ab7029037cd30c0896a8402c52f53f795f9009eba"
  | 379 => lit "19601dc714f82ce32149e89c13bea90f6bb744c477a3113ba484b48de724e2d1"
  | _ => []

def platform : Platform where
  sha256 := sha256
  loads _ := .decodeError
  fromisoformat _ := none
  urlsplit _ := none
  hmacSha1 _ _ := []

def command (budgetCents : Int) : SocialPublicationCommand where
  tenantId := lit "t"
  channelId := lit "x"
  accountId := lit "a"
  runId := lit "r"
  artifactId := lit "d"
  artifactHash := List.replicate 64 (Fin.ofNat _ 0x61)
  content := lit "hello"
  mediaUrl := none
  mediaHash := none
  greenlightId := lit "g"
  greenlightFencingToken := 1
  budgetCents
  idempotencyKey := lit "publish-1"
  confirmationHash := none

def intentId : Str := lit "social-publication-intent-6ed95f24a05eb7fd2f38811d05e6a55dfe946c9ade6cbf06"

/-- The intent of the command, built at the time `now`. -/
theorem built {budgetCents : Int} {text digest : Str} (now : Str)
    (htext : canonicalJson (.obj (bindingOf (command budgetCents) hash none)) = .ok text)
    (hdigest : platform.digest text = .ok digest) :
    (buildIntent platform (command budgetCents)).Path [⟨.inl .clock, now⟩]
      (.ret (pendingIntent (command budgetCents) intentId hash none key digest now)) := by
  have hcontent : platform.digest (command budgetCents).content = .ok hash :=
    show platform.digest (lit "hello") = _ by decide
  have hkey : platform.digest (command budgetCents).idempotencyKey = .ok key :=
    show platform.digest (lit "publish-1") = _ by decide
  have hid : platform.stableId "social-publication-intent"
      [.str (command budgetCents).tenantId, .str key] 48 = .ok intentId :=
    show platform.stableId "social-publication-intent" [.str (lit "t"), .str key] 48 = _ by
      decide
  have hurl : ((command budgetCents).mediaUrl.elim (.ok none) fun url =>
      some <$> platform.digest url : Except Exn (Option Str)) = .ok none := rfl
  simp only [buildIntent, Prog.bind_eq, hcontent, hurl, htext, hdigest, hkey, Prog.ofExcept_ok,
    Prog.ret_bind]
  refine .cons ?_
  rw [hid]
  exact .nil

def text (budgetCents : Int) : Str := canonicalText (.obj (bindingOf (command budgetCents) hash none))

def zeroDigest : Str := lit "f947f2d1e80facc373e9e43ab7029037cd30c0896a8402c52f53f795f9009eba"

def fiftyDigest : Str := lit "19601dc714f82ce32149e89c13bea90f6bb744c477a3113ba484b48de724e2d1"

theorem digest_zero : platform.digest (text 0) = .ok zeroDigest := by decide +kernel

theorem digest_fifty : platform.digest (text 50) = .ok fiftyDigest := by decide +kernel

theorem text_ok {budgetCents : Int} (h : budgetCents.natAbs < 10 ^ maxStrDigits) :
    canonicalJson (.obj (bindingOf (command budgetCents) hash none)) = .ok (text budgetCents) := by
  refine if_pos ?_
  have hone : (1 : Int).natAbs < 10 ^ maxStrDigits := Nat.one_lt_pow (by decide) (by decide)
  rw [Json.renderable, renderableFields_eq, List.all_eq_true]
  simp only [bindingOf, List.forall_mem_cons, Json.renderable, decide_eq_true_eq]
  exact ⟨trivial, trivial, trivial, trivial, trivial, trivial, trivial, rfl, rfl, trivial, hone, h,
    rfl, fun _ hm => by cases hm⟩

theorem hashedBytes_eq {budgetCents : Int} (h : budgetCents.natAbs < 10 ^ maxStrDigits) :
    hashedBytes platform (command budgetCents) = [utf8 (lit "hello"), utf8 (text budgetCents)] := by
  have hcontent : platform.digest (command budgetCents).content = .ok hash :=
    show platform.digest (lit "hello") = _ by decide
  have htext : bindingText platform (command budgetCents) = .ok (text budgetCents) :=
    exceptBind_ok_iff.2 ⟨hash, hcontent, exceptBind_ok_iff.2 ⟨none, rfl, text_ok h⟩⟩
  rw [hashedBytes, htext]
  rfl

theorem noCollision : NoCollision platform (command 0) (command 50) := by
  have hhello : platform.sha256 (utf8 (lit "hello")) = hash := by decide
  have hzero := (eq_of_digest_ok digest_zero).symm
  have hfifty := (eq_of_digest_ok digest_fifty).symm
  have hne : hash ≠ zeroDigest ∧ hash ≠ fiftyDigest ∧ zeroDigest ≠ fiftyDigest := by decide
  have hmem {b : Bytes} (h : b ∈ hashedBytes platform (command 0) ∨
      b ∈ hashedBytes platform (command 50)) :
      b = utf8 (lit "hello") ∨ b = utf8 (text 0) ∨ b = utf8 (text 50) := by
    rw [hashedBytes_eq (by decide +kernel), hashedBytes_eq (by decide +kernel)] at h
    simp only [List.mem_cons, List.not_mem_nil, or_false] at h
    rcases h with (h | h) | (h | h)
    · exact .inl h
    · exact .inr (.inl h)
    · exact .inl h
    · exact .inr (.inr h)
  intro a ha b hb heq
  rcases hmem ha with ha | ha | ha <;> rcases hmem hb with hb | hb | hb <;>
    rw [ha, hb] at heq ⊢ <;> simp only [hhello, hzero, hfifty] at heq
  · exact absurd heq hne.1
  · exact absurd heq hne.2.1
  · exact absurd heq.symm hne.1
  · exact absurd heq hne.2.2
  · exact absurd heq.symm hne.2.1
  · exact absurd heq.symm hne.2.2

end BindingSample

end Publication

end AgencyRuntime
