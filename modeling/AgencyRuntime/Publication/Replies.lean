import AgencyRuntime.Publication.Authority

/-!
# What a reply leads to

Predicates on provider replies, and the theorems that say which exception, if any, reading a reply
ends in. `Exn.caught` singles out what the `except` clauses of `execute` catch. A reply is
`Legible` when reading it raises nothing else, and `Rejects` when it reads as a rejection; the two
`…Comparable` predicates say the same of the comparisons a verification makes.
-/

namespace AgencyRuntime

open Effects

/-- An `except` clause of `execute` catches it. -/
def Exn.caught : Exn → Bool
  | .socialPublicationProviderRejected _ | .socialPublicationUnknown _ | .httpError => true
  | _ => false

/-- The status is 2xx. -/
def HttpReply.accepted : HttpReply → Prop
  | .transportError => False
  | .reply statusCode _ _ => 200 ≤ statusCode ∧ statusCode < 300

instance : DecidablePred HttpReply.accepted
  | .transportError => inferInstanceAs (Decidable False)
  | .reply statusCode _ _ => inferInstanceAs (Decidable (200 ≤ statusCode ∧ statusCode < 300))

/-- No header the response keeps is outside ASCII, and a body that is decoded does not exhaust the
decoder's stack. -/
def Legible (P : Platform) : HttpReply → Prop
  | .transportError => True
  | .reply statusCode headers body =>
    body.length ≤ maxResponseBytes →
      asciiHeaders (safeHeaders headers) = true ∧
        (200 ≤ statusCode ∧ statusCode < 300 ∨ 400 ≤ statusCode ∧ statusCode < 500 →
          P.loads body ≠ .recursionError)

/-- A legible 4xx. -/
def Rejects (P : Platform) : HttpReply → Prop
  | .transportError => False
  | .reply statusCode headers body =>
    (400 ≤ statusCode ∧ statusCode < 500) ∧ body.length ≤ maxResponseBytes ∧
      asciiHeaders (safeHeaders headers) = true ∧ P.loads body ≠ .recursionError

/-- `_request` and the `_json_object` that always follows it. -/
def readObject (P : Platform) (phase : Phase) (reply : HttpReply) :
    Except Exn (Response × Obj) := do
  let response ← readReply P phase reply
  let payload ← jsonObject P response
  return (response, payload)

/-- What reading a reply comes to. -/
inductive Reading (P : Platform) (reply : HttpReply) : Except Exn (Response × Obj) → Prop
  | accepted {response : Response} {payload : Obj} : Legible P reply → ¬ Rejects P reply →
      reply.accepted → Reading P reply (.ok (response, payload))
  | unknown : Legible P reply → ¬ Rejects P reply → Reading P reply (.error outcomeUnknown)
  | rejected {rejection : ProviderRejection} : Legible P reply → Rejects P reply →
      ¬ reply.accepted →
      Reading P reply (.error (.socialPublicationProviderRejected rejection))
  | illegible {e : Exn} : ¬ Legible P reply → ¬ Rejects P reply → e.caught = false →
      Reading P reply (.error e)

/-- A reading that succeeds is of a legible reply that does not reject. -/
theorem Reading.ok {P : Platform} {reply : HttpReply} {response : Response} {o : Obj}
    (h : Reading P reply (.ok (response, o))) :
    Legible P reply ∧ ¬ Rejects P reply ∧ reply.accepted := by
  cases h with
  | accepted hl hr ha => exact ⟨hl, hr, ha⟩

theorem providerRejectionMetadata_cases (P : Platform) (response : Response) :
    (P.loads response.content = .recursionError ∧
      providerRejectionMetadata P response = .error .recursionError) ∨
    (P.loads response.content ≠ .recursionError ∧
      ∃ m, providerRejectionMetadata P response = .ok m) := by
  unfold providerRejectionMetadata
  split
  · next h => exact .inl ⟨h, rfl⟩
  · next h =>
    refine .inr ⟨by simp [h], ?_⟩
    split <;> exact ⟨_, rfl⟩
  · next h _ => exact .inr ⟨h, _, rfl⟩

theorem jsonObject_cases (P : Platform) (response : Response) :
    (P.loads response.content = .recursionError ∧
      jsonObject P response = .error .recursionError) ∨
    (P.loads response.content ≠ .recursionError ∧
      (jsonObject P response = .error outcomeUnknown ∨ ∃ o, jsonObject P response = .ok o)) := by
  unfold jsonObject
  split
  · next h => exact .inr ⟨by simp [h], .inr ⟨_, rfl⟩⟩
  · next h => exact .inl ⟨h, rfl⟩
  · next h => exact .inr ⟨h, .inl rfl⟩

/-- Every reply reads in one of the four ways. -/
theorem reading (P : Platform) (phase : Phase) (reply : HttpReply) :
    Reading P reply (readObject P phase reply) := by
  cases reply with
  | transportError => exact .unknown trivial not_false
  | reply statusCode headers body =>
    by_cases hb : body.length ≤ maxResponseBytes
    · by_cases ha : asciiHeaders (safeHeaders headers) = true
      · by_cases h4 : 400 ≤ statusCode ∧ statusCode < 500
        · have h2 : ¬ (200 ≤ statusCode ∧ statusCode < 300) := by omega
          rcases providerRejectionMetadata_cases P ⟨statusCode, safeHeaders headers, body⟩ with
            ⟨hl, hm⟩ | ⟨hl, m, hm⟩
          · have : readObject P phase (.reply statusCode headers body) =
                .error .recursionError := by
              simp [readObject, readReply, check, hb, ha, h4, hm, bind, Except.bind]
            rw [this]
            exact .illegible (fun h => (h hb).2 (.inr h4) hl) (fun h => h.2.2.2 hl) rfl
          · obtain ⟨code, subcode, type⟩ := m
            have : readObject P phase (.reply statusCode headers body) =
                .error (.socialPublicationProviderRejected (.make
                  "social provider rejected publication" phase statusCode code subcode type)) := by
              simp [readObject, readReply, check, hb, ha, h4, hm, bind, Except.bind, throw,
                throwThe, MonadExceptOf.throw]
            rw [this]
            exact .rejected (fun _ => ⟨ha, fun _ => hl⟩) ⟨h4, hb, ha, hl⟩ h2
        · have hr : ¬ Rejects P (.reply statusCode headers body) := fun h => h4 h.1
          by_cases h2 : 200 ≤ statusCode ∧ statusCode < 300
          · rcases jsonObject_cases P ⟨statusCode, safeHeaders headers, body⟩ with
              ⟨hl, ho⟩ | ⟨hl, ho | ⟨o, ho⟩⟩
            · have : readObject P phase (.reply statusCode headers body) =
                  .error .recursionError := by
                simp [readObject, readReply, check, hb, ha, h4, h2, ho, bind, Except.bind, pure,
                  Except.pure]
              rw [this]
              exact .illegible (fun h => (h hb).2 (.inl h2) hl) hr rfl
            · have : readObject P phase (.reply statusCode headers body) =
                  .error outcomeUnknown := by
                simp [readObject, readReply, check, hb, ha, h4, h2, ho, bind, Except.bind, pure,
                  Except.pure]
              rw [this]
              exact .unknown (fun _ => ⟨ha, fun _ => hl⟩) hr
            · have : readObject P phase (.reply statusCode headers body) =
                  .ok (⟨statusCode, safeHeaders headers, body⟩, o) := by
                simp [readObject, readReply, check, hb, ha, h4, h2, ho, bind, Except.bind, pure,
                  Except.pure]
              rw [this]
              exact .accepted (fun _ => ⟨ha, fun _ => hl⟩) hr h2
          · have : readObject P phase (.reply statusCode headers body) =
                .error outcomeUnknown := by
              simp [readObject, readReply, check, hb, ha, h4, h2, bind, Except.bind]
            rw [this]
            exact .unknown (fun _ => ⟨ha, fun h => (h.elim h2 h4).elim⟩) hr
      · have : readObject P phase (.reply statusCode headers body) =
            .error .unicodeEncodeError := by
          simp [readObject, readReply, check, hb, ha, bind, Except.bind]
        rw [this]
        exact .illegible (fun h => ha (h hb).1) (fun h => ha h.2.2.1) rfl
    · have : readObject P phase (.reply statusCode headers body) = .error outcomeUnknown := by
        simp [readObject, readReply, check, hb, bind, Except.bind]
      rw [this]
      exact .unknown (fun h => absurd h hb) (fun h => hb h.2.1)

/-! ## The comparisons of the verifications -/

/-- The post identifier that the create reply gives. -/
def createdPostId (P : Platform) (reply : HttpReply) : Except Exn Str := do
  let (_, payload) ← readObject P .xPostCreate reply
  let data ← mapping (Py.get payload "data")
  requiredXPostId data "id"

/-- The media identifier that the publish reply gives. -/
def publishedMediaId (P : Platform) (reply : HttpReply) : Except Exn Str := do
  let (_, payload) ← readObject P .instagramMediaPublish reply
  requiredIdentifier payload "id"

/-- The normalised `status_code` of a container status reply. -/
def containerStatus (P : Platform) (reply : HttpReply) : Option Str :=
  match readObject P .instagramContainerStatus reply with
  | .ok (_, payload) =>
    match Py.get payload "status_code" with
    | .str rawStatus => some (Py.upper (Py.strip rawStatus))
    | _ => none
  | .error _ => none

/-- The verification of an X post compares nothing that raises: what it compares in constant time
is ASCII, and the text it encodes has no lone surrogate. Later comparisons are reached when the
earlier ones match. -/
def XComparable (command : SocialPublicationCommand) (postId : Str) (payload : Obj) : Prop :=
  ∀ data, mapping (Py.get payload "data") = .ok data →
  ∀ verifiedId, requiredXPostId data "id" = .ok verifiedId →
  ∀ authorId, requiredIdentifier data "author_id" = .ok authorId →
    (Py.isascii postId && Py.isascii verifiedId) = true ∧
    (postId = verifiedId → ∀ text, Py.get data "text" = .str text →
      Py.encodable text = true ∧
      (Py.utf8 text = Py.utf8 command.content →
        (Py.isascii authorId && Py.isascii command.accountId) = true))

/-- The verification of an Instagram post compares nothing that raises. -/
def InstagramComparable (P : Platform) (command : SocialPublicationCommand)
    (postId expectedUsername : Str) (payload : Obj) : Prop :=
  requiredIdentifier payload "id" = .ok postId →
  ∀ caption, Py.get payload "caption" = .str caption →
    Py.encodable caption = true ∧
    (P.digest caption = P.digest command.content →
      Py.get payload "media_type" = .str (Py.lit "IMAGE") →
      ∀ username, Py.get payload "username" = .str username →
        (Py.isascii username && Py.isascii expectedUsername) = true ∧
        (username = expectedUsername → ∀ permalink, Py.get payload "permalink" = .str permalink →
          permalink.length ≤ 2048 → P.urlsplit permalink ≠ none))

/-- The result is a value or a failure that leaves the outcome unknown. -/
def Exn.isUnknown : Exn → Bool
  | .socialPublicationUnknown _ => true
  | _ => false

@[simp] theorem isUnknown_outcomeUnknown : outcomeUnknown.isUnknown = true := rfl

theorem Exn.caught_of_isUnknown {e : Exn} (h : e.isUnknown = true) : e.caught = true := by
  cases e <;> first | rfl | cases h

theorem mapping_error {j : Json} {e : Exn} (h : mapping j = .error e) : e.isUnknown = true := by
  unfold mapping at h
  split at h <;> cases h
  rfl

theorem requiredXPostId_error {o : Obj} {name : String} {e : Exn}
    (h : requiredXPostId o name = .error e) : e.isUnknown = true := by
  unfold requiredXPostId at h
  split at h
  · split at h <;> cases h
    rfl
  · cases h; rfl

theorem requiredXPostId_ok {o : Obj} {name : String} {v : Str}
    (h : requiredXPostId o name = .ok v) : Py.isdigit v = true := by
  unfold requiredXPostId at h
  split at h
  · split at h
    · next hd => cases h; exact (Bool.and_eq_true _ _ ▸ hd).1
    · cases h
  · cases h

theorem requiredIdentifier_error {o : Obj} {name : String} {e : Exn}
    (h : requiredIdentifier o name = .error e) : e.isUnknown = true := by
  unfold requiredIdentifier at h
  split at h
  · split at h <;> cases h
    rfl
  · cases h; rfl

theorem requiredStr_ok {j : Json} {message : String} {s : Str} :
    requiredStr j message = .ok s ↔ j = .str s := by
  unfold requiredStr
  split
  · simp
  · next hj => simpa using hj s

theorem requiredStr_error {j : Json} {message : String} {e : Exn}
    (h : requiredStr j message = .error e) : e.isUnknown = true ∧ ∀ s, j ≠ .str s := by
  unfold requiredStr at h
  split at h
  · cases h
  · next hj => cases h; exact ⟨rfl, hj⟩

/-- A timestamp is read or the outcome is unknown. -/
theorem requiredTimestamp_error {P : Platform} {j : Json} {message : String} {e : Exn}
    (h : requiredTimestamp P j message = .error e) : e.isUnknown = true := by
  unfold requiredTimestamp at h
  cases hs : requiredStr j message with
  | error e' =>
    rw [hs] at h
    cases h
    exact (requiredStr_error hs).1
  | ok s =>
    simp only [hs, check, bind, Except.bind] at h
    split_ifs at h <;> cases h <;> rfl

/-- What a verification comes to, when `C` says that it compares nothing that raises. -/
inductive Verdict (C : Prop) {α : Type} : Except Exn α → Prop
  | ok {a : α} : C → Verdict C (.ok a)
  | unknown {e : Exn} : e.isUnknown = true → C → Verdict C (.error e)
  | strands {e : Exn} : e.caught = false → ¬ C → Verdict C (.error e)

theorem Verdict.bind {C : Prop} {α β : Type} {x : Except Exn α} {f : α → Except Exn β}
    (herr : ∀ e, x = .error e → Verdict C (.error e : Except Exn β))
    (hok : ∀ a, x = .ok a → Verdict C (f a)) : Verdict C (x >>= f) := by
  cases x with
  | error e => exact herr e rfl
  | ok a => exact hok a rfl

/-- A test that fails leaves the outcome unknown. -/
theorem Verdict.check {C : Prop} {β : Type} {c : Prop} [Decidable c] {message : String}
    {f : Unit → Except Exn β} (hno : ¬ c → C) (hyes : c → Verdict C (f ())) :
    Verdict C (check c (.socialPublicationUnknown message) >>= f) := by
  by_cases hc : c
  · rw [AgencyRuntime.check, if_pos hc]
    exact hyes hc
  · rw [AgencyRuntime.check, if_neg hc]
    exact .unknown rfl (hno hc)

/-- The verification of an X post. -/
theorem verifyXPost_verdict {P : Platform} {command : SocialPublicationCommand}
    {expectedUsername postId : Str} {payload : Obj} (hc : Py.encodable command.content = true) :
    Verdict (XComparable command postId payload)
      (verifyXPost P command expectedUsername postId payload) := by
  refine .bind (fun e h => .unknown (mapping_error h) ?_) fun data hdata => ?_
  · intro data hd
    rw [h] at hd; cases hd
  refine .bind (fun e h => .unknown (requiredXPostId_error h) ?_) fun verifiedId hv => ?_
  · intro data' hd verifiedId hv
    rw [hdata] at hd; cases hd
    rw [h] at hv; cases hv
  refine .bind (fun e h => .unknown (requiredIdentifier_error h) ?_) fun authorId ha => ?_
  · intro data' hd verifiedId _ authorId ha
    rw [hdata] at hd; cases hd
    rw [h] at ha; cases ha
  -- From here on the three reads of `XComparable` are fixed.
  have hread {A : Str → Str → Obj → Prop} (h : A verifiedId authorId data) :
      ∀ d, mapping (Py.get payload "data") = .ok d → ∀ v, requiredXPostId d "id" = .ok v →
        ∀ a, requiredIdentifier d "author_id" = .ok a → A v a d := by
    intro d hd v hv' a ha'
    rw [hdata] at hd; cases hd
    rw [hv] at hv'; cases hv'
    rw [ha] at ha'; cases ha'
    exact h
  refine .bind (fun e h => ?_) fun same hsame => ?_
  · obtain ⟨hasc, m, rfl⟩ := Py.compareDigest_error h
    refine .strands rfl fun hC => ?_
    have := (hC data hdata verifiedId hv authorId ha).1
    rw [hasc] at this; cases this
  obtain ⟨hasc, rfl⟩ := Py.compareDigest_ok.1 hsame
  refine .check (fun hne => hread ⟨hasc, fun h => absurd (by simp [h]) hne⟩) fun hid => ?_
  have hid : postId = verifiedId := by simpa using hid
  refine .bind (fun e h => ?_) fun text htext => ?_
  · obtain ⟨hu, hno⟩ := requiredStr_error h
    exact .unknown hu (hread ⟨hasc, fun _ text ht => absurd ht (hno text)⟩)
  have htext := requiredStr_ok.1 htext
  refine .bind (fun e h => ?_) fun bytes hbytes => ?_
  · obtain ⟨henc, rfl⟩ := Py.encode_error.1 h
    refine .strands rfl fun hC => ?_
    have := ((hC data hdata verifiedId hv authorId ha).2 hid text htext).1
    rw [henc] at this; cases this
  obtain ⟨henc, rfl⟩ := Py.encode_ok.1 hbytes
  have hcontent : Py.encode command.content = .ok (Py.utf8 command.content) :=
    Py.encode_ok.2 ⟨hc, rfl⟩
  rw [hcontent]
  refine .check (fun hne => hread ⟨hasc, fun _ text' ht => ?_⟩) fun hsame => ?_
  · rw [htext] at ht; cases ht
    exact ⟨henc, fun h => absurd h hne⟩
  refine .bind (fun e h => ?_) fun same hauthor => ?_
  · obtain ⟨hasc', m, rfl⟩ := Py.compareDigest_error h
    refine .strands rfl fun hC => ?_
    have := ((hC data hdata verifiedId hv authorId ha).2 hid text htext).2 hsame
    rw [hasc'] at this; cases this
  obtain ⟨hasc', rfl⟩ := Py.compareDigest_ok.1 hauthor
  -- Nothing after the last comparison raises anything but an unknown outcome.
  have hC : XComparable command postId payload := hread ⟨hasc, fun _ text' ht => by
    rw [htext] at ht; cases ht
    exact ⟨henc, fun _ => hasc'⟩⟩
  refine .check (fun _ => hC) fun _ => ?_
  refine .bind (fun e h => .unknown (requiredTimestamp_error h) hC) fun _ _ => ?_
  exact .check (fun _ => hC) fun _ => .ok hC

theorem digest_ok {P : Platform} {s : Str} (h : Py.encodable s = true) :
    P.digest s = .ok (P.sha256 (Py.utf8 s)) := by
  rw [Platform.digest, Py.encode_ok.2 ⟨h, rfl⟩]
  rfl

theorem digest_error {P : Platform} {s : Str} {e : Exn} (h : P.digest s = .error e) :
    Py.encodable s = false ∧ e = .unicodeEncodeError := by
  cases hs : Py.encodable s with
  | true => rw [digest_ok hs] at h; cases h
  | false =>
    rw [Platform.digest, Py.encode_error.2 ⟨hs, rfl⟩] at h
    cases h
    exact ⟨rfl, rfl⟩

/-- The verification of an Instagram post. -/
theorem verifyInstagramMedia_verdict {P : Platform} {command : SocialPublicationCommand}
    {postId expectedUsername : Str} {response : Response} {payload : Obj}
    (hc : Py.encodable command.content = true) :
    Verdict (InstagramComparable P command postId expectedUsername payload)
      (verifyInstagramMedia P command postId expectedUsername response payload) := by
  refine .bind (fun e h => .unknown (requiredIdentifier_error h) ?_) fun observedId hobs => ?_
  · intro hid
    rw [h] at hid; cases hid
  refine .check (fun hne => ?_) fun hid => ?_
  · intro hobs'
    rw [hobs] at hobs'; cases hobs'
    exact absurd rfl hne
  subst hid
  refine .bind (fun e h => ?_) fun caption hcap => ?_
  · obtain ⟨hu, hno⟩ := requiredStr_error h
    exact .unknown hu fun _ caption hcap => absurd hcap (hno caption)
  have hcap := requiredStr_ok.1 hcap
  -- From here on the caption is fixed.
  have hread {A : Str → Prop} (h : Py.encodable caption = true ∧ A caption) :
      ∀ c, Py.get payload "caption" = .str c → Py.encodable c = true ∧ A c := by
    intro c hc'
    rw [hcap] at hc'; cases hc'
    exact h
  refine .bind (fun e h => ?_) fun captionDigest hcd => ?_
  · obtain ⟨henc, rfl⟩ := digest_error h
    refine .strands rfl fun hC => ?_
    have := (hC hobs caption hcap).1
    rw [henc] at this; cases this
  have henc : Py.encodable caption = true := by
    cases he : Py.encodable caption with
    | true => rfl
    | false =>
      rw [Platform.digest, Py.encode_error.2 ⟨he, rfl⟩] at hcd
      cases hcd
  refine .bind (fun e h => ?_) fun contentDigest hcon => ?_
  · rw [digest_ok hc] at h; cases h
  refine .check (fun hne _ => hread ⟨henc, fun h => ?_⟩) fun hsame => ?_
  · rw [hcd, hcon] at h; cases h
    exact absurd rfl hne
  subst hsame
  refine .bind (fun e h => ?_) fun mediaType hmt => ?_
  · obtain ⟨hu, hno⟩ := requiredStr_error h
    exact .unknown hu fun _ => hread ⟨henc, fun _ hmt => absurd hmt (hno _)⟩
  have hmt := requiredStr_ok.1 hmt
  refine .check (fun hne _ => hread ⟨henc, fun _ h => ?_⟩) fun himage => ?_
  · rw [hmt] at h; cases h
    exact absurd rfl hne
  subst himage
  refine .bind (fun e h => ?_) fun username hun => ?_
  · obtain ⟨hu, hno⟩ := requiredStr_error h
    exact .unknown hu fun _ => hread ⟨henc, fun _ _ u hun => absurd hun (hno u)⟩
  have hun := requiredStr_ok.1 hun
  refine .bind (fun e h => ?_) fun same hsame => ?_
  · obtain ⟨hasc, m, rfl⟩ := Py.compareDigest_error h
    refine .strands rfl fun hC => ?_
    have := ((hC hobs caption hcap).2 (by rw [hcd, hcon]) hmt username hun).1
    rw [hasc] at this; cases this
  obtain ⟨hasc, rfl⟩ := Py.compareDigest_ok.1 hsame
  have hreadUser {A : Str → Prop}
      (h : (Py.isascii username && Py.isascii expectedUsername) = true ∧ A username) :
      ∀ u, Py.get payload "username" = .str u →
        (Py.isascii u && Py.isascii expectedUsername) = true ∧ A u := by
    intro u hu
    rw [hun] at hu; cases hu
    exact h
  refine .check (fun hne _ => hread ⟨henc, fun _ _ => hreadUser ⟨hasc, fun h => ?_⟩⟩) fun hu => ?_
  · exact absurd (by simp [h]) hne
  have hu : username = expectedUsername := by simpa using hu
  refine .bind (fun e h => ?_) fun permalink hpl => ?_
  · obtain ⟨hu', hno⟩ := requiredStr_error h
    exact .unknown hu' fun _ =>
      hread ⟨henc, fun _ _ => hreadUser ⟨hasc, fun _ l hl => absurd hl (hno l)⟩⟩
  have hpl := requiredStr_ok.1 hpl
  refine .check (fun hlong _ =>
    hread ⟨henc, fun _ _ => hreadUser ⟨hasc, fun _ l hl hle => ?_⟩⟩) fun hlen => ?_
  · rw [hpl] at hl; cases hl
    exact absurd hle hlong
  refine .bind (fun e h => ?_) fun parsed hparsed => ?_
  · cases hs : P.urlsplit permalink with
    | some u => rw [hs] at h; cases h
    | none =>
      rw [hs] at h
      cases h
      refine .strands rfl fun hC => ?_
      exact ((hC hobs caption hcap).2 (by rw [hcd, hcon]) hmt username hun).2 hu permalink hpl hlen
        hs
  have hC : InstagramComparable P command observedId expectedUsername payload := fun _ =>
    hread ⟨henc, fun _ _ => hreadUser ⟨hasc, fun _ l hl _ hnone => by
      rw [hpl] at hl; cases hl
      rw [hnone] at hparsed; cases hparsed⟩⟩
  refine .check (fun _ => hC) fun _ => ?_
  refine .bind (fun e h => .unknown (requiredTimestamp_error h) hC) fun _ _ => ?_
  refine .bind (fun e h => ?_) fun _ _ => .ok hC
  cases hm : command.mediaHash with
  | some m => rw [hm] at h; cases h
  | none => rw [hm] at h; cases h; exact .unknown rfl hC

/-! ## Signatures -/

theorem quote_ok {safe : String} {s : Str} (h : Py.encodable s = true) :
    Py.quote safe s = .ok ((Py.utf8 s).flatMap (Py.quoteByte safe)) := by
  rw [Py.quote, Py.encode_ok.2 ⟨h, rfl⟩]
  rfl

theorem quote_error {safe : String} {s : Str} (h : Py.encodable s = false) :
    Py.quote safe s = .error .unicodeEncodeError := by
  rw [Py.quote, Py.encode_error.2 ⟨h, rfl⟩]
  rfl

/-- A text that can be encoded is quoted, into ASCII. -/
theorem percent_ok {s : Str} (h : Py.encodable s = true) :
    ∃ q, percent s = .ok q ∧ Py.isascii q = true :=
  ⟨_, quote_ok h, Py.isascii_flatMap fun b _ => Py.isascii_quoteByte (by decide) b⟩

theorem percent_error {s : Str} (h : Py.encodable s = false) :
    percent s = .error .unicodeEncodeError :=
  quote_error h

/-- Both parts of every pair can be encoded. -/
def encodablePairs (pairs : List (Str × Str)) : Bool :=
  pairs.all fun p => Py.encodable p.1 && Py.encodable p.2

theorem percentPairs_ok {pairs : List (Str × Str)} (h : encodablePairs pairs = true) :
    ∃ quoted, percentPairs pairs = .ok quoted ∧
      ∀ p ∈ quoted, Py.isascii p.1 = true ∧ Py.isascii p.2 = true := by
  induction pairs with
  | nil => exact ⟨[], rfl, nofun⟩
  | cons p rest ih =>
    obtain ⟨name, value⟩ := p
    rw [encodablePairs, List.all_cons, Bool.and_eq_true, Bool.and_eq_true] at h
    obtain ⟨quoted, hq, hasc⟩ := ih h.2
    obtain ⟨n, hn, hna⟩ := percent_ok h.1.1
    obtain ⟨v, hv, hva⟩ := percent_ok h.1.2
    refine ⟨(n, v) :: quoted, by rw [percentPairs, hn, hv, hq]; rfl, ?_⟩
    rintro p (_ | ⟨_, hp⟩)
    · exact ⟨hna, hva⟩
    · exact hasc p hp

theorem percentPairs_error {pairs : List (Str × Str)} (h : encodablePairs pairs = false) :
    percentPairs pairs = .error .unicodeEncodeError := by
  induction pairs with
  | nil => cases h
  | cons p rest ih =>
    obtain ⟨name, value⟩ := p
    cases hn : Py.encodable name with
    | false => rw [percentPairs, percent_error hn]; rfl
    | true =>
      obtain ⟨n, hn', -⟩ := percent_ok hn
      cases hv : Py.encodable value with
      | false => rw [percentPairs, hn', percent_error hv]; rfl
      | true =>
        obtain ⟨v, hv', -⟩ := percent_ok hv
        have hr : encodablePairs rest = false := by
          simpa [encodablePairs, hn, hv] using h
        rw [percentPairs, hn', hv', ih hr]; rfl

theorem mem_sortPairs {p : Str × Str} {pairs : List (Str × Str)} :
    p ∈ sortPairs pairs ↔ p ∈ pairs :=
  (List.perm_insertionSort _ pairs).mem_iff

theorem encodablePairs_sortPairs (pairs : List (Str × Str)) :
    encodablePairs (sortPairs pairs) = encodablePairs pairs := by
  rw [Bool.eq_iff_iff, encodablePairs, encodablePairs, List.all_eq_true, List.all_eq_true]
  simp only [mem_sortPairs]

/-- What a signature needs to be made: parameters and secrets that can be encoded. -/
theorem oauth1Signature_ok {P : Platform} {method : String} {baseUrl : Str}
    {query parameters : List (Str × Str)} {consumerSecret tokenSecret : Str}
    (hm : Py.encodable (Py.lit method) = true) (hb : Py.encodable baseUrl = true)
    (hp : encodablePairs (parameters ++ query) = true)
    (hcs : Py.encodable consumerSecret = true) (hts : Py.encodable tokenSecret = true) :
    ∃ s, oauth1Signature P method baseUrl query parameters consumerSecret tokenSecret = .ok s ∧
      Py.isascii s = true := by
  obtain ⟨pairs, hpairs, hasc⟩ := percentPairs_ok hp
  have hand : Py.isascii (Py.lit "&") = true := by decide
  have hnorm : Py.isascii (Py.join (Py.lit "&")
      ((sortPairs pairs).map fun p => p.1 ++ Py.lit "=" ++ p.2)) = true := by
    refine Py.isascii_join hand fun s hmem => ?_
    obtain ⟨p, hp, rfl⟩ := List.mem_map.1 hmem
    simp [hasc p (mem_sortPairs.1 hp), (by decide : Py.isascii (Py.lit "=") = true)]
  obtain ⟨m, h1, ha1⟩ := percent_ok hm
  obtain ⟨u, h2, ha2⟩ := percent_ok hb
  obtain ⟨n, h3, ha3⟩ := percent_ok (Py.encodable_of_isascii hnorm)
  obtain ⟨c, h4, ha4⟩ := percent_ok hcs
  obtain ⟨t, h5, ha5⟩ := percent_ok hts
  have hbase : Py.isascii (Py.join (Py.lit "&") [m, u, n]) = true :=
    Py.isascii_join hand (by simp [ha1, ha2, ha3])
  have hkey : Py.isascii (c ++ Py.lit "&" ++ t) = true := by
    simp [ha4, ha5, hand]
  refine ⟨Py.b64encode (P.hmacSha1 (Py.utf8 (c ++ Py.lit "&" ++ t))
    (Py.utf8 (Py.join (Py.lit "&") [m, u, n]))), ?_, Py.isascii_b64encode _⟩
  simp only [oauth1Signature, hpairs, h1, h2, h3, h4, h5, bind, Except.bind, pure, Except.pure,
    Py.encode_ok.2 ⟨Py.encodable_of_isascii hbase, rfl⟩,
    Py.encode_ok.2 ⟨Py.encodable_of_isascii hkey, rfl⟩]

/-- Without them `UnicodeEncodeError` is raised. -/
theorem oauth1Signature_error {P : Platform} {method : String} {baseUrl : Str}
    {query parameters : List (Str × Str)} {consumerSecret tokenSecret : Str}
    (hm : Py.encodable (Py.lit method) = true) (hb : Py.encodable baseUrl = true)
    (h : (encodablePairs (parameters ++ query) && (Py.encodable consumerSecret &&
      Py.encodable tokenSecret)) = false) :
    oauth1Signature P method baseUrl query parameters consumerSecret tokenSecret =
      .error .unicodeEncodeError := by
  cases hp : encodablePairs (parameters ++ query) with
  | false => rw [oauth1Signature, percentPairs_error hp]; rfl
  | true =>
    rw [hp, Bool.true_and] at h
    obtain ⟨pairs, hpairs, hasc⟩ := percentPairs_ok hp
    have hnorm : Py.isascii (Py.join (Py.lit "&")
        ((sortPairs pairs).map fun p => p.1 ++ Py.lit "=" ++ p.2)) = true := by
      refine Py.isascii_join (by decide) fun s hmem => ?_
      obtain ⟨p, hp, rfl⟩ := List.mem_map.1 hmem
      simp [hasc p (mem_sortPairs.1 hp), (by decide : Py.isascii (Py.lit "=") = true)]
    obtain ⟨m, h1, -⟩ := percent_ok hm
    obtain ⟨u, h2, -⟩ := percent_ok hb
    obtain ⟨n, h3, -⟩ := percent_ok (Py.encodable_of_isascii hnorm)
    cases hcs : Py.encodable consumerSecret with
    | false =>
      simp only [oauth1Signature, hpairs, h1, h2, h3, percent_error hcs, bind, Except.bind]
    | true =>
      obtain ⟨c, h4, -⟩ := percent_ok hcs
      rw [hcs, Bool.true_and] at h
      simp only [oauth1Signature, hpairs, h1, h2, h3, h4, percent_error h, bind, Except.bind]

/-- The keys and tokens of an X request can be encoded. -/
def encodableCredentials (consumerKey consumerSecret accessToken accessSecret : Str) : Bool :=
  Py.encodable consumerKey && Py.encodable consumerSecret && Py.encodable accessToken &&
    Py.encodable accessSecret

theorem encodablePairs_append (a b : List (Str × Str)) :
    encodablePairs (a ++ b) = (encodablePairs a && encodablePairs b) :=
  List.all_append

theorem encodablePairs_oauthParameters {consumerKey nonce timestamp accessToken : Str}
    (hn : Py.isascii nonce = true) (ht : Py.isascii timestamp = true) :
    encodablePairs (oauthParameters consumerKey nonce timestamp accessToken) =
      (Py.encodable consumerKey && Py.encodable accessToken) := by
  have hlit : ∀ s ∈ ["oauth_consumer_key", "oauth_nonce", "oauth_signature_method", "HMAC-SHA1",
      "oauth_timestamp", "oauth_token", "oauth_version", "1.0"],
      Py.encodable (Py.lit s) = true := by decide
  simp only [List.forall_mem_cons] at hlit
  simp [oauthParameters, encodablePairs, hlit, Py.encodable_of_isascii hn,
    Py.encodable_of_isascii ht]

/-- The header is made of credentials that can be encoded, and is ASCII. -/
theorem oauthHeader_ok {P : Platform} {method : String} {baseUrl : Str} {query : List (Str × Str)}
    {consumerKey consumerSecret accessToken accessSecret nonce timestamp : Str}
    (hm : Py.encodable (Py.lit method) = true) (hb : Py.encodable baseUrl = true)
    (hq : encodablePairs query = true) (hn : Py.isascii nonce = true)
    (ht : Py.isascii timestamp = true)
    (h : encodableCredentials consumerKey consumerSecret accessToken accessSecret = true) :
    ∃ s, oauthHeader P method baseUrl query consumerKey consumerSecret accessToken accessSecret
      nonce timestamp = .ok s ∧ Py.isascii s = true := by
  simp only [encodableCredentials, Bool.and_eq_true] at h
  obtain ⟨⟨⟨hck, hcs⟩, hat⟩, has⟩ := h
  have hpar : encodablePairs (oauthParameters consumerKey nonce timestamp accessToken) = true := by
    rw [encodablePairs_oauthParameters hn ht, hck, hat]; rfl
  have hparq : encodablePairs (oauthParameters consumerKey nonce timestamp accessToken ++ query) =
      true := by
    rw [encodablePairs_append, hpar, hq]; rfl
  obtain ⟨sig, hsig, hsa⟩ := @oauth1Signature_ok P method baseUrl query _ _ _ hm hb hparq hcs has
  have hall : encodablePairs (sortPairs (oauthParameters consumerKey nonce timestamp accessToken ++
      [(Py.lit "oauth_signature", sig)])) = true := by
    rw [encodablePairs_sortPairs, encodablePairs_append, hpar]
    simpa [encodablePairs, Py.encodable_of_isascii hsa] using
      (by decide : Py.encodable (Py.lit "oauth_signature") = true)
  obtain ⟨pairs, hpairs, hasc⟩ := percentPairs_ok hall
  refine ⟨Py.lit "OAuth " ++ Py.join (Py.lit ", ")
    (pairs.map fun p => p.1 ++ Py.lit "=\"" ++ p.2 ++ Py.lit "\""), ?_, ?_⟩
  · simp only [oauthHeader, hsig, hpairs, bind, Except.bind, pure, Except.pure]
  rw [Py.isascii_append, Py.isascii_join (by decide) fun s hmem => ?_]
  · decide
  obtain ⟨p, hp, rfl⟩ := List.mem_map.1 hmem
  simp [hasc p hp, (by decide : Py.isascii (Py.lit "=\"") = true),
    (by decide : Py.isascii (Py.lit "\"") = true)]

theorem oauthHeader_error {P : Platform} {method : String} {baseUrl : Str}
    {query : List (Str × Str)}
    {consumerKey consumerSecret accessToken accessSecret nonce timestamp : Str}
    (hm : Py.encodable (Py.lit method) = true) (hb : Py.encodable baseUrl = true)
    (hq : encodablePairs query = true) (hn : Py.isascii nonce = true)
    (ht : Py.isascii timestamp = true)
    (h : encodableCredentials consumerKey consumerSecret accessToken accessSecret = false) :
    oauthHeader P method baseUrl query consumerKey consumerSecret accessToken accessSecret nonce
      timestamp = .error .unicodeEncodeError := by
  have : oauth1Signature P method baseUrl query
      (oauthParameters consumerKey nonce timestamp accessToken) consumerSecret accessSecret =
      .error .unicodeEncodeError := by
    refine oauth1Signature_error hm hb ?_
    rw [encodablePairs_append, hq, Bool.and_true, encodablePairs_oauthParameters hn ht]
    simp only [encodableCredentials, Bool.and_eq_false_iff] at h ⊢
    tauto
  rw [oauthHeader, this]
  rfl

/-! ## Stored reasons -/

theorem isPrintable_iff {s : Str} : Py.isPrintable s = true ↔
    ∀ c ∈ s, 32 ≤ c.val ∧ c.val ≠ 127 ∧ Py.isSurrogate c = false := by
  simp [Py.isPrintable, and_assoc]

theorem orElse_printable {s : Str} {default : String} (h : Py.isPrintable s = true)
    (hd : Py.isPrintable (Py.lit default) = true) : Py.isPrintable (orElse s default) = true := by
  unfold orElse
  split <;> assumption

theorem ofNat_printable (n : Nat) : Py.isPrintable (Py.ofNat n) = true := by
  rw [isPrintable_iff]
  intro c hc
  have := Py.mem_ofNat hc
  simp only [Py.isSurrogate, Bool.and_eq_false_iff, decide_eq_false_iff_not]
  omega

theorem validateReason_of_printable {reason : Str} (hne : reason ≠ [])
    (hlen : reason.length ≤ 128) (h : Py.isPrintable reason = true) :
    validateReason reason = .ok () ∧ Py.encodable reason = true := by
  rw [isPrintable_iff] at h
  have hall : (reason.all fun c => 32 ≤ c.val && c.val != 127) = true := by
    rw [List.all_eq_true]
    intro c hc
    simp [(h c hc).1, (h c hc).2.1]
  refine ⟨check_ok.2 ⟨hne, hlen, hall⟩, ?_⟩
  rw [Py.encodable, List.all_eq_true]
  intro c hc
  rw [(h c hc).2.2]
  rfl

/-- The reason of a rejection passes the store's check and can be stored. -/
theorem failureReason_valid (error : ProviderRejection) :
    providerRejectionFailureReason error ≠ [] ∧
      validateReason (providerRejectionFailureReason error) = .ok () ∧
      Py.encodable (providerRejectionFailureReason error) = true := by
  have hp := error.printable
  simp only [List.forall_mem_cons] at hp
  obtain ⟨hphase, hcode, hsub, htype, -⟩ := hp
  have hall : ∀ c ∈ providerRejectionFailureReason error,
      32 ≤ c.val ∧ c.val ≠ 127 ∧ Py.isSurrogate c = false := by
    intro c hc
    rcases Py.mem_join (List.mem_of_mem_take hc) with hc | ⟨p, hp, hc⟩
    · exact isPrintable_iff.1 (by decide) c hc
    · have hpp : Py.isPrintable p = true := by
        simp only [List.mem_cons, List.not_mem_nil, or_false] at hp
        rcases hp with rfl | rfl | rfl | rfl | rfl | rfl
        · decide
        · exact orElse_printable hphase (by decide)
        · exact ofNat_printable _
        · exact orElse_printable hcode (by decide)
        · exact orElse_printable hsub (by decide)
        · exact orElse_printable htype (by decide)
      exact isPrintable_iff.1 hpp c hc
  have hne : providerRejectionFailureReason error ≠ [] := by
    simp [providerRejectionFailureReason, Py.join, Py.lit]
  exact ⟨hne, validateReason_of_printable hne (List.length_take_le _ _) (isPrintable_iff.2 hall)⟩

end AgencyRuntime
