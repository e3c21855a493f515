import AgencyRuntime.Publication.Lifecycle
import Mathlib.Data.List.Induction

/-!
# At most one publication for an effect

Two intents claim one effect when they belong to one tenant and share the idempotency key or the
binding. Over every run of the service, at most one call is granted an effect, requests are sent
after a grant only, and a call that is refused learns what the store holds.
-/

namespace AgencyRuntime

open Effects Tables

/-- Two intents claim one effect. -/
def SocialPublicationIntent.sameEffect (r s : SocialPublicationIntent) : Bool :=
  r.sameKey s || r.sameBinding s

/-- Intents that claim one effect clash. -/
theorem clash_of_sameEffect {r s : SocialPublicationIntent} (h : r.sameEffect s = true) :
    intentSchema.clash r.core s.core = true := by
  rcases Bool.or_eq_true_iff.1 h with h | h
  · exact Bool.or_eq_true_iff.2 (.inl (Bool.or_eq_true_iff.2 (.inr h)))
  · exact Bool.or_eq_true_iff.2 (.inr h)

theorem sameEffect_of_not_clash {r s : SocialPublicationIntent}
    (h : intentSchema.clash r.core s.core = false) : r.sameEffect s = false := by
  rw [Bool.eq_false_iff]
  intro heff
  rw [clash_of_sameEffect heff] at h
  cases h

namespace Publication

/-! ## The transaction of `reserve` -/

section
variable {t t' : IntentTable} {intent record : SocialPublicationIntent} {e : Exn}

theorem priorIntent_some (h : priorIntent t intent = some record) :
    record ∈ t.rows ∧ record.sameEffect intent = true := by
  rcases Option.or_eq_some_iff.1 h with h | ⟨-, h⟩
  · have hkey := List.find?_some h
    exact ⟨List.mem_of_find?_eq_some h, Bool.or_eq_true_iff.2 (.inl hkey)⟩
  · have hbinding := List.find?_some h
    exact ⟨List.mem_of_find?_eq_some h, Bool.or_eq_true_iff.2 (.inr hbinding)⟩

theorem priorIntent_none (h : priorIntent t intent = none) :
    ∀ r ∈ t.rows, r.sameEffect intent = false := by
  obtain ⟨hkey, hbinding⟩ := Option.or_eq_none_iff.1 h
  intro r hr
  have hk := List.find?_eq_none.1 hkey r hr
  have hb := List.find?_eq_none.1 hbinding r hr
  simp only [Bool.not_eq_true] at hk hb
  rw [SocialPublicationIntent.sameEffect, hk, hb, Bool.or_false]

/-- An executable reservation inserts a row that clashes with none. -/
theorem reserveIn_inserted (h : reserveIn intent t = (.ok .inserted, t')) :
    t.Fresh intent ∧ t'.rows = t.rows ++ [intent] := by
  simp only [reserveIn] at h
  split at h
  · split at h
    · cases h
    · split at h <;> cases h
  · split at h
    · split at h
      · next hins =>
        cases h
        exact Table.insert_eq_some.1 hins
      · cases h
    · cases h

/-- Any other reservation shows a stored row of the binding. -/
theorem reserveIn_existing (h : reserveIn intent t = (.ok (.existing record), t')) :
    t' = t ∧ record ∈ t.rows ∧ record.sameBinding intent = true := by
  simp only [reserveIn] at h
  split at h
  · next hprior =>
    split at h
    · cases h
    · split at h
      · cases h
      · next hbinding =>
        cases h
        obtain ⟨hmem, heff⟩ := priorIntent_some hprior
        have htenant : record.tenantId = intent.tenantId := by
          rcases Bool.or_eq_true_iff.1 heff with h | h <;>
            exact beq_iff_eq.1 (Bool.and_eq_true_iff.1 h).1
        have hbinding := not_not.1 hbinding
        exact ⟨rfl, hmem, by simp [SocialPublicationIntent.sameBinding, htenant, hbinding]⟩
  · split at h
    · split at h <;> cases h
    · cases h

/-- A refused reservation changes nothing. It is a conflict, or the database refuses a row whose
effect no stored row claims. -/
theorem reserveIn_error (h : reserveIn intent t = (.error e, t')) :
    t' = t ∧ ((∃ message, e = .socialPublicationConflict message) ∨
      (e = .integrityError ∨ e = .overflowError) ∧
        ∀ r ∈ t.rows, r.sameEffect intent = false) := by
  simp only [reserveIn] at h
  split at h
  · split at h
    · cases h
      exact ⟨rfl, .inl ⟨_, rfl⟩⟩
    · split at h
      · cases h
        exact ⟨rfl, .inl ⟨_, rfl⟩⟩
      · cases h
  · next hprior =>
    split at h
    · split at h
      · cases h
      · cases h
        exact ⟨rfl, .inr ⟨.inl rfl, priorIntent_none hprior⟩⟩
    · cases h
      exact ⟨rfl, .inr ⟨.inr rfl, priorIntent_none hprior⟩⟩

end

/-! ## Grants -/

def grantOf : Entry sig Empty → Option (Nat × SocialPublicationIntent)
  | .act i ⟨.inr (.reserve intent), .ok .inserted⟩ => some (i, intent)
  | _ => none

/-- The executable reservations of a run, each with the call that obtained it. -/
def grants (L : History) : List (Nat × SocialPublicationIntent) := L.filterMap grantOf

@[simp] theorem grants_append (L L' : History) : grants (L ++ L') = grants L ++ grants L' :=
  List.filterMap_append

theorem grantOf_eq_some {e : Entry sig Empty} {i : Nat} {intent : SocialPublicationIntent} :
    grantOf e = some (i, intent) ↔ e = .act i (called (.reserve intent) (.ok .inserted)) := by
  constructor
  · intro h
    rcases e with ⟨j, ⟨_ | o, a⟩⟩ | j | x
    · cases h
    · cases o with
      | reserve intent' =>
        rcases a with _ | _ | _
        · cases h
        · cases h; rfl
        · cases h
      | _ => cases h
    · cases h
    · cases h
  · rintro rfl
    rfl

theorem mem_grants {L : History} {i : Nat} {intent : SocialPublicationIntent} :
    (i, intent) ∈ grants L ↔ .act i (called (.reserve intent) (.ok .inserted)) ∈ L := by
  simp only [grants, List.mem_filterMap, grantOf_eq_some, exists_eq_right]

section
variable {P : Platform} {calls : Nat → Call} {start : IntentTable} {L L' : History} {c : State}
variable {i j : Nat} {intent intent' : SocialPublicationIntent}

/-- A granted intent has its row. -/
theorem Run.granted_row
    (h : Run P calls start (L ++ .act i (called (.reserve intent) (.ok .inserted)) :: L') c) :
    rowAfter L' intent ∈ c.world.rows := by
  obtain ⟨d, d', -, hrun, -, hs⟩ := h.at_call
  exact Steps.row hs (by simp [(reserveIn_inserted hrun).2])

/-- What was reserved stays in the table. -/
theorem Run.grant_core (h : Run P calls start L c) (hg : (i, intent) ∈ grants L) :
    ∃ r ∈ c.world.rows, r.core = intent.core := by
  obtain ⟨L₁, L₂, rfl⟩ := List.append_of_mem (mem_grants.1 hg)
  exact ⟨_, h.granted_row, core_rowAfter L₂ intent⟩

/-- A reservation is made by an `execute`, once. -/
theorem Run.reserve_permitted {answer : Except Exn Reserved}
    (h : Run P calls start (L ++ .act i (called (.reserve intent) answer) :: L') c) :
    BeforeReservation (L.trace i) ∧ ∃ A command, calls i = .execute A command ∧
      BuiltFor P command.normalized intent := by
  have hp := h.permitted
  cases hc : calls i with
  | execute A command =>
    rw [hc] at hp
    rcases hp with ⟨hb, hbuilt, -⟩ | ⟨_, _, -, hno⟩
    · exact ⟨hb, A, command, rfl, hbuilt⟩
    · exact absurd hno not_false
  | revokeUnused | reconcileSuccess =>
    rw [hc] at hp
    simp [Call.Permits] at hp

/-- A request is sent by an `execute`, for the intent it was granted. -/
theorem Run.send_permitted {r : Request}
    (h : Run P calls start (L ++ .act i (asked (.send r) ()) :: L') c) :
    ∃ A command intent s, calls i = .execute A command ∧ Since (L.trace i) intent s ∧
      ReservedPermits P intent s (.inl (.send r)) := by
  have hp := h.permitted
  cases hc : calls i with
  | execute A command =>
    rw [hc] at hp
    rcases hp with ⟨-, hno⟩ | ⟨intent, s, hs, hr⟩
    · exact absurd hno not_false
    · exact ⟨A, command, intent, s, rfl, hs, hr⟩
  | revokeUnused | reconcileSuccess =>
    rw [hc] at hp
    simp [Call.Permits] at hp

/-- No two grants clash, and no call obtains two. -/
theorem Run.grants_pairwise (h : Run P calls start L c) :
    (grants L).Pairwise fun x y =>
      x.1 ≠ y.1 ∧ intentSchema.clash x.2.core y.2.core = false := by
  induction L using List.reverseRecOn generalizing c with
  | nil => exact .nil
  | append_singleton L e ih =>
    obtain ⟨d, h1, h2⟩ := Steps.append_inv h
    have hs := h2.single_inv
    rw [grants_append, List.pairwise_append]
    refine ⟨ih h1, ?_, ?_⟩
    · cases he : grantOf e <;> simp [grants, he]
    · rintro ⟨i, intent⟩ hx ⟨j, intent'⟩ hy
      have he := mem_grants.1 hy
      rw [List.mem_singleton] at he
      subst he
      obtain ⟨hb, -⟩ := h.reserve_permitted
      refine ⟨?_, ?_⟩
      · rintro rfl
        have hmem := Log.mem_trace.2 (mem_grants.1 hx)
        have hres : (intent, .ok .inserted) ∈ reservations (Log.trace L i) :=
          List.mem_filterMap.2 ⟨_, hmem, rfl⟩
        rw [hb.reservations] at hres
        cases hres
      · obtain ⟨r, hr, hcore⟩ := Run.grant_core h1 hx
        obtain ⟨hfresh, -⟩ := reserveIn_inserted (step_call hs)
        rw [← hcore]
        exact hfresh r hr

/-- A grant clashes with no row of the first table. -/
theorem Run.grant_fresh (h : Run P calls start L c) (hg : (i, intent) ∈ grants L)
    {r : SocialPublicationIntent} (hr : r ∈ start.rows) :
    intentSchema.clash r.core intent.core = false := by
  obtain ⟨L₁, L₂, rfl⟩ := List.append_of_mem (mem_grants.1 hg)
  obtain ⟨d, d', h1, hrun, -, -⟩ := h.at_call
  obtain ⟨hfresh, -⟩ := reserveIn_inserted hrun
  rw [← core_rowAfter L₁ r]
  exact hfresh _ (Steps.row h1 hr)

/-- A call whose reservation was not executable is over, with the result the answer gives. -/
theorem Run.refused {answer : Except Exn Reserved}
    (h : Run P calls start (L ++ .act i (called (.reserve intent) answer) :: L') c)
    (hno : answer ≠ .ok .inserted) :
    sent (Log.trace (L ++ .act i (called (.reserve intent) answer) :: L') i) = [] ∧
      ∃ r, RefusedWith answer r ∧ c.thread i = .ofExcept (r.map .published) := by
  obtain ⟨hb, A, command, hc, -⟩ := h.reserve_permitted
  have hspec := Steps.spec h ((calls i).spec P)
  have htrace : Log.trace (L ++ .act i (called (.reserve intent) answer) :: L') i =
      L.trace i ++ called (.reserve intent) answer :: L'.trace i := by
    rw [Log.trace_append, ← List.singleton_append, Log.trace_append, Log.trace_act_self]
    rfl
  rw [htrace, hc] at hspec
  rw [htrace]
  have hres : reservations (L.trace i ++ called (.reserve intent) answer :: L'.trace i) =
      (intent, answer) :: reservations (L'.trace i) := by
    rw [reservations_append, hb.reservations]
    rfl
  cases hthread : c.thread i with
  | op o k =>
    -- Nothing is permitted after the refusal.
    rw [hthread] at hspec
    rcases hspec.1 with ⟨hb', -⟩ | ⟨J, s, hs, -⟩
    · rw [hb'.reservations] at hres
      cases hres
    · have := hs.reservations.symm.trans hres
      exact absurd (Prod.mk.inj (List.cons.inj this).1).2.symm hno
  | ret a =>
    rw [hthread] at hspec
    obtain ⟨r, hend, hr⟩ := hspec
    obtain ⟨hsent, hwith⟩ := hend.refusedWith hres hno
    exact ⟨hsent, r, hwith, by rw [← hr]; rfl⟩
  | raise e =>
    rw [hthread] at hspec
    obtain ⟨r, hend, hr⟩ := hspec
    obtain ⟨hsent, hwith⟩ := hend.refusedWith hres hno
    exact ⟨hsent, r, hwith, by rw [← hr]; rfl⟩

end

/-- How a call ends whose reservation of the intent was not executable: it replays the receipt of
the stored publication, it is blocked, it conflicts, or the database itself refuses a row whose
effect no stored row claims. -/
inductive Refused (P : Platform) (calls : Nat → Call) (start : IntentTable) (L : History)
    (c : State) (i : Nat) (intent : SocialPublicationIntent) : Prop
  | replayed {record : SocialPublicationIntent} : record ∈ c.world.rows →
      record.status = .succeeded → record.sameBinding intent = true →
      c.thread i = .ret (.published (.fromIntent record true)) → Refused P calls start L c i intent
  | blocked {status : PublicationStatus} :
      c.thread i = .raise (.socialPublicationBlocked status.text) →
      Refused P calls start L c i intent
  | conflict {message : String} : c.thread i = .raise (.socialPublicationConflict message) →
      Refused P calls start L c i intent
  | storage {d : State} {e : Exn} : Run P calls start L d →
      (∀ r ∈ d.world.rows, r.sameEffect intent = false) →
      e = .integrityError ∨ e = .overflowError → c.thread i = .raise e →
      Refused P calls start L c i intent

/-- At most one call obtains an executable reservation for an effect, none for one that was stored
before the run; a request is sent only after the sender's own reservation, and no chain starts
twice and no post is created twice; any other call that reaches the reservation sends nothing. -/
theorem publication_at_most_once {P : Platform} {calls : Nat → Call} {start : IntentTable}
    {L : History} {c : State} (h : Run P calls start L c) :
    (grants L).Pairwise (fun x y => x.1 ≠ y.1 ∧ x.2.sameEffect y.2 = false) ∧
    (∀ x ∈ grants L, ∀ r ∈ start.rows, r.sameEffect x.2 = false) ∧
    (∀ L₁ i r L₂, L = L₁ ++ .act i (asked (.send r) ()) :: L₂ →
      (∃ A command intent, calls i = .execute A command ∧ BuiltFor P command.normalized intent ∧
        (i, intent) ∈ grants L₁) ∧
      (r.phase.startsChain = true → sent (L₁.trace i) = []) ∧
      (r.phase.createsPost = true → ∀ q ∈ sent (L₁.trace i), q.phase.createsPost = false)) ∧
    (∀ L₁ i intent answer L₂, L = L₁ ++ .act i (called (.reserve intent) answer) :: L₂ →
      answer ≠ .ok .inserted →
      sent (L.trace i) = [] ∧ Refused P calls start L₁ c i intent) := by
  refine ⟨h.grants_pairwise.imp fun hxy => ⟨hxy.1, sameEffect_of_not_clash hxy.2⟩,
    fun x hx r hr => sameEffect_of_not_clash (h.grant_fresh hx hr), ?_, ?_⟩
  · rintro L₁ i r L₂ rfl
    obtain ⟨A, command, intent, s, hc, hs, hstart, hpost, -⟩ := h.send_permitted
    refine ⟨⟨A, command, intent, hc, ?_, mem_grants.2 (Log.mem_trace.1 hs.mem)⟩, ?_, ?_⟩
    · obtain ⟨M₁, M₂, rfl⟩ := List.append_of_mem (Log.mem_trace.1 hs.mem)
      obtain ⟨_, _, h1, -⟩ := Steps.split h
      obtain ⟨-, A', command', hc', hbuilt⟩ := Run.reserve_permitted h1
      rw [hc] at hc'
      cases hc'
      exact hbuilt
    · rw [hs.sent]
      exact hstart
    · rw [hs.sent]
      exact hpost
  · rintro L₁ i intent answer L₂ rfl hno
    obtain ⟨hsent, r, hwith, hthread⟩ := h.refused hno
    obtain ⟨d, d', h1, hrun, -, h2⟩ := h.at_call
    refine ⟨hsent, ?_⟩
    cases hwith with
    | error =>
      obtain ⟨-, ⟨message, rfl⟩ | ⟨he, hnone⟩⟩ := reserveIn_error hrun
      · exact .conflict hthread
      · exact .storage h1 hnone he hthread
    | @replayed record hsucceeded =>
      obtain ⟨hworld, hmem, hbinding⟩ := reserveIn_existing hrun
      rw [← hworld] at hmem
      have hfinal : record.status.Final := by
        rw [hsucceeded]
        exact ⟨nofun, nofun⟩
      have hstays := Steps.row h2 hmem
      rw [rowAfter_final L₂ hfinal] at hstays
      exact .replayed hstays hsucceeded hbinding hthread
    | blocked => exact .blocked hthread

/-! ## Sample runs

An Instagram publication of one tenant. The SHA-256 digests are those of the texts these runs
digest, which differ in length. -/

namespace Sample

/-- A JSON object with one text member, as a body. -/
def body (name value : String) : Bytes :=
  Py.utf8 (Py.lit "\x7b\"" ++ Py.lit name ++ Py.lit "\":\"" ++ Py.lit value ++ Py.lit "\"\x7d")

def sha256 (b : Bytes) : Str :=
  match b.length with
  | 10 => Py.lit "d920fcd709031a0ad09ee45eafab159b0812d94e8e77423635e9fee42ef26e89"
  | 12 => Py.lit "491d9abf2d8400eed3e4b16662fb855c009b49eec52161460fb0ec121de14e5b"
  | 23 => Py.lit "fbf9ae29e4d9d7d5863149cb69891c49be02952bff2b2df6030c3670fdbb0b90"
  | 72 => Py.lit "e24ef88e6dbd101bbe502740e8be54dfaa5c4b1ceac8100be977c86d8578b120"
  | 510 => Py.lit "5bebb150203f234ed6604d166f74895f8b9ad552bb434c2360e7d041867b5cb2"
  | 528 => Py.lit "ac69c3abf8f0c0dab868137edb7bdb01d7b5122f5bd2c65444f966a41e09b877"
  | _ => []

def loads (b : Bytes) : Loaded :=
  if b = body "id" "1" then .value (.obj [(Py.lit "id", .str (Py.lit "1"))])
  else if b = body "status_code" "FINISHED" then
    .value (.obj [(Py.lit "status_code", .str (Py.lit "FINISHED"))])
  else .decodeError

def platform : Platform where
  sha256 := sha256
  loads := loads
  fromisoformat _ := none
  urlsplit _ := some ⟨Py.lit "https", some (Py.lit "media.example"), none, none, []⟩
  hmacSha1 _ _ := []

def authority : SocialPublicationAuthority where
  enabled := true
  xConsumerKey := []
  xConsumerSecret := []
  instagramGraphBase := Py.lit "https://graph.facebook.com"
  instagramContainerPollAttempts := 2
  pollAttempts_pos := by decide
  pollAttempts_le := by decide

def command (greenlightFencingToken : Int) : SocialPublicationCommand where
  tenantId := Py.lit "t"
  channelId := Py.lit "instagram"
  accountId := Py.lit "a"
  runId := Py.lit "r"
  artifactId := Py.lit "p"
  artifactHash := List.replicate 64 (Fin.ofNat _ 0x30)
  content := Py.lit "Launch day"
  mediaUrl := some (Py.lit "https://media.example/a")
  mediaHash := some (List.replicate 64 (Fin.ofNat _ 0x31))
  greenlightId := Py.lit "g"
  greenlightFencingToken
  budgetCents := 0
  idempotencyKey := Py.lit "launch-key-1"
  confirmationHash := none

/-- What the outside answers, with this token payload and this reply to a request. -/
def oracle (tokens : Option Obj) (reply : HttpReply) : Oracle outside
  | .clock => Py.lit "2026-01-01T00:00:00+00:00"
  | .nonce => ⟨[], rfl⟩
  | .timestamp => 0
  | .sleep => ()
  | .getConnection _ _ => some ⟨Py.lit "a", Py.lit "user", Py.lit "e", none⟩
  | .decrypt _ _ => tokens
  | .send _ => ()
  | .receive _ => reply

/-- Thread `i` moves `n` times while the outside answers so. -/
def moves (i n : Nat) (tokens : Option Obj) (reply : HttpReply) :
    List (Choice (Oracle outside) Empty) :=
  List.replicate n (.act i (oracle tokens reply))

/-- An execution in thread 0, revocations in the others. -/
def revokedCalls (i : Nat) : Call :=
  if i = 0 then .execute authority (command 1)
  else .revokeUnused ⟨Py.lit "t", none, none, some (Py.lit "r")⟩ (Py.lit "greenlight_revoked")

end Sample

/-- A schedule whose outcome passes a test yields a run. -/
theorem Run.of_schedule {P : Platform} {calls : Nat → Call} {start : IntentTable}
    (schedule : List (Choice (Oracle outside) Empty)) (test : History → State → Prop)
    [∀ L c, Decidable (test L c)]
    (h : (((service.machine outside).simulate schedule
      (.start start fun i => (calls i).program P)).map fun r => decide (test r.1 r.2)) =
        some true) :
    ∃ L c, Run P calls start L c ∧ test L c :=
  Machine.exists_run h

/-- Two calls of one command: the first is granted it, and the second is over. -/
theorem publication_at_most_once_blocked :
    ∃ L c, Run Sample.platform (fun _ => .execute Sample.authority (Sample.command 1)) .empty L c ∧
      (grants L).map (·.1) = [0] ∧ (c.thread 1).Done ∧
      (grants L).Pairwise fun x y => x.1 ≠ y.1 ∧ x.2.sameEffect y.2 = false := by
  obtain ⟨L, c, h, hg, hdone⟩ := @Run.of_schedule Sample.platform
    (fun _ => .execute Sample.authority (Sample.command 1)) .empty
    (Sample.moves 0 4 none .transportError ++ Sample.moves 1 4 none .transportError)
    (fun L c => (grants L).map (·.1) = [0] ∧ (c.thread 1).Done) inferInstance (by decide +kernel)
  exact ⟨L, c, h, hg, hdone, (publication_at_most_once h).1⟩

/-- The first call was refused by the database, and the second one obtained the reservation for the
same key. -/
def Sample.overflowed (L : History) (c : State) : Bool :=
  match reservations (L.trace 0), c.thread 0, grants L with
  | [(intent, .error .overflowError)], .raise .overflowError, [(1, intent')] =>
    intent.sameKey intent'
  | _, _, _ => false

/-- A call whose fencing token does not fit the database is refused by it with `OverflowError`,
though another call obtains the reservation for the same idempotency key. -/
theorem reservation_overflows :
    ∃ L c intent intent',
      Run Sample.platform (fun i => .execute Sample.authority
        (Sample.command (if i = 0 then 2 ^ 63 else 1))) .empty L c ∧
      reservations (L.trace 0) = [(intent, .error .overflowError)] ∧
      c.thread 0 = .raise .overflowError ∧
      grants L = [(1, intent')] ∧ intent.sameKey intent' = true := by
  obtain ⟨L, c, h, ht⟩ := @Run.of_schedule Sample.platform
    (fun i => .execute Sample.authority (Sample.command (if i = 0 then 2 ^ 63 else 1))) .empty
    (Sample.moves 0 4 none .transportError ++ Sample.moves 1 4 none .transportError)
    (fun L c => Sample.overflowed L c = true) inferInstance (by decide +kernel)
  unfold Sample.overflowed at ht
  split at ht
  · next hr ho hg => exact ⟨L, c, _, _, h, hr, ho, hg, ht⟩
  · cases ht

end Publication

end AgencyRuntime
