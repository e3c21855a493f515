import AgencyRuntime.ModelEffects.Calls
import AgencyRuntime.Publication.AtMostOnce

/-!
# The state machine of model effects

Over every run of the service at most one call is granted an effect and the provider is called
after a grant only; rows move along the state machine; and what a call refuses it leaves alone.
-/

namespace AgencyRuntime

open Effects Tables

namespace ModelEffect

variable {I : Interpreter} {calls : Nat → Call I} {L L' : History} {c d : State} {i : Nat}

theorem sameEffect_of_not_clash {r s : ModelEffectIntent}
    (h : effectSchema.clash r.core s.core = false) : r.sameEffect s = false :=
  (Bool.or_eq_false_iff.1 h).2

/-- Nothing was granted to a call that has not reserved. -/
theorem Quiet.not_granted {intent : ModelEffectIntent} (h : Quiet (L.trace i)) :
    (i, intent) ∉ grants L := by
  intro hmem
  have hres : (intent, Except.ok Reserved.inserted) ∈ ModelEffect.reservations (L.trace i) :=
    List.mem_filterMap.2 ⟨_, Log.mem_trace.2 (mem_grants.1 hmem), rfl⟩
  rw [h.reservations] at hres
  cases hres

/-- A reservation is made by an `execute`, once. -/
theorem Run.reserve_permitted {intent : ModelEffectIntent} {answer : Except Exn Reserved}
    (h : Run calls (L ++ .act i (called (.reserve intent) answer) :: L') c) :
    Quiet (L.trace i) ∧ ∃ A command, calls i = .execute A command ∧
      BuiltFor I.toPlatform command.normalized intent := by
  have hp := h.permitted
  cases hc : calls i with
  | execute A command =>
    rw [hc] at hp
    rcases hp with ⟨hq, h | ⟨intent', h, hbuilt, -⟩⟩ | ⟨_, _, -, h | h⟩
    · cases h
    · cases h
      exact ⟨hq, A, command, rfl, hbuilt⟩
    · exact absurd h not_false
    · exact absurd h not_false
  | reconcileSuccess =>
    rw [hc] at hp
    rcases hp with h | ⟨_, _, h, -⟩ | ⟨h, -⟩ <;> cases h
  | revokeUnused =>
    rw [hc] at hp
    rcases hp with h | ⟨_, h⟩ <;> cases h

/-- A request is sent by an `execute`, once, for the intent it was granted. -/
theorem Run.send_permitted {r : ModelHttpRequest}
    (h : Run calls (L ++ .act i (asked (.send r) ()) :: L') c) :
    sent (L.trace i) = [] ∧ ∃ A command intent, calls i = .execute A command ∧
      (i, intent) ∈ grants L := by
  have hp := h.permitted
  cases hc : calls i with
  | execute A command =>
    rw [hc] at hp
    rcases hp with ⟨-, h | ⟨_, h, -⟩⟩ | ⟨intent, s, ⟨before, hq, ht⟩, h | h⟩
    · cases h
    · cases h
    · have hmem : called (.reserve intent) (.ok .inserted) ∈ L.trace i := by
        rw [ht]
        exact List.mem_append_right _ List.mem_cons_self
      refine ⟨?_, A, command, intent, rfl, mem_grants.2 (Log.mem_trace.1 hmem)⟩
      rw [ht, sent_append, hq.sent]
      exact h
    · exact absurd h not_false
  | reconcileSuccess =>
    rw [hc] at hp
    rcases hp with h | ⟨_, _, h, -⟩ | ⟨h, -⟩ <;> cases h
  | revokeUnused =>
    rw [hc] at hp
    rcases hp with h | ⟨_, h⟩ <;> cases h

/-- No call obtains two grants. -/
theorem Run.grants_once (h : Run calls L c) : (grants L).Pairwise fun x y => x.1 ≠ y.1 := by
  induction L using List.reverseRecOn generalizing c with
  | nil => exact .nil
  | append_singleton L e ih =>
    obtain ⟨d, h1, -⟩ := Steps.append_inv h
    rw [grants_append, List.pairwise_append]
    refine ⟨ih h1, ?_, ?_⟩
    · rcases e with ⟨j, ⟨_ | o, a⟩⟩ | j | x
      · exact .nil
      · simp only [grants, List.append_nil, List.pairwise_map]
        cases o with
        | reserve intent =>
          rcases a with _ | _ | _
          · exact .nil
          · exact List.pairwise_singleton ..
          · exact .nil
        | _ => exact .nil
      · exact .nil
      · exact .nil
    · rintro ⟨j, intent⟩ hx ⟨k, intent'⟩ hy rfl
      have he := mem_grants.1 hy
      rw [List.mem_singleton] at he
      subst he
      exact (Run.reserve_permitted h).1.not_granted hx

/-- No two grants clash, and no call obtains two. -/
theorem Run.grants_pairwise (h : Run calls L c) :
    (grants L).Pairwise fun x y => x.1 ≠ y.1 ∧ effectSchema.clash x.2.core y.2.core = false := by
  have hev := @Run.evolution I calls [] L _ _ .refl h
  exact h.grants_once.and (List.pairwise_map.1 hev.apart)

/-! ## Refusals -/

/-- The transaction refuses: the method raises, or it shows what is stored. -/
def Refuses : (o : Statement) → statements.Ans o → Prop
  | .reserve _, .error _ => True
  | .transition .., .error _ => True
  | .transition .., .ok updated => updated = false
  | .reconcile .., .found _ => True
  | _, _ => False

/-- A refusal changes nothing. -/
theorem Statement.run_refused {o : Statement} {t : EffectTable} (h : Refuses o (o.run t).1) :
    (o.run t).2 = t := by
  cases o with
  | reserve intent =>
    have h : Refuses (.reserve intent) (reserveIn intent t).1 := h
    show (reserveIn intent t).2 = t
    rcases reserveIn_cases intent t with ⟨t', -, heq⟩ | ⟨record, -, -, heq⟩ | ⟨e, heq⟩
    · rw [heq] at h
      exact absurd h not_false
    · rw [heq]
    · rw [heq]
  | transition tenantId effectId fence change now =>
    simp only [Statement.run] at h ⊢
    split
    · next hfits =>
      rw [if_pos hfits] at h
      have hsel : ∀ r, inFlight tenantId effectId fence r = true →
          r.isFor tenantId effectId = true :=
        fun r hr => (Bool.and_eq_true_iff.1 (Bool.and_eq_true_iff.1 hr).1).1
      rcases modify_cases (t := t) (change.apply now) hsel with ⟨hc, -⟩ | ⟨-, heq⟩
      · exact absurd hc (of_decide_eq_false h)
      · exact heq
    · rfl
  | reconcile tenantId effectId text digest receipt now =>
    simp only [Statement.run] at h ⊢
    split
    · next hc =>
      rw [if_pos hc] at h
      exact absurd h not_false
    · rfl
  | get | revokeUnused | listForRun => exact absurd h not_false

section
variable {t t' : EffectTable} {tenantId effectId : Str}

theorem row_of_find {row : ModelEffectIntent}
    (h : t.rows.find? (fun r => r.isFor tenantId effectId) = some row) :
    ∃ r ∈ t.rows, r.isFor tenantId effectId = true := by
  have hid := List.find?_some h
  exact ⟨row, List.mem_of_find?_eq_some h, hid⟩

/-- A transition that took place has a row. -/
theorem transition_row {fence : Int} {change : Change} {now : Str}
    (h : Statement.run (.transition tenantId effectId fence change now) t = (.ok true, t')) :
    ∃ r ∈ t'.rows, r.isFor tenantId effectId = true := by
  have hsel : ∀ r, inFlight tenantId effectId fence r = true → r.isFor tenantId effectId = true :=
    fun r hr => (Bool.and_eq_true_iff.1 (Bool.and_eq_true_iff.1 hr).1).1
  simp only [Statement.run] at h
  split at h
  · obtain ⟨hcount, rfl⟩ := Prod.mk.inj h
    rcases modify_cases (t := t) (change.apply now) hsel with ⟨-, row, hrow⟩ | ⟨hc, -⟩
    · exact row_of_find hrow
    · exact absurd (of_decide_eq_true (Except.ok.inj hcount)) hc
  · cases h

/-- So has a reconciliation. -/
theorem reconcile_row {text digest : Str} {receipt : Obj} {now : Str}
    (h : Statement.run (.reconcile tenantId effectId text digest receipt now) t = (.updated, t')) :
    ∃ r ∈ t'.rows, r.isFor tenantId effectId = true := by
  have hsel : ∀ r, reconcilable tenantId effectId r = true → r.isFor tenantId effectId = true :=
    fun r hr => (Bool.and_eq_true_iff.1 hr).1
  simp only [Statement.run] at h
  split at h
  · next hc =>
    obtain ⟨-, rfl⟩ := Prod.mk.inj h
    rcases modify_cases (t := t) (reconcileRow text digest receipt now) hsel with
      ⟨-, row, hrow⟩ | ⟨hc', -⟩
    · exact row_of_find hrow
    · exact absurd hc hc'
  · cases h

end

/-- A row is read back after an update of it that took place, and it is there. -/
theorem Run.get_found {tenantId effectId : Str} {row : Option ModelEffectIntent}
    (h : Run calls (L ++ .act i (called (.get tenantId effectId) row) :: L') c) : row ≠ none := by
  obtain ⟨d, d', h1, hrun, -, -⟩ := h.at_call
  -- The update, earlier in the run.
  have hupdate : ∃ M o a M', L = M ++ .act i (called o a) :: M' ∧
      ∀ t t', Statement.run o t = (a, t') → ∃ r ∈ t'.rows, r.isFor tenantId effectId = true := by
    have hp := h.permitted
    have hmem {o : Statement} {a : statements.Ans o} (hmem : called o a ∈ L.trace i) :
        ∃ M M', L = M ++ .act i (called o a) :: M' := List.append_of_mem (Log.mem_trace.1 hmem)
    cases hc : calls i with
    | execute A command =>
      rw [hc] at hp
      rcases hp with ⟨-, h | ⟨_, h, -⟩⟩ | ⟨intent, s, ⟨before, -, ht⟩, h | h⟩
      · cases h
      · cases h
      · exact absurd h not_false
      · obtain ⟨⟨rfl, rfl⟩, change, now, hs⟩ := h
        obtain ⟨M, M', hL⟩ := hmem (ht ▸ List.mem_append_right _ (List.mem_cons_of_mem _ hs))
        exact ⟨M, _, _, M', hL, fun t t' => transition_row⟩
    | reconcileSuccess =>
      rw [hc] at hp
      rcases hp with h | ⟨_, _, h, -⟩ | ⟨h, digest, now, hs⟩
      · cases h
      · cases h
      · cases h
        obtain ⟨M, M', hL⟩ := hmem hs
        exact ⟨M, _, _, M', hL, fun t t' => reconcile_row⟩
    | revokeUnused =>
      rw [hc] at hp
      rcases hp with h | ⟨_, h⟩ <;> cases h
  obtain ⟨M, o, a, M', rfl, hrow⟩ := hupdate
  obtain ⟨m, m', -, hrun', hm', hrest⟩ := h1.at_call
  obtain ⟨r, hr, hid⟩ := hrow _ _ hrun'
  obtain ⟨r', hr', hstep⟩ := (Run.evolution hm' hrest).kept r hr
  obtain ⟨rfl, -⟩ := Prod.mk.inj hrun
  rw [← Option.isSome_iff_ne_none, List.find?_isSome]
  exact ⟨r', hr', by rw [isFor_of_core hstep.core, hid]⟩

/-- How `execute` ends when its reservation is not executable. -/
inductive RefusedWith : Except Exn Reserved → Except Exn ModelEffectResult → Prop
  | error {e : Exn} : RefusedWith (.error e) (.error e)
  | replayed {record : ModelEffectIntent} : record.status = .succeeded →
      RefusedWith (.ok (.existing record)) (.ok (.fromIntent record true))
  | blocked {record : ModelEffectIntent} : record.status ≠ .succeeded →
      RefusedWith (.ok (.existing record)) (.error (.modelEffectBlocked record.status.text))

theorem ExecuteTrace.refusedWith {A : ModelEffectAuthority I.toPlatform} {t : Trace sig}
    {r : Except Exn ModelEffectResult} {intent : ModelEffectIntent} {answer : Except Exn Reserved}
    {rest : List (ModelEffectIntent × Except Exn Reserved)} (h : ExecuteTrace I A t r)
    (ht : reservations t = (intent, answer) :: rest) (hno : answer ≠ .ok .inserted) :
    RefusedWith answer r := by
  cases h with
  | early hq =>
    rw [hq.reservations] at ht
    cases ht
  | refused hq =>
    subst t
    rw [reservations_append, hq.reservations] at ht
    cases ht
    exact .error
  | @existing _ _ record hq =>
    subst t
    rw [reservations_append, hq.reservations] at ht
    cases ht
    split
    · next hs => exact .replayed hs
    · next hs => exact .blocked hs
  | granted hs =>
    obtain ⟨before, hq, rfl⟩ := hs
    rw [reservations_append, hq.reservations] at ht
    exact absurd (Prod.mk.inj (List.cons.inj ht).1).2.symm hno

/-- A call whose reservation was not executable is over, with the result the answer gives. -/
theorem Run.refused {intent : ModelEffectIntent} {answer : Except Exn Reserved}
    (h : Run calls (L ++ .act i (called (.reserve intent) answer) :: L') c)
    (hno : answer ≠ .ok .inserted) :
    ∃ r, RefusedWith answer r ∧ c.thread i = .ofExcept (r.map .executed) := by
  obtain ⟨hq, A, command, hc, -⟩ := h.reserve_permitted
  have hspec := Steps.spec h (calls i).spec
  have htrace : Log.trace (L ++ .act i (called (.reserve intent) answer) :: L') i =
      L.trace i ++ called (.reserve intent) answer :: L'.trace i := by
    rw [Log.trace_append, ← List.singleton_append, Log.trace_append, Log.trace_act_self]
    rfl
  rw [htrace, hc] at hspec
  have hres : reservations (L.trace i ++ called (.reserve intent) answer :: L'.trace i) =
      (intent, answer) :: reservations (L'.trace i) := by
    rw [reservations_append, hq.reservations]
    rfl
  cases hthread : c.thread i with
  | op o k =>
    -- Nothing is permitted after the refusal.
    rw [hthread] at hspec
    rcases hspec.1 with ⟨hq', -⟩ | ⟨intent', s, ⟨before, hq', ht⟩, -⟩
    · rw [hq'.reservations] at hres
      cases hres
    · rw [ht, reservations_append, hq'.reservations] at hres
      exact absurd (Prod.mk.inj (List.cons.inj hres).1).2.symm hno
  | ret a =>
    rw [hthread] at hspec
    obtain ⟨r, hend, hr⟩ := hspec
    exact ⟨r, hend.refusedWith hres hno, by rw [← hr]; rfl⟩
  | raise e =>
    rw [hthread] at hspec
    obtain ⟨r, hend, hr⟩ := hspec
    exact ⟨r, hend.refusedWith hres hno, by rw [← hr]; rfl⟩

/-- The rows of the store, over every run from an empty one. At most one `execute` is granted an
effect, and it calls the provider at most once, after its grant; between any two points of the run
every row follows the state machine, and every row was granted and has the columns of its status; a
replay returns the stored success; and what refuses changes nothing. -/
theorem model_effect_state_machine (hP : I.HexDigests) (h : Run calls L c) :
    (grants L).Pairwise (fun x y => x.1 ≠ y.1 ∧ x.2.sameEffect y.2 = false) ∧
    (∀ L₁ i r L₂, L = L₁ ++ .act i (asked (.send r) ()) :: L₂ →
      sent (L₁.trace i) = [] ∧
        ∃ A command intent, calls i = .execute A command ∧ (i, intent) ∈ grants L₁) ∧
    (∀ L₁ L₂ d, L = L₁ ++ L₂ → Run calls L₁ d → Steps (service.machine outside) d L₂ c →
      ∀ r ∈ d.world.rows, ∃ r' ∈ c.world.rows, RowStep I.toPlatform r r') ∧
    (∀ r ∈ c.world.rows, StatusColumns I.toPlatform r ∧
      ∃ i intent, (i, intent) ∈ grants L ∧ RowStep I.toPlatform intent r) ∧
    (∀ L₁ i intent answer L₂, L = L₁ ++ .act i (called (.reserve intent) answer) :: L₂ →
      answer ≠ .ok .inserted →
        ∃ r : Except Exn ModelEffectResult, c.thread i = .ofExcept (r.map .executed) ∧ ∀ result, r = .ok result →
          ∃ record ∈ c.world.rows, record.status = .succeeded ∧
            record.sameBinding intent = true ∧ result = .fromIntent record true) ∧
    (∀ L₁ i o a L₂ d d', L = L₁ ++ .act i (called o a) :: L₂ → Run calls L₁ d →
      Step (service.machine outside) d (.act i (called o a)) d' → Refuses o a →
        d'.world = d.world) ∧
    (∀ L₁ i tenantId effectId row L₂,
      L = L₁ ++ .act i (called (.get tenantId effectId) row) :: L₂ → row ≠ none) ∧
    (∀ call oracle e, (StoreCall.perform I.toPlatform call oracle c.world).1 = .error e →
      (call.perform I.toPlatform oracle c.world).2 = c.world) := by
  refine ⟨h.grants_pairwise.imp fun hxy => ⟨hxy.1, sameEffect_of_not_clash hxy.2⟩, ?_,
    fun L₁ L₂ d _ h1 h2 => (Run.evolution h1 h2).kept, ?_, ?_,
    ?_, ?_, fun call oracle e => StoreCall.perform_error⟩
  · rintro L₁ i r L₂ rfl
    exact h.send_permitted
  · intro r hr
    have hev := @Run.evolution I calls [] L _ _ .refl h
    rcases hev.origin r hr with ⟨_, hno, -⟩ | ⟨intent, hmem, hstep⟩
    · exact absurd hno List.not_mem_nil
    · obtain ⟨⟨i, intent'⟩, hgrant, hsame⟩ := List.mem_map.1 hmem
      obtain rfl : intent' = intent := hsame
      have hregular : Statement.Regular I.toPlatform (.reserve intent') := by
        obtain ⟨M, M', rfl⟩ := List.append_of_mem (mem_grants.1 hgrant)
        exact h.regular
      exact ⟨hstep.columns hP (.of_core hregular), i, intent', hgrant, hstep⟩
  · rintro L₁ i intent answer L₂ rfl hno
    obtain ⟨r, hwith, hthread⟩ := h.refused hno
    refine ⟨r, hthread, fun result hr => ?_⟩
    subst hr
    cases hwith with
    | @replayed record hs =>
      obtain ⟨d, d', -, hrun, h1, h2⟩ := h.at_call
      have hrun : reserveIn intent d.world = (.ok (.existing record), d'.world) := hrun
      rcases reserveIn_cases intent d.world with ⟨_, -, heq⟩ | ⟨record', hmem, hbinding, heq⟩ |
        ⟨_, heq⟩
      · rw [heq] at hrun
        cases (Prod.mk.inj hrun).1
      · rw [heq] at hrun
        obtain ⟨hsame, hworld⟩ := Prod.mk.inj hrun
        cases hsame
        rw [hworld] at hmem
        obtain ⟨row, hrow, hstep⟩ := (Run.evolution h1 h2).kept record hmem
        have hfinal : record.status.Final := by
          rw [hs]
          exact ⟨nofun, nofun⟩
        rw [hstep.final hfinal] at hrow
        exact ⟨record, hrow, hs, hbinding, rfl⟩
      · rw [heq] at hrun
        cases (Prod.mk.inj hrun).1
  · rintro L₁ i o a L₂ d d' - - hs hrefuses
    have hrun := step_call hs
    have hans : (o.run d.world).1 = a := congrArg Prod.fst hrun
    have hworld : (o.run d.world).2 = d'.world := congrArg Prod.snd hrun
    rw [← hworld]
    exact Statement.run_refused (hans ▸ hrefuses)
  · rintro L₁ i tenantId effectId row L₂ rfl
    exact h.get_found

/-! ## A sample run

A generation through an OpenAI provider. The SHA-256 digests are those of the texts the run digests,
which differ in length. -/

namespace Sample

/-- The reply of the provider, and what the decoder makes of it. -/
def body : Bytes :=
  Py.utf8 (Py.lit ("\x7b\"output_text\":\"Hello\",\"usage\":\x7b\"input_tokens\":1," ++
    "\"output_tokens\":1,\"total_tokens\":2\x7d\x7d"))

def payload (text : Str) : Obj :=
  [
    (Py.lit "output_text", .str text),
    (Py.lit "usage", .obj [(Py.lit "input_tokens", .int 1), (Py.lit "output_tokens", .int 1),
      (Py.lit "total_tokens", .int 2)])]

/-- A body that escapes a lone surrogate. -/
def surrogateBody : Bytes :=
  Py.utf8 (Py.lit ("\x7b\"output_text\":\"\\ud800\",\"usage\":\x7b\"input_tokens\":1," ++
    "\"output_tokens\":1,\"total_tokens\":2\x7d\x7d"))

def sha256 (b : Bytes) : Str :=
  match b.length with
  | 5 => Py.lit "185f8db32271fe25f561a6fc938b2e264306ec304eda518007d1764826381969"
  | 9 => Py.lit "06d8769d5db89f61e63c5eaa5162c8dc2319a931260f3fdc72ea2e4fd3350ccf"
  | 12 => Py.lit "dd7dfec20b1c82183dd83a671bd98f4de0c61146d5505c5537676f21b214ea3d"
  | 72 => Py.lit "d4aac310506cc9f05d307877273d53786dbee4f9cbd2c8bd9965d29a176759f4"
  | 111 => Py.lit "746e3d7e87653120a64ff598e22a35718fd9327a246b6fe5c5e0180bf2542d24"
  | 443 => Py.lit "bb3aef68c0b6083f0d73ee0f24115e12ae7d4c1bf4c2ba4200c9639a11286d09"
  | _ => List.replicate 64 (Fin.ofNat _ 0x30)

def loads (b : Bytes) : Loaded :=
  if b = body then .value (.obj (payload (Py.lit "Hello")))
  else if b = surrogateBody then .value (.obj (payload [Fin.ofNat _ 0xD800]))
  else .decodeError

def interpreter : Interpreter where
  sha256 := sha256
  loads := loads
  fromisoformat _ := none
  urlsplit _ := some ⟨Py.lit "https", some (Py.lit "api.openai.com"), none, none, []⟩
  hmacSha1 _ _ := []
  isprintable c := !Py.isSurrogate c
  surrogate := Py.not_isSurrogate

theorem hexDigests : interpreter.HexDigests := by
  intro b
  show isSha256 (sha256 b) = true
  unfold sha256
  split <;> decide

def authority : ModelEffectAuthority interpreter.toPlatform where
  enabled := true
  gateway :=
    { policy := ⟨100, 512, 1000, by decide, by decide⟩
      provider := some
        { providerId := Py.lit "openai"
          protocol := .openaiResponses
          model := Py.lit "gpt"
          baseUrl := Py.lit "https://api.openai.com/v1"
          endpointHost := Py.lit "api.openai.com"
          credential := Py.lit "key"
          absolute := ⟨_, rfl, rfl, by decide⟩ } }

def command : ModelEffectCommand where
  tenantId := Py.lit "t"
  runId := Py.lit "r"
  station := Py.lit "s"
  sourceArtifactId := Py.lit "a"
  sourceArtifactHash := List.replicate 64 (Fin.ofNat _ 0x30)
  instruction := Py.lit "Draft it now"
  maxCostMicros := 0
  idempotencyKey := Py.lit "draft-key"
  request := ⟨Py.lit "request-1", Py.lit "Hi", []⟩

/-- What the outside answers, with this reply of the provider. -/
def oracle (reply : ModelReply) : Oracle outside
  | .clock => Py.lit "2026-01-01T00:00:00+00:00"
  | .send _ => ()
  | .receive _ => reply

/-- Thread `i` moves `n` times while the outside answers so. -/
def moves (i n : Nat) (reply : ModelReply) : List (Choice (Oracle outside) Empty) :=
  List.replicate n (.act i (oracle reply))

/-- A reply with a request id and this body. -/
def success (body : Bytes) : ModelReply :=
  .reply 200 [(Py.lit "x-request-id", Py.lit "req-00000001")] body

end Sample

/-- A schedule whose outcome passes a test yields a run. -/
theorem Run.of_schedule (calls : Nat → Call I) (schedule : List (Choice (Oracle outside) Empty))
    (test : History → State → Prop) [∀ L c, Decidable (test L c)]
    (h : (((service.machine outside).simulate schedule
      (.start .empty fun i => (calls i).program)).map fun r => decide (test r.1 r.2)) = some true) :
    ∃ L c, Run calls L c ∧ test L c :=
  Machine.exists_run h

/-- Two calls of one command: the first generates the text, and the second replays it. -/
theorem model_effect_replayed :
    ∃ L c, Run (fun _ => .execute Sample.authority Sample.command) L c ∧
      (grants L).map (·.1) = [0] ∧ c.world.rows.map (·.outputText) = [Py.lit "Hello"] ∧
      (c.thread 1).Done ∧
      (grants L).Pairwise fun x y => x.1 ≠ y.1 ∧ x.2.sameEffect y.2 = false := by
  obtain ⟨L, c, h, hg, hrows, hdone⟩ := Run.of_schedule
    (fun _ => .execute Sample.authority Sample.command)
    (Sample.moves 0 7 (Sample.success Sample.body) ++ Sample.moves 1 2 .timeout)
    (fun L c => (grants L).map (·.1) = [0] ∧ c.world.rows.map (·.outputText) = [Py.lit "Hello"] ∧
      (c.thread 1).Done) (by decide +kernel)
  exact ⟨L, c, h, hg, hrows, hdone, (model_effect_state_machine Sample.hexDigests h).1⟩

end ModelEffect

end AgencyRuntime
