import AgencyRuntime.Advisory.Identity
import AgencyRuntime.Advisory.Linear
import AgencyRuntime.Advisory.Progress
import AgencyRuntime.ModelEffects.Rows

/-!
# Reservations of model effects in PostgreSQL

`reserve` of the PostgreSQL store (model_effect_postgres.py), side by side from every replica. It
takes two advisory locks, for the binding and for the key, in the order of their names; it reads the
row that has the key or the binding, or inserts the intent. Whatever the interleaving, the calls do
what the SQLite store does one call at a time (`effect_reservations_linearizable`), and they cannot
wait for each other for ever as long as `hashtext` tells the names of their locks apart
(`effect_reservations_end`).
-/

namespace AgencyRuntime

open Tables

namespace ModelEffect

namespace Postgres

/-- `UNIQUE (tenant_id, idempotency_digest)` and `UNIQUE (tenant_id, binding_digest)` -/
def identity : Advisory.Identity effectSchema Str Str where
  owner := ModelEffectIntent.tenantId
  key := ModelEffectIntent.idempotencyDigest
  binding := ModelEffectIntent.bindingDigest
  clash_key h h' := by
    simp [effectSchema, ModelEffectIntent.sameEffect, ModelEffectIntent.sameKey, h, h']
  clash_binding h h' := by
    simp [effectSchema, ModelEffectIntent.sameEffect, ModelEffectIntent.sameBinding, h, h']

/-- What the columns keep of the values of an `INSERT`, if they take them. -/
structure Columns where
  store : ModelEffectIntent → Option ModelEffectIntent
  keeps : ∀ intent row, store intent = some row → identity.Keeps intent row
  effectId : ∀ intent row, store intent = some row → row.effectId = intent.effectId
  /-- `execution_fencing_token BIGINT` -/
  fence : ∀ intent row, store intent = some row →
    Publication.fitsInteger row.executionFencingToken = true

/-- `"model-effect:{}:binding:{}"` -/
def bindingLock (intent : ModelEffectIntent) : Str :=
  Py.lit "model-effect:" ++ (intent.tenantId ++ (Py.lit ":binding:" ++ intent.bindingDigest))

/-- `"model-effect:{}:idempotency:{}"` -/
def keyLock (intent : ModelEffectIntent) : Str :=
  Py.lit "model-effect:" ++ (intent.tenantId ++ (Py.lit ":idempotency:" ++ intent.idempotencyDigest))

/-- `lock_ids` -/
def lockIds (intent : ModelEffectIntent) : List Str :=
  [bindingLock intent, keyLock intent].insertionSort (· ≤ ·)

/-- What `reserve` returns or raises. -/
def answer :
    ModelEffectIntent → Advisory.Outcome ModelEffectIntent → Except Exn ModelEffectReservation :=
  identity.answer
    (.modelEffectConflict "model effect idempotency key conflicts with a prior binding")
    (.modelEffectConflict "model effect binding conflicts with a prior intent") .integrityError
    (fun record => ⟨record, false, record.status = .succeeded⟩) fun intent => ⟨intent, true, false⟩

/-- `reserve`; the `SELECT` takes the row with the key before the row with the binding. -/
def protocol (C : Columns) (hashtext : Str → Int) :
    Advisory.Protocol effectSchema Int (Except Exn ModelEffectReservation) where
  Admitted intent := validateIntent intent = .ok ()
  lockKeys intent := (lockIds intent).map hashtext
  selectors := identity.selectors
  store := C.store
  answer := answer

/-- `reserve` of the SQLite store, on the row that the columns make of the intent. -/
def reserveAlone (C : Columns) (intent : ModelEffectIntent) (t : EffectTable) :
    Except Exn ModelEffectReservation × EffectTable :=
  let result := reserveIn ((C.store intent).getD intent) t
  (result.1.map fun
    | .inserted => ⟨intent, true, false⟩
    | .existing record => ⟨record, false, record.status = .succeeded⟩, result.2)

/-- Whether a reservation lets its caller execute the effect. -/
def executes : Except Exn ModelEffectReservation → Bool
  | .ok reservation => reservation.executable
  | .error _ => false

section
variable {C : Columns} {hashtext : Str → Int} {intent other row row' record : ModelEffectIntent}
  {t : EffectTable}

theorem mem_lockIds {name : Str} :
    name ∈ lockIds intent ↔ name = bindingLock intent ∨ name = keyLock intent := by
  rw [lockIds, List.mem_insertionSort]
  simp

/-- The two names are never one. -/
theorem bindingLock_ne_keyLock : bindingLock intent ≠ keyLock intent := by
  intro h
  have h := List.append_cancel_left (List.append_cancel_left h)
  have hhead : Py.lit ":b" = Py.lit ":i" := congrArg (List.take 2) h
  exact absurd hhead (by decide)

theorem lockIds_sorted : (lockIds intent).Pairwise (· < ·) := by
  have hle : (lockIds intent).Pairwise (· ≤ ·) := List.pairwise_insertionSort ..
  have hne : (lockIds intent).Nodup :=
    (List.perm_insertionSort ..).nodup_iff.2 (by simp [bindingLock_ne_keyLock])
  exact (hle.and hne).imp fun h => lt_of_le_of_ne h.1 h.2

/-- Two intents that have a lock by one name share it. -/
theorem shared_lock {name : Str} (h : name ∈ lockIds intent) (h' : name ∈ lockIds other) :
    ∃ k ∈ (protocol C hashtext).lockKeys intent, k ∈ (protocol C hashtext).lockKeys other :=
  ⟨hashtext name, List.mem_map_of_mem h, List.mem_map_of_mem h'⟩

theorem protocol_guarded : (protocol C hashtext).Guarded := by
  refine identity.guarded (fun _ => rfl) C.keeps (fun intent other _ _ howner hkey => ?_)
    fun intent other _ _ howner hbinding => ?_
  · have htenant : intent.tenantId = other.tenantId := howner
    have hdigest : intent.idempotencyDigest = other.idempotencyDigest := hkey
    refine shared_lock (mem_lockIds.2 (.inr rfl)) (mem_lockIds.2 (.inr ?_))
    rw [keyLock, keyLock, htenant, hdigest]
  · have htenant : intent.tenantId = other.tenantId := howner
    have hdigest : intent.bindingDigest = other.bindingDigest := hbinding
    refine shared_lock (mem_lockIds.2 (.inl rfl)) (mem_lockIds.2 (.inl ?_))
    rw [bindingLock, bindingLock, htenant, hdigest]

theorem protocol_exact : (protocol C hashtext).Exact := identity.exact (fun _ => rfl) C.keeps

/-- The `SELECT` finds the row of `priorIntent`. -/
theorem priorRow_eq : (protocol C hashtext).priorRow intent t = priorIntent t intent := by
  rw [Advisory.Identity.priorRow_eq (I := identity) (P := protocol C hashtext) rfl]
  rfl

/-- What the columns make of an intent has its key and its binding, and the same rows answer it. -/
theorem getD_store : identity.Keeps intent ((C.store intent).getD intent) ∧
    priorIntent t ((C.store intent).getD intent) = priorIntent t intent := by
  cases hstore : C.store intent with
  | none => exact ⟨⟨rfl, rfl, rfl⟩, rfl⟩
  | some row =>
    have hkeeps := C.keeps intent row hstore
    have htenant : row.tenantId = intent.tenantId := hkeeps.owner
    have hkey : row.idempotencyDigest = intent.idempotencyDigest := hkeeps.key
    have hbinding : row.bindingDigest = intent.bindingDigest := hkeeps.binding
    refine ⟨hkeeps, ?_⟩
    simp only [Option.getD_some, priorIntent, ModelEffectIntent.sameKey,
      ModelEffectIntent.sameBinding, htenant, hkey, hbinding]

/-- Where no row answers an intent, none answers the row that is stored for it. -/
theorem stored_alone (hstore : C.store intent = some row)
    (hprior : (protocol C hashtext).prior intent (Advisory.keys t) = none) :
    (C.store intent).getD intent = row ∧ priorIntent t row = none := by
  have hstored : (C.store intent).getD intent = row := by
    rw [hstore]
    rfl
  refine ⟨hstored, ?_⟩
  rw [← hstored, getD_store.2, ← priorRow_eq]
  exact Advisory.priorRow_none hprior

theorem protocol_implements : (protocol C hashtext).Implements (reserveAlone C) where
  existing intent t record hprior hrecord := by
    have hfound : priorIntent t intent = some record :=
      priorRow_eq.symm.trans (Advisory.priorRow_some hprior hrecord)
    obtain ⟨hkeeps, hprior⟩ := @getD_store C intent t
    have hkey : ((C.store intent).getD intent).idempotencyDigest = intent.idempotencyDigest :=
      hkeeps.key
    have hbinding : ((C.store intent).getD intent).bindingDigest = intent.bindingDigest :=
      hkeeps.binding
    have hanswer : (protocol C hashtext).answer intent (.existing record) =
        if record.idempotencyDigest = intent.idempotencyDigest ∧
            record.bindingDigest ≠ intent.bindingDigest then
          .error (.modelEffectConflict
            "model effect idempotency key conflicts with a prior binding")
        else if record.bindingDigest ≠ intent.bindingDigest then
          .error (.modelEffectConflict "model effect binding conflicts with a prior intent")
        else .ok ⟨record, false, record.status = .succeeded⟩ := rfl
    rw [hanswer]
    simp only [reserveAlone, reserveIn, hprior, hfound, hkey, hbinding]
    split
    · rfl
    · split <;> rfl
  inserted intent t row t' hprior hstore hins := by
    obtain ⟨hstored, hnone⟩ := stored_alone hstore hprior
    simp only [reserveAlone, hstored, reserveIn, hnone, C.fence intent row hstore, hins, if_true]
    rfl
  violated intent t row hprior hstore hfresh := by
    obtain ⟨hstored, hnone⟩ := stored_alone hstore hprior
    simp only [reserveAlone, hstored, reserveIn, hnone, C.fence intent row hstore,
      Table.insert_eq_none.2 hfresh, if_true]
    rfl

/-- Where the rows of two intents do not clash, the intents do not claim one effect. -/
theorem apart_of_stored (hrow : C.store intent = some row) (hrow' : C.store other = some row')
    (h : effectSchema.clash row.core row'.core = false) :
    intent.effectId ≠ other.effectId ∧ intent.sameEffect other = false := by
  have hkeeps := C.keeps intent row hrow
  have hkeeps' := C.keeps other row' hrow'
  obtain ⟨hids, hsame⟩ := Bool.or_eq_false_iff.1 h
  refine ⟨?_, ?_⟩
  · rw [← C.effectId intent row hrow, ← C.effectId other row' hrow']
    exact ne_of_beq_false hids
  · exact (hkeeps.same hkeeps').symm.trans hsame

theorem executes_inserted (intent : ModelEffectIntent) (o : Advisory.Outcome ModelEffectIntent)
    (h : executes ((protocol C hashtext).answer intent o) = true) : o = .inserted := by
  rw [show (protocol C hashtext).answer = answer from rfl, answer] at h
  exact Advisory.Identity.answer_existing (fun _ => rfl) (fun _ => rfl) intent o h

end

/-- Whatever the interleaving of the calls, of their failures and of other transactions, every call
takes place at one moment between its start and its answer, and is answered what the SQLite store
answers on the table as it is then; the tables are those that the calls leave one after the other.
Of the calls for one effect at most one is told to execute it. -/
theorem effect_reservations_linearizable {C : Columns} {hashtext : Str → Int} {t : EffectTable}
    {log : List (Advisory.Event effectSchema (Except Exn ModelEffectReservation))}
    {w : Advisory.World effectSchema Int} (h : Advisory.Reachable (protocol C hashtext) t log w) :
    Advisory.Runs
        (Advisory.Atomic.Step (reserveAlone C) fun intent => validateIntent intent = .ok ())
        (.start t) log (w.atomic (protocol C hashtext)) ∧
      (Advisory.executed executes log).Pairwise fun x y =>
        x.effectId ≠ y.effectId ∧ x.sameEffect y = false := by
  refine ⟨Advisory.Reachable.atomic protocol_guarded protocol_exact protocol_implements h, ?_⟩
  have hclear := Advisory.Reachable.executed_clear executes_inserted h
  refine hclear.imp ?_
  rintro x y ⟨row, row', hrow, hrow', hclash⟩
  exact apart_of_stored hrow hrow' hclash

/-! ## Two calls for one binding -/

namespace Sample

/-- An instant, as the service writes it with `T` and as PostgreSQL gives it back with a blank. -/
def instant (separator : String) : Str := Py.lit ("2026-01-01" ++ separator ++ "00:00:00+00:00")

def digest (c : Char) : Str := List.replicate 64 (Fin.ofNat _ c.toNat)

/-- A reservation of one binding under this key. -/
def intent (effectId : String) (key : Char) : ModelEffectIntent where
  effectId := Py.lit effectId
  tenantId := Py.lit "t"
  runId := Py.lit "r"
  station := Py.lit "writer"
  sourceArtifactId := Py.lit "copy"
  sourceArtifactHash := digest '1'
  instructionHash := digest '2'
  providerId := Py.lit "openai"
  model := Py.lit "gpt"
  endpointHost := Py.lit "api.openai.com"
  requestSha256 := digest '3'
  maxOutputTokens := 128
  maxCostMicros := 500000
  idempotencyDigest := digest key
  bindingDigest := digest 'b'
  status := .pending
  executionFencingToken := 1
  outputText := []
  outputSha256 := []
  receipt := []
  failureReason := []
  createdAt := instant "T"
  updatedAt := instant "T"
  completedAt := none
  revokedAt := none

/-- The intent as it is stored. -/
def stored (intent : ModelEffectIntent) : ModelEffectIntent :=
  { intent with createdAt := instant " ", updatedAt := instant " " }

def columns : Columns where
  store intent := if Publication.fitsInteger intent.executionFencingToken then some (stored intent)
    else none
  keeps intent row h := by
    split at h
    · cases h
      exact ⟨rfl, rfl, rfl⟩
    · cases h
  effectId intent row h := by
    split at h
    · cases h
      rfl
    · cases h
  fence intent row h := by
    split at h
    · next hfits =>
      cases h
      exact hfits
    · cases h

/-- `hashtext` on the names of the locks. -/
def hashtext (name : Str) : Int :=
  if name = bindingLock (intent "e" 'a') then 846231292
  else if name = keyLock (intent "e" 'a') then 547974286
  else if name = keyLock (intent "f" 'c') then 505842383
  else 0

abbrev calls : Advisory.Protocol effectSchema Int (Except Exn ModelEffectReservation) :=
  protocol columns hashtext

theorem lockKeys_first : calls.lockKeys (intent "e" 'a') = [846231292, 547974286] := by
  decide

theorem lockKeys_second : calls.lockKeys (intent "f" 'c') = [846231292, 505842383] := by
  decide

theorem valid_first : validateIntent (intent "e" 'a') = .ok () := by decide

theorem valid_second : validateIntent (intent "f" 'c') = .ok () := by decide

/-- Both calls are made. -/
def both : Advisory.World effectSchema Int :=
  .pair .empty (some (.locking (intent "e" 'a') [] [846231292, 547974286]))
    (some (.locking (intent "f" 'c') [] [846231292, 505842383]))

theorem both_reachable : Advisory.Reachable calls .empty
    [.invoked 0 (intent "e" 'a'), .invoked 1 (intent "f" 'c')] both := by
  have h : Advisory.Reachable calls .empty _ _ :=
    (Advisory.Runs.refl.step (@Advisory.Step.invoke _ _ _ _ calls _ 0 _ rfl valid_first)).step
      (@Advisory.Step.invoke _ _ _ _ calls _ 1 _ rfl valid_second)
  rwa [Advisory.World.start_eq_pair, Advisory.World.pair_set_first,
    Advisory.World.pair_set_second, lockKeys_first, lockKeys_second] at h

/-- The table of the first call. -/
def insertedTable : EffectTable := ⟨[stored (intent "e" 'a')], List.pairwise_singleton ..⟩

theorem insert_first : (Table.empty : EffectTable).insert (stored (intent "e" 'a')) =
    some insertedTable :=
  Table.insert_eq_some.2 ⟨by rintro _ ⟨⟩, rfl⟩

/-- The first call inserts its intent while the second waits, which then reads it. -/
theorem both_answered : Advisory.Reachable calls .empty
    [.invoked 0 (intent "e" 'a'), .invoked 1 (intent "f" 'c'),
      .answered 0 (intent "e" 'a') (.ok ⟨intent "e" 'a', true, false⟩),
      .answered 1 (intent "f" 'c') (.ok ⟨stored (intent "e" 'a'), false, false⟩)]
    (.pair insertedTable none none) := by
  have h := both_reachable.step (.advance (@Advisory.Advance.acquire _ _ _ _ calls both 0 _ []
    [547974286] 846231292 rfl (Advisory.World.pair_free_first List.not_mem_nil)))
  rw [both, Advisory.World.pair_set_first] at h
  have h := h.step (.advance (@Advisory.Advance.acquire _ _ _ _ calls _ 0 _ _ [] 547974286 rfl
    (Advisory.World.pair_free_first List.not_mem_nil)))
  rw [Advisory.World.pair_set_first] at h
  have h := h.step (.advance (@Advisory.Advance.miss _ _ _ _ calls _ 0 _ _ rfl rfl))
  rw [Advisory.World.pair_set_first] at h
  have h := h.step (.advance (@Advisory.Advance.insert _ _ _ _ calls _ 0 _ (stored (intent "e" 'a'))
    rfl rfl (Advisory.World.pair_clear_first fun _ _ hs => by cases hs) (by rintro _ ⟨⟩)))
  rw [Advisory.World.pair_set_first] at h
  have h := h.step (.advance (@Advisory.Advance.commitInsert _ _ _ _ calls _ 0 _ _ _ rfl
    insert_first))
  rw [Advisory.World.pair_finish_first] at h
  have h := h.step (.advance (@Advisory.Advance.acquire _ _ _ _ calls _ 1 _ [] [505842383]
    846231292 rfl Advisory.World.pair_free_second))
  rw [Advisory.World.pair_set_second] at h
  have h := h.step (.advance (@Advisory.Advance.acquire _ _ _ _ calls _ 1 _ _ [] 505842383 rfl
    Advisory.World.pair_free_second))
  rw [Advisory.World.pair_set_second] at h
  have h := h.step (.advance (@Advisory.Advance.find _ _ _ _ calls _ 1 _ _ _ rfl rfl))
  rw [Advisory.World.pair_set_second] at h
  have h := h.step (.advance (@Advisory.Advance.lock _ _ _ _ calls _ 1 _ (stored (intent "e" 'a')) _
    rfl List.mem_cons_self rfl Advisory.World.pair_rowFree_second))
  rw [Advisory.World.pair_set_second] at h
  have h := h.step (.advance (@Advisory.Advance.commitRead _ _ _ _ calls _ 1 _ _ rfl))
  rw [Advisory.World.pair_finish_second] at h
  exact h

end Sample

/-- The theorem for two calls for one binding. -/
theorem effect_reservations_linearizable_sample :
    ∃ log w, Advisory.Reachable Sample.calls .empty log w ∧
      Advisory.executed executes log = [Sample.intent "e" 'a'] ∧
      Advisory.Runs
        (Advisory.Atomic.Step (reserveAlone Sample.columns) fun intent =>
          validateIntent intent = .ok ())
        (.start .empty) log (w.atomic Sample.calls) :=
  ⟨_, _, Sample.both_answered, rfl, (effect_reservations_linearizable Sample.both_answered).1⟩

/-- The calls that are in progress at any moment come to an end, in whatever order the database runs
their statements, as long as `hashtext` tells the names of their locks apart. -/
theorem effect_reservations_end {C : Columns} {hashtext : Str → Int} {t : EffectTable}
    {log : List (Advisory.Event effectSchema (Except Exn ModelEffectReservation))}
    {w : Advisory.World effectSchema Int} (h : Advisory.Reachable (protocol C hashtext) t log w)
    (hhash : Set.InjOn hashtext (w.uses lockIds)) : Advisory.Ends (protocol C hashtext) w := by
  obtain ⟨rank, hrank⟩ : ∃ rank : Int → Str, Advisory.Ordered (protocol C hashtext) rank w :=
    Advisory.Ordered.of_injOn (fun _ => rfl) (fun _ => lockIds_sorted) hhash
  exact (Advisory.Reachable.invariant h).ends hrank

/-- The theorem for the two calls when both are made. -/
theorem effect_reservations_end_sample :
    (∀ c < 2, Sample.both.sessions c ≠ none) ∧ Advisory.Ends Sample.calls Sample.both := by
  have hnames : ∀ name ∈ Sample.both.uses lockIds, name ∈ [bindingLock (Sample.intent "e" 'a'),
      keyLock (Sample.intent "e" 'a'), keyLock (Sample.intent "f" 'c')] := by
    rintro name ⟨c, s, hc, hname⟩
    rcases c with _ | _ | n
    · cases hc
      rcases mem_lockIds.1 hname with rfl | rfl <;> simp [Advisory.Session.request]
    · cases hc
      rcases mem_lockIds.1 hname with rfl | rfl
      · exact List.mem_cons_self
      · simp [Advisory.Session.request]
    · cases hc
  have hhash : ∀ i ∈ [bindingLock (Sample.intent "e" 'a'), keyLock (Sample.intent "e" 'a'),
      keyLock (Sample.intent "f" 'c')], ∀ j ∈ [bindingLock (Sample.intent "e" 'a'),
      keyLock (Sample.intent "e" 'a'), keyLock (Sample.intent "f" 'c')],
      Sample.hashtext i = Sample.hashtext j → i = j := by
    decide
  refine ⟨?_, effect_reservations_end Sample.both_reachable fun i hi j hj =>
    hhash i (hnames i hi) j (hnames j hj)⟩
  rintro (_ | _ | n) hc
  · rintro ⟨⟩
  · rintro ⟨⟩
  · omega

end Postgres

end ModelEffect

end AgencyRuntime
