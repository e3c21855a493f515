import AgencyRuntime.Advisory.Identity
import AgencyRuntime.Advisory.Linear
import AgencyRuntime.Advisory.Progress
import AgencyRuntime.Publication.AtMostOnce

/-!
# Reservations of publications in PostgreSQL

`reserve` of the PostgreSQL store (social_publication_postgres.py), side by side from every replica.
It takes one advisory lock, for the binding; the key is left to the unique index. As long as no key
comes with two bindings the calls do what the SQLite store does one call at a time
(`publication_reservations_linearizable`). Where one does, the index refuses the call that comes
second; at most one is told to publish all the same, and no call waits for ever
(`publication_reserved_once`).
-/

namespace AgencyRuntime

open Tables

namespace Publication

namespace Postgres

/-- `UNIQUE (tenant_id, idempotency_digest)` and `UNIQUE (tenant_id, binding_digest)` -/
def identity : Advisory.Identity intentSchema Str Str where
  owner := SocialPublicationIntent.tenantId
  key := SocialPublicationIntent.idempotencyDigest
  binding := SocialPublicationIntent.bindingDigest
  clash_key h h' := by simp [intentSchema, SocialPublicationIntent.sameKey, h, h']
  clash_binding h h' := by simp [intentSchema, SocialPublicationIntent.sameBinding, h, h']

/-- What the columns keep of the values of an `INSERT`, if they take them. -/
structure Columns where
  store : SocialPublicationIntent → Option SocialPublicationIntent
  keeps : ∀ intent row, store intent = some row → identity.Keeps intent row
  intentId : ∀ intent row, store intent = some row → row.intentId = intent.intentId
  /-- `greenlight_fencing_token BIGINT` and `budget_cents BIGINT` -/
  numbers : ∀ intent row, store intent = some row →
    (fitsInteger row.greenlightFencingToken && fitsInteger row.budgetCents) = true

/-- `"social-publication:{}:{}"` -/
def lockId (intent : SocialPublicationIntent) : Str :=
  Py.lit "social-publication:" ++ (intent.tenantId ++ (Py.lit ":" ++ intent.bindingDigest))

/-- What `reserve` returns or raises. -/
def answer : SocialPublicationIntent → Advisory.Outcome SocialPublicationIntent →
    Except Exn SocialPublicationReservation :=
  identity.answer
    (.socialPublicationConflict "publication idempotency key conflicts with a prior binding")
    (.socialPublicationConflict "publication binding conflicts with a prior intent") .integrityError
    (fun record => ⟨record, false, record.status = .succeeded⟩) fun intent => ⟨intent, true, false⟩

/-- `reserve`, for commands that are in use; the `SELECT` takes the row with the key before the row
with the binding. -/
def protocol (C : Columns) (hashtext : Str → Int) (used : SocialPublicationIntent → Prop) :
    Advisory.Protocol intentSchema Int (Except Exn SocialPublicationReservation) where
  Admitted intent := validateIntent intent = .ok () ∧ used intent
  lockKeys intent := [hashtext (lockId intent)]
  selectors := identity.selectors
  store := C.store
  answer := answer

/-- `reserve` of the SQLite store, on the row that the columns make of the intent. -/
def reserveAlone (C : Columns) (intent : SocialPublicationIntent) (t : IntentTable) :
    Except Exn SocialPublicationReservation × IntentTable :=
  let result := reserveIn ((C.store intent).getD intent) t
  (result.1.map fun
    | .inserted => ⟨intent, true, false⟩
    | .existing record => ⟨record, false, record.status = .succeeded⟩, result.2)

/-- Whether a reservation lets its caller publish. -/
def executes : Except Exn SocialPublicationReservation → Bool
  | .ok reservation => reservation.executable
  | .error _ => false

/-- A key comes with one binding. -/
def Bound (bindingOf : Str → Str → Str) (intent : SocialPublicationIntent) : Prop :=
  intent.bindingDigest = bindingOf intent.tenantId intent.idempotencyDigest

section
variable {C : Columns} {hashtext : Str → Int} {used : SocialPublicationIntent → Prop}
  {bindingOf : Str → Str → Str} {intent other row row' record : SocialPublicationIntent}
  {t : IntentTable}

theorem protocol_guarded : (protocol C hashtext (Bound bindingOf)).Guarded := by
  have hshared (intent other : SocialPublicationIntent) (htenant : intent.tenantId = other.tenantId)
      (hbinding : intent.bindingDigest = other.bindingDigest) :
      ∃ k ∈ (protocol C hashtext (Bound bindingOf)).lockKeys intent,
        k ∈ (protocol C hashtext (Bound bindingOf)).lockKeys other := by
    refine ⟨hashtext (lockId intent), List.mem_singleton_self _, List.mem_singleton.2 ?_⟩
    rw [lockId, lockId, htenant, hbinding]
  refine identity.guarded (fun _ => rfl) C.keeps (fun intent other hx hy howner hkey => ?_)
    fun intent other _ _ howner hbinding => hshared intent other howner hbinding
  have htenant : intent.tenantId = other.tenantId := howner
  have hdigest : intent.idempotencyDigest = other.idempotencyDigest := hkey
  refine hshared intent other htenant ?_
  rw [hx.2, hy.2, htenant, hdigest]

theorem protocol_exact : (protocol C hashtext used).Exact := identity.exact (fun _ => rfl) C.keeps

/-- The `SELECT` finds the row of `priorIntent`. -/
theorem priorRow_eq : (protocol C hashtext used).priorRow intent t = priorIntent t intent := by
  rw [Advisory.Identity.priorRow_eq (I := identity) (P := protocol C hashtext used) rfl]
  rfl

/-- What the columns make of an intent has its key and its binding, and the same rows answer it. -/
theorem getD_store : identity.Keeps intent ((C.store intent).getD intent) ∧
    priorIntent t ((C.store intent).getD intent) = priorIntent t intent := by
  cases hstore : C.store intent with
  | none => exact ⟨⟨rfl, rfl, rfl⟩, rfl⟩
  | some row =>
    have hkeeps := C.keeps intent row hstore
    have htenant : row.tenantId = intent.tenantId := hkeeps.owner
    have hkey : row.idempotencyDigest = intent.idempotencyDigest := hkeeps.key
    have hbinding : row.bindingDigest = intent.bindingDigest := hkeeps.binding
    refine ⟨hkeeps, ?_⟩
    simp only [Option.getD_some, priorIntent, SocialPublicationIntent.sameKey,
      SocialPublicationIntent.sameBinding, htenant, hkey, hbinding]

/-- Where no row answers an intent, none answers the row that is stored for it. -/
theorem stored_alone (hstore : C.store intent = some row)
    (hprior : (protocol C hashtext used).prior intent (Advisory.keys t) = none) :
    (C.store intent).getD intent = row ∧ priorIntent t row = none := by
  have hstored : (C.store intent).getD intent = row := by
    rw [hstore]
    rfl
  refine ⟨hstored, ?_⟩
  rw [← hstored, getD_store.2, ← priorRow_eq]
  exact Advisory.priorRow_none hprior

theorem protocol_implements : (protocol C hashtext used).Implements (reserveAlone C) where
  existing intent t record hprior hrecord := by
    have hfound : priorIntent t intent = some record :=
      priorRow_eq.symm.trans (Advisory.priorRow_some hprior hrecord)
    obtain ⟨hkeeps, hprior⟩ := @getD_store C intent t
    have hkey : ((C.store intent).getD intent).idempotencyDigest = intent.idempotencyDigest :=
      hkeeps.key
    have hbinding : ((C.store intent).getD intent).bindingDigest = intent.bindingDigest :=
      hkeeps.binding
    have hanswer : (protocol C hashtext used).answer intent (.existing record) =
        if record.idempotencyDigest = intent.idempotencyDigest ∧
            record.bindingDigest ≠ intent.bindingDigest then
          .error (.socialPublicationConflict
            "publication idempotency key conflicts with a prior binding")
        else if record.bindingDigest ≠ intent.bindingDigest then
          .error (.socialPublicationConflict "publication binding conflicts with a prior intent")
        else .ok ⟨record, false, record.status = .succeeded⟩ := rfl
    rw [hanswer]
    simp only [reserveAlone, reserveIn, hprior, hfound, hkey, hbinding]
    split
    · rfl
    · split <;> rfl
  inserted intent t row t' hprior hstore hins := by
    obtain ⟨hstored, hnone⟩ := stored_alone hstore hprior
    simp only [reserveAlone, hstored, reserveIn, hnone, C.numbers intent row hstore, hins, if_true]
    rfl
  violated intent t row hprior hstore hfresh := by
    obtain ⟨hstored, hnone⟩ := stored_alone hstore hprior
    simp only [reserveAlone, hstored, reserveIn, hnone, C.numbers intent row hstore,
      Table.insert_eq_none.2 hfresh, if_true]
    rfl

/-- Where the rows of two intents do not clash, the intents do not claim one publication. -/
theorem apart_of_stored (hrow : C.store intent = some row) (hrow' : C.store other = some row')
    (h : intentSchema.clash row.core row'.core = false) :
    intent.intentId ≠ other.intentId ∧ intent.sameEffect other = false := by
  have hkeeps := C.keeps intent row hrow
  have hkeeps' := C.keeps other row' hrow'
  change (row.intentId == row'.intentId || row.sameKey row' || row.sameBinding row') = false at h
  rw [Bool.or_assoc, Bool.or_eq_false_iff] at h
  refine ⟨?_, ?_⟩
  · rw [← C.intentId intent row hrow, ← C.intentId other row' hrow']
    exact ne_of_beq_false h.1
  · exact (hkeeps.same hkeeps').symm.trans h.2

theorem executes_inserted (intent : SocialPublicationIntent)
    (o : Advisory.Outcome SocialPublicationIntent)
    (h : executes ((protocol C hashtext used).answer intent o) = true) : o = .inserted := by
  rw [show (protocol C hashtext used).answer = answer from rfl, answer] at h
  exact Advisory.Identity.answer_existing (fun _ => rfl) (fun _ => rfl) intent o h

end

/-- Where every key comes with one binding, every call takes place at one moment between its start
and its answer, whatever the interleaving of the calls, of their failures and of other transactions,
and is answered what the SQLite store answers on the table as it is then; the tables are those that
the calls leave one after the other. -/
theorem publication_reservations_linearizable {C : Columns} {hashtext : Str → Int}
    {bindingOf : Str → Str → Str} {t : IntentTable}
    {log : List (Advisory.Event intentSchema (Except Exn SocialPublicationReservation))}
    {w : Advisory.World intentSchema Int}
    (h : Advisory.Reachable (protocol C hashtext (Bound bindingOf)) t log w) :
    Advisory.Runs
      (Advisory.Atomic.Step (reserveAlone C) (protocol C hashtext (Bound bindingOf)).Admitted)
      (.start t) log (w.atomic (protocol C hashtext (Bound bindingOf))) :=
  Advisory.Reachable.atomic protocol_guarded protocol_exact protocol_implements h

/-! ## Two calls -/

namespace Sample

/-- An instant, as the service writes it with `T` and as PostgreSQL gives it back with a blank. -/
def instant (separator : String) : Str := Py.lit ("2026-01-01" ++ separator ++ "00:00:00+00:00")

def digest (c : Char) : Str := List.replicate 64 (Fin.ofNat _ c.toNat)

/-- A reservation under this key, for this binding. -/
def intent (intentId : String) (key binding : Char) : SocialPublicationIntent where
  intentId := Py.lit intentId
  tenantId := Py.lit "t"
  channelId := Py.lit "x"
  accountId := Py.lit "account"
  runId := Py.lit "r"
  artifactId := Py.lit "copy"
  artifactHash := digest '1'
  contentHash := digest '2'
  mediaUrlHash := none
  mediaHash := none
  confirmationHash := none
  greenlightId := Py.lit "g"
  greenlightFencingToken := 1
  budgetCents := 100
  idempotencyDigest := digest key
  bindingDigest := digest binding
  status := .pending
  executionFencingToken := 1
  providerContainerId := none
  providerPostId := none
  receipt := []
  failureReason := []
  createdAt := instant "T"
  updatedAt := instant "T"
  completedAt := none
  revokedAt := none

/-- The intent as it is stored. -/
def stored (intent : SocialPublicationIntent) : SocialPublicationIntent :=
  { intent with createdAt := instant " ", updatedAt := instant " " }

def columns : Columns where
  store intent :=
    if fitsInteger intent.greenlightFencingToken && fitsInteger intent.budgetCents then
      some (stored intent)
    else none
  keeps intent row h := by
    split at h
    · cases h
      exact ⟨rfl, rfl, rfl⟩
    · cases h
  intentId intent row h := by
    split at h
    · cases h
      rfl
    · cases h
  numbers intent row h := by
    split at h
    · next hfits =>
      cases h
      exact hfits
    · cases h

/-- `hashtext` on the names of the locks. -/
def hashtext (name : Str) : Int :=
  if name = lockId (intent "e" 'a' 'b') then 213463382
  else if name = lockId (intent "e" 'a' 'c') then 1684915262
  else 0

theorem hashtext_other : hashtext (lockId (intent "f" 'a' 'c')) = 1684915262 := by decide

theorem hashtext_first : hashtext (lockId (intent "e" 'a' 'b')) = 213463382 := by decide

theorem valid_first : validateIntent (intent "e" 'a' 'b') = .ok () := by decide

theorem valid_again : validateIntent (intent "f" 'c' 'b') = .ok () := by decide

theorem valid_other : validateIntent (intent "f" 'a' 'c') = .ok () := by decide

/-- The table of the first call. -/
def insertedTable : IntentTable := ⟨[stored (intent "e" 'a' 'b')], List.pairwise_singleton ..⟩

theorem insert_first : (Table.empty : IntentTable).insert (stored (intent "e" 'a' 'b')) =
    some insertedTable :=
  Table.insert_eq_some.2 ⟨by rintro _ ⟨⟩, rfl⟩

/-- The binding of a key. -/
def bindingOf (_ _ : Str) : Str := digest 'b'

abbrev calls : Advisory.Protocol intentSchema Int (Except Exn SocialPublicationReservation) :=
  protocol columns hashtext (Bound bindingOf)

/-- One binding, twice: the second call waits for the first, and is given its intent. -/
theorem repeated : Advisory.Reachable calls .empty
    [.invoked 0 (intent "e" 'a' 'b'), .invoked 1 (intent "f" 'c' 'b'),
      .answered 0 (intent "e" 'a' 'b') (.ok ⟨intent "e" 'a' 'b', true, false⟩),
      .answered 1 (intent "f" 'c' 'b') (.ok ⟨stored (intent "e" 'a' 'b'), false, false⟩)]
    (.pair insertedTable none none) := by
  have h : Advisory.Reachable calls .empty _ _ :=
    (Advisory.Runs.refl.step
      (@Advisory.Step.invoke _ _ _ _ calls _ 0 _ rfl ⟨valid_first, rfl⟩)).step
      (@Advisory.Step.invoke _ _ _ _ calls _ 1 _ rfl ⟨valid_again, rfl⟩)
  rw [Advisory.World.start_eq_pair, Advisory.World.pair_set_first,
    Advisory.World.pair_set_second] at h
  have h := h.step (.advance (@Advisory.Advance.acquire _ _ _ _ calls _ 0 _ [] [] _ rfl
    (Advisory.World.pair_free_first List.not_mem_nil)))
  rw [Advisory.World.pair_set_first] at h
  have h := h.step (.advance (@Advisory.Advance.miss _ _ _ _ calls _ 0 _ _ rfl rfl))
  rw [Advisory.World.pair_set_first] at h
  have h := h.step (.advance (@Advisory.Advance.insert _ _ _ _ calls _ 0 _
    (stored (intent "e" 'a' 'b')) rfl rfl
    (Advisory.World.pair_clear_first fun _ _ hs => by cases hs) (by rintro _ ⟨⟩)))
  rw [Advisory.World.pair_set_first] at h
  have h := h.step (.advance (@Advisory.Advance.commitInsert _ _ _ _ calls _ 0 _ _ _ rfl
    insert_first))
  rw [Advisory.World.pair_finish_first] at h
  have h := h.step (.advance (@Advisory.Advance.acquire _ _ _ _ calls _ 1 _ [] [] _ rfl
    Advisory.World.pair_free_second))
  rw [Advisory.World.pair_set_second] at h
  have h := h.step (.advance (@Advisory.Advance.find _ _ _ _ calls _ 1 _ _ _ rfl rfl))
  rw [Advisory.World.pair_set_second] at h
  have h := h.step (.advance (@Advisory.Advance.lock _ _ _ _ calls _ 1 _
    (stored (intent "e" 'a' 'b')) _ rfl List.mem_cons_self rfl Advisory.World.pair_rowFree_second))
  rw [Advisory.World.pair_set_second] at h
  have h := h.step (.advance (@Advisory.Advance.commitRead _ _ _ _ calls _ 1 _ _ rfl))
  rw [Advisory.World.pair_finish_second] at h
  exact h

abbrev anyCalls : Advisory.Protocol intentSchema Int (Except Exn SocialPublicationReservation) :=
  protocol columns hashtext fun _ => True

/-- Two commands with one key: neither finds the other, and the index refuses the second. -/
theorem crossed : Advisory.Reachable anyCalls .empty
    [.invoked 0 (intent "e" 'a' 'b'), .invoked 1 (intent "f" 'a' 'c'),
      .answered 0 (intent "e" 'a' 'b') (.ok ⟨intent "e" 'a' 'b', true, false⟩),
      .answered 1 (intent "f" 'a' 'c') (.error .integrityError)]
    (.pair insertedTable none none) := by
  have h : Advisory.Reachable anyCalls .empty _ _ :=
    (Advisory.Runs.refl.step
      (@Advisory.Step.invoke _ _ _ _ anyCalls _ 0 _ rfl ⟨valid_first, trivial⟩)).step
      (@Advisory.Step.invoke _ _ _ _ anyCalls _ 1 _ rfl ⟨valid_other, trivial⟩)
  rw [Advisory.World.start_eq_pair, Advisory.World.pair_set_first,
    Advisory.World.pair_set_second] at h
  have h := h.step (.advance (@Advisory.Advance.acquire _ _ _ _ anyCalls _ 0 _ [] [] _ rfl
    (Advisory.World.pair_free_first List.not_mem_nil)))
  rw [Advisory.World.pair_set_first] at h
  have hapart : hashtext (lockId (intent "f" 'a' 'c')) ∉
      [hashtext (lockId (intent "e" 'a' 'b'))] := by
    rw [hashtext_other, hashtext_first]
    decide
  have h := h.step (.advance (@Advisory.Advance.acquire _ _ _ _ anyCalls _ 1 _ [] [] _ rfl
    (Advisory.World.pair_free_beside hapart)))
  rw [Advisory.World.pair_set_second] at h
  have h := h.step (.advance (@Advisory.Advance.miss _ _ _ _ anyCalls _ 0 _ _ rfl rfl))
  rw [Advisory.World.pair_set_first] at h
  have h := h.step (.advance (@Advisory.Advance.miss _ _ _ _ anyCalls _ 1 _ _ rfl rfl))
  rw [Advisory.World.pair_set_second] at h
  have h := h.step (.advance (@Advisory.Advance.insert _ _ _ _ anyCalls _ 0 _
    (stored (intent "e" 'a' 'b')) rfl rfl
    (Advisory.World.pair_clear_first fun _ _ hs => by cases hs) (by rintro _ ⟨⟩)))
  rw [Advisory.World.pair_set_first] at h
  have h := h.step (.advance (@Advisory.Advance.commitInsert _ _ _ _ anyCalls _ 0 _ _ _ rfl
    insert_first))
  rw [Advisory.World.pair_finish_first] at h
  have h := h.step (.advance (@Advisory.Advance.violate _ _ _ _ anyCalls _ 1 _
    (stored (intent "f" 'a' 'c')) rfl rfl (by decide)))
  rw [Advisory.World.pair_finish_second] at h
  exact h

end Sample

/-- The theorem for two calls for one binding. -/
theorem publication_reservations_linearizable_sample :
    ∃ log w, Advisory.Reachable Sample.calls .empty log w ∧
      Advisory.executed executes log = [Sample.intent "e" 'a' 'b'] ∧
      Advisory.Runs (Advisory.Atomic.Step (reserveAlone Sample.columns) Sample.calls.Admitted)
        (.start .empty) log (w.atomic Sample.calls) :=
  ⟨_, _, Sample.repeated, rfl, publication_reservations_linearizable Sample.repeated⟩

/-- Whatever the commands and the interleaving, of the calls for one publication at most one is told
to publish; and the calls that are in progress at any moment come to an end, in whatever order the
database runs their statements and whatever `hashtext` is. -/
theorem publication_reserved_once {C : Columns} {hashtext : Str → Int} {t : IntentTable}
    {log : List (Advisory.Event intentSchema (Except Exn SocialPublicationReservation))}
    {w : Advisory.World intentSchema Int}
    (h : Advisory.Reachable (protocol C hashtext fun _ => True) t log w) :
    (Advisory.executed executes log).Pairwise
        (fun x y => x.intentId ≠ y.intentId ∧ x.sameEffect y = false) ∧
      Advisory.Ends (protocol C hashtext fun _ => True) w := by
  have hclear := Advisory.Reachable.executed_clear executes_inserted h
  refine ⟨hclear.imp ?_, ?_⟩
  · rintro x y ⟨row, row', hrow, hrow', hclash⟩
    exact apart_of_stored hrow hrow' hclash
  · have hordered : Advisory.Ordered (protocol C hashtext fun _ => True) id w :=
      fun _ _ _ => List.pairwise_singleton ..
    exact (Advisory.Reachable.invariant h).ends hordered

/-- The theorem for two commands with one key. -/
theorem publication_reserved_once_sample :
    ∃ log w, Advisory.Reachable Sample.anyCalls .empty log w ∧
      Advisory.executed executes log = [Sample.intent "e" 'a' 'b'] ∧
      (Advisory.executed executes log).Pairwise
          (fun x y => x.intentId ≠ y.intentId ∧ x.sameEffect y = false) ∧
        Advisory.Ends Sample.anyCalls w :=
  ⟨_, _, Sample.crossed, rfl, publication_reserved_once Sample.crossed⟩

end Postgres

end Publication

end AgencyRuntime
