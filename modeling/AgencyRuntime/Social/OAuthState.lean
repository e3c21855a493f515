import AgencyRuntime.Publication.Intent
import AgencyRuntime.Python.Datetime
import AgencyRuntime.Tables.Transaction

/-!
# OAuth states

The rows of `social_oauth_states` (social_oauth_store.py), the checks of both stores, and the store
in SQLite, whose lock makes each call one transaction. Instants are given as `Datetime`; a row of
SQLite holds their texts, which it compares as texts. A call may fail at any statement and is then
rolled back.
-/

namespace AgencyRuntime

namespace Social

open Py Tables

/-- `SocialOAuthStateRecord`, with the instants as a store keeps them. -/
structure SocialOAuthState (τ : Type) where
  stateId : Str
  tenantId : Str
  sessionId : Str
  channelId : Str
  stateDigest : Str
  providerTokenDigest : Option Str
  ciphertext : Str
  keyId : Str
  createdAt : τ
  expiresAt : τ
  consumedAt : Option τ
deriving DecidableEq

/-- `SocialOAuthStateRecord` -/
abbrev SocialOAuthStateRecord := SocialOAuthState Datetime

/-- The arguments of `consume_state`. -/
structure StateLookup where
  tenantId : Str
  sessionId : Str
  channelId : Str
  stateDigest : Str
  providerTokenDigest : Option Str
deriving DecidableEq

/-- `_validate_lookup` -/
def validateLookup (lookup : StateLookup) : Except Exn Unit := do
  check (isIdentifier lookup.tenantId && isIdentifier lookup.sessionId)
    (.valueError "social OAuth identity is invalid")
  check (isChannel lookup.channelId && isSha256 lookup.stateDigest)
    (.valueError "social OAuth state lookup is invalid")
  check (∀ digest ∈ lookup.providerTokenDigest, isSha256 digest)
    (.valueError "provider token digest is invalid")

namespace SocialOAuthState

variable {τ σ : Type}

/-- The row with its instants written in another way. -/
def map (write : τ → σ) (r : SocialOAuthState τ) : SocialOAuthState σ where
  stateId := r.stateId
  tenantId := r.tenantId
  sessionId := r.sessionId
  channelId := r.channelId
  stateDigest := r.stateDigest
  providerTokenDigest := r.providerTokenDigest
  ciphertext := r.ciphertext
  keyId := r.keyId
  createdAt := write r.createdAt
  expiresAt := write r.expiresAt
  consumedAt := r.consumedAt.map write

/-- What a lookup has to give. -/
def lookup (r : SocialOAuthState τ) : StateLookup :=
  ⟨r.tenantId, r.sessionId, r.channelId, r.stateDigest, r.providerTokenDigest⟩

/-- `UPDATE social_oauth_states SET consumed_at = ?` -/
def consume (now : τ) (r : SocialOAuthState τ) : SocialOAuthState τ :=
  { r with consumedAt := some now }

/-- Of the same tenant, session and channel. -/
def SameOwner (r : SocialOAuthState τ) (s : SocialOAuthState σ) : Prop :=
  r.tenantId = s.tenantId ∧ r.sessionId = s.sessionId ∧ r.channelId = s.channelId

/-- `tenant_id = ? AND session_id = ? AND channel_id = ? AND consumed_at IS NULL` -/
def isPending (record : SocialOAuthState σ) (r : SocialOAuthState τ) : Bool :=
  r.tenantId == record.tenantId && r.sessionId == record.sessionId &&
    r.channelId == record.channelId && r.consumedAt.isNone

theorem isPending_iff {record : SocialOAuthState σ} {r : SocialOAuthState τ} :
    record.isPending r = true ↔ r.SameOwner record ∧ r.consumedAt = none := by
  simp only [isPending, SameOwner, Bool.and_eq_true, beq_iff_eq, Option.isNone_iff_eq_none,
    and_assoc]

end SocialOAuthState

/-- `_validate_state` -/
def validateState (record : SocialOAuthStateRecord) : Except Exn Unit := do
  validateLookup record.lookup
  check (isIdentifier record.stateId) (.valueError "state_id is invalid")
  check (record.ciphertext ≠ [] ∧ isIdentifier record.keyId)
    (.valueError "encrypted OAuth payload is invalid")
  check (¬ (record.expiresAt ≤ record.createdAt ∨ record.consumedAt ≠ none))
    (.valueError "social OAuth state lifetime is invalid")

/-- A new state is not consumed. -/
theorem validateState_ok {record : SocialOAuthStateRecord} (h : validateState record = .ok ()) :
    record.consumedAt = none := by
  obtain ⟨_, -, h⟩ := exceptBind_ok h
  obtain ⟨_, -, h⟩ := exceptBind_ok h
  obtain ⟨_, -, h⟩ := exceptBind_ok h
  rw [check_ok, not_or, not_not] at h
  exact h.2

/-- `(provider_token_digest IS NULL AND ? IS NULL) OR provider_token_digest = ?` -/
def sameProviderToken : Option Str → Option Str → Bool
  | none, none => true
  | some digest, some digest' => digest == digest'
  | _, _ => false

theorem sameProviderToken_iff {p q : Option Str} : sameProviderToken p q = true ↔ p = q := by
  cases p <;> cases q <;> simp [sameProviderToken]

/-- The condition of `consume_state`, less the one on the expiry. -/
def StateLookup.finds {τ : Type} (lookup : StateLookup) (r : SocialOAuthState τ) : Bool :=
  r.tenantId == lookup.tenantId && r.sessionId == lookup.sessionId &&
    r.channelId == lookup.channelId && r.stateDigest == lookup.stateDigest &&
    sameProviderToken r.providerTokenDigest lookup.providerTokenDigest && r.consumedAt.isNone

theorem StateLookup.finds_iff {τ : Type} {lookup : StateLookup} {r : SocialOAuthState τ} :
    lookup.finds r = true ↔ r.lookup = lookup ∧ r.consumedAt = none := by
  obtain ⟨tenantId, sessionId, channelId, stateDigest, providerTokenDigest⟩ := lookup
  simp only [finds, Bool.and_eq_true, beq_iff_eq, sameProviderToken_iff,
    Option.isNone_iff_eq_none, SocialOAuthState.lookup, StateLookup.mk.injEq, and_assoc]

/-- `PRIMARY KEY (state_id)` and `UNIQUE (state_digest)`, of rows that hold a state. -/
def stateSchema {α τ : Type} (state : α → SocialOAuthState τ) : Schema α :=
  .ofPair fun r => ((state r).stateId, (state r).stateDigest)

/-! ## The store in SQLite -/

/-- `social_oauth_states` in SQLite, where instants are texts. -/
abbrev StateTable := Table (stateSchema (id : SocialOAuthState Str → SocialOAuthState Str))

/-- `UPDATE social_oauth_states SET consumed_at = ?` -/
def consumeRow (now : Str) : Update (stateSchema (id : SocialOAuthState Str → _)) where
  apply r := r.consume now
  key_apply _ := rfl

namespace Sqlite

/-- `SQLiteSocialOAuthStore.create_state` -/
def createState (record : SocialOAuthStateRecord) : Transaction StateTable Exn Unit := do
  Transaction.compute (validateState record)
  Transaction.statement fun t => .ok ((), t.delete record.isPending)
  Transaction.statement fun t =>
    match t.insert { record.map Datetime.isoformat with consumedAt := none } with
    | some t' => .ok ((), t')
    | none => .error (.socialOAuthStore "social OAuth state could not be created")

/-- `SELECT … WHERE … AND consumed_at IS NULL AND expires_at > ?`, the instants as texts -/
def available (lookup : StateLookup) (consumedAt : Str) (r : SocialOAuthState Str) : Bool :=
  lookup.finds r && decide (consumedAt < r.expiresAt)

/-- `SQLiteSocialOAuthStore.consume_state`, at the time its clock gives. -/
def consumeState (lookup : StateLookup) (now : Datetime) :
    Transaction StateTable Exn (SocialOAuthState Str) := do
  Transaction.compute (validateLookup lookup)
  let row ← Transaction.statement fun t =>
    match t.rows.find? (available lookup now.isoformat) with
    | some row => .ok (row, t)
    | none => .error (.socialOAuthStateUnavailable "social OAuth state is unavailable")
  let rowcount ← Transaction.statement fun t =>
    let selected := fun r : SocialOAuthState Str =>
      r.stateId == row.stateId && r.consumedAt.isNone
    .ok (t.count selected, t.modify selected (consumeRow now.isoformat))
  Transaction.compute (check (rowcount = 1)
    (.socialOAuthStateUnavailable "social OAuth state is unavailable"))
  return row.consume now.isoformat

end Sqlite

/-! ## What holds of a log of calls -/

/-- What the calls on a store come to: `ι` names calls, `τ` is how the store keeps instants. -/
inductive StateEvent (ι τ : Type)
  /-- A `create_state` has read the states it replaces. -/
  | replacing (call : ι) (record : SocialOAuthStateRecord)
  /-- It is committed. -/
  | created (call : ι) (record : SocialOAuthStateRecord)
  /-- A `consume_state` is committed, which returns this. -/
  | consumed (call : ι) (lookup : StateLookup) (now : Datetime) (returned : SocialOAuthState τ)
  /-- A `consume_state` found no state. -/
  | refused (call : ι) (lookup : StateLookup) (now : Datetime)

section
variable {ι τ : Type}

/-- No two calls consume one state. -/
def StateEvent.Apart : StateEvent ι τ → StateEvent ι τ → Prop
  | .consumed _ _ _ r, .consumed _ _ _ r' => r.stateId ≠ r'.stateId ∧ r.stateDigest ≠ r'.stateDigest
  | _, _ => True

/-- A state was issued to the tenant, session and channel of a lookup and with its digests, it had
not expired by the clock of the call, and since then none has replaced it. -/
def IssuedFor (write : Datetime → τ)
    (replaced : List (StateEvent ι τ) → SocialOAuthStateRecord → Prop)
    (before : List (StateEvent ι τ)) (lookup : StateLookup) (now : Datetime)
    (returned : SocialOAuthState τ) : Prop :=
  ∃ A call record B, before = A ++ .created call record :: B ∧ record.lookup = lookup ∧
    now < record.expiresAt ∧ returned = (record.map write).consume (write now) ∧ ¬ replaced B record

/-- Single use, over a log: a state is consumed once, and as it was issued. -/
structure SingleUse (write : Datetime → τ)
    (replaced : List (StateEvent ι τ) → SocialOAuthStateRecord → Prop)
    (log : List (StateEvent ι τ)) : Prop where
  once : log.Pairwise StateEvent.Apart
  bound : ∀ before call lookup now returned after,
    log = before ++ .consumed call lookup now returned :: after →
      IssuedFor write replaced before lookup now returned

variable {write : Datetime → τ} {replaced : List (StateEvent ι τ) → SocialOAuthStateRecord → Prop}
  {log : List (StateEvent ι τ)}

theorem SingleUse.nil : SingleUse write replaced [] where
  once := .nil
  bound before _ _ _ _ after h := by cases before <;> cases h

/-- What one event more has to be. -/
theorem SingleUse.append (h : SingleUse write replaced log) {e : StateEvent ι τ}
    (honce : ∀ e' ∈ log, e'.Apart e)
    (hbound : ∀ call lookup now returned, e = .consumed call lookup now returned →
      IssuedFor write replaced log lookup now returned) :
    SingleUse write replaced (log ++ [e]) where
  once := List.pairwise_append.2
    ⟨h.once, List.pairwise_singleton .., fun e' he' _ hmem => List.mem_singleton.1 hmem ▸ honce e' he'⟩
  bound before call lookup now returned after hsplit := by
    rcases List.eq_nil_or_concat after with rfl | ⟨after, last, rfl⟩
    · obtain ⟨rfl, hlast⟩ := List.append_inj' hsplit rfl
      exact hbound call lookup now returned (List.cons.inj hlast).1
    · rw [List.concat_eq_append, ← List.cons_append, ← List.append_assoc] at hsplit
      obtain ⟨rfl, -⟩ := List.append_inj' hsplit rfl
      exact h.bound before call lookup now returned after rfl

/-- An event that consumes nothing. -/
theorem SingleUse.append_other (h : SingleUse write replaced log) {e : StateEvent ι τ}
    (he : ∀ call lookup now returned, e ≠ .consumed call lookup now returned) :
    SingleUse write replaced (log ++ [e]) := by
  refine h.append (fun e' _ => ?_) fun call lookup now returned heq =>
    (he call lookup now returned heq).elim
  cases e with
  | consumed call lookup now returned => exact (he call lookup now returned rfl).elim
  | replacing | created | refused => cases e' <;> trivial

end

/-! ## Runs of the store in SQLite -/

namespace Sqlite

/-- A call, at the time its clock gives. -/
inductive StateCall
  | create (record : SocialOAuthStateRecord)
  | consume (lookup : StateLookup) (now : Datetime)

/-- What a call comes to, when its statements meet these failures. -/
def performState (call : StateCall) (faults : List (Option Exn)) (t : StateTable) :
    List (StateEvent Unit Str) × StateTable :=
  match call with
  | .create record =>
    match (createState record).commit ⟨t, faults⟩ with
    | (.ok (), t') => ([.created () record], t')
    | (.error _, t') => ([], t')
  | .consume lookup now =>
    match (consumeState lookup now).commit ⟨t, faults⟩ with
    | (.ok returned, t') => ([.consumed () lookup now returned], t')
    | (.error _, t') => ([.refused () lookup now], t')

/-- The calls of any threads, in the order in which they take the lock. -/
def runStates : List (StateCall × List (Option Exn)) → StateTable →
    List (StateEvent Unit Str) × StateTable
  | [], t => ([], t)
  | (call, faults) :: calls, t =>
    let (events, t') := performState call faults t
    let (log, t'') := runStates calls t'
    (events ++ log, t'')

theorem createState_does (record : SocialOAuthStateRecord) :
    (createState record).Does fun t _ t' => validateState record = .ok () ∧
      (t.delete record.isPending).insert (record.map Datetime.isoformat) = some t' := by
  refine ((Transaction.does_compute _).bind fun _ => (Transaction.does_statement _).bind fun _ =>
    Transaction.does_statement _).mono ?_
  rintro t _ t' ⟨_, _, ⟨hvalid, rfl⟩, _, _, hdelete, hinsert⟩
  cases hdelete
  have hnew : { record.map Datetime.isoformat with consumedAt := none } =
      record.map Datetime.isoformat := by
    simp only [SocialOAuthState.map, validateState_ok hvalid, Option.map_none]
  rw [hnew] at hinsert
  refine ⟨hvalid, ?_⟩
  split at hinsert
  · next t'' hsome =>
    cases hinsert
    exact hsome
  · cases hinsert

theorem consumeState_does (lookup : StateLookup) (now : Datetime) :
    (consumeState lookup now).Does fun t returned t' => ∃ row ∈ t.rows,
      available lookup now.isoformat row = true ∧ returned = row.consume now.isoformat ∧
        t' = t.modify (fun r => r.stateId == row.stateId && r.consumedAt.isNone)
          (consumeRow now.isoformat) := by
  refine ((Transaction.does_compute _).bind fun _ => (Transaction.does_statement _).bind fun _ =>
    (Transaction.does_statement _).bind fun _ => (Transaction.does_compute _).bind fun _ =>
    Transaction.does_pure _).mono ?_
  rintro t returned t' ⟨_, _, ⟨-, rfl⟩, row, _, hselect, _, _, hupdate, _, _, ⟨-, rfl⟩, rfl, rfl⟩
  split at hselect
  · next found hfind =>
    cases hselect
    cases hupdate
    exact ⟨row, List.mem_of_find?_eq_some hfind, List.find?_some hfind, rfl, rfl⟩
  · cases hselect

/-- Replaced by a `create_state` that is completed. -/
def Replaced {τ : Type} (after : List (StateEvent Unit τ)) (record : SocialOAuthStateRecord) :
    Prop :=
  ∃ record', .created () record' ∈ after ∧ record'.SameOwner record

/-- What the table says of a log: a pending row is the last state of its tenant, session and
channel, and what was consumed stays. -/
structure StateInvariant (log : List (StateEvent Unit Str)) (t : StateTable) : Prop where
  spec : SingleUse Datetime.isoformat Replaced log
  pending : ∀ row ∈ t.rows, row.consumedAt = none → ∃ A record B,
    log = A ++ .created () record :: B ∧ row = record.map Datetime.isoformat ∧ ¬ Replaced B record
  used : ∀ call lookup now returned, .consumed call lookup now returned ∈ log →
    ∃ row ∈ t.rows, row.stateId = returned.stateId ∧ row.stateDigest = returned.stateDigest ∧
      row.consumedAt ≠ none

theorem StateInvariant.empty : StateInvariant [] Table.empty where
  spec := .nil
  pending := nofun
  used := nofun

section
variable {log : List (StateEvent Unit Str)} {t : StateTable} {record : SocialOAuthStateRecord}
  {lookup : StateLookup} {now : Datetime}

theorem replaced_append {B : List (StateEvent Unit Str)} {e : StateEvent Unit Str}
    (he : ∀ record', e = .created () record' → ¬ record'.SameOwner record)
    (h : ¬ Replaced B record) : ¬ Replaced (B ++ [e]) record := by
  rintro ⟨record', hmem, howner⟩
  rcases List.mem_append.1 hmem with hmem | hmem
  · exact h ⟨record', hmem, howner⟩
  · exact he record' (List.mem_singleton.1 hmem).symm howner

/-- A new state replaces those of its tenant, session and channel. -/
theorem StateInvariant.created (h : StateInvariant log t) {t' : StateTable}
    (hinsert : (t.delete record.isPending).insert (record.map Datetime.isoformat) = some t') :
    StateInvariant (log ++ [.created () record]) t' where
  spec := h.spec.append_other nofun
  pending row hrow hpending := by
    rcases (Table.mem_insert hinsert).1 hrow with hrow | rfl
    · rw [Table.mem_delete] at hrow
      obtain ⟨A, old, B, rfl, rfl, hlast⟩ := h.pending row hrow.1 hpending
      refine ⟨A, old, B ++ [.created () record], by simp, rfl, replaced_append ?_ hlast⟩
      rintro _ ⟨⟩ howner
      have hreplaced : record.isPending (old.map Datetime.isoformat) = true :=
        SocialOAuthState.isPending_iff.2
          ⟨⟨howner.1.symm, howner.2.1.symm, howner.2.2.symm⟩, hpending⟩
      rw [hreplaced] at hrow
      cases hrow.2
    · exact ⟨log, record, [], rfl, rfl, nofun⟩
  used call lookup now returned hmem := by
    have hmem : .consumed call lookup now returned ∈ log := by simpa using hmem
    obtain ⟨row, hrow, hid, hdigest, hused⟩ := h.used call lookup now returned hmem
    refine ⟨row, (Table.mem_insert hinsert).2 (.inl (Table.mem_delete.2 ⟨hrow, ?_⟩)), hid, hdigest,
      hused⟩
    rw [Bool.eq_false_iff]
    exact fun hp => hused (SocialOAuthState.isPending_iff.1 hp).2

/-- A state that was refused is as it was. -/
theorem StateInvariant.refused (h : StateInvariant log t) :
    StateInvariant (log ++ [.refused () lookup now]) t where
  spec := h.spec.append_other nofun
  pending row hrow hpending := by
    obtain ⟨A, record, B, rfl, hrow, hlast⟩ := h.pending row hrow hpending
    exact ⟨A, record, B ++ [.refused () lookup now], by simp, hrow, replaced_append nofun hlast⟩
  used call lookup' now' returned hmem := h.used call lookup' now' returned (by simpa using hmem)

/-- A state that is consumed. -/
theorem StateInvariant.consumed (h : StateInvariant log t) {row : SocialOAuthState Str}
    (hrow : row ∈ t.rows) (havailable : available lookup now.isoformat row = true) :
    StateInvariant (log ++ [.consumed () lookup now (row.consume now.isoformat)])
      (t.modify (fun r => r.stateId == row.stateId && r.consumedAt.isNone)
        (consumeRow now.isoformat)) := by
  obtain ⟨hfinds, hexpires⟩ := Bool.and_eq_true_iff.1 havailable
  obtain ⟨hlookup, hpending⟩ := StateLookup.finds_iff.1 hfinds
  obtain ⟨A, record, B, hlog, hissued, hlast⟩ := h.pending row hrow hpending
  refine ⟨h.spec.append ?_ ?_, ?_, ?_⟩
  · intro e he
    cases e with
    | consumed call lookup' now' returned =>
      obtain ⟨row', hrow', hid, hdigest, hused⟩ := h.used call lookup' now' returned he
      have hne : row' ≠ row := fun heq => hused (heq ▸ hpending)
      refine ⟨fun heq => hne ?_, fun heq => hne ?_⟩
      · refine Table.eq_of_clash hrow' hrow ?_
        simp [stateSchema, Schema.ofPair, hid.trans heq, SocialOAuthState.consume]
      · refine Table.eq_of_clash hrow' hrow ?_
        simp [stateSchema, Schema.ofPair, hdigest.trans heq, SocialOAuthState.consume]
    | replacing | created | refused => trivial
  · rintro _ _ _ _ ⟨⟩
    refine ⟨A, (), record, B, hlog, ?_, ?_, by rw [hissued], hlast⟩
    · rw [← hlookup, hissued]
      rfl
    · rw [decide_eq_true_eq, hissued] at hexpires
      exact Datetime.isoformat_lt.1 hexpires
  · intro new hnew hnone
    obtain ⟨old, hold, rfl⟩ := Table.mem_modify.1 hnew
    split at hnone
    · cases hnone
    · next hsel =>
      rw [if_neg hsel]
      obtain ⟨A, record, B, rfl, hrow, hlast⟩ := h.pending old hold hnone
      exact ⟨A, record, B ++ [.consumed () lookup now (row.consume now.isoformat)], by simp, hrow,
        replaced_append nofun hlast⟩
  · intro call lookup' now' returned hmem
    rcases List.mem_append.1 hmem with hmem | hmem
    · obtain ⟨row', hrow', hid, hdigest, hused⟩ := h.used call lookup' now' returned hmem
      refine ⟨row', Table.mem_modify.2 ⟨row', hrow', if_neg ?_⟩, hid, hdigest, hused⟩
      rw [Bool.and_eq_true, Option.isNone_iff_eq_none]
      exact fun hsel => hused hsel.2
    · cases List.mem_singleton.1 hmem
      refine ⟨row.consume now.isoformat, Table.mem_modify.2 ⟨row, hrow, if_pos ?_⟩, rfl, rfl, nofun⟩
      simp [hpending]

/-- A call leaves what the table says of the log. -/
theorem StateInvariant.perform (h : StateInvariant log t) (call : StateCall)
    (faults : List (Option Exn)) :
    StateInvariant (log ++ (performState call faults t).1) (performState call faults t).2 := by
  cases call with
  | create record =>
    unfold performState
    rcases Transaction.commit_cases (createState_does record) ⟨t, faults⟩ with
      ⟨e, heq⟩ | ⟨_, t', heq, -, hinsert⟩
    · simp only [heq, List.append_nil]
      exact h
    · simp only [heq]
      exact h.created hinsert
  | consume lookup now =>
    unfold performState
    rcases Transaction.commit_cases (consumeState_does lookup now) ⟨t, faults⟩ with
      ⟨e, heq⟩ | ⟨returned, t', heq, row, hrow, havailable, rfl, rfl⟩
    · simp only [heq]
      exact h.refused
    · simp only [heq]
      exact h.consumed hrow havailable

theorem StateInvariant.run (h : StateInvariant log t)
    (calls : List (StateCall × List (Option Exn))) :
    StateInvariant (log ++ (runStates calls t).1) (runStates calls t).2 := by
  induction calls generalizing log t with
  | nil => simpa [runStates] using h
  | cons call calls ih =>
    have hnext := ih (h.perform call.1 call.2)
    rw [List.append_assoc] at hnext
    exact hnext

end

/-- A refused call is rolled back. -/
theorem consumeState_error {lookup : StateLookup} {now : Datetime} {c : Connection StateTable Exn}
    {e : Exn} {t : StateTable} (h : (consumeState lookup now).commit c = (.error e, t)) :
    t = c.database := by
  rcases Transaction.commit_cases (consumeState_does lookup now) c with ⟨_, heq⟩ | ⟨_, _, heq, -⟩
  · exact (Prod.mk.inj (h.symm.trans heq)).2
  · cases (Prod.mk.inj (h.symm.trans heq)).1

end Sqlite

end Social

end AgencyRuntime
