import AgencyRuntime.ModelEffects.Execute
import AgencyRuntime.Publication.StateMachine
import AgencyRuntime.Tables.Evolution

/-!
# What becomes of a model effect

A row of the store moves along the state machine of its status, keeps what was reserved, and its
output columns follow the status: that is `RowStep`, an order on rows. Every transaction is an
evolution of the table under it (`Statement.evolution`), and a method that raises leaves the table
as it was.
-/

namespace AgencyRuntime

open Effects Tables

/-- `hexdigest` gives 64 lower-case hexadecimal digits. -/
def Platform.HexDigests (P : Platform) : Prop := ∀ b, isSha256 (P.sha256 b) = true

theorem Publication.Moves.trans {a b c : PublicationStatus} (h : Publication.Moves a b)
    (h' : Publication.Moves b c) : Publication.Moves a c := by
  cases h with
  | stay => exact h'
  | succeed | fail | revoke => cases h'; constructor
  | lose => cases h' <;> constructor
  | reconcile => cases h'; constructor

namespace ModelEffect

open Publication (Moves)

/-- The columns that a status decides: output, digest and completion belong to a success, and a
revocation sets its time and moves the fence. -/
structure StatusColumns (P : Platform) (r : ModelEffectIntent) : Prop where
  outputText : r.outputText ≠ [] ↔ r.status = .succeeded
  outputSha256 : r.outputSha256 ≠ [] ↔ r.status = .succeeded
  digest : r.status = .succeeded → P.digest r.outputText = .ok r.outputSha256
  completedAt : r.completedAt.isSome ↔ r.status = .succeeded
  revokedAt : r.revokedAt.isSome ↔ r.status = .revoked
  fence : r.executionFencingToken = if r.status = .revoked then 2 else 1

/-- What may become of a row: its reserved columns stay, its status moves as the state machine says,
a final row stays whole, only a revocation moves the fence, and the columns stay in step with the
status. -/
structure RowStep (P : Platform) (r r' : ModelEffectIntent) : Prop where
  core : r'.core = r.core
  moves : Moves r.status r'.status
  final : r.status.Final → r' = r
  fence : r'.status ≠ .revoked → r'.executionFencingToken = r.executionFencingToken
  columns : P.HexDigests → StatusColumns P r → StatusColumns P r'

/-- The order of the store's rows. -/
def effectOrder (P : Platform) : RowOrder effectSchema where
  le := RowStep P
  refl _ := ⟨rfl, .stay _, fun _ => rfl, fun _ => rfl, fun _ => id⟩
  trans {q r s} h h' := by
    refine ⟨h'.core.trans h.core, h.moves.trans h'.moves, fun hf => ?_, fun hs => ?_,
      fun hP => h'.columns hP ∘ h.columns hP⟩
    · obtain rfl := h.final hf
      exact h'.final hf
    · refine (h'.fence hs).trans (h.fence fun hr => hs ?_)
      rw [h'.final (by rw [hr]; exact ⟨nofun, nofun⟩), hr]
  key_eq h := h.core

/-- A row that is built for a command is a row in its first state. -/
theorem StatusColumns.of_core {P : Platform} {r : ModelEffectIntent} (h : r.core = r) :
    StatusColumns P r := by
  rw [← h]
  exact ⟨by simp [ModelEffectIntent.core], by simp [ModelEffectIntent.core], nofun,
    by simp [ModelEffectIntent.core], by simp [ModelEffectIntent.core], rfl⟩

section
variable {P : Platform}

/-- A digest is not empty. -/
theorem digest_ne_nil (hP : P.HexDigests) {text digest : Str} (h : P.digest text = .ok digest) :
    digest ≠ [] := by
  obtain ⟨b, -, h⟩ := exceptBind_ok h
  cases h
  intro hnil
  have := hP b
  rw [hnil] at this
  exact absurd this (by decide)

/-- A transition of a pending row. -/
theorem RowStep.transition {c : Change} (hc : c.Regular P)
    {r : ModelEffectIntent} (hr : r.status = .pending) (now : Str) :
    RowStep P r ((c.apply now).apply r) := by
  refine ⟨rfl, ?_, fun hf => absurd hr hf.1, fun _ => rfl, fun hP h => ?_⟩
  · rw [hr]
    show Moves .pending c.status
    rcases hc with ⟨hs, -⟩ | ⟨hs | hs, -⟩ <;> rw [hs] <;> constructor
  have hne : r.status ≠ .succeeded ∧ r.status ≠ .revoked := by
    rw [hr]
    exact ⟨by rintro ⟨⟩, by rintro ⟨⟩⟩
  have htext : r.outputText = [] := not_not.1 fun h0 => hne.1 (h.outputText.1 h0)
  have hsha : r.outputSha256 = [] := not_not.1 fun h0 => hne.1 (h.outputSha256.1 h0)
  have hdone : r.completedAt = none :=
    Option.not_isSome_iff_eq_none.1 fun h0 => hne.1 (h.completedAt.1 h0)
  have hrevoked : r.revokedAt = none :=
    Option.not_isSome_iff_eq_none.1 fun h0 => hne.2 (h.revokedAt.1 h0)
  have hfence : r.executionFencingToken = 1 := by rw [h.fence, hr]; rfl
  rcases hc with ⟨hs, hcompleted, text, digest, hout, htext', hdigest⟩ | ⟨hs, hcompleted, hout⟩
  · exact ⟨by simp [Change.apply, hout, hs, htext'],
      by simp [Change.apply, hout, hs, digest_ne_nil hP hdigest],
      fun _ => by simpa [Change.apply, hout] using hdigest,
      by simp [Change.apply, hcompleted, hs], by simp [Change.apply, hrevoked, hs],
      by simp [Change.apply, hfence, hs]⟩
  · have hno : c.status ≠ .succeeded ∧ c.status ≠ .revoked := by
      rcases hs with hs | hs <;> rw [hs] <;> exact ⟨by rintro ⟨⟩, by rintro ⟨⟩⟩
    exact ⟨by simp [Change.apply, hout, htext, hno.1], by simp [Change.apply, hout, hsha, hno.1],
      fun h0 => absurd h0 hno.1, by simp [Change.apply, hcompleted, hdone, hno.1],
      by simp [Change.apply, hrevoked, hno.2], by simp [Change.apply, hfence, hno.2]⟩

/-- A reconciliation of an unknown row. -/
theorem RowStep.reconcile {text digest : Str} (htext : text ≠ [])
    (hdigest : P.digest text = .ok digest) {r : ModelEffectIntent} (hr : r.status = .unknown)
    (receipt : Obj) (now : Str) : RowStep P r ((reconcileRow text digest receipt now).apply r) := by
  refine ⟨rfl, ?_, fun hf => absurd hr hf.2, fun _ => rfl, fun hP h => ?_⟩
  · rw [hr]
    exact .reconcile
  · have hrevoked := h.revokedAt
    have hfence := h.fence
    rw [hr] at hrevoked hfence
    exact ⟨by simp [reconcileRow, htext], by simp [reconcileRow, digest_ne_nil hP hdigest],
      fun _ => hdigest, by simp [reconcileRow], by simpa [reconcileRow] using hrevoked,
      by simpa [reconcileRow] using hfence⟩

/-- A revocation of a pending row. -/
theorem RowStep.revoke {r : ModelEffectIntent} (hr : r.status = .pending) (reason now : Str) :
    RowStep P r ((revokeRow reason now).apply r) := by
  refine ⟨rfl, ?_, fun hf => absurd hr hf.1, fun h => absurd rfl h,
    fun _ ⟨htext, hsha, _, hdone, _, hfence⟩ => ?_⟩
  · rw [hr]
    exact .revoke
  · rw [hr] at htext hsha hdone hfence
    exact ⟨by simpa [revokeRow] using htext, by simpa [revokeRow] using hsha, nofun,
      by simpa [revokeRow] using hdone, by simp [revokeRow], by simp [revokeRow, hfence]⟩

/-! ## The transactions -/

/-- A transaction of one of the methods. -/
def Statement.Regular (P : Platform) : Statement → Prop
  | .reserve intent => intent.core = intent
  | .transition _ _ _ change _ => change.Regular P
  | .reconcile _ _ text digest _ _ => text ≠ [] ∧ P.digest text = .ok digest
  | _ => True

/-- The row a transaction inserted. -/
def inserted : (o : Statement) → statements.Ans o → List ModelEffectIntent
  | .reserve intent, .ok .inserted => [intent]
  | _, _ => []

theorem priorIntent_some {t : EffectTable} {intent record : ModelEffectIntent}
    (h : priorIntent t intent = some record) :
    record ∈ t.rows ∧ record.sameEffect intent = true := by
  rcases Option.or_eq_some_iff.1 h with h | ⟨-, h⟩
  · have hkey := List.find?_some h
    exact ⟨List.mem_of_find?_eq_some h, Bool.or_eq_true_iff.2 (.inl hkey)⟩
  · have hbinding := List.find?_some h
    exact ⟨List.mem_of_find?_eq_some h, Bool.or_eq_true_iff.2 (.inr hbinding)⟩

/-- What the transaction of `reserve` does. -/
theorem reserveIn_cases (intent : ModelEffectIntent) (t : EffectTable) :
    (∃ t', t.insert intent = some t' ∧ reserveIn intent t = (.ok .inserted, t')) ∨
      (∃ record ∈ t.rows, record.sameBinding intent = true ∧
        reserveIn intent t = (.ok (.existing record), t)) ∨
      ∃ e, reserveIn intent t = (.error e, t) := by
  simp only [reserveIn]
  split
  · next record hprior =>
    obtain ⟨hmem, heff⟩ := priorIntent_some hprior
    split
    · exact .inr (.inr ⟨_, rfl⟩)
    · split
      · exact .inr (.inr ⟨_, rfl⟩)
      · next hbinding =>
        refine .inr (.inl ⟨record, hmem, ?_, rfl⟩)
        have htenant : record.tenantId = intent.tenantId := by
          rcases Bool.or_eq_true_iff.1 heff with h | h <;>
            exact beq_iff_eq.1 (Bool.and_eq_true_iff.1 h).1
        simp [ModelEffectIntent.sameBinding, htenant, not_not.1 hbinding]
  · split
    · split
      · next t' hins => exact .inl ⟨t', hins, rfl⟩
      · exact .inr (.inr ⟨_, rfl⟩)
    · exact .inr (.inr ⟨_, rfl⟩)

/-- Every transaction of the methods is an evolution of the table. -/
theorem Statement.evolution {o : Statement} (ho : o.Regular P)
    (t : EffectTable) :
    Evolution (effectOrder P) t (inserted o (o.run t).1) (o.run t).2 := by
  cases o with
  | reserve intent =>
    show Evolution (effectOrder P) t (inserted (.reserve intent) (reserveIn intent t).1)
      (reserveIn intent t).2
    rcases reserveIn_cases intent t with ⟨t', hins, h⟩ | ⟨record, -, -, h⟩ | ⟨e, h⟩
    · rw [h]
      exact .insert hins
    · rw [h]
      exact .refl t
    · rw [h]
      exact .refl t
  | get => exact .refl t
  | transition tenantId effectId fence change now =>
    simp only [Statement.run]
    split
    · refine .modify fun r _ hsel => RowStep.transition ho ?_ now
      simp only [inFlight, Bool.and_eq_true, decide_eq_true_eq] at hsel
      exact hsel.1.2
    · exact .refl t
  | reconcile tenantId effectId text digest receipt now =>
    simp only [Statement.run]
    split
    · refine .modify fun r _ hsel => RowStep.reconcile ho.1 ho.2 ?_ receipt now
      simp only [reconcilable, Bool.and_eq_true, decide_eq_true_eq] at hsel
      exact hsel.2
    · exact .refl t
  | revokeUnused tenantId runId reason now =>
    refine .modify fun r _ hsel => RowStep.revoke ?_ reason now
    simp only [unused, Bool.and_eq_true, decide_eq_true_eq] at hsel
    exact hsel.2
  | listForRun => exact .refl t

end

/-! ## The methods, one call at a time -/

/-- A call of a method that changes rows. -/
inductive StoreCall
  | reserve (intent : ModelEffectIntent)
  | complete (tenantId effectId : Str) (fence : Int) (outputText : Str) (receipt : Obj)
  | markUnknown (tenantId effectId : Str) (fence : Int) (reason : Str)
  | markFailed (tenantId effectId : Str) (fence : Int) (reason : Str)
  | reconcileSuccess (tenantId effectId outputText : Str) (receipt : Obj)
  | revokeUnused (tenantId runId reason : Str)

/-- The program of a call; the result is dropped. -/
def StoreCall.program (P : Platform) : StoreCall → Program Unit
  | .reserve intent => do let _ ← ModelEffect.reserve intent
  | .complete tenantId effectId fence outputText receipt => do
    let _ ← ModelEffect.complete P tenantId effectId fence outputText receipt
  | .markUnknown tenantId effectId fence reason => do
    let _ ← ModelEffect.markUnknown tenantId effectId fence reason
  | .markFailed tenantId effectId fence reason => do
    let _ ← ModelEffect.markFailed tenantId effectId fence reason
  | .reconcileSuccess tenantId effectId outputText receipt => do
    let _ ← ModelEffect.reconcileSuccess P tenantId effectId outputText receipt
  | .revokeUnused tenantId runId reason => do
    let _ ← ModelEffect.revokeUnused tenantId runId reason

/-- A call on a table, the clock at the time of the call being the oracle's. -/
def StoreCall.perform (P : Platform) (call : StoreCall) (oracle : Oracle outside)
    (t : EffectTable) : Except Exn Unit × EffectTable :=
  (call.program P).eval Statement.run oracle t

/-- The rows of one identifier clash. -/
theorem clash_of_isFor {tenantId effectId : Str} {r s : ModelEffectIntent}
    (hr : r.isFor tenantId effectId = true) (hs : s.isFor tenantId effectId = true) :
    effectSchema.clash r.core s.core = true := by
  simp only [ModelEffectIntent.isFor, Bool.and_eq_true, beq_iff_eq] at hr hs
  simp [effectSchema, ModelEffectIntent.core, hr.2, hs.2]

/-- What was reserved names the row. -/
theorem isFor_of_core {tenantId effectId : Str} {r s : ModelEffectIntent} (h : s.core = r.core) :
    s.isFor tenantId effectId = r.isFor tenantId effectId := by
  have h1 : s.tenantId = r.tenantId := congrArg (·.tenantId) h
  have h2 : s.effectId = r.effectId := congrArg (·.effectId) h
  rw [ModelEffectIntent.isFor, ModelEffectIntent.isFor, h1, h2]

section
variable {tenantId effectId : Str} {t : EffectTable} {sel : ModelEffectIntent → Bool}

/-- An update of the rows of one identifier counts one row or changes nothing. -/
theorem modify_cases (u : Update effectSchema)
    (hsel : ∀ r, sel r = true → r.isFor tenantId effectId = true) :
    (t.count sel = 1 ∧ ∃ row,
        (t.modify sel u).rows.find? (fun r => r.isFor tenantId effectId) = some row) ∨
      t.count sel ≠ 1 ∧ t.modify sel u = t := by
  have hclash : ∀ r s, sel r = true → sel s = true →
      effectSchema.clash (effectSchema.key r) (effectSchema.key s) = true :=
    fun r s hr hs => clash_of_isFor (hsel r hr) (hsel s hs)
  by_cases hc : t.count sel = 1
  · obtain ⟨r, hr, hs⟩ := (t.count_eq_one hclash).1 hc
    refine .inl ⟨hc, Option.isSome_iff_exists.1 (List.find?_isSome.2 ?_)⟩
    refine ⟨_, Table.mem_modify.2 ⟨r, hr, rfl⟩, ?_⟩
    rw [if_pos hs, isFor_of_core (u.key_apply r)]
    exact hsel r hs
  · refine .inr ⟨hc, Table.modify_eq_self _ fun r hr => ?_⟩
    rw [Bool.eq_false_iff]
    exact fun hs => hc ((t.count_eq_one hclash).2 ⟨r, hr, hs⟩)

variable {α β : Type} {oracle : Oracle outside}

/-- The program leaves the table as it was if it raises. -/
def Clean (oracle : Oracle outside) (p : Program α) (t : EffectTable) : Prop :=
  p.Ends Statement.run oracle t fun r t' => ∀ e, r = .error e → t' = t

theorem Clean.ofExcept {x : Except Exn β} {f : β → Program α}
    (h : ∀ b, x = .ok b → Clean oracle (f b) t) :
    Clean oracle ((Prog.ofExcept x).bind f) t :=
  Prog.Ends.ofExcept (fun _ _ _ _ => rfl) h

/-- A call whose result is dropped. -/
theorem Clean.drop {p : Program α} (h : Clean oracle p t) :
    Clean oracle (p.bind fun _ => (.ret () : Program Unit)) t :=
  Prog.Ends.bind h (fun _ _ h e he => by cases he; exact h _ rfl) fun _ _ _ _ he => by cases he

/-- Reading a row that is there raises nothing. -/
theorem get_found {row : ModelEffectIntent} (hid : validateIdentity tenantId effectId = .ok ())
    (h : t.rows.find? (fun r => r.isFor tenantId effectId) = some row) {Q} (hQ : Q (.ok row) t) :
    (get tenantId effectId).Ends Statement.run oracle t Q := by
  simp only [get, Prog.bind_eq]
  refine .ofExcept_ok hid (.call ?_)
  simp only [Statement.run, h]
  exact hQ

theorem transition_clean (fence : Int) (change : Change) :
    Clean oracle (transition tenantId effectId fence change) t := by
  simp only [transition, clock, Prog.bind_eq]
  refine .ofExcept fun _ hv => .ask (.call ?_)
  have hid : validateIdentity tenantId effectId = .ok () := by
    obtain ⟨_, hid, -⟩ := exceptBind_ok hv
    exact hid
  simp only [Statement.run]
  split
  · refine .ofExcept_ok rfl ?_
    have hsel : ∀ r, inFlight tenantId effectId fence r = true → r.isFor tenantId effectId = true :=
      fun r hr => (Bool.and_eq_true_iff.1 (Bool.and_eq_true_iff.1 hr).1).1
    rcases modify_cases (t := t) (change.apply (oracle .clock)) hsel with
      ⟨hc, row, hrow⟩ | ⟨hc, heq⟩
    · simp only [hc, decide_true, Prog.raiseIf, Bool.true_eq_false, if_false, Prog.ret_bind]
      exact get_found hid hrow fun _ he => by cases he
    · simp only [hc, decide_false, Prog.raiseIf, if_true, Prog.raise_bind]
      exact fun _ _ => heq
  · exact fun _ _ => rfl

theorem reserve_clean (intent : ModelEffectIntent) : Clean oracle (reserve intent) t := by
  simp only [reserve, Prog.bind_eq]
  refine .ofExcept fun _ _ => .call ?_
  simp only [Statement.run]
  rcases reserveIn_cases intent t with ⟨t', -, h⟩ | ⟨record, -, -, h⟩ | ⟨e, h⟩
  · rw [h]
    exact fun _ he => by cases he
  · rw [h]
    exact fun _ he => by cases he
  · rw [h]
    exact fun _ _ => rfl

theorem reconcileSuccess_clean (P : Platform) (outputText : Str) (receipt : Obj) :
    Clean oracle (reconcileSuccess P tenantId effectId outputText receipt) t := by
  simp only [reconcileSuccess, clock, Prog.bind_eq]
  refine .ofExcept fun _ hid => .ofExcept fun _ _ => .ofExcept fun _ _ => .ofExcept fun digest _ => ?_
  refine .ask (.call ?_)
  have hsel : ∀ r, reconcilable tenantId effectId r = true → r.isFor tenantId effectId = true :=
    fun r hr => (Bool.and_eq_true_iff.1 hr).1
  simp only [Statement.run]
  rcases modify_cases (t := t) (reconcileRow outputText digest receipt (oracle .clock)) hsel with
    ⟨hc, row, hrow⟩ | ⟨hc, -⟩
  · simp only [hc, if_true]
    exact get_found hid hrow fun _ he => by cases he
  · simp only [hc, if_false]
    cases t.rows.find? fun r => r.isFor tenantId effectId with
    | none => exact fun _ _ => rfl
    | some existing =>
      simp only
      split
      · exact fun _ _ => rfl
      · exact fun _ _ => rfl

/-- A call that raises leaves the table as it was. -/
theorem StoreCall.perform_error {P : Platform} {call : StoreCall} {e : Exn}
    (h : (call.perform P oracle t).1 = .error e) : (call.perform P oracle t).2 = t := by
  have hclean : Clean oracle (call.program P) t := by
    cases call with simp only [StoreCall.program, Prog.bind_eq, Prog.pure_eq]
    | reserve intent => exact (reserve_clean intent).drop
    | complete tenantId effectId fence outputText receipt =>
      refine Clean.drop ?_
      simp only [ModelEffect.complete, Prog.bind_eq]
      exact .ofExcept fun _ _ => .ofExcept fun _ _ => .ofExcept fun _ _ => transition_clean _ _
    | markUnknown tenantId effectId fence reason => exact (transition_clean fence _).drop
    | markFailed tenantId effectId fence reason => exact (transition_clean fence _).drop
    | reconcileSuccess tenantId effectId outputText receipt =>
      exact (reconcileSuccess_clean P outputText receipt).drop
    | revokeUnused tenantId runId reason =>
      refine Clean.drop ?_
      simp only [ModelEffect.revokeUnused, clock, Prog.bind_eq]
      exact .ofExcept fun _ _ => .ofExcept fun _ _ => .ask (.call fun _ he => by cases he)
  exact hclean e h

end

end ModelEffect

end AgencyRuntime
