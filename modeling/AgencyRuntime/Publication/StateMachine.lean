import AgencyRuntime.Publication.AtMostOnce

/-!
# The state machine of the publication store

The methods of `SQLiteSocialPublicationStore`, called one after the other with any arguments. A
call is one transaction that acts on the rows one by one (`Statement.onRow`), or it raises and the
table is what it was (`StoreCall.perform_cases`). What one transaction keeps of a row is proved
once for each transaction; histories follow by induction.
-/

namespace AgencyRuntime

open Effects Tables

namespace Publication

/-- A call of a method that changes rows. What `reserve` is given is built by `_build_intent`. -/
inductive StoreCall
  | reserve (command : SocialPublicationCommand)
  | recordContainer (tenantId intentId : Str) (fence : Int) (containerId : Str)
  | complete (tenantId intentId : Str) (fence : Int) (providerPostId : Str) (receipt : Obj)
  | markUnknown (tenantId intentId : Str) (fence : Int) (reason : Str)
  | markFailed (tenantId intentId : Str) (fence : Int) (reason : Str)
  | reconcileSuccess (tenantId intentId providerPostId : Str) (receipt : Obj)
  | revokeUnused (filter : RevokeFilter) (reason : Str)

/-- What a call returns. -/
inductive StoreResult
  | reservation (r : SocialPublicationReservation)
  | intent (r : SocialPublicationIntent)
  | count (n : Nat)

/-- The tenant a call is for. -/
def StoreCall.tenantId : StoreCall → Str
  | .reserve command => command.tenantId
  | .recordContainer tenantId .. | .complete tenantId .. | .markUnknown tenantId ..
  | .markFailed tenantId .. | .reconcileSuccess tenantId .. => tenantId
  | .revokeUnused filter _ => filter.tenantId

/-- The program of a call. -/
def StoreCall.program (P : Platform) : StoreCall → Program StoreResult
  | .reserve command => do
    let intent ← buildIntent P command
    return .reservation (← Publication.reserve intent)
  | .recordContainer tenantId intentId fence containerId => do
    return .intent (← Publication.recordContainer tenantId intentId fence containerId)
  | .complete tenantId intentId fence providerPostId receipt => do
    return .intent (← Publication.complete tenantId intentId fence providerPostId receipt)
  | .markUnknown tenantId intentId fence reason => do
    return .intent (← Publication.markUnknown tenantId intentId fence reason)
  | .markFailed tenantId intentId fence reason => do
    return .intent (← Publication.markFailed tenantId intentId fence reason)
  | .reconcileSuccess tenantId intentId providerPostId receipt => do
    return .intent (← Publication.reconcileSuccess tenantId intentId providerPostId receipt)
  | .revokeUnused filter reason => do return .count (← Publication.revokeUnused filter reason)

/-- A call on a table, the clock at the time of the call being the oracle's. -/
def StoreCall.perform (P : Platform) (call : StoreCall) (oracle : Oracle outside)
    (t : IntentTable) : Except Exn StoreResult × IntentTable :=
  (call.program P).eval Statement.run oracle t

/-- The table after a sequence of calls. -/
def performAll (P : Platform) (calls : List (StoreCall × Oracle outside)) (t : IntentTable) :
    IntentTable :=
  calls.foldl (fun t call => (call.1.perform P call.2 t).2) t

/-! ## One transaction on the rows -/

/-- Every row after a transaction is a row before it, as the transaction changes it, or the row the
transaction inserted. -/
theorem Statement.mem_run {o : Statement} {t : IntentTable} {s : SocialPublicationIntent}
    (h : s ∈ (o.run t).2.rows) :
    (∃ r ∈ t.rows, o.onRow r = s) ∨ o = .reserve s := by
  cases o with
  | reserve intent =>
    simp only [Statement.run, reserveIn] at h
    split at h
    · split at h
      · exact .inl ⟨s, h, rfl⟩
      · split at h <;> exact .inl ⟨s, h, rfl⟩
    · split at h
      · split at h
        · next hins =>
          rcases (Table.mem_insert hins).1 h with h | rfl
          · exact .inl ⟨s, h, rfl⟩
          · exact .inr rfl
        · exact .inl ⟨s, h, rfl⟩
      · exact .inl ⟨s, h, rfl⟩
  | get => exact .inl ⟨s, h, rfl⟩
  | transition tenantId intentId fence change now =>
    simp only [Statement.run] at h
    simp only [Statement.onRow]
    split at h
    · next he =>
      simp only [he, Bool.true_and]
      exact .inl (Table.mem_modify.1 h)
    · next he => exact .inl ⟨s, h, by simp [he]⟩
  | reconcile tenantId intentId providerPostId receipt now =>
    left
    simp only [Statement.run] at h
    split at h
    · exact Table.mem_modify.1 h
    · next hc =>
      refine ⟨s, h, ?_⟩
      have hno : reconcilable tenantId intentId s = false := by
        rw [Bool.eq_false_iff]
        refine fun hsel => hc ((t.count_eq_one fun r s hr hs => ?_).2 ⟨s, h, hsel⟩)
        exact clash_of_isFor (Bool.and_eq_true_iff.1 hr).1 (Bool.and_eq_true_iff.1 hs).1
      simp [Statement.onRow, hno]
  | revokeUnused filter reason now =>
    simp only [Statement.run] at h
    simp only [Statement.onRow]
    split at h
    · next he =>
      simp only [he, Bool.true_and]
      exact .inl (Table.mem_modify.1 h)
    · next he => exact .inl ⟨s, h, by simp [he]⟩

/-- The tenant a transaction is for. -/
def Statement.tenantId : Statement → Str
  | .reserve intent => intent.tenantId
  | .get tenantId _ | .transition tenantId .. | .reconcile tenantId .. => tenantId
  | .revokeUnused filter .. => filter.tenantId

/-- A transaction leaves the rows of other tenants alone. -/
theorem Statement.onRow_tenant {o : Statement} {r : SocialPublicationIntent}
    (h : r.tenantId ≠ o.tenantId) : o.onRow r = r := by
  cases o with
  | reserve | get => rfl
  | transition tenantId =>
    have h : r.tenantId ≠ tenantId := h
    simp [Statement.onRow, inFlight, SocialPublicationIntent.isFor, h]
  | reconcile tenantId =>
    have h : r.tenantId ≠ tenantId := h
    simp [Statement.onRow, reconcilable, SocialPublicationIntent.isFor, h]
  | revokeUnused filter =>
    have h : r.tenantId ≠ filter.tenantId := h
    simp [Statement.onRow, RevokeFilter.covers, h]

/-- The columns that a status decides: the post and the completion belong to a success, the
revocation time to a revocation. -/
structure StatusColumns (r : SocialPublicationIntent) : Prop where
  providerPostId : r.providerPostId.isSome ↔ r.status = .succeeded
  completedAt : r.completedAt.isSome ↔ r.status = .succeeded
  revokedAt : r.revokedAt.isSome ↔ r.status = .revoked

/-- A change that sets the columns of the status it assigns. -/
structure Change.Regular (c : Change) : Prop where
  not_revoked : c.status ≠ .revoked
  completed : c.completed = true ↔ c.status = .succeeded
  providerPostId : c.providerPostId.isSome ↔ c.status = .succeeded

/-- A transaction of one of the methods. -/
def Statement.Regular : Statement → Prop
  | .transition _ _ _ change _ => change.Regular
  | .reserve intent => StatusColumns intent ∧ intent.status = .pending
  | _ => True

theorem StatusColumns.transition {c : Change} (hc : c.Regular) {r : SocialPublicationIntent}
    (h : StatusColumns r) (hp : r.status = .pending) (now : Str) :
    StatusColumns ((c.apply now).apply r) := by
  obtain ⟨hpost, hdone, hrev⟩ := h
  rw [hp] at hpost hdone hrev
  simp only [reduceCtorEq, iff_false, Bool.not_eq_true, Option.isSome_eq_false_iff,
    Option.isNone_iff_eq_none] at hpost hdone hrev
  refine ⟨?_, ?_, ?_⟩
  · simpa [Change.apply, hpost] using hc.providerPostId
  · show ((c.apply now).apply r).completedAt.isSome ↔ c.status = .succeeded
    rw [← hc.completed]
    cases h : c.completed <;> simp [Change.apply, hdone, h]
  · simpa [Change.apply, hrev] using hc.not_revoked

/-- A transaction of a method keeps the columns in step with the status. -/
theorem StatusColumns.onRow {o : Statement} (ho : o.Regular) {r : SocialPublicationIntent}
    (h : StatusColumns r) : StatusColumns (o.onRow r) := by
  cases o with
  | reserve | get => exact h
  | transition tenantId intentId fence change now =>
    simp only [Statement.onRow]
    split
    · next hsel =>
      simp only [inFlight, Bool.and_eq_true, decide_eq_true_eq] at hsel
      exact StatusColumns.transition ho h hsel.2.1.2 now
    · exact h
  | reconcile tenantId intentId providerPostId receipt now =>
    simp only [Statement.onRow]
    split
    · next hsel =>
      simp only [reconcilable, Bool.and_eq_true, decide_eq_true_eq] at hsel
      obtain ⟨-, -, hrev⟩ := h
      rw [hsel.2] at hrev
      exact ⟨by simp [reconcileRow], by simp [reconcileRow], by simpa [reconcileRow] using hrev⟩
    · exact h
  | revokeUnused filter reason now =>
    simp only [Statement.onRow]
    split
    · next hsel =>
      simp only [Bool.and_eq_true, decide_eq_true_eq] at hsel
      obtain ⟨hpost, hdone, -⟩ := h
      rw [hsel.2.2] at hpost hdone
      exact ⟨by simpa [revokeRow] using hpost, by simpa [revokeRow] using hdone,
        by simp [revokeRow]⟩
    · exact h

/-- The transitions of the state machine. -/
inductive Moves : PublicationStatus → PublicationStatus → Prop
  | stay (status : PublicationStatus) : Moves status status
  | succeed : Moves .pending .succeeded
  | fail : Moves .pending .failed
  | lose : Moves .pending .unknown
  | revoke : Moves .pending .revoked
  | reconcile : Moves .unknown .succeeded

/-- What a call may do to a row: its reserved columns stay, its status moves as the state machine
says, and a final row stays whole. -/
structure RowStep (r r' : SocialPublicationIntent) : Prop where
  core : r'.core = r.core
  moves : Moves r.status r'.status
  final : r.status.Final → r' = r

theorem Moves.of_after (status : PublicationStatus) (e : LifeEvent) :
    Moves status (status.after e) := by
  cases status with
  | pending =>
    cases e with
    | settle status =>
      cases status with
      | pending => exact .stay _
      | succeeded => exact .succeed
      | unknown => exact .lose
      | failed => exact .fail
      | revoked => exact .revoke
    | revoke => exact .revoke
    | reconcile => exact .stay _
  | unknown =>
    cases e with
    | settle | revoke => exact .stay _
    | reconcile => exact .reconcile
  | succeeded | failed | revoked => cases e <;> exact .stay _

theorem Statement.rowStep (o : Statement) (r : SocialPublicationIntent) : RowStep r (o.onRow r) where
  core := o.core_onRow r
  moves := by
    rw [o.status_onRow]
    cases o.lifeEvent r with
    | none => exact .stay _
    | some e => exact .of_after _ e
  final := o.onRow_final

/-! ## The calls -/

/-- A call either raised and left the table alone, or ran one regular transaction of its tenant. -/
def Ran (tenantId : Str) (t : IntentTable) (x : Except Exn StoreResult × IntentTable) : Prop :=
  (∃ e, x = (.error e, t)) ∨
    ∃ a o, x = (.ok a, (Statement.run o t).2) ∧ o.Regular ∧ o.tenantId = tenantId

/-- The reading back of a row after a transaction finds it. -/
theorem find_onRow {t : IntentTable} {r : SocialPublicationIntent} {tenantId intentId : Str}
    (hr : r ∈ t.rows) (hid : r.isFor tenantId intentId = true) (o : Statement) :
    ∃ s, (o.run t).2.rows.find? (fun r => r.isFor tenantId intentId) = some s := by
  rw [← Option.isSome_iff_exists, List.find?_isSome]
  refine ⟨_, o.onRow_mem hr, ?_⟩
  have hcore := o.core_onRow r
  have h1 : (o.onRow r).tenantId = r.tenantId := congrArg (·.tenantId) hcore
  have h2 : (o.onRow r).intentId = r.intentId := congrArg (·.intentId) hcore
  simpa only [SocialPublicationIntent.isFor, h1, h2] using hid

/-- `get` on a table. -/
theorem eval_get {tenantId intentId : Str} (hid : validateIdentity tenantId intentId = .ok ())
    (oracle : Oracle outside) (t : IntentTable) :
    (Publication.get tenantId intentId).eval Statement.run oracle t =
      match t.rows.find? fun r => r.isFor tenantId intentId with
      | some row => (.ok row, t)
      | none => (.error (.keyError "social publication intent not found"), t) := by
  have hcall : Prog.eval Statement.run oracle (call (.get tenantId intentId)) t =
      (.ok (t.rows.find? fun r => r.isFor tenantId intentId), t) := rfl
  simp only [Publication.get, hid, Prog.bind_eq, Prog.ofExcept_ok, Prog.ret_bind]
  rw [Prog.eval_bind, hcall]
  cases t.rows.find? fun r => r.isFor tenantId intentId <;> rfl

/-- `_transition` on a table: it raises and changes nothing, or it ran its `UPDATE`. -/
theorem eval_transition (tenantId intentId : Str) (fence : Int) (change : Change)
    (oracle : Oracle outside) (t : IntentTable) :
    (∃ e, (transition tenantId intentId fence change).eval Statement.run oracle t = (.error e, t)) ∨
      ∃ row, (transition tenantId intentId fence change).eval Statement.run oracle t =
        (.ok row, (Statement.run (.transition tenantId intentId fence change (oracle .clock)) t).2) := by
  have hvalid : ∀ u, change.validate tenantId intentId fence = .ok u →
      validateIdentity tenantId intentId = .ok () := by
    intro u h
    obtain ⟨_, hid, -⟩ := exceptBind_ok h
    exact hid
  cases hv : change.validate tenantId intentId fence with
  | error e => exact .inl ⟨e, by simp [transition, hv]⟩
  | ok u =>
    have hstep : (transition tenantId intentId fence change).eval Statement.run oracle t =
        Prog.eval Statement.run oracle
          ((Prog.ofExcept
            (Statement.run (.transition tenantId intentId fence change (oracle .clock)) t).1).bind
              fun updated => (Prog.raiseIf (updated = false) (.socialPublicationState
                "publication intent is not pending for this fence")).bind
                  fun _ => Publication.get tenantId intentId)
          (Statement.run (.transition tenantId intentId fence change (oracle .clock)) t).2 := by
      rw [transition, hv]
      rfl
    rw [hstep]
    simp only [Statement.run]
    split
    · next he =>
      have hclash : ∀ r s, inFlight tenantId intentId fence r = true →
          inFlight tenantId intentId fence s = true →
          intentSchema.clash r.core s.core = true := fun r s hr hs =>
        clash_of_isFor (Bool.and_eq_true_iff.1 (Bool.and_eq_true_iff.1 hr).1).1
          (Bool.and_eq_true_iff.1 (Bool.and_eq_true_iff.1 hs).1).1
      by_cases hc : t.count (inFlight tenantId intentId fence) = 1
      · obtain ⟨r, hr, hsel⟩ := (t.count_eq_one hclash).1 hc
        obtain ⟨s, hs⟩ := find_onRow hr
          (Bool.and_eq_true_iff.1 (Bool.and_eq_true_iff.1 hsel).1).1
          (.transition tenantId intentId fence change (oracle .clock))
        simp only [Statement.run, he, if_true] at hs
        right
        refine ⟨s, ?_⟩
        simp [hc, Prog.raiseIf, eval_get (hvalid u hv), hs]
      · left
        have hnone : ∀ r ∈ t.rows, inFlight tenantId intentId fence r = false := by
          intro r hr
          rw [Bool.eq_false_iff]
          exact fun hsel => hc ((t.count_eq_one hclash).2 ⟨r, hr, hsel⟩)
        simp [hc, Prog.raiseIf, Table.modify_eq_self _ hnone]
    · exact .inl ⟨_, rfl⟩

/-- `_build_intent` runs no transaction, and what it builds is a new row of the tenant. -/
theorem eval_buildIntent (P : Platform) (command : SocialPublicationCommand)
    (oracle : Oracle outside) (t : IntentTable) :
    ∃ r, (buildIntent P command).eval Statement.run oracle t = (r, t) ∧
      ∀ intent, r = .ok intent → (StatusColumns intent ∧ intent.status = .pending) ∧
        intent.tenantId = command.tenantId := by
  have hask : (buildIntent P command).Spec (fun _ o => ∃ o', o = Sum.inl o') (fun _ _ => True) [] := by
    simp only [buildIntent, Prog.bind_eq]
    refine (Prog.Spec_ofExcept_bind _ _ _).2 ⟨fun _ _ => trivial, fun _ _ => ?_⟩
    refine (Prog.Spec_ofExcept_bind _ _ _).2 ⟨fun _ _ => trivial, fun _ _ => ?_⟩
    refine (Prog.Spec_ofExcept_bind _ _ _).2 ⟨fun _ _ => trivial, fun _ _ => ?_⟩
    refine (Prog.Spec_ofExcept_bind _ _ _).2 ⟨fun _ _ => trivial, fun _ _ => ?_⟩
    refine (Prog.Spec_ofExcept_bind _ _ _).2 ⟨fun _ _ => trivial, fun _ _ => ?_⟩
    refine (Prog.Spec_ask_bind _ _).2 ⟨⟨_, rfl⟩, fun _ => ?_⟩
    exact (Prog.Spec_ofExcept_bind _ _ _).2 ⟨fun _ _ => trivial, fun _ _ => trivial⟩
  obtain ⟨u, r, heq, -, -, hbuilt⟩ := Prog.eval_outside
    ((hask.and Spec_buildIntent).mono (fun _ _ h => h.1) fun _ _ h => h) t
  refine ⟨r, heq, fun intent hr => ?_⟩
  obtain ⟨_, _, _, _, _, _, _, -, -, -, -, rfl⟩ := hbuilt intent hr
  exact ⟨⟨⟨by simp [pendingIntent], by simp [pendingIntent], by simp [pendingIntent]⟩, rfl⟩, rfl⟩

/-- `reserve` on a table. -/
theorem eval_reserve {intent : SocialPublicationIntent} (oracle : Oracle outside)
    (t : IntentTable) :
    (∃ e, (Publication.reserve intent).eval Statement.run oracle t = (.error e, t)) ∨
      ∃ r, (Publication.reserve intent).eval Statement.run oracle t =
        (.ok r, (Statement.run (.reserve intent) t).2) := by
  cases hv : validateIntent intent with
  | error e => exact .inl ⟨e, by simp [Publication.reserve, hv]⟩
  | ok u =>
    have hcall : Prog.eval Statement.run oracle (call (.reserve intent)) t =
        (.ok (reserveIn intent t).1, (reserveIn intent t).2) := rfl
    simp only [Publication.reserve, hv, Prog.bind_eq, Prog.ofExcept_ok, Prog.ret_bind]
    rw [Prog.eval_bind, hcall]
    simp only
    rw [Prog.eval_bind, Prog.eval_ofExcept]
    simp only [Statement.run]
    cases hr : (reserveIn intent t).1 with
    | error e => exact .inl ⟨e, congrArg (Prod.mk _) (reserveIn_error (Prod.ext hr rfl)).1⟩
    | ok reserved =>
      right
      cases reserved with
      | inserted => exact ⟨⟨intent, true, false⟩, rfl⟩
      | existing record => exact ⟨⟨record, false, record.status = .succeeded⟩, rfl⟩

/-- `revoke_unused` on a table. -/
theorem eval_revokeUnused (filter : RevokeFilter) (reason : Str) (oracle : Oracle outside)
    (t : IntentTable) :
    (∃ e, (Publication.revokeUnused filter reason).eval Statement.run oracle t = (.error e, t)) ∨
      ∃ n, (Publication.revokeUnused filter reason).eval Statement.run oracle t =
        (.ok n, (Statement.run (.revokeUnused filter reason (oracle .clock)) t).2) := by
  cases hv : filter.validate reason with
  | error e => exact .inl ⟨e, by simp [Publication.revokeUnused, hv]⟩
  | ok u =>
    have hstep : (Publication.revokeUnused filter reason).eval Statement.run oracle t =
        Prog.eval Statement.run oracle
          (Prog.ofExcept (Statement.run (.revokeUnused filter reason (oracle .clock)) t).1 :
            Program Nat)
          (Statement.run (.revokeUnused filter reason (oracle .clock)) t).2 := by
      rw [Publication.revokeUnused, hv]
      rfl
    rw [hstep]
    simp only [Statement.run]
    split
    · exact .inr ⟨_, rfl⟩
    · exact .inl ⟨_, rfl⟩

/-- `reconcile_success` on a table. -/
theorem eval_reconcileSuccess (tenantId intentId providerPostId : Str) (receipt : Obj)
    (oracle : Oracle outside) (t : IntentTable) :
    (∃ e, (Publication.reconcileSuccess tenantId intentId providerPostId receipt).eval
        Statement.run oracle t = (.error e, t)) ∨
      ∃ row, (Publication.reconcileSuccess tenantId intentId providerPostId receipt).eval
        Statement.run oracle t = (.ok row, (Statement.run (.reconcile tenantId intentId
          providerPostId receipt (oracle .clock)) t).2) := by
  cases hid : validateIdentity tenantId intentId with
  | error e => exact .inl ⟨e, by simp [Publication.reconcileSuccess, hid]⟩
  | ok _ =>
  cases hpost : validateProviderId providerPostId with
  | error e => exact .inl ⟨e, by simp [Publication.reconcileSuccess, hid, hpost]⟩
  | ok _ =>
  cases hreceipt : validateReceipt receipt with
  | error e => exact .inl ⟨e, by simp [Publication.reconcileSuccess, hid, hpost, hreceipt]⟩
  | ok _ =>
    have hcall (now : Str) : Prog.eval Statement.run oracle
        (call (.reconcile tenantId intentId providerPostId receipt now)) t =
        (.ok (Statement.run (.reconcile tenantId intentId providerPostId receipt now) t).1,
          (Statement.run (.reconcile tenantId intentId providerPostId receipt now) t).2) := rfl
    have hclock : Prog.eval Statement.run oracle clock t = (.ok (oracle .clock), t) := rfl
    simp only [Publication.reconcileSuccess, hid, hpost, hreceipt, Prog.bind_eq, Prog.ofExcept_ok,
      Prog.ret_bind]
    rw [Prog.eval_bind, hclock]
    simp only
    rw [Prog.eval_bind, hcall]
    simp only [Statement.run]
    by_cases hc : t.count (reconcilable tenantId intentId) = 1
    · obtain ⟨r, hr, hsel⟩ := (t.count_eq_one fun r s hr hs => clash_of_isFor
        (Bool.and_eq_true_iff.1 hr).1 (Bool.and_eq_true_iff.1 hs).1).1 hc
      obtain ⟨s, hs⟩ := find_onRow hr (Bool.and_eq_true_iff.1 hsel).1
        (.reconcile tenantId intentId providerPostId receipt (oracle .clock))
      simp only [Statement.run, hc, if_true] at hs
      right
      refine ⟨s, ?_⟩
      simp [hc, eval_get hid, hs]
    · simp only [hc, if_false]
      cases t.rows.find? fun r => r.isFor tenantId intentId with
      | none => exact .inl ⟨_, rfl⟩
      | some existing =>
        cases hm : reconciliationMatches existing providerPostId receipt with
        | true => exact .inr ⟨existing, by simp [hm]⟩
        | false => exact .inl ⟨_, by simp [hm]; rfl⟩

section
variable {α : Type} {tenantId : Str} {t : IntentTable} {o : Statement} {p : Program α}
  {oracle : Oracle outside}

/-- A method whose result is passed on is a call that ran its transaction or raised. -/
theorem Ran.of_eval (f : α → StoreResult) (ho : o.Regular) (htenant : o.tenantId = tenantId)
    (h : (∃ e, p.eval Statement.run oracle t = (.error e, t)) ∨
      ∃ a, p.eval Statement.run oracle t = (.ok a, (o.run t).2)) :
    Ran tenantId t ((p.bind fun a => .ret (f a)).eval Statement.run oracle t) := by
  rw [Prog.eval_bind]
  rcases h with ⟨e, h⟩ | ⟨a, h⟩
  · rw [h]
    exact .inl ⟨e, rfl⟩
  · rw [h]
    exact .inr ⟨f a, o, rfl, ho, htenant⟩

end

/-- A call raised and left the table alone, or ran one transaction of its tenant. -/
theorem StoreCall.perform_cases (P : Platform) (call : StoreCall) (oracle : Oracle outside)
    (t : IntentTable) : Ran call.tenantId t (call.perform P oracle t) := by
  unfold StoreCall.perform
  cases call with simp only [StoreCall.program, Prog.bind_eq, Prog.pure_eq]
  | reserve command =>
    rw [Prog.eval_bind]
    obtain ⟨r, heq, hbuilt⟩ := eval_buildIntent P command oracle t
    rw [heq]
    cases r with
    | error e => exact .inl ⟨e, rfl⟩
    | ok intent =>
      obtain ⟨hregular, htenant⟩ := hbuilt intent rfl
      have ho : (Statement.reserve intent).Regular := hregular
      exact Ran.of_eval .reservation ho htenant (eval_reserve oracle t)
  | recordContainer tenantId intentId fence containerId =>
    have ho : (Statement.transition tenantId intentId fence
        { status := .pending, providerContainerId := some containerId } (oracle .clock)).Regular :=
      ⟨by simp, by simp, by simp⟩
    exact Ran.of_eval .intent ho rfl (eval_transition tenantId intentId fence _ oracle t)
  | complete tenantId intentId fence providerPostId receipt =>
    have ho : (Statement.transition tenantId intentId fence
        { status := .succeeded, providerPostId := some providerPostId, receipt := some receipt
          completed := true } (oracle .clock)).Regular :=
      ⟨by simp, by simp, by simp⟩
    exact Ran.of_eval .intent ho rfl (eval_transition tenantId intentId fence _ oracle t)
  | markUnknown tenantId intentId fence reason =>
    have ho : (Statement.transition tenantId intentId fence
        { status := .unknown, failureReason := reason } (oracle .clock)).Regular :=
      ⟨by simp, by simp, by simp⟩
    exact Ran.of_eval .intent ho rfl (eval_transition tenantId intentId fence _ oracle t)
  | markFailed tenantId intentId fence reason =>
    have ho : (Statement.transition tenantId intentId fence
        { status := .failed, failureReason := reason } (oracle .clock)).Regular :=
      ⟨by simp, by simp, by simp⟩
    exact Ran.of_eval .intent ho rfl (eval_transition tenantId intentId fence _ oracle t)
  | reconcileSuccess tenantId intentId providerPostId receipt =>
    have ho : (Statement.reconcile tenantId intentId providerPostId receipt
        (oracle .clock)).Regular := trivial
    exact Ran.of_eval .intent ho rfl
      (eval_reconcileSuccess tenantId intentId providerPostId receipt oracle t)
  | revokeUnused filter reason =>
    have ho : (Statement.revokeUnused filter reason (oracle .clock)).Regular := trivial
    exact Ran.of_eval .count ho rfl (eval_revokeUnused filter reason oracle t)

/-! ## Histories -/

section
variable {P : Platform} {tenantId : Str} {t : IntentTable}
  {x : Except Exn StoreResult × IntentTable}

/-- A call does to each row what the state machine allows. -/
theorem Ran.rowStep (h : Ran tenantId t x) {r : SocialPublicationIntent} (hr : r ∈ t.rows) :
    ∃ r' ∈ x.2.rows, RowStep r r' := by
  rcases h with ⟨e, rfl⟩ | ⟨a, o, rfl, -, -⟩
  · exact ⟨r, hr, rfl, .stay _, fun _ => rfl⟩
  · exact ⟨o.onRow r, o.onRow_mem hr, o.rowStep r⟩

/-- A row after a call was there before, or is a new pending one. -/
theorem Ran.source (h : Ran tenantId t x) {r' : SocialPublicationIntent} (hr : r' ∈ x.2.rows) :
    (∃ r ∈ t.rows, RowStep r r') ∨ r'.status = .pending := by
  rcases h with ⟨e, rfl⟩ | ⟨a, o, rfl, ho, -⟩
  · exact .inl ⟨r', hr, rfl, .stay _, fun _ => rfl⟩
  · rcases Statement.mem_run hr with ⟨r, hmem, rfl⟩ | rfl
    · exact .inl ⟨r, hmem, o.rowStep r⟩
    · exact .inr ho.2

/-- A call keeps the columns of every row in step with its status. -/
theorem Ran.statusColumns (h : Ran tenantId t x) (ht : ∀ r ∈ t.rows, StatusColumns r) :
    ∀ r ∈ x.2.rows, StatusColumns r := by
  rcases h with ⟨e, rfl⟩ | ⟨a, o, rfl, ho, -⟩
  · exact ht
  · intro s hs
    rcases Statement.mem_run hs with ⟨r, hr, rfl⟩ | rfl
    · exact (ht r hr).onRow ho
    · exact ho.1

/-- A call changes no row of another tenant. -/
theorem Ran.other_tenant (h : Ran tenantId t x) {r : SocialPublicationIntent}
    (hr : r.tenantId ≠ tenantId) : r ∈ x.2.rows ↔ r ∈ t.rows := by
  rcases h with ⟨e, rfl⟩ | ⟨a, o, rfl, -, rfl⟩
  · rfl
  · constructor
    · intro h
      rcases Statement.mem_run h with ⟨s, hs, rfl⟩ | rfl
      · have htenant : (o.onRow s).tenantId = s.tenantId :=
          congrArg (·.tenantId) (o.core_onRow s)
        rw [htenant] at hr
        rwa [Statement.onRow_tenant hr]
      · exact absurd rfl hr
    · intro h
      have := o.onRow_mem h
      rwa [Statement.onRow_tenant hr] at this

theorem performAll_cons (P : Platform) (call : StoreCall × Oracle outside)
    (calls : List (StoreCall × Oracle outside)) (t : IntentTable) :
    performAll P (call :: calls) t = performAll P calls (call.1.perform P call.2 t).2 := rfl

/-- The columns follow the status in every table the calls reach. -/
theorem performAll_statusColumns (calls : List (StoreCall × Oracle outside))
    (ht : ∀ r ∈ t.rows, StatusColumns r) :
    ∀ r ∈ (performAll P calls t).rows, StatusColumns r := by
  induction calls generalizing t with
  | nil => exact ht
  | cons call calls ih => exact ih ((call.1.perform_cases P call.2 t).statusColumns ht)

/-- A row stays along a history, with its reserved columns, and whole once its status is final. -/
theorem performAll_row (calls : List (StoreCall × Oracle outside)) {r : SocialPublicationIntent}
    (hr : r ∈ t.rows) :
    ∃ r' ∈ (performAll P calls t).rows, r'.core = r.core ∧ (r.status.Final → r' = r) := by
  induction calls generalizing t r with
  | nil => exact ⟨r, hr, rfl, fun _ => rfl⟩
  | cons call calls ih =>
    obtain ⟨s, hs, hstep⟩ := (call.1.perform_cases P call.2 t).rowStep hr
    obtain ⟨r', hr', hcore, hfinal⟩ := ih hs
    refine ⟨r', hr', hcore.trans hstep.core, fun hf => ?_⟩
    have hsr : s = r := hstep.final hf
    rw [hfinal (hsr ▸ hf), hsr]

end

/-- The state machine of a publication intent, at any call of any history of the store and for any
calls after it. -/
theorem publication_intent_state_machine (P : Platform)
    (earlier : List (StoreCall × Oracle outside)) (call : StoreCall) (oracle : Oracle outside)
    (later : List (StoreCall × Oracle outside)) :
    let t := performAll P earlier .empty
    let x := call.perform P oracle t
    (∀ row ∈ t.rows, ∃ row' ∈ x.2.rows, RowStep row row') ∧
      (∀ row' ∈ x.2.rows, (∃ row ∈ t.rows, RowStep row row') ∨ row'.status = .pending) ∧
      (∀ row ∈ x.2.rows, ∃ row' ∈ (performAll P later x.2).rows,
        row'.core = row.core ∧ (row.status.Final → row' = row)) ∧
      (∀ row ∈ x.2.rows, StatusColumns row) ∧
      (∀ e, x.1 = .error e → x.2 = t) ∧
      ∀ row, row.tenantId ≠ call.tenantId → (row ∈ x.2.rows ↔ row ∈ t.rows) := by
  intro t x
  have hran : Ran call.tenantId t x := call.perform_cases P oracle t
  refine ⟨fun row hr => hran.rowStep hr, fun row hr => hran.source hr,
    fun row hr => performAll_row later hr, ?_, ?_, fun row hr => hran.other_tenant hr⟩
  · exact hran.statusColumns (performAll_statusColumns earlier fun _ hr => absurd hr List.not_mem_nil)
  · intro e he
    rcases hran with ⟨_, hx⟩ | ⟨_, _, hx, -, -⟩
    · rw [hx]
    · rw [hx] at he
      cases he

end Publication

end AgencyRuntime
