import AgencyRuntime.Publication.Calls

/-!
# The life of an intent

Seen from one intent, a run is a sequence of `LifeEvent`s, and the status of its row is the fold of
`PublicationStatus.after` over them (`status_rowAfter`). The transactions act on the rows one by
one, so a row of the table never goes away (`Steps.row`).
-/

namespace AgencyRuntime

open Effects Tables

/-- What befalls an intent after its reservation. -/
inductive LifeEvent
  | settle (status : PublicationStatus)
  | revoke
  | reconcile

namespace PublicationStatus

/-- The next status: an executor settles a pending intent, a revocation ends a pending one, and an
unknown one can be reconciled. -/
def after : PublicationStatus → LifeEvent → PublicationStatus
  | .pending, .settle status => status
  | .pending, .revoke => .revoked
  | .unknown, .reconcile => .succeeded
  | status, _ => status

/-- The status after a sequence of events. -/
def life (status : PublicationStatus) (events : List LifeEvent) : PublicationStatus :=
  events.foldl after status

@[simp] theorem life_nil (status : PublicationStatus) : status.life [] = status := rfl

@[simp] theorem life_cons (status : PublicationStatus) (e : LifeEvent) (events : List LifeEvent) :
    status.life (e :: events) = (status.after e).life events := rfl

@[simp] theorem life_append (status : PublicationStatus) (a b : List LifeEvent) :
    status.life (a ++ b) = (status.life a).life b :=
  List.foldl_append

/-- The statuses that nothing leaves. -/
def Final (status : PublicationStatus) : Prop :=
  status ≠ .pending ∧ status ≠ .unknown

theorem Final.after {status : PublicationStatus} (h : status.Final) (e : LifeEvent) :
    status.after e = status := by
  obtain ⟨hp, hu⟩ := h
  cases status <;> cases e <;> first | rfl | exact absurd rfl hp | exact absurd rfl hu

/-- A final status stays. -/
theorem Final.life {status : PublicationStatus} (h : status.Final) (events : List LifeEvent) :
    status.life events = status := by
  induction events with
  | nil => rfl
  | cons e events ih => rw [life_cons, h.after, ih]

theorem after_ne_pending {status : PublicationStatus} (h : status ≠ .pending) (e : LifeEvent) :
    status.after e ≠ .pending := by
  cases status <;> cases e <;> first | exact absurd rfl h | exact h | nofun

/-- No intent becomes pending again. -/
theorem life_ne_pending {status : PublicationStatus} (h : status ≠ .pending)
    (events : List LifeEvent) : status.life events ≠ .pending := by
  induction events generalizing status with
  | nil => exact h
  | cons e events ih => exact ih (after_ne_pending h e)

/-- The event leaves a pending intent pending. -/
def Idle (e : LifeEvent) : Prop := after .pending e = .pending

/-- An intent stays pending as long as nothing but idle events befalls it. -/
theorem life_pending_iff {events : List LifeEvent} :
    life .pending events = .pending ↔ ∀ e ∈ events, Idle e := by
  induction events with
  | nil => simp
  | cons e events ih =>
    rw [life_cons, List.forall_mem_cons]
    by_cases he : Idle e
    · rw [show after .pending e = .pending from he, ih]
      exact ⟨fun h => ⟨he, h⟩, fun h => h.2⟩
    · exact ⟨fun h => absurd h (life_ne_pending he events), fun h => absurd h.1 he⟩

/-- What ends the pending status. -/
theorem life_settled_iff {events : List LifeEvent} :
    life .pending events ≠ .pending ↔
      (∃ status ≠ .pending, .settle status ∈ events) ∨ .revoke ∈ events := by
  rw [ne_eq, life_pending_iff]
  constructor
  · intro h
    push Not at h
    obtain ⟨e, he, hidle⟩ := h
    cases e with
    | settle status => exact .inl ⟨status, hidle, he⟩
    | revoke => exact .inr he
    | reconcile => exact absurd rfl hidle
  · rintro (⟨status, hne, hmem⟩ | hmem) h
    · exact hne (h _ hmem)
    · cases h _ hmem

/-- The first event that is not idle decides. -/
theorem life_decided {events : List LifeEvent} (h : life .pending events ≠ .pending) :
    ∃ a e b, events = a ++ e :: b ∧ life .pending a = .pending ∧ ¬ Idle e ∧
      life .pending events = (after .pending e).life b := by
  induction events with
  | nil => exact absurd rfl h
  | cons e events ih =>
    by_cases he : Idle e
    · have he : after .pending e = .pending := he
      rw [life_cons, he] at h
      obtain ⟨a, e', b, rfl, ha, hne, hl⟩ := ih h
      exact ⟨e :: a, e', b, rfl, by rw [life_cons, he, ha], hne, by rw [life_cons, he, hl]⟩
    · exact ⟨[], e, events, rfl, rfl, he, rfl⟩

/-- An unknown intent can only be reconciled. -/
theorem life_unknown (events : List LifeEvent) :
    life .unknown events = .unknown ∨ life .unknown events = .succeeded := by
  induction events with
  | nil => exact .inl rfl
  | cons e events ih =>
    cases e with
    | settle | revoke => exact ih
    | reconcile =>
      have hfinal : Final .succeeded := ⟨nofun, nofun⟩
      exact .inr (hfinal.life events)

/-- A status that only an event of a pending intent gives, and that nothing leaves: `failed` and
`revoked`. -/
theorem life_eq_final {status : PublicationStatus} {events : List LifeEvent}
    (h : status.Final) (hs : status ≠ .succeeded) :
    life .pending events = status ↔
      ∃ a e b, events = a ++ e :: b ∧ life .pending a = .pending ∧ after .pending e = status := by
  constructor
  · intro hl
    obtain ⟨a, e, b, he, ha, hidle, hb⟩ := life_decided (hl ▸ h.1)
    refine ⟨a, e, b, he, ha, ?_⟩
    rw [hl] at hb
    by_cases hf : (after .pending e).Final
    · rw [hb, hf.life]
    · have hunknown : after .pending e = .unknown := by
        by_contra hne
        exact hf ⟨hidle, hne⟩
      rw [hunknown] at hb
      rcases life_unknown b with hu | hu
      · exact absurd (hb.trans hu) h.2
      · exact absurd (hb.trans hu) hs
  · rintro ⟨a, e, b, rfl, ha, he⟩
    rw [life_append, ha, life_cons, he, h.life]

/-- An intent that no executor revokes is revoked by a revocation of the pending intent. -/
theorem life_revoked_iff {events : List LifeEvent} (h : .settle .revoked ∉ events) :
    life .pending events = .revoked ↔
      ∃ a b, events = a ++ .revoke :: b ∧ life .pending a = .pending := by
  have hfinal : Final .revoked := ⟨nofun, nofun⟩
  rw [life_eq_final hfinal nofun]
  constructor
  · rintro ⟨a, e, b, rfl, ha, he⟩
    cases e with
    | settle status =>
      obtain rfl : status = .revoked := he
      simp at h
    | revoke => exact ⟨a, b, rfl, ha⟩
    | reconcile => cases he
  · rintro ⟨a, b, rfl, ha⟩
    exact ⟨a, .revoke, b, rfl, ha, rfl⟩

end PublicationStatus

namespace Publication

open PublicationStatus

/-- What a transaction does to one row. -/
def Statement.onRow (o : Statement) (r : SocialPublicationIntent) : SocialPublicationIntent :=
  match o with
  | .transition tenantId intentId fence change now =>
    if Py.encodable change.failureReason && inFlight tenantId intentId fence r then
      (change.apply now).apply r
    else r
  | .reconcile tenantId intentId providerPostId receipt now =>
    if reconcilable tenantId intentId r then (reconcileRow providerPostId receipt now).apply r
    else r
  | .revokeUnused filter reason now =>
    if Py.encodable reason && (filter.covers r && r.status = .pending) then
      (revokeRow reason now).apply r
    else r
  | .reserve _ | .get .. => r

/-- The rows of one identifier clash. -/
theorem clash_of_isFor {tenantId intentId : Str} {r s : SocialPublicationIntent}
    (hr : r.isFor tenantId intentId = true) (hs : s.isFor tenantId intentId = true) :
    intentSchema.clash r.core s.core = true := by
  simp only [SocialPublicationIntent.isFor, Bool.and_eq_true, beq_iff_eq] at hr hs
  simp [intentSchema, SocialPublicationIntent.core, hr.2, hs.2]

/-- A transaction acts on the rows one by one. -/
theorem Statement.onRow_mem (o : Statement) {t : IntentTable} {r : SocialPublicationIntent}
    (hr : r ∈ t.rows) : o.onRow r ∈ (o.run t).2.rows := by
  cases o with
  | reserve intent =>
    simp only [Statement.run, reserveIn, Statement.onRow]
    split
    · split
      · exact hr
      · split <;> exact hr
    · split
      · split
        · next h => exact (Table.mem_insert h).2 (.inl hr)
        · exact hr
      · exact hr
  | get => exact hr
  | transition tenantId intentId fence change now =>
    simp only [Statement.run, Statement.onRow]
    split
    · next h => simpa only [h, Bool.true_and] using Table.mem_modify.2 ⟨r, hr, rfl⟩
    · next h => simpa [h] using hr
  | reconcile tenantId intentId providerPostId receipt now =>
    simp only [Statement.run, Statement.onRow]
    split
    · exact Table.mem_modify.2 ⟨r, hr, rfl⟩
    · next h =>
      have hno : reconcilable tenantId intentId r = false := by
        rw [Bool.eq_false_iff]
        refine fun hsel => h ((t.count_eq_one fun r s hr hs => ?_).2 ⟨r, hr, hsel⟩)
        exact clash_of_isFor (Bool.and_eq_true_iff.1 hr).1 (Bool.and_eq_true_iff.1 hs).1
      simpa [hno] using hr
  | revokeUnused filter reason now =>
    simp only [Statement.run, Statement.onRow]
    split
    · next h => simpa only [h, Bool.true_and] using Table.mem_modify.2 ⟨r, hr, rfl⟩
    · next h => simpa [h] using hr

/-- A transaction keeps what was reserved. -/
theorem Statement.core_onRow (o : Statement) (r : SocialPublicationIntent) :
    (o.onRow r).core = r.core := by
  cases o <;> simp only [Statement.onRow] <;> (try split) <;> rfl

/-- A row with a final status is left alone. -/
theorem Statement.onRow_final (o : Statement) {r : SocialPublicationIntent} (h : r.status.Final) :
    o.onRow r = r := by
  cases o with
  | reserve | get => rfl
  | transition => simp [Statement.onRow, inFlight, h.1]
  | reconcile => simp [Statement.onRow, reconcilable, h.2]
  | revokeUnused => simp [Statement.onRow, h.1]

/-- What a transaction is to one intent. -/
def Statement.lifeEvent (o : Statement) (r : SocialPublicationIntent) : Option LifeEvent :=
  match o with
  | .transition tenantId intentId fence change _ =>
    if r.isFor tenantId intentId && r.executionFencingToken == fence &&
        Py.encodable change.failureReason then some (.settle change.status)
    else none
  | .reconcile tenantId intentId .. => if r.isFor tenantId intentId then some .reconcile else none
  | .revokeUnused filter reason _ =>
    if filter.covers r && Py.encodable reason then some .revoke else none
  | .reserve _ | .get .. => none

/-- The events of an intent are those of what was reserved. -/
theorem Statement.lifeEvent_core (o : Statement) (r : SocialPublicationIntent) :
    o.lifeEvent r.core = o.lifeEvent r := by
  cases o <;> rfl

theorem Statement.lifeEvent_settle {o : Statement} {r : SocialPublicationIntent}
    {status : PublicationStatus} (h : o.lifeEvent r = some (.settle status)) :
    ∃ tenantId intentId fence change now, o = .transition tenantId intentId fence change now ∧
      change.status = status ∧ r.isFor tenantId intentId = true := by
  cases o with
  | transition tenantId intentId fence change now =>
    simp only [Statement.lifeEvent, Option.ite_none_right_eq_some, Bool.and_eq_true,
      Option.some.injEq, LifeEvent.settle.injEq] at h
    exact ⟨_, _, _, change, _, rfl, h.2, h.1.1.1⟩
  | reconcile | revokeUnused =>
    simp only [Statement.lifeEvent, Option.ite_none_right_eq_some] at h
    cases h.2
  | reserve | get => cases h

theorem Statement.lifeEvent_revoke {o : Statement} {r : SocialPublicationIntent}
    (h : o.lifeEvent r = some .revoke) :
    ∃ filter reason now, o = .revokeUnused filter reason now ∧ filter.covers r = true ∧
      Py.encodable reason = true := by
  cases o with
  | revokeUnused filter reason now =>
    simp only [Statement.lifeEvent, Option.ite_none_right_eq_some, Bool.and_eq_true] at h
    exact ⟨_, _, _, rfl, h.1⟩
  | transition | reconcile =>
    simp only [Statement.lifeEvent, Option.ite_none_right_eq_some] at h
    cases h.2
  | reserve | get => cases h

/-- The status of a row follows the life of its intent. -/
theorem Statement.status_onRow (o : Statement) (r : SocialPublicationIntent) :
    (o.onRow r).status = r.status.life (o.lifeEvent r).toList := by
  cases o with
  | reserve | get => rfl
  | transition tenantId intentId fence change now =>
    simp only [Statement.onRow, Statement.lifeEvent, inFlight]
    by_cases hid : r.isFor tenantId intentId = true
    · by_cases hf : r.executionFencingToken = fence
      · by_cases he : Py.encodable change.failureReason = true
        · by_cases hp : r.status = .pending
          · simp [hid, hf, he, hp, Change.apply, after]
          · have : r.status.after (.settle change.status) = r.status := by
              cases h : r.status <;> first | rfl | exact absurd h hp
            simp [hid, hf, he, hp, this]
        · simp [he]
      · simp [hf]
    · simp [hid]
  | reconcile tenantId intentId providerPostId receipt now =>
    simp only [Statement.onRow, Statement.lifeEvent, reconcilable]
    by_cases hid : r.isFor tenantId intentId = true
    · by_cases hu : r.status = .unknown
      · simp [hid, hu, reconcileRow, after]
      · have : r.status.after .reconcile = r.status := by
          cases h : r.status <;> first | rfl | exact absurd h hu
        simp [hid, hu, this]
    · simp [hid]
  | revokeUnused filter reason now =>
    simp only [Statement.onRow, Statement.lifeEvent]
    by_cases hc : filter.covers r = true
    · by_cases he : Py.encodable reason = true
      · by_cases hp : r.status = .pending
        · simp [hc, he, hp, revokeRow, after]
        · have : r.status.after .revoke = r.status := by
            cases h : r.status <;> first | rfl | exact absurd h hp
          simp [hc, he, hp, this]
      · simp [he]
    · simp [hc]

/-- What a log entry does to a row. -/
def rowStep (r : SocialPublicationIntent) : Entry sig Empty → SocialPublicationIntent
  | .act _ ⟨.inr o, _⟩ => o.onRow r
  | _ => r

/-- A row after a part of a log. -/
def rowAfter (L : History) (r : SocialPublicationIntent) : SocialPublicationIntent :=
  L.foldl rowStep r

/-- What a log entry is to an intent. -/
def eventOf (r : SocialPublicationIntent) : Entry sig Empty → Option LifeEvent
  | .act _ ⟨.inr o, _⟩ => o.lifeEvent r
  | _ => none

/-- The life of an intent in a part of a log. -/
def lifeOf (r : SocialPublicationIntent) (L : History) : List LifeEvent := L.filterMap (eventOf r)

@[simp] theorem lifeOf_append (r : SocialPublicationIntent) (L L' : History) :
    lifeOf r (L ++ L') = lifeOf r L ++ lifeOf r L' :=
  List.filterMap_append

/-- An event of the life of an intent comes from a transaction of the log. -/
theorem mem_lifeOf {r : SocialPublicationIntent} {L : History} {e : LifeEvent} :
    e ∈ lifeOf r L ↔ ∃ i o a, .act i ⟨Sum.inr o, a⟩ ∈ L ∧ o.lifeEvent r = some e := by
  simp only [lifeOf, List.mem_filterMap]
  constructor
  · rintro ⟨⟨i, ⟨_ | o, a⟩⟩ | i | x, hmem, he⟩
    · cases he
    · exact ⟨i, o, a, hmem, he⟩
    · cases he
    · exact x.elim
  · rintro ⟨i, o, a, hmem, he⟩
    exact ⟨_, hmem, he⟩

/-- An event within the life of an intent splits the log. -/
theorem lifeOf_split {r : SocialPublicationIntent} {L : History} {a b : List LifeEvent}
    {e : LifeEvent} (h : lifeOf r L = a ++ e :: b) :
    ∃ M₁ i o answer M₂, L = M₁ ++ .act i ⟨Sum.inr o, answer⟩ :: M₂ ∧ lifeOf r M₁ = a ∧
      o.lifeEvent r = some e := by
  obtain ⟨M₁, M, rfl, ha, hM⟩ := List.filterMap_eq_append_iff.1 h
  obtain ⟨skip, x, M₂, rfl, hskip, hx, -⟩ := List.filterMap_eq_cons_iff.1 hM
  rcases x with ⟨i, ⟨_ | o, answer⟩⟩ | i | x
  · cases hx
  · refine ⟨M₁ ++ skip, i, o, answer, M₂, by simp, ?_, hx⟩
    rw [lifeOf_append, show lifeOf r M₁ = a from ha,
      show lifeOf r skip = [] from List.filterMap_eq_nil_iff.2 hskip, List.append_nil]
  · cases hx
  · exact x.elim

@[simp] theorem rowAfter_nil (r : SocialPublicationIntent) : rowAfter [] r = r := rfl

@[simp] theorem rowAfter_append (L L' : History) (r : SocialPublicationIntent) :
    rowAfter (L ++ L') r = rowAfter L' (rowAfter L r) :=
  List.foldl_append

theorem core_rowStep (r : SocialPublicationIntent) (e : Entry sig Empty) :
    (rowStep r e).core = r.core := by
  rcases e with ⟨i, ⟨_ | o, a⟩⟩ | i | x
  · rfl
  · exact o.core_onRow r
  · rfl
  · exact x.elim

@[simp] theorem core_rowAfter (L : History) (r : SocialPublicationIntent) :
    (rowAfter L r).core = r.core := by
  induction L generalizing r with
  | nil => rfl
  | cons e L ih => exact (ih (rowStep r e)).trans (core_rowStep r e)

theorem eventOf_core (r : SocialPublicationIntent) (e : Entry sig Empty) :
    eventOf r.core e = eventOf r e := by
  rcases e with ⟨i, ⟨_ | o, a⟩⟩ | i | x
  · rfl
  · exact o.lifeEvent_core r
  · rfl
  · exact x.elim

theorem status_rowStep (r : SocialPublicationIntent) (e : Entry sig Empty) :
    (rowStep r e).status = r.status.life (eventOf r e).toList := by
  rcases e with ⟨i, ⟨_ | o, a⟩⟩ | i | x
  · rfl
  · exact o.status_onRow r
  · rfl
  · exact x.elim

/-- The refinement: the status of a row is the life of its intent. -/
theorem status_rowAfter (L : History) (r : SocialPublicationIntent) :
    (rowAfter L r).status = r.status.life (lifeOf r L) := by
  induction L generalizing r with
  | nil => rfl
  | cons e L ih =>
    have hevents : lifeOf r (e :: L) = (eventOf r e).toList ++ lifeOf r L := by
      cases h : eventOf r e <;> simp [lifeOf, h]
    have hcore : lifeOf (rowStep r e) L = lifeOf r L := by
      have : eventOf (rowStep r e) = eventOf r := by
        funext x
        rw [← eventOf_core (rowStep r e), core_rowStep, eventOf_core]
      rw [lifeOf, lifeOf, this]
    rw [show rowAfter (e :: L) r = rowAfter L (rowStep r e) from rfl, ih, hcore, status_rowStep,
      hevents, life_append]

/-- A row with a final status never changes. -/
theorem rowAfter_final (L : History) {r : SocialPublicationIntent} (h : r.status.Final) :
    rowAfter L r = r := by
  induction L with
  | nil => rfl
  | cons e L ih =>
    have hstep : rowStep r e = r := by
      rcases e with ⟨i, ⟨_ | o, a⟩⟩ | i | x
      · rfl
      · exact o.onRow_final h
      · rfl
      · exact x.elim
    rw [show rowAfter (e :: L) r = rowAfter L (rowStep r e) from rfl, hstep, ih]

theorem Step.row {d c : State} {e : Entry sig Empty} {r : SocialPublicationIntent}
    (h : Step (service.machine outside) d e c) (hr : r ∈ d.world.rows) :
    rowStep r e ∈ c.world.rows := by
  cases h with
  | @act i o k oracle a w _ _ hex =>
    cases o with
    | inl o => cases hex; exact hr
    | inr o =>
      have hmem := o.onRow_mem hr
      rwa [Option.some.inj hex] at hmem
  | crash => exact hr
  | @env x => exact x.elim

/-- A row of the table stays, as what the log makes of it. -/
theorem Steps.row {d c : State} {L : History} {r : SocialPublicationIntent}
    (h : Steps (service.machine outside) d L c) (hr : r ∈ d.world.rows) :
    rowAfter L r ∈ c.world.rows := by
  induction h with
  | refl => exact hr
  | snoc _ hs ih =>
    rw [rowAfter_append]
    exact Step.row hs ih

end Publication

end AgencyRuntime
