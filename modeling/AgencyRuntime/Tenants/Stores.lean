import AgencyRuntime.Media.Store
import AgencyRuntime.ModelEffects.Store
import AgencyRuntime.Publication.Reauthorize
import AgencyRuntime.Social.OAuthState
import AgencyRuntime.Tenants.Ledger

/-!
# The tenants of the other stores

The publication store, the model effect store, the two tables of the OAuth store and the media store
in SQLite. Connections have the tenant in their key; intents, effects, states and media have an id
of their own, which tells the tenant (`own`). Every transaction of these stores is an isolated step
of the tenant it names.
-/

namespace AgencyRuntime

open Py Tables

variable {own : Str → Str} {x : Str}

/-! ## Publication intents -/

theorem intent_apart (r s : SocialPublicationIntent) (hr : own r.intentId = r.tenantId)
    (hs : own s.intentId = s.tenantId)
    (h : intentSchema.clash (intentSchema.key r) (intentSchema.key s) = true) :
    r.tenantId = s.tenantId := by
  rcases Bool.or_eq_true_iff.1 h with h | h
  · rcases Bool.or_eq_true_iff.1 h with h | h
    · have hid : r.intentId = s.intentId := eq_of_beq h
      rw [← hr, ← hs, hid]
    · exact eq_of_beq (Bool.and_eq_true_iff.1 h).1
  · exact eq_of_beq (Bool.and_eq_true_iff.1 h).1

/-- The intents of the tenants. -/
def intentOwner (own : Str → Str) : Ownership intentSchema Str where
  owner := SocialPublicationIntent.tenantId
  Valid r := own r.intentId = r.tenantId
  apart := intent_apart

theorem keeps_intent (u : Update intentSchema) : (intentOwner own).Keeps u :=
  Ownership.keeps_of_key SocialPublicationIntent.tenantId
    (fun k : SocialPublicationIntent => own k.intentId = k.tenantId)
    (fun _ => rfl) (fun _ => Iff.rfl) u

namespace Publication

/-- A transaction that is issued for the tenant. -/
def Statement.IssuedFor (own : Str → Str) (x : Str) : Statement → Prop
  | .reserve intent => intent.tenantId = x ∧ own intent.intentId = x
  | .get tenantId _ | .transition tenantId .. | .reconcile tenantId .. => tenantId = x
  | .revokeUnused filter .. => filter.tenantId = x

theorem priorIntent_alike {intent : SocialPublicationIntent} {t t' : IntentTable}
    (h : (intentOwner own).isolation.Alike intent.tenantId t t') :
    priorIntent t intent = priorIntent t' intent := by
  unfold priorIntent
  rw [Ownership.find?_alike (p := fun r => r.sameKey intent) h fun _ _ _ _ hsel =>
      eq_of_beq (Bool.and_eq_true_iff.1 hsel).1,
    Ownership.find?_alike (p := fun r => r.sameBinding intent) h fun _ _ _ _ hsel =>
      eq_of_beq (Bool.and_eq_true_iff.1 hsel).1]

theorem step_reserveIn {intent : SocialPublicationIntent} (hown : own intent.intentId = intent.tenantId) :
    (intentOwner own).isolation.Step intent.tenantId (reserveIn intent) := by
  intro t t' h
  unfold reserveIn
  rw [priorIntent_alike h]
  cases priorIntent t' intent with
  | some record =>
    simp only
    split
    · exact ⟨rfl, h, .refl h.left⟩
    · split
      · exact ⟨rfl, h, .refl h.left⟩
      · exact ⟨rfl, h, .refl h.left⟩
  | none =>
    simp only
    split
    · rcases Ownership.insert_alike h hown rfl with
        ⟨hd, hd'⟩ | ⟨e, e', hd, hd', halike, hmove, -⟩
      · simp only [hd, hd']
        exact ⟨trivial, h, .refl h.left⟩
      · simp only [hd, hd']
        exact ⟨trivial, halike, hmove⟩
    · exact ⟨rfl, h, .refl h.left⟩

/-- Every transaction of the publication store is an isolated step. -/
theorem Statement.isolated {o : Statement} (h : o.IssuedFor own x) :
    (intentOwner own).isolation.Step x o.run := by
  cases o with
  | reserve intent =>
    obtain ⟨rfl, hown⟩ := h
    exact step_reserveIn hown
  | get tenantId intentId =>
    obtain rfl := h
    exact .read fun t t' ht => Ownership.find?_alike ht fun _ _ _ _ hsel =>
      eq_of_beq (Bool.and_eq_true_iff.1 hsel).1
  | transition tenantId intentId fence change now =>
    obtain rfl := h
    intro t t' ht
    simp only [Statement.run]
    split
    · refine (Ownership.step_modify (keeps_intent _) fun t _ r _ hsel => ?_).map
        (fun n => Except.ok (decide (n = 1))) t t' ht
      simp only [inFlight, SocialPublicationIntent.isFor, Bool.and_eq_true, beq_iff_eq] at hsel
      exact hsel.1.1.1
    · exact ⟨rfl, ht, .refl ht.left⟩
  | reconcile tenantId intentId providerPostId receipt now =>
    obtain rfl := h
    have hsel (t : IntentTable) : (intentOwner own).Selects tenantId (reconcilable tenantId intentId) t := by
      intro r _ hsel
      simp only [reconcilable, SocialPublicationIntent.isFor, Bool.and_eq_true, beq_iff_eq] at hsel
      exact hsel.1.1
    intro t t' ht
    simp only [Statement.run]
    rw [Ownership.count_alike ht fun t _ => hsel t]
    split
    · exact ⟨rfl, Ownership.modify_alike (keeps_intent _) ht,
        Ownership.modify_moves (keeps_intent _) ht.left (hsel t)⟩
    · have hfind := Ownership.find?_alike (p := fun r => r.isFor tenantId intentId) ht
        fun _ _ _ _ hsel => eq_of_beq (Bool.and_eq_true_iff.1 hsel).1
      exact ⟨congrArg Reconciled.found hfind, ht, .refl ht.left⟩
  | revokeUnused filter reason now =>
    obtain rfl := h
    intro t t' ht
    simp only [Statement.run]
    split
    · refine (Ownership.step_modify (keeps_intent _) fun t _ r _ hsel => ?_).map Except.ok t t' ht
      simp only [RevokeFilter.covers, Bool.and_eq_true, beq_iff_eq] at hsel
      exact hsel.1.1.1.1
    · exact ⟨rfl, ht, .refl ht.left⟩

end Publication

/-! ## Model effects -/

theorem effect_apart (r s : ModelEffectIntent) (hr : own r.effectId = r.tenantId)
    (hs : own s.effectId = s.tenantId)
    (h : effectSchema.clash (effectSchema.key r) (effectSchema.key s) = true) :
    r.tenantId = s.tenantId := by
  rcases Bool.or_eq_true_iff.1 h with h | h
  · have hid : r.effectId = s.effectId := eq_of_beq h
    rw [← hr, ← hs, hid]
  · rcases Bool.or_eq_true_iff.1 h with h | h
    · exact eq_of_beq (Bool.and_eq_true_iff.1 h).1
    · exact eq_of_beq (Bool.and_eq_true_iff.1 h).1

/-- The effects of the tenants. -/
def effectOwner (own : Str → Str) : Ownership effectSchema Str where
  owner := ModelEffectIntent.tenantId
  Valid r := own r.effectId = r.tenantId
  apart := effect_apart

theorem keeps_effect (u : Update effectSchema) : (effectOwner own).Keeps u :=
  Ownership.keeps_of_key ModelEffectIntent.tenantId
    (fun k : ModelEffectIntent => own k.effectId = k.tenantId) (fun _ => rfl) (fun _ => Iff.rfl) u

namespace ModelEffect

/-- A transaction that is issued for the tenant. -/
def Statement.IssuedFor (own : Str → Str) (x : Str) : Statement → Prop
  | .reserve intent => intent.tenantId = x ∧ own intent.effectId = x
  | .get tenantId _ | .transition tenantId .. | .reconcile tenantId .. => tenantId = x
  | .revokeUnused tenantId .. | .listForRun tenantId _ => tenantId = x

theorem priorIntent_alike {intent : ModelEffectIntent} {t t' : EffectTable}
    (h : (effectOwner own).isolation.Alike intent.tenantId t t') :
    priorIntent t intent = priorIntent t' intent := by
  unfold priorIntent
  rw [Ownership.find?_alike (p := fun r => r.sameKey intent) h fun _ _ _ _ hsel =>
      eq_of_beq (Bool.and_eq_true_iff.1 hsel).1,
    Ownership.find?_alike (p := fun r => r.sameBinding intent) h fun _ _ _ _ hsel =>
      eq_of_beq (Bool.and_eq_true_iff.1 hsel).1]

theorem step_reserveIn {intent : ModelEffectIntent} (hown : own intent.effectId = intent.tenantId) :
    (effectOwner own).isolation.Step intent.tenantId (reserveIn intent) := by
  intro t t' h
  unfold reserveIn
  rw [priorIntent_alike h]
  cases priorIntent t' intent with
  | some record =>
    simp only
    split
    · exact ⟨rfl, h, .refl h.left⟩
    · split
      · exact ⟨rfl, h, .refl h.left⟩
      · exact ⟨rfl, h, .refl h.left⟩
  | none =>
    simp only
    split
    · rcases Ownership.insert_alike h hown rfl with
        ⟨hd, hd'⟩ | ⟨e, e', hd, hd', halike, hmove, -⟩
      · simp only [hd, hd']
        exact ⟨trivial, h, .refl h.left⟩
      · simp only [hd, hd']
        exact ⟨trivial, halike, hmove⟩
    · exact ⟨rfl, h, .refl h.left⟩

/-- Every transaction of the model effect store is an isolated step. -/
theorem Statement.isolated {o : Statement} (h : o.IssuedFor own x) :
    (effectOwner own).isolation.Step x o.run := by
  cases o with
  | reserve intent =>
    obtain ⟨rfl, hown⟩ := h
    exact step_reserveIn hown
  | get tenantId effectId =>
    obtain rfl := h
    exact .read fun t t' ht => Ownership.find?_alike ht fun _ _ _ _ hsel =>
      eq_of_beq (Bool.and_eq_true_iff.1 hsel).1
  | transition tenantId effectId fence change now =>
    obtain rfl := h
    intro t t' ht
    simp only [Statement.run]
    split
    · refine (Ownership.step_modify (keeps_effect _) fun t _ r _ hsel => ?_).map
        (fun n => Except.ok (decide (n = 1))) t t' ht
      simp only [inFlight, ModelEffectIntent.isFor, Bool.and_eq_true, beq_iff_eq] at hsel
      exact hsel.1.1.1
    · exact ⟨rfl, ht, .refl ht.left⟩
  | reconcile tenantId effectId outputText outputSha256 receipt now =>
    obtain rfl := h
    have hsel (t : EffectTable) : (effectOwner own).Selects tenantId (reconcilable tenantId effectId) t := by
      intro r _ hsel
      simp only [reconcilable, ModelEffectIntent.isFor, Bool.and_eq_true, beq_iff_eq] at hsel
      exact hsel.1.1
    intro t t' ht
    simp only [Statement.run]
    rw [Ownership.count_alike ht fun t _ => hsel t]
    split
    · exact ⟨rfl, Ownership.modify_alike (keeps_effect _) ht,
        Ownership.modify_moves (keeps_effect _) ht.left (hsel t)⟩
    · have hfind := Ownership.find?_alike (p := fun r => r.isFor tenantId effectId) ht
        fun _ _ _ _ hsel => eq_of_beq (Bool.and_eq_true_iff.1 hsel).1
      exact ⟨congrArg Reconciled.found hfind, ht, .refl ht.left⟩
  | revokeUnused tenantId runId reason now =>
    obtain rfl := h
    refine Ownership.step_modify (keeps_effect _) fun t _ r _ hsel => ?_
    simp only [unused, ModelEffectIntent.ofRun, Bool.and_eq_true, beq_iff_eq] at hsel
    exact hsel.1.1
  | listForRun tenantId runId =>
    obtain rfl := h
    refine .read fun t t' ht => ?_
    have hsel (t : EffectTable) : (effectOwner own).Selects tenantId (fun r => r.ofRun tenantId runId) t :=
      fun _ _ hsel => eq_of_beq (Bool.and_eq_true_iff.1 hsel).1
    rw [Ownership.filter_part (hsel t), Ownership.filter_part (hsel t')]
    exact congrArg (fun rows => sortedEffects (List.filter _ rows)) ht.view

end ModelEffect

/-! ## Connections -/

/-- The connections of the tenants. -/
def connectionOwner : Ownership connectionSchema Str where
  owner := SocialConnectionRecord.tenantId
  Valid _ := True
  apart _ _ _ _ h := (Prod.mk.inj (eq_of_beq h)).1

theorem selects_connection (x channelId : Str) (t : ConnectionTable) :
    connectionOwner.Selects x (fun r => r.isFor x channelId) t :=
  fun _ _ hsel => eq_of_beq (Bool.and_eq_true_iff.1 hsel).1

/-! ## OAuth states -/

namespace Social

theorem state_apart (r s : SocialOAuthState Str)
    (hr : own r.stateId = r.tenantId ∧ own r.stateDigest = r.tenantId)
    (hs : own s.stateId = s.tenantId ∧ own s.stateDigest = s.tenantId)
    (h : (stateSchema id).clash ((stateSchema id).key r) ((stateSchema id).key s) = true) :
    r.tenantId = s.tenantId := by
  rcases Bool.or_eq_true_iff.1 h with h | h
  · have hid : r.stateId = s.stateId := eq_of_beq h
    rw [← hr.1, ← hs.1, hid]
  · have hdigest : r.stateDigest = s.stateDigest := eq_of_beq h
    rw [← hr.2, ← hs.2, hdigest]

/-- The states of the tenants. -/
def stateOwner (own : Str → Str) :
    Ownership (stateSchema (id : SocialOAuthState Str → SocialOAuthState Str)) Str where
  owner := SocialOAuthState.tenantId
  Valid r := own r.stateId = r.tenantId ∧ own r.stateDigest = r.tenantId
  apart := state_apart

theorem keeps_consumeRow (now : Str) : (stateOwner own).Keeps (consumeRow now) :=
  ⟨fun _ hr => hr, fun _ => rfl⟩

namespace Sqlite

theorem isolated_createState {record : SocialOAuthStateRecord} (htenant : record.tenantId = x)
    (hid : own record.stateId = x) (hdigest : own record.stateDigest = x) :
    (stateOwner own).isolation.Isolated x (createState record) fun _ => True := by
  have hsel (t : StateTable) : (stateOwner own).Selects x record.isPending t := by
    intro r _ hsel
    exact ((SocialOAuthState.isPending_iff.1 hsel).1.1).trans htenant
  refine (Isolation.isolated_compute fun _ _ => trivial).bind fun _ _ => ?_
  refine (Isolation.isolated_statement (Q := fun _ => True) fun t t' h => ?_).bind fun _ _ => ?_
  · exact .done trivial (Ownership.delete_alike h) (Ownership.delete_moves h.left (hsel t))
      (Ownership.delete_moves h.right (hsel t'))
  · refine Isolation.isolated_statement fun t t' h => ?_
    have hvalid : (stateOwner own).Valid { record.map Datetime.isoformat with consumedAt := none } :=
      ⟨hid.trans htenant.symm, hdigest.trans htenant.symm⟩
    rcases Ownership.insert_alike h hvalid htenant with
      ⟨hd, hd'⟩ | ⟨e, e', hd, hd', halike, hmove, hmove'⟩
    · simp only [hd, hd']
      exact .raised _
    · simp only [hd, hd']
      exact .done trivial halike hmove hmove'

theorem isolated_consumeState {lookup : StateLookup} {now : Datetime} (htenant : lookup.tenantId = x) :
    (stateOwner own).isolation.Isolated x (consumeState lookup now) fun _ => True := by
  have hfinds (t : StateTable) :
      (stateOwner own).Selects x (available lookup now.isoformat) t := by
    intro r _ hsel
    have hlookup := (StateLookup.finds_iff.1 (Bool.and_eq_true_iff.1 hsel).1).1
    rw [← htenant, ← hlookup]
    rfl
  refine (Isolation.isolated_compute fun _ _ => trivial).bind fun _ _ => ?_
  -- The row that is found is the tenant's, so its id is that of no other tenant's row.
  refine (Isolation.isolated_statement (Q := fun row : SocialOAuthState Str => own row.stateId = x)
    fun t t' h => ?_).bind fun row hrow => ?_
  · have hfind := Ownership.find?_alike h fun t _ => hfinds t
    rw [hfind]
    cases hrow : t'.rows.find? (available lookup now.isoformat) with
    | none => exact .raised _
    | some row =>
      have hmem := List.mem_of_find?_eq_some hrow
      have hx := hfinds t' row hmem (List.find?_some hrow)
      exact .done ((h.right row hmem).1.trans hx) h (.refl h.left) (.refl h.right)
  have hsel (t : StateTable) (ht : (stateOwner own).Holds t) : (stateOwner own).Selects x
      (fun r => r.stateId == row.stateId && r.consumedAt.isNone) t := by
    intro r hr hsel
    have hid : r.stateId = row.stateId := eq_of_beq (Bool.and_eq_true_iff.1 hsel).1
    exact (ht r hr).1.symm.trans (hid ▸ hrow)
  refine (Isolation.isolated_statement (Q := fun _ => True) fun t t' h => ?_).bind fun _ _ => ?_
  · simp only
    rw [Ownership.count_alike h hsel]
    exact .done trivial (Ownership.modify_alike (keeps_consumeRow _) h)
      (Ownership.modify_moves (keeps_consumeRow _) h.left (hsel t h.left))
      (Ownership.modify_moves (keeps_consumeRow _) h.right (hsel t' h.right))
  · refine (Isolation.isolated_compute fun _ _ => trivial).bind fun _ _ => ?_
    exact Isolation.isolated_pure trivial

end Sqlite

end Social

/-! ## Media -/

namespace Media

/-- The id and the digest of the public token tell the tenant. -/
def TellsTenant (own : Str → Str) (row : MediaRow) : Prop :=
  own row.record.mediaId = row.record.tenantId ∧ own row.record.publicTokenDigest = row.record.tenantId

theorem media_apart (r s : MediaRow) (hr : TellsTenant own r) (hs : TellsTenant own s)
    (h : mediaSchema.clash (mediaSchema.key r) (mediaSchema.key s) = true) :
    r.record.tenantId = s.record.tenantId := by
  rcases Bool.or_eq_true_iff.1 h with h | h
  · rcases Bool.or_eq_true_iff.1 h with h | h
    · have hid : r.record.mediaId = s.record.mediaId := eq_of_beq h
      rw [← hr.1, ← hs.1, hid]
    · have hdigest : r.record.publicTokenDigest = s.record.publicTokenDigest := eq_of_beq h
      rw [← hr.2, ← hs.2, hdigest]
  · exact eq_of_beq (Bool.and_eq_true_iff.1 h).1

/-- The media of the tenants. -/
def mediaOwner (own : Str → Str) : Ownership mediaSchema Str where
  owner row := row.record.tenantId
  Valid := TellsTenant own
  apart := media_apart

namespace Sqlite

variable {record : PublicationMediaRecord}

theorem selects_answers (hid : own record.mediaId = record.tenantId) (t : MediaTable)
    (ht : (mediaOwner own).Holds t) :
    (mediaOwner own).Selects record.tenantId (answers record) t := by
  intro row hrow hsel
  rcases Bool.or_eq_true_iff.1 hsel with hsel | hsel
  · rcases Bool.or_eq_true_iff.1 hsel with hsel | hsel
    · have hmedia : row.record.mediaId = record.mediaId := eq_of_beq hsel
      exact (ht row hrow).1.symm.trans (hmedia ▸ hid)
    · exact eq_of_beq (Bool.and_eq_true_iff.1 hsel).1
  · exact eq_of_beq (Bool.and_eq_true_iff.1 hsel).1

theorem findExisting_alike {d : Delivery} (hid : own record.mediaId = record.tenantId)
    {t t' : MediaTable} (h : (mediaOwner own).isolation.Alike record.tenantId t t') :
    findExisting d record t = findExisting d record t' := by
  unfold findExisting
  rw [Ownership.filter_part (selects_answers hid t h.left),
    Ownership.filter_part (selects_answers hid t' h.right)]
  exact congrArg (fun rows => (d.first (List.filter _ rows)).map MediaRow.record) h.view

/-- What is found is the tenant's. -/
theorem findExisting_owner {d : Delivery} {existing : PublicationMediaRecord} {t : MediaTable}
    (hid : own record.mediaId = record.tenantId) (ht : (mediaOwner own).Holds t)
    (h : findExisting d record t = some existing) : own existing.mediaId = record.tenantId := by
  obtain ⟨row, hfirst, rfl⟩ := Option.map_eq_some_iff.1 h
  obtain ⟨hrow, hsel⟩ := List.mem_filter.1 (d.mem_of_first hfirst)
  exact (ht row hrow).1.trans (selects_answers hid t ht row hrow hsel)

theorem contentFor_alike {mediaId : Str} (hid : own mediaId = x) {t t' : MediaTable}
    (h : (mediaOwner own).isolation.Alike x t t') : contentFor mediaId t = contentFor mediaId t' := by
  unfold contentFor
  rw [Ownership.find?_alike h fun t ht row hrow hsel => ?_]
  have hmedia : row.record.mediaId = mediaId := eq_of_beq hsel
  exact (ht row hrow).1.symm.trans (hmedia ▸ hid)

/-- A replay, after the comparison of the bindings. -/
theorem same_replay {existing : PublicationMediaRecord} {content : Bytes} {y : Except Exn Unit}
    (hid : own existing.mediaId = x) {t t' : MediaTable}
    (h : (mediaOwner own).isolation.Alike x t t') :
    (mediaOwner own).isolation.Same x (fun _ => True) t t'
      (do
        y
        let storedContent ← contentFor existing.mediaId t
        check (storedContent = content) bytesConflict
        return ((⟨existing, false, true⟩ : PublicationMediaReservation), t))
      (do
        y
        let storedContent ← contentFor existing.mediaId t'
        check (storedContent = content) bytesConflict
        return (⟨existing, false, true⟩, t')) := by
  cases y with
  | error e => exact .raised e
  | ok u =>
    change (mediaOwner own).isolation.Same x _ t t' (contentFor existing.mediaId t >>= _)
      (contentFor existing.mediaId t' >>= _)
    rw [contentFor_alike hid h]
    cases contentFor existing.mediaId t' with
    | error e => exact .raised e
    | ok storedContent =>
      change (mediaOwner own).isolation.Same x _ t t' (check _ _ >>= _) (check _ _ >>= _)
      cases check (storedContent = content) bytesConflict with
      | error e => exact .raised e
      | ok u => exact .done trivial h (.refl h.left) (.refl h.right)

theorem same_reserve {P : Platform} {d : Delivery} {content : Bytes}
    (hid : own record.mediaId = record.tenantId)
    (htoken : own record.publicTokenDigest = record.tenantId) {t t' : MediaTable}
    (h : (mediaOwner own).isolation.Alike record.tenantId t t') :
    (mediaOwner own).isolation.Same record.tenantId (fun _ => True) t t'
      (reserve P d record content t) (reserve P d record content t') := by
  have hfind := findExisting_alike (d := d) hid h
  unfold reserve
  rw [hfind]
  cases validateRecord P record content with
  | error e => exact .raised e
  | ok u =>
    cases hfound : findExisting d record t' with
    | some existing => exact same_replay (findExisting_owner hid h.right hfound) h
    | none =>
      have hvalid : (mediaOwner own).Valid ⟨record, content⟩ := ⟨hid, htoken⟩
      change (mediaOwner own).isolation.Same record.tenantId _ t t'
        (insert record content t >>= _) (insert record content t' >>= _)
      unfold insert
      cases check (record.width < 2 ^ 63 ∧ record.height < 2 ^ 63) Exn.overflowError with
      | error e => exact .raised e
      | ok u =>
        cases encode record.revocationReason with
        | error e => exact .raised e
        | ok _ =>
          change (mediaOwner own).isolation.Same record.tenantId _ t t'
            (pure (t.insert ⟨record, content⟩) >>= _) (pure (t'.insert ⟨record, content⟩) >>= _)
          rcases Ownership.insert_alike h hvalid rfl with
            ⟨hd, hd'⟩ | ⟨e, e', hd, hd', halike, hmove, hmove'⟩
          · rw [hd, hd']
            exact .raised _
          · rw [hd, hd']
            exact .done trivial halike hmove hmove'

end Sqlite

end Media

end AgencyRuntime
