import AgencyRuntime.Media.Store

/-!
# Whether the media stores agree

One `reserve` of the SQLite store does what the PostgreSQL store does, whichever row is delivered
first, exactly when the rows that answer its lookup are alike to it (`Uncrossed`); so do whole
sequences of calls. The PostgreSQL store always meets the conflict of a key.
-/

namespace AgencyRuntime

namespace Media

open Py Tables

/-- A call of `reserve`. -/
structure MediaCall where
  record : PublicationMediaRecord
  content : Bytes

/-- A call that was made, the table that it met and what it returned or raised. -/
structure Answer where
  before : MediaTable
  call : MediaCall
  result : Except Exn PublicationMediaReservation

/-- The result of a transaction and the table that it leaves. -/
def settle (t : MediaTable) :
    Except Exn (PublicationMediaReservation × MediaTable) →
      Except Exn PublicationMediaReservation × MediaTable
  | .ok (reservation, t') => (.ok reservation, t')
  | .error e => (.error e, t)

/-- Calls on the SQLite store one after the other, each with the order of its rows. -/
def Sqlite.run (P : Platform) : List (MediaCall × Delivery) → MediaTable → List Answer
  | [], _ => []
  | (call, d) :: calls, t =>
    let (result, t') := settle t (Sqlite.reserve P d call.record call.content t)
    ⟨t, call, result⟩ :: Sqlite.run P calls t'

/-- Calls on the PostgreSQL store one after the other. -/
def Postgres.run (P : Platform) : List MediaCall → MediaTable → List Answer
  | [], _ => []
  | call :: calls, t =>
    let (result, t') := settle t (Postgres.reserve P call.record call.content t)
    ⟨t, call, result⟩ :: Postgres.run P calls t'

/-- A key that is stored with another binding raises the conflict. -/
def Answer.KeyBound (P : Platform) (answer : Answer) : Prop :=
  validateRecord P answer.call.record answer.call.content = .ok () →
    (∃ row ∈ answer.before.rows, hasKey answer.call.record row = true ∧
      row.record.bindingDigest ≠ answer.call.record.bindingDigest) →
      ∃ message, answer.result = .error (.publicationMediaConflict message)

/-- Two rows conflict with a call in the same way. -/
def MediaCall.ConflictAlike (call : MediaCall) (x y : MediaRow) : Prop :=
  x.record.bindingDigest ≠ call.record.bindingDigest ∧
      y.record.bindingDigest ≠ call.record.bindingDigest ∨
    x.record.bindingDigest = call.record.bindingDigest ∧
      y.record.bindingDigest = call.record.bindingDigest ∧ x.content ≠ call.content ∧
        y.content ≠ call.content

/-- A new record is one that both stores keep, or that both refuse for its keys. -/
def MediaCall.Keepable (call : MediaCall) (t : MediaTable) : Prop :=
  Postgres.storable call.record = true ∨
    (call.record.width < 2 ^ 63 ∧ call.record.height < 2 ^ 63) ∧
      encodable call.record.revocationReason = true ∧ ¬ t.Fresh ⟨call.record, call.content⟩

/-- Of the rows that answer the lookup there is one, or they all conflict alike; where there is
none, the record is keepable. -/
structure MediaCall.Uncrossed (call : MediaCall) (t : MediaTable) : Prop where
  alike : ∀ x ∈ t.rows, ∀ y ∈ t.rows, answers call.record x = true → answers call.record y = true →
    x ≠ y → call.ConflictAlike x y
  keepable : (∀ row ∈ t.rows, answers call.record row = false) → call.Keepable t

/-- The record of the call is refused, or the call is uncrossed. -/
def Answer.Uncrossed (P : Platform) (answer : Answer) : Prop :=
  validateRecord P answer.call.record answer.call.content = .ok () →
    answer.call.Uncrossed answer.before

/-! ## One call -/

/-- What either store returns or raises for a row that answers the lookup. -/
def MediaCall.replay (call : MediaCall) (row : MediaRow) :
    Except Exn PublicationMediaReservation := do
  check (row.record.bindingDigest = call.record.bindingDigest) keyConflict
  check (row.content = call.content) bytesConflict
  return ⟨row.record, false, true⟩

section
variable {P : Platform} {call : MediaCall} {t : MediaTable} {row x y : MediaRow} {d : Delivery}

theorem MediaCall.replay_eq :
    call.replay row = if row.record.bindingDigest = call.record.bindingDigest then
      if row.content = call.content then .ok ⟨row.record, false, true⟩ else .error bytesConflict
    else .error keyConflict := by
  unfold replay check
  split
  · split <;> rfl
  · rfl

theorem eq_of_hasKey (hx : x ∈ t.rows) (hy : y ∈ t.rows) (hkx : hasKey call.record x = true)
    (hky : hasKey call.record y = true) : x = y := by
  rw [hasKey, Bool.and_eq_true, beq_iff_eq, sameDigest_iff] at hkx hky
  refine Table.eq_of_clash hx hy ?_
  simp [mediaSchema, MediaRow.keys, MediaKeys.clash, sameDigest, hkx.1, hky.1, hkx.2.1, hky.2.1,
    hky.2.1 ▸ hky.2.2]

theorem eq_of_record (hx : x ∈ t.rows) (hy : y ∈ t.rows) (h : x.record = y.record) : x = y := by
  refine Table.eq_of_clash hx hy ?_
  simp [mediaSchema, MediaRow.keys, MediaKeys.clash, h]

/-- Two rows of the table are replayed to one effect exactly when they are one row, or conflict
alike. -/
theorem MediaCall.replay_eq_iff (hx : x ∈ t.rows) (hy : y ∈ t.rows) :
    call.replay x = call.replay y ↔ (x ≠ y → call.ConflictAlike x y) := by
  have hmessages : keyConflict ≠ bytesConflict := by decide
  rw [replay_eq, replay_eq, ConflictAlike]
  constructor
  · intro h hne
    split at h
    · next hbx =>
      split at h
      · next hcx =>
        split at h
        · split at h
          · exact absurd (eq_of_record hx hy (by simpa using h)) hne
          · cases h
        · cases h
      · next hcx =>
        split at h
        · next hby =>
          split at h
          · cases h
          · next hcy => exact .inr ⟨hbx, hby, hcx, hcy⟩
        · exact absurd (Except.error.inj h).symm hmessages
    · next hbx =>
      split at h
      · split at h
        · cases h
        · exact absurd (Except.error.inj h) hmessages
      · next hby => exact .inl ⟨hbx, hby⟩
  · intro h
    by_cases heq : x = y
    · rw [heq]
    · rcases h heq with ⟨hbx, hby⟩ | ⟨hbx, hby, hcx, hcy⟩
      · rw [if_neg hbx, if_neg hby]
      · rw [if_pos hbx, if_pos hby, if_neg hcx, if_neg hcy]

/-- The SQLite store replays the row that is delivered first. -/
theorem Sqlite.reserve_answered (hvalid : validateRecord P call.record call.content = .ok ())
    (hfirst : d.first (t.rows.filter (answers call.record)) = some row) :
    Sqlite.reserve P d call.record call.content t =
      (call.replay row).map fun reservation => (reservation, t) := by
  have hrow : row ∈ t.rows := (List.mem_filter.1 (d.mem_of_first hfirst)).1
  have hcontent : Sqlite.contentFor row.record.mediaId t = .ok row.content := by
    have hfind : t.rows.find? (fun s => s.record.mediaId == row.record.mediaId) = some row := by
      refine Table.find?_eq_some hrow (beq_self_eq_true _) fun s hs => ?_
      simp [mediaSchema, MediaRow.keys, MediaKeys.clash, beq_iff_eq.1 hs]
    rw [Sqlite.contentFor, hfind]
  have hexisting : Sqlite.findExisting d call.record t = some row.record := by
    rw [Sqlite.findExisting, hfirst, Option.map_some]
  rw [Sqlite.reserve, MediaCall.replay, hvalid]
  simp only [hexisting]
  by_cases hbinding : row.record.bindingDigest = call.record.bindingDigest
  · rw [check, if_pos hbinding]
    show (Sqlite.contentFor row.record.mediaId t >>= _) = _
    rw [hcontent]
    show (check (row.content = call.content) bytesConflict >>= _) = _
    by_cases hbytes : row.content = call.content
    · rw [check, if_pos hbytes]
      rfl
    · rw [check, if_neg hbytes]
      rfl
  · rw [check, if_neg hbinding]
    rfl

/-- Where no row answers, the SQLite store inserts the record. -/
theorem Sqlite.reserve_new (hvalid : validateRecord P call.record call.content = .ok ())
    (hnone : t.rows.filter (answers call.record) = []) :
    Sqlite.reserve P d call.record call.content t =
      (Sqlite.insert call.record call.content t).bind fun inserted =>
        inserted.elim (.error storeConflict) fun t' => .ok (⟨call.record, true, false⟩, t') := by
  have hexisting : Sqlite.findExisting d call.record t = none := by
    rw [Sqlite.findExisting, hnone]
    cases hfirst : d.first [] with
    | none => rfl
    | some row => cases d.mem_of_first hfirst
  rw [Sqlite.reserve, hvalid]
  simp only [hexisting]
  cases Sqlite.insert call.record call.content t with
  | error e => rfl
  | ok inserted => cases inserted <;> rfl

/-- The PostgreSQL store replays a row of the least rank. -/
theorem Postgres.reserve_answered (hvalid : validateRecord P call.record call.content = .ok ())
    (hfirst : Postgres.findExisting call.record t = some row) :
    Postgres.reserve P call.record call.content t =
      (call.replay row).map fun reservation => (reservation, t) := by
  rw [Postgres.reserve, MediaCall.replay, hvalid]
  simp only [hfirst]
  by_cases hbinding : row.record.bindingDigest = call.record.bindingDigest
  · rw [check, if_pos hbinding]
    by_cases hbytes : row.content = call.content
    · rw [check, if_pos hbytes]
      rfl
    · rw [check, if_neg hbytes]
      rfl
  · rw [check, if_neg hbinding]
    rfl

/-- Where no row answers, the PostgreSQL store inserts the record. -/
theorem Postgres.reserve_new (hvalid : validateRecord P call.record call.content = .ok ())
    (hnone : t.rows.filter (answers call.record) = []) :
    Postgres.reserve P call.record call.content t =
      (Postgres.insert call.record call.content t).elim (.error storeConflict) fun t' =>
        .ok (⟨call.record, true, false⟩, t') := by
  have hexisting : Postgres.findExisting call.record t = none := by
    rw [Postgres.findExisting, hnone, List.argmin_nil]
  rw [Postgres.reserve, hvalid]
  simp only [hexisting]
  cases Postgres.insert call.record call.content t <;> rfl

/-- A record that is refused is refused alike. -/
theorem reserve_refused {e : Exn} (hinvalid : validateRecord P call.record call.content = .error e) :
    Sqlite.reserve P d call.record call.content t = .error e ∧
      Postgres.reserve P call.record call.content t = .error e := by
  rw [Sqlite.reserve, Postgres.reserve, hinvalid]
  exact ⟨rfl, rfl⟩

theorem Sqlite.insert_eq {record : PublicationMediaRecord} {content : Bytes} :
    Sqlite.insert record content t = if record.width < 2 ^ 63 ∧ record.height < 2 ^ 63 then
      if encodable record.revocationReason then .ok (t.insert ⟨record, content⟩)
        else .error .unicodeEncodeError
    else .error .overflowError := by
  unfold Sqlite.insert check encode
  split
  · split <;> rfl
  · rfl

theorem storable_bounds {record : PublicationMediaRecord}
    (h : Postgres.storable record = true) :
    (record.width < 2 ^ 63 ∧ record.height < 2 ^ 63) ∧
      encodable record.revocationReason = true := by
  simp only [Postgres.storable, Bool.and_eq_true, decide_eq_true_eq] at h
  obtain ⟨⟨⟨⟨⟨⟨-, hwidth⟩, -⟩, hheight⟩, hencodable⟩, -⟩, -⟩ := h
  exact ⟨⟨by omega, by omega⟩, hencodable⟩

/-- The row `x` is delivered first where it is among the rows. -/
def deliverFirst (x : MediaRow) (rows : List MediaRow) : Option MediaRow :=
  if x ∈ rows then some x else rows.head?

theorem mem_of_deliverFirst {rows : List MediaRow} (h : deliverFirst x rows = some row) :
    row ∈ rows := by
  rw [deliverFirst] at h
  split at h
  · next hx =>
    cases h
    exact hx
  · exact List.mem_of_head? h

theorem eq_nil_of_deliverFirst {rows : List MediaRow} (h : deliverFirst x rows = none) :
    rows = [] := by
  rw [deliverFirst] at h
  split at h
  · cases h
  · exact List.head?_eq_none_iff.1 h

/-- A database that delivers the row `x` first. -/
def Delivery.of (x : MediaRow) : Delivery := ⟨deliverFirst x, mem_of_deliverFirst, eq_nil_of_deliverFirst⟩

/-- The result of a call does not depend on the order of rows, and is that of PostgreSQL. -/
def Agrees (P : Platform) (call : MediaCall) (t : MediaTable) : Prop :=
  ∀ d, (settle t (Sqlite.reserve P d call.record call.content t)).1 =
    (settle t (Postgres.reserve P call.record call.content t)).1

theorem settle_replay (result : Except Exn PublicationMediaReservation) :
    settle t (result.map fun reservation => (reservation, t)) = (result, t) := by
  cases result <;> rfl

/-- Where rows answer, the stores agree exactly when the rows are alike to the call. -/
theorem agrees_answered_iff (hvalid : validateRecord P call.record call.content = .ok ())
    (hsome : t.rows.filter (answers call.record) ≠ []) :
    Agrees P call t ↔ ∀ x ∈ t.rows, ∀ y ∈ t.rows, answers call.record x = true →
      answers call.record y = true → x ≠ y → call.ConflictAlike x y := by
  obtain ⟨p, hp⟩ : ∃ p, Postgres.findExisting call.record t = some p := by
    rw [← Option.isSome_iff_exists, ← Option.ne_none_iff_isSome]
    exact fun h => hsome (List.argmin_eq_none.1 h)
  have hpmem := List.mem_filter.1 (List.argmin_mem hp)
  have hpostgres := Postgres.reserve_answered hvalid hp
  constructor
  · intro h x hx y hy hax hay
    have hreplay {z : MediaRow} (hz : z ∈ t.rows) (haz : answers call.record z = true) :
        call.replay z = call.replay p := by
      have hfirst : (Delivery.of z).first (t.rows.filter (answers call.record)) = some z :=
        if_pos (List.mem_filter.2 ⟨hz, haz⟩)
      have hsame := h (Delivery.of z)
      rwa [Sqlite.reserve_answered hvalid hfirst, hpostgres, settle_replay, settle_replay] at hsame
    exact (MediaCall.replay_eq_iff hx hy).1 ((hreplay hx hax).trans (hreplay hy hay).symm)
  · intro h d
    obtain ⟨x, hfirst⟩ : ∃ x, d.first (t.rows.filter (answers call.record)) = some x := by
      rw [← Option.isSome_iff_exists, ← Option.ne_none_iff_isSome]
      exact fun h => hsome (d.eq_nil_of_first h)
    have hx := List.mem_filter.1 (d.mem_of_first hfirst)
    rw [Sqlite.reserve_answered hvalid hfirst, hpostgres, settle_replay, settle_replay]
    exact (MediaCall.replay_eq_iff hx.1 hpmem.1).2 (h x hx.1 p hpmem.1 hx.2 hpmem.2)

/-- Where no row answers, the stores agree exactly when the record is keepable. -/
theorem agrees_new_iff (hvalid : validateRecord P call.record call.content = .ok ())
    (hnone : t.rows.filter (answers call.record) = []) :
    Agrees P call t ↔ call.Keepable t := by
  have hsqlite (d : Delivery) := Sqlite.reserve_new (d := d) hvalid hnone
  have hpostgres := Postgres.reserve_new hvalid hnone
  simp only [Agrees, hsqlite, hpostgres, Sqlite.insert_eq, Postgres.insert, MediaCall.Keepable]
  by_cases hstorable : Postgres.storable call.record = true
  · obtain ⟨hbounds, hencodable⟩ := storable_bounds hstorable
    rw [if_pos hstorable, if_pos hbounds, if_pos hencodable]
    exact iff_of_true (fun _ => rfl) (.inl hstorable)
  · rw [if_neg hstorable]
    by_cases hbounds : call.record.width < 2 ^ 63 ∧ call.record.height < 2 ^ 63
    · rw [if_pos hbounds]
      by_cases hencodable : encodable call.record.revocationReason = true
      · rw [if_pos hencodable]
        cases hinsert : t.insert ⟨call.record, call.content⟩ with
        | none =>
          exact iff_of_true (fun _ => rfl) (.inr ⟨hbounds, hencodable, Table.insert_eq_none.1 hinsert⟩)
        | some t' =>
          refine iff_of_false (fun h => ?_) ?_
          · cases h (Delivery.of ⟨call.record, call.content⟩)
          · rintro (h | ⟨-, -, h⟩)
            · exact hstorable h
            · exact h (Table.insert_eq_some.1 hinsert).1
      · rw [if_neg hencodable]
        refine iff_of_false (fun h => ?_) ?_
        · cases h (Delivery.of ⟨call.record, call.content⟩)
        · rintro (h | ⟨-, h, -⟩)
          · exact hstorable h
          · exact hencodable h
    · rw [if_neg hbounds]
      refine iff_of_false (fun h => ?_) ?_
      · cases h (Delivery.of ⟨call.record, call.content⟩)
      · rintro (h | ⟨h, -⟩)
        · exact hstorable h
        · exact hbounds h

/-- The stores agree on a call exactly when its record is refused or the call is uncrossed. -/
theorem agrees_iff : Agrees P call t ↔
    (validateRecord P call.record call.content = .ok () → call.Uncrossed t) := by
  cases hvalid : validateRecord P call.record call.content with
  | error e =>
    refine iff_of_true (fun d => ?_) fun h => by cases h
    obtain ⟨hsqlite, hpostgres⟩ := reserve_refused (d := d) (t := t) hvalid
    rw [hsqlite, hpostgres]
  | ok =>
    by_cases hnone : t.rows.filter (answers call.record) = []
    · have hanswers : ∀ row ∈ t.rows, answers call.record row = false := by
        intro row hrow
        exact Bool.eq_false_iff.2 (List.filter_eq_nil_iff.1 hnone row hrow)
      rw [agrees_new_iff hvalid hnone]
      constructor
      · intro h _
        refine ⟨fun x hx _ _ hax => ?_, fun _ => h⟩
        rw [hanswers x hx] at hax
        cases hax
      · intro h
        exact (h rfl).keepable hanswers
    · rw [agrees_answered_iff hvalid hnone]
      constructor
      · intro h _
        refine ⟨h, fun hanswers => absurd (List.filter_eq_nil_iff.2 fun row hrow => ?_) hnone⟩
        rw [hanswers row hrow]
        exact Bool.false_ne_true
      · intro h
        exact (h rfl).alike

/-- The table that a result leaves. -/
def MediaCall.after (call : MediaCall) (t : MediaTable) :
    Except Exn PublicationMediaReservation → MediaTable
  | .ok reservation => if reservation.created then (t.insert ⟨call.record, call.content⟩).getD t else t
  | .error _ => t

theorem MediaCall.after_replay : call.after t (call.replay row) = t := by
  rw [replay_eq]
  split
  · split <;> rfl
  · rfl

theorem Sqlite.settle_eq : (settle t (Sqlite.reserve P d call.record call.content t)).2 =
    call.after t (settle t (Sqlite.reserve P d call.record call.content t)).1 := by
  cases hvalid : validateRecord P call.record call.content with
  | error e =>
    rw [(reserve_refused (t := t) hvalid).1]
    rfl
  | ok =>
    cases hfirst : d.first (t.rows.filter (answers call.record)) with
    | some row =>
      rw [Sqlite.reserve_answered hvalid hfirst, settle_replay]
      exact MediaCall.after_replay.symm
    | none =>
      rw [Sqlite.reserve_new hvalid (d.eq_nil_of_first hfirst), Sqlite.insert_eq]
      split
      · split
        · cases hinsert : t.insert ⟨call.record, call.content⟩ with
          | none => rfl
          | some t' => exact (congrArg (Option.getD · t) hinsert).symm
        · rfl
      · rfl

theorem Postgres.settle_eq : (settle t (Postgres.reserve P call.record call.content t)).2 =
    call.after t (settle t (Postgres.reserve P call.record call.content t)).1 := by
  cases hvalid : validateRecord P call.record call.content with
  | error e =>
    rw [(reserve_refused (d := .of ⟨call.record, call.content⟩) hvalid).2]
    rfl
  | ok =>
    cases hfirst : Postgres.findExisting call.record t with
    | some row =>
      rw [Postgres.reserve_answered hvalid hfirst, settle_replay]
      exact MediaCall.after_replay.symm
    | none =>
      rw [Postgres.reserve_new hvalid (List.argmin_eq_none.1 hfirst), Postgres.insert]
      split
      · cases hinsert : t.insert ⟨call.record, call.content⟩ with
        | none => rfl
        | some t' => exact (congrArg (Option.getD · t) hinsert).symm
      · rfl

/-- Stores that agree on the result leave one table. -/
theorem Agrees.settle_eq (h : Agrees P call t) (d : Delivery) :
    settle t (Sqlite.reserve P d call.record call.content t) =
      settle t (Postgres.reserve P call.record call.content t) := by
  refine Prod.ext (h d) ?_
  rw [Sqlite.settle_eq, Postgres.settle_eq, h d]

/-- The PostgreSQL store looks at the row of the key first. -/
theorem Postgres.keyBound (hvalid : validateRecord P call.record call.content = .ok ())
    (hrow : row ∈ t.rows) (hkey : hasKey call.record row = true)
    (hbinding : row.record.bindingDigest ≠ call.record.bindingDigest) :
    (settle t (Postgres.reserve P call.record call.content t)).1 = .error keyConflict := by
  have hanswer : row ∈ t.rows.filter (answers call.record) := by
    refine List.mem_filter.2 ⟨hrow, ?_⟩
    simp [answers, hkey]
  cases hfirst : Postgres.findExisting call.record t with
  | none => rw [List.argmin_eq_none.1 hfirst] at hanswer; cases hanswer
  | some p =>
    have hrank : Postgres.rank call.record p ≤ Postgres.rank call.record row :=
      List.le_of_mem_argmin hanswer hfirst
    have hkeyp : hasKey call.record p = true := by
      by_contra hne
      rw [Postgres.rank, if_neg hne, Postgres.rank, if_pos hkey] at hrank
      split at hrank <;> omega
    have hp : p = row := eq_of_hasKey (List.mem_filter.1 (List.argmin_mem hfirst)).1 hrow hkeyp hkey
    rw [Postgres.reserve_answered hvalid hfirst, settle_replay, MediaCall.replay_eq, hp,
      if_neg hbinding]

/-! ## Sequences of calls -/

/-- Where every call is uncrossed, the runs of the stores are one. -/
theorem run_eq {ordered : List (MediaCall × Delivery)}
    (h : ∀ answer ∈ Postgres.run P (ordered.map Prod.fst) t, answer.Uncrossed P) :
    Sqlite.run P ordered t = Postgres.run P (ordered.map Prod.fst) t := by
  induction ordered generalizing t with
  | nil => rfl
  | cons ordered rest ih =>
    obtain ⟨call, d⟩ := ordered
    rw [List.map_cons, Postgres.run] at h ⊢
    obtain ⟨hcall, hrest⟩ := List.forall_mem_cons.1 h
    rw [Sqlite.run, (agrees_iff.2 hcall).settle_eq d]
    exact congrArg _ (ih hrest)

/-- Where the results are those of PostgreSQL for every order of rows, every call is uncrossed. -/
theorem uncrossed_of_results {calls : List MediaCall}
    (h : ∀ ordered : List (MediaCall × Delivery), ordered.map Prod.fst = calls →
      (Sqlite.run P ordered t).map Answer.result = (Postgres.run P calls t).map Answer.result) :
    ∀ answer ∈ Postgres.run P calls t, answer.Uncrossed P := by
  induction calls generalizing t with
  | nil =>
    intro answer hanswer
    cases hanswer
  | cons call calls ih =>
    have hagrees : Agrees P call t := by
      intro d
      have hhead := h ((call, d) :: calls.map fun c => (c, d))
        (by rw [List.map_cons, List.map_map]; exact congrArg _ (List.map_id calls))
      rw [Sqlite.run, Postgres.run, List.map_cons, List.map_cons] at hhead
      exact (List.cons.inj hhead).1
    rw [Postgres.run]
    refine List.forall_mem_cons.2 ⟨agrees_iff.1 hagrees, ih fun ordered hordered => ?_⟩
    have htail := h ((call, .of ⟨call.record, call.content⟩) :: ordered) (by rw [List.map_cons, hordered])
    rw [Sqlite.run, Postgres.run, hagrees.settle_eq, List.map_cons, List.map_cons] at htail
    exact (List.cons.inj htail).2

theorem Postgres.run_keyBound {calls : List MediaCall} :
    ∀ answer ∈ Postgres.run P calls t, answer.KeyBound P := by
  induction calls generalizing t with
  | nil =>
    intro answer hanswer
    cases hanswer
  | cons call calls ih =>
    rw [Postgres.run]
    refine List.forall_mem_cons.2 ⟨?_, ih⟩
    intro hvalid hkey
    obtain ⟨row, hrow, hkey, hbinding⟩ := hkey
    exact ⟨_, Postgres.keyBound hvalid hrow hkey hbinding⟩

end

/-- Over any sequence of calls, both stores give the same results, and both meet the conflict of a
key, for every order in which rows are delivered, exactly when no call whose record is accepted is
crossed. -/
theorem media_reservations_agree (P : Platform) (calls : List MediaCall) :
    ((∀ ordered : List (MediaCall × Delivery), ordered.map Prod.fst = calls →
        (Sqlite.run P ordered Table.empty).map Answer.result =
          (Postgres.run P calls Table.empty).map Answer.result ∧
        ∀ answer ∈ Sqlite.run P ordered Table.empty, answer.KeyBound P) ∧
      ∀ answer ∈ Postgres.run P calls Table.empty, answer.KeyBound P) ↔
    ∀ answer ∈ Postgres.run P calls Table.empty, answer.Uncrossed P := by
  constructor
  · intro h
    exact uncrossed_of_results fun ordered hordered => (h.1 ordered hordered).1
  · intro h
    refine ⟨fun ordered hordered => ?_, Postgres.run_keyBound⟩
    rw [← hordered] at h ⊢
    rw [run_eq h]
    exact ⟨rfl, Postgres.run_keyBound⟩

namespace MediaSample

def content : Bytes := [255, 216, 255, 217]

/-- SHA-256 of the one content. -/
def platform : Platform where
  sha256 _ := lit "32461d5bd1773012acef0ba15636752949bd7c2ce50f9172159d9f56cf0dd9af"
  loads _ := .decodeError
  fromisoformat _ := none
  urlsplit _ := none
  hmacSha1 _ _ := []

/-- A digest of one digit. -/
def digest (digit : Nat) : Str := List.replicate 64 (Fin.ofNat _ (0x30 + digit))

/-- The media of a run, reserved with a key and a binding of these digits. -/
def call (runId : String) (key binding : Nat) : MediaCall where
  record :=
    { mediaId := lit "m" ++ [Fin.ofNat _ (0x30 + binding)]
      tenantId := lit "t"
      runId := lit runId
      channelId := lit "instagram"
      contentType := lit "image/jpeg"
      byteSize := 4
      sha256 := platform.sha256 content
      width := 320
      height := 400
      altText := lit "Launch"
      rightsAttestedBy := lit "u"
      publicTokenDigest := digest binding
      publicSigningKeyId := lit "k"
      createdAt := ⟨0, by decide⟩
      expiresAt := ⟨600000000, by decide⟩
      revokedAt := none
      idempotencyDigest := digest key
      bindingDigest := digest binding
      revocationReason := [] }
  content := content

/-- The third call uses the key of the first with the binding of the second. -/
def calls : List MediaCall := [call "a" 1 1, call "b" 2 2, call "b" 1 2]

/-- The row of the second call, which is delivered first. -/
def ordered : List (MediaCall × Delivery) :=
  calls.map fun c => (c, .of ⟨(call "b" 2 2).record, content⟩)

end MediaSample

/-- A key that is stored with one binding is replayed with another one. -/
theorem media_reservations_crossed :
    ¬ ∀ (P : Platform) (ordered : List (MediaCall × Delivery)),
      (Sqlite.run P ordered Table.empty).map Answer.result =
        (Postgres.run P (ordered.map Prod.fst) Table.empty).map Answer.result ∧
      ∀ answer ∈ Sqlite.run P ordered Table.empty, answer.KeyBound P := by
  intro h
  have hresults := (h MediaSample.platform MediaSample.ordered).1
  have hsqlite : (Sqlite.run MediaSample.platform MediaSample.ordered Table.empty).map
      Answer.result =
        [.ok ⟨(MediaSample.call "a" 1 1).record, true, false⟩,
          .ok ⟨(MediaSample.call "b" 2 2).record, true, false⟩,
          .ok ⟨(MediaSample.call "b" 2 2).record, false, true⟩] := by
    decide
  have hpostgres : (Postgres.run MediaSample.platform (MediaSample.ordered.map Prod.fst)
      Table.empty).map Answer.result =
        [.ok ⟨(MediaSample.call "a" 1 1).record, true, false⟩,
          .ok ⟨(MediaSample.call "b" 2 2).record, true, false⟩, .error keyConflict] := by
    decide
  rw [hsqlite, hpostgres] at hresults
  cases hresults

/-- A call that is made again with its key and its binding is replayed by both stores. -/
theorem media_reservations_agree_replayed :
    ∀ ordered : List (MediaCall × Delivery),
      ordered.map Prod.fst = [MediaSample.call "a" 1 1, MediaSample.call "a" 1 1] →
      (Sqlite.run MediaSample.platform ordered Table.empty).map Answer.result =
        [.ok ⟨(MediaSample.call "a" 1 1).record, true, false⟩,
          .ok ⟨(MediaSample.call "a" 1 1).record, false, true⟩] := by
  have hfew : ∀ answer ∈ Postgres.run MediaSample.platform
      [MediaSample.call "a" 1 1, MediaSample.call "a" 1 1] Table.empty,
      answer.before.rows.length ≤ 1 ∧ Postgres.storable answer.call.record = true := by
    decide
  have huncrossed : ∀ answer ∈ Postgres.run MediaSample.platform
      [MediaSample.call "a" 1 1, MediaSample.call "a" 1 1] Table.empty,
      answer.Uncrossed MediaSample.platform := by
    intro answer hanswer _
    obtain ⟨hlength, hstorable⟩ := hfew answer hanswer
    refine ⟨fun x hx y hy _ _ hne => absurd ?_ hne, fun _ => .inl hstorable⟩
    cases hrows : answer.before.rows with
    | nil => rw [hrows] at hx; cases hx
    | cons row rest =>
      rw [hrows, List.length_cons] at hlength
      have hrest : rest = [] := List.eq_nil_of_length_eq_zero (by omega)
      rw [hrows, hrest, List.mem_singleton] at hx hy
      rw [hx, hy]
  intro ordered hordered
  have hresults := ((media_reservations_agree MediaSample.platform _).2 huncrossed).1 ordered hordered
  rw [hresults.1]
  decide

end Media

end AgencyRuntime
