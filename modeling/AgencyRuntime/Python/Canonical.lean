import AgencyRuntime.Python.RoundTrip
import Mathlib.Data.List.TakeWhile

/-!
# Values up to the order of members

`Json.normal` sorts the members of every object. A well-formed value (distinct names, numbers that
can be written, floats with the text of a float) is read back from its canonical text as its normal
form (`jsonLoads_canonicalText`); what the decoder returns is well formed (`jsonLoads_wellFormed`).
So two well-formed values have one canonical text exactly when they are equal up to the order of
members.
-/

namespace AgencyRuntime

mutual

/-- The value with the members of its objects sorted. -/
def Json.normal : Json → Json
  | .arr items => .arr (normalItems items)
  | .obj fields => .obj (sortFields (normalFields fields))
  | j => j

def normalItems : List Json → List Json
  | [] => []
  | x :: xs => x.normal :: normalItems xs

def normalFields : List (Str × Json) → List (Str × Json)
  | [] => []
  | (name, x) :: rest => (name, x.normal) :: normalFields rest

end

/-- A value as the runtime holds it: what `json.dumps` can write and `json.loads` returns. -/
inductive Json.WellFormed (F : Floats) : Json → Prop
  | null : WellFormed F .null
  | bool (b : Bool) : WellFormed F (.bool b)
  | int {n : Int} : n.natAbs < 10 ^ maxStrDigits → WellFormed F (.int n)
  | float {r : Str} : IsFloatText F.text r → WellFormed F (.float r)
  | str (s : Str) : WellFormed F (.str s)
  | arr {items : List Json} : (∀ x ∈ items, WellFormed F x) → WellFormed F (.arr items)
  | obj {fields : List (Str × Json)} : (fields.map Prod.fst).Nodup →
      (∀ m ∈ fields, WellFormed F m.2) → WellFormed F (.obj fields)

theorem canonicalTextItems_eq (items : List Json) :
    canonicalTextItems items = items.map canonicalText := by
  induction items with
  | nil => rfl
  | cons x xs ih => rw [canonicalTextItems, ih, List.map_cons]

theorem canonicalTextFields_eq (fields : List (Str × Json)) :
    canonicalTextFields fields = fields.map fun m => (m.1, canonicalText m.2) := by
  induction fields with
  | nil => rfl
  | cons m fields ih => rw [canonicalTextFields, ih, List.map_cons]

theorem normalItems_eq (items : List Json) : normalItems items = items.map Json.normal := by
  induction items with
  | nil => rfl
  | cons x xs ih => rw [normalItems, ih, List.map_cons]

theorem normalFields_eq (fields : List (Str × Json)) :
    normalFields fields = fields.map fun m => (m.1, m.2.normal) := by
  induction fields with
  | nil => rfl
  | cons m fields ih => rw [normalFields, ih, List.map_cons]

/-- Sorting by name does not look at the values. -/
theorem sortFields_map {α β : Type} (f : α → β) (fields : List (Str × α)) :
    sortFields (fields.map fun m => (m.1, f m.2)) =
      (sortFields fields).map fun m => (m.1, f m.2) :=
  (List.map_insertionSort (fun a b : Str × α => a.1 ≤ b.1) (fun a b : Str × β => a.1 ≤ b.1)
    (fun m => (m.1, f m.2)) fields fun _ _ _ _ => Iff.rfl).symm

theorem mem_sortFields {α : Type} {fields : List (Str × α)} {m : Str × α} :
    m ∈ sortFields fields ↔ m ∈ fields :=
  (List.perm_insertionSort _ fields).mem_iff

/-- The text of a member. -/
def memberText (m : Str × Json) : Str := jsonString m.1 ++ Py.lit ":" ++ canonicalText m.2

theorem canonicalText_arr (items : List Json) :
    canonicalText (.arr items) =
      ch '[' :: (Py.join (Py.lit ",") (items.map canonicalText) ++ [ch ']']) := by
  rw [canonicalText, canonicalTextItems_eq]
  rfl

theorem canonicalText_obj (fields : List (Str × Json)) :
    canonicalText (.obj fields) = ch '\x7b' ::
      (Py.join (Py.lit ",") ((sortFields fields).map memberText) ++ [ch '\x7d']) := by
  rw [canonicalText, canonicalTextFields_eq, sortFields_map, List.map_map]
  rfl

theorem normal_obj (fields : List (Str × Json)) :
    (Json.obj fields).normal = .obj ((sortFields fields).map fun m => (m.1, m.2.normal)) := by
  rw [Json.normal, normalFields_eq, sortFields_map]

/-! ## Sequences -/

/-- A character that starts a value or closes nothing: neither blank nor a delimiter. -/
def Solid (c : CodePoint) : Prop :=
  (c.val ≠ 32 ∧ c.val ≠ 9 ∧ c.val ≠ 10 ∧ c.val ≠ 13) ∧ c ≠ ch ',' ∧ c ≠ ch ']' ∧ c ≠ ch '\x7d'

/-- The text starts with a solid character. -/
def StartsSolid (s : Str) : Prop := ∃ c cs, s = c :: cs ∧ Solid c

theorem skipBlank_cons {c : CodePoint} (h : c.val ≠ 32 ∧ c.val ≠ 9 ∧ c.val ≠ 10 ∧ c.val ≠ 13)
    (s : Str) : skipBlank (c :: s) = c :: s := by
  simp [skipBlank, h]

theorem StartsSolid.skipBlank {s : Str} (h : StartsSolid s) (rest : Str) :
    skipBlank (s ++ rest) = s ++ rest := by
  obtain ⟨c, cs, rfl, hc, -⟩ := h
  exact skipBlank_cons hc _

theorem solid_of_isDecimal {c : CodePoint} (h : isDecimal c = true) : Solid c := by
  have hbounds : ('0' : Char).toNat = 48 ∧ ('9' : Char).toNat = 57 := by decide
  simp only [isDecimal, Py.inRange, hbounds, Bool.and_eq_true, decide_eq_true_eq] at h
  refine ⟨by omega, ?_, ?_, ?_⟩ <;> rintro rfl <;> exact absurd h (by decide)

theorem join_cons_cons (sep s t : Str) (parts : List Str) :
    Py.join sep (s :: t :: parts) = s ++ (sep ++ Py.join sep (t :: parts)) := by
  simp [Py.join]

theorem length_le_join {parts : List Str} (h : ∀ p ∈ parts, p ≠ []) :
    parts.length ≤ (Py.join (Py.lit ",") parts).length := by
  induction parts with
  | nil => exact Nat.zero_le _
  | cons p parts ih =>
    have hp := List.length_pos_iff.2 (h p List.mem_cons_self)
    cases parts with
    | nil =>
      simp only [Py.join, List.intersperse_singleton, List.flatten_cons, List.flatten_nil,
        List.append_nil, List.length_singleton]
      exact hp
    | cons q parts =>
      have := ih fun r hr => h r (List.mem_cons_of_mem p hr)
      rw [join_cons_cons, List.length_append, List.length_append]
      simp only [List.length_cons] at this ⊢
      omega

/-- A part of a joined text is no longer than the whole. -/
theorem length_mem_join (sep : Str) {parts : List Str} {p : Str} (h : p ∈ parts) :
    p.length ≤ (Py.join sep parts).length := by
  induction parts with
  | nil => cases h
  | cons q parts ih =>
    cases parts with
    | nil =>
      cases List.mem_singleton.1 h
      simp [Py.join]
    | cons r parts =>
      rw [join_cons_cons, List.length_append, List.length_append]
      rcases List.mem_cons.1 h with rfl | h
      · omega
      · have := ih h
        omega

section
variable {α β : Type} {close : CodePoint} {item : Str → Except Exn (β × Str)} {text : α → Str}
  {result : α → β}

/-- What the reader of a sequence needs to know of its items. -/
structure ReadsItem (close : CodePoint) (item : Str → Except Exn (β × Str)) (text : α → Str)
    (result : α → β) (x : α) : Prop where
  solid : StartsSolid (text x)
  read : ∀ c rest, c = ch ',' ∨ c = close → item (text x ++ c :: rest) = .ok (result x, c :: rest)

theorem scanSequence_join (hclose : close = ch ']' ∨ close = ch '\x7d') {x : α} {xs : List α}
    (h : ∀ y ∈ x :: xs, ReadsItem close item text result y) {bound : Nat}
    (hb : (x :: xs).length ≤ bound) (rest : Str) :
    scanSequence close item bound (Py.join (Py.lit ",") ((x :: xs).map text) ++ close :: rest) =
      .ok ((x :: xs).map result, rest) := by
  have hskip : ∀ r, skipBlank (close :: r) = close :: r := by
    intro r
    rcases hclose with rfl | rfl <;> rfl
  have hcomma : close ≠ ch ',' := by rcases hclose with rfl | rfl <;> decide
  induction xs generalizing x bound with
  | nil =>
    cases bound with
    | zero => simp at hb
    | succ bound =>
      have hread := (h x List.mem_cons_self).read close rest (.inr rfl)
      have hjoin : Py.join (Py.lit ",") (([x] : List α).map text) = text x := by simp [Py.join]
      rw [hjoin, scanSequence, hread]
      simp [bind, Except.bind, hskip]
  | cons y ys ih =>
    cases bound with
    | zero => simp at hb
    | succ bound =>
      have hread := (h x List.mem_cons_self).read (ch ',')
        (Py.join (Py.lit ",") ((y :: ys).map text) ++ close :: rest) (.inl rfl)
      have hjoin : Py.join (Py.lit ",") ((x :: y :: ys).map text) ++ close :: rest =
          text x ++ ch ',' :: (Py.join (Py.lit ",") ((y :: ys).map text) ++ close :: rest) := by
        rw [List.map_cons, List.map_cons, join_cons_cons, List.append_assoc, List.append_assoc]
        rfl
      have hsolid := (h y (by simp)).solid
      have htail : skipBlank (Py.join (Py.lit ",") ((y :: ys).map text) ++ close :: rest) =
          Py.join (Py.lit ",") ((y :: ys).map text) ++ close :: rest := by
        obtain ⟨c, cs, hcs, hc, -⟩ := hsolid
        cases ys with
        | nil => simpa [Py.join, hcs] using skipBlank_cons hc _
        | cons z zs =>
          rw [List.map_cons, List.map_cons, join_cons_cons, hcs]
          exact skipBlank_cons hc _
      have hrec := ih (x := y) (fun z hz => h z (List.mem_cons_of_mem x hz))
        (show (y :: ys).length ≤ bound by simpa using hb)
      have hsk : skipBlank (ch ',' :: (Py.join (Py.lit ",") ((y :: ys).map text) ++ close :: rest)) =
          ch ',' :: (Py.join (Py.lit ",") ((y :: ys).map text) ++ close :: rest) := rfl
      rw [hjoin, scanSequence, hread]
      simp only [bind, Except.bind, hsk, Ne.symm hcomma, if_false, if_true, htail, hrec]
      rfl

/-- A bracketed sequence reads back. -/
theorem scanBracket_join (hclose : close = ch ']' ∨ close = ch '\x7d') {xs : List α}
    (h : ∀ x ∈ xs, ReadsItem close item text result x) (rest : Str) :
    scanBracket close item (Py.join (Py.lit ",") (xs.map text) ++ close :: rest) =
      .ok (xs.map result, rest) := by
  cases xs with
  | nil => rcases hclose with rfl | rfl <;> simp [scanBracket, Py.join] <;> rfl
  | cons x xs =>
    have hsolid := (h x List.mem_cons_self).solid
    obtain ⟨c, cs, hcs, hc, -, hc1, hc2⟩ := hsolid
    have hstart : ∃ ds, Py.join (Py.lit ",") ((x :: xs).map text) ++ close :: rest = c :: ds := by
      cases xs with
      | nil => exact ⟨_, by simp [Py.join, hcs]; rfl⟩
      | cons y ys => exact ⟨_, by rw [List.map_cons, List.map_cons, join_cons_cons, hcs]; rfl⟩
    obtain ⟨ds, hds⟩ := hstart
    have hne : c ≠ close := by rcases hclose with rfl | rfl <;> assumption
    have hlen : (x :: xs).length ≤
        (Py.join (Py.lit ",") ((x :: xs).map text) ++ close :: rest).length := by
      have hnonempty : ∀ p ∈ (x :: xs).map text, p ≠ [] := by
        intro p hp
        obtain ⟨y, hy, rfl⟩ := List.mem_map.1 hp
        obtain ⟨d, ds, hd, -⟩ := (h y hy).solid
        rw [hd]
        exact List.cons_ne_nil d ds
      have hle := length_le_join hnonempty
      rw [List.length_map] at hle
      rw [List.length_append]
      omega
    have hseq := scanSequence_join hclose h hlen rest
    rw [hds] at hseq ⊢
    rw [scanBracket, skipBlank_cons hc]
    simp only [hne, if_false, hseq]

end

/-! ## Reading canonical text -/

section
variable {F : Floats}

theorem follows_cons {c : CodePoint} (h : c = ch ',' ∨ c = ch ']' ∨ c = ch '\x7d') (rest : Str) :
    Follows (c :: rest) := by
  intro d hd
  obtain rfl : c = d := by simpa using hd
  rcases h with rfl | rfl | rfl <;> decide

/-- A number starts with a digit, or with a minus and a digit. -/
theorem render_head {t : NumberText} (ht : t.Valid) :
    ∃ c cs, t.render = c :: cs ∧ (isDecimal c = true ∨
      c = ch '-' ∧ ∃ d ds, cs = d :: ds ∧ isDecimal d = true) := by
  obtain ⟨c, cs, hw, hc⟩ := ht.head
  rw [render_eq, hw]
  cases t.negative with
  | true => exact ⟨_, _, rfl, .inr ⟨rfl, _, _, rfl, hc⟩⟩
  | false => exact ⟨_, _, rfl, .inl hc⟩

/-- No constant of the grammar is a prefix of a number. -/
theorem constants_render {t : NumberText} (ht : t.Valid) (rest : Str) :
    (constants.find? fun k => k.1.isPrefixOf (t.render ++ rest)) = none := by
  obtain ⟨c, cs, hr, hc⟩ := render_head ht
  rw [List.find?_eq_none]
  intro k hk hpre
  rw [hr] at hpre
  have hfirst : ∀ e es, k.1 = e :: es → isDecimal e = false →
      (e = ch '-' → ∃ d ds, es = d :: ds ∧ isDecimal d = false) → False := by
    intro e es hke hnd hminus
    rw [hke] at hpre
    obtain ⟨u, hu⟩ := List.isPrefixOf_iff_prefix.1 hpre
    obtain ⟨rfl, htail⟩ := List.cons.inj hu
    rcases hc with hc | ⟨rfl, d, ds, rfl, hd⟩
    · rw [hnd] at hc
      cases hc
    · obtain ⟨d', ds', rfl, hd'⟩ := hminus rfl
      obtain ⟨rfl, -⟩ := List.cons.inj htail
      rw [hd] at hd'
      cases hd'
  simp only [constants, List.mem_cons, List.not_mem_nil, or_false] at hk
  rcases hk with rfl | rfl | rfl | rfl | rfl | rfl
  · exact hfirst (ch 'n') _ rfl rfl (fun h => absurd h (by decide))
  · exact hfirst (ch 't') _ rfl rfl (fun h => absurd h (by decide))
  · exact hfirst (ch 'f') _ rfl rfl (fun h => absurd h (by decide))
  · exact hfirst (ch 'N') _ rfl rfl (fun h => absurd h (by decide))
  · exact hfirst (ch 'I') _ rfl rfl (fun h => absurd h (by decide))
  · exact hfirst (ch '-') _ rfl rfl fun _ => ⟨ch 'I', _, rfl, rfl⟩

theorem scanScalar_render {t : NumberText} (ht : t.Valid) {rest : Str} (hr : Follows rest) :
    scanScalar F (t.render ++ rest) = (t.value F).map fun x => (x, rest) := by
  rw [scanScalar, constants_render ht, scanNumber_append ht hr]
  simp only
  cases t.value F <;> rfl

/-- The value reader hands a number to the scalar reader. -/
theorem scanValue_render {t : NumberText} (ht : t.Valid) {rest : Str} (hr : Follows rest)
    {depth : Nat} (hd : 0 < depth) :
    scanValue F depth (t.render ++ rest) = (t.value F).map fun x => (x, rest) := by
  have hscalar := scanScalar_render (F := F) ht hr
  obtain ⟨c, cs, heq, hc⟩ := render_head ht
  have hne : c ≠ ch '"' ∧ c ≠ ch '[' ∧ c ≠ ch '\x7b' := by
    rcases hc with hc | ⟨rfl, -⟩
    · refine ⟨?_, ?_, ?_⟩ <;> rintro rfl <;> exact absurd hc (by decide)
    · decide
  rw [heq] at hscalar ⊢
  cases depth with
  | zero => cases hd
  | succ depth =>
    rw [List.cons_append] at hscalar ⊢
    rw [scanValue, if_neg hne.1, if_neg hne.2.1, if_neg hne.2.2, hscalar]

theorem startsSolid_canonicalText {j : Json} (h : j.WellFormed F) :
    StartsSolid (canonicalText j) := by
  have hrender : ∀ t : NumberText, t.Valid → StartsSolid t.render := by
    intro t ht
    obtain ⟨c, cs, hr, hc⟩ := render_head ht
    refine ⟨c, cs, hr, ?_⟩
    rcases hc with hc | ⟨rfl, -⟩
    · exact solid_of_isDecimal hc
    · exact ⟨by decide, by decide, by decide, by decide⟩
  cases h with
  | null => exact ⟨ch 'n', _, rfl, by decide, by decide, by decide, by decide⟩
  | bool b =>
    cases b with
    | true => exact ⟨ch 't', _, rfl, by decide, by decide, by decide, by decide⟩
    | false => exact ⟨ch 'f', _, rfl, by decide, by decide, by decide, by decide⟩
  | @int n _ =>
    rw [canonicalText, ← integerText_render]
    exact hrender _ (integerText_valid n)
  | @float r hr =>
    rw [canonicalText]
    rcases hr with hr | ⟨t, ht, -, rfl, -⟩
    · simp only [specialFloats, List.mem_cons, List.not_mem_nil, or_false] at hr
      rcases hr with rfl | rfl | rfl
      · exact ⟨ch 'N', _, rfl, by decide, by decide, by decide, by decide⟩
      · exact ⟨ch 'I', _, rfl, by decide, by decide, by decide, by decide⟩
      · exact ⟨ch '-', _, rfl, by decide, by decide, by decide, by decide⟩
    · exact hrender t ht
  | str s => exact ⟨ch '"', _, rfl, by decide, by decide, by decide, by decide⟩
  | arr _ =>
    rw [canonicalText_arr]
    exact ⟨_, _, rfl, by decide, by decide, by decide, by decide⟩
  | obj _ _ =>
    rw [canonicalText_obj]
    exact ⟨_, _, rfl, by decide, by decide, by decide, by decide⟩

/-- Distinct names make a dictionary as they are. -/
theorem dictOf_eq {α : Type} {pairs : List (Str × α)} (h : (pairs.map Prod.fst).Nodup) :
    dictOf pairs = pairs := by
  have hfold : ∀ (rest d : List (Str × α)), ((d ++ rest).map Prod.fst).Nodup →
      rest.foldl setMember d = d ++ rest := by
    intro rest
    induction rest with
    | nil => exact fun d _ => (List.append_nil d).symm
    | cons m rest ih =>
      intro d hd
      have hfresh : m.1 ∉ d.map Prod.fst := by
        rw [List.map_append, List.nodup_append] at hd
        exact fun hm => hd.2.2 _ hm m.1 (by simp) rfl
      rw [List.foldl_cons, setMember, if_neg hfresh, ih (d ++ [m]) (by simpa using hd)]
      simp
  exact hfold pairs [] h

theorem nodup_sortFields {α : Type} {fields : List (Str × α)} (h : (fields.map Prod.fst).Nodup) :
    ((sortFields fields).map Prod.fst).Nodup :=
  (((List.perm_insertionSort _ fields).map Prod.fst).nodup_iff).2 h

/-- The reader of members on the text of a member. -/
theorem scanMember_append {value : Str → Except Exn (Json × Str)} {m : Str × Json} {x : Json}
    {rest : Str} (hs : StartsSolid (canonicalText m.2))
    (hv : value (canonicalText m.2 ++ rest) = .ok (x, rest)) :
    scanMember value (memberText m ++ rest) = .ok ((m.1, x), rest) := by
  have heq : memberText m ++ rest = ch '"' :: (m.1.flatMap jsonEscape ++
      ch '"' :: (ch ':' :: (canonicalText m.2 ++ rest))) := by
    rw [memberText, List.append_assoc, List.append_assoc, jsonString_append]
    rfl
  have hcolon : ∀ r, skipBlank (ch ':' :: r) = ch ':' :: r := fun _ => rfl
  rw [heq, scanMember, scanString_flatMap]
  simp only [if_true, bind, Except.bind, hcolon, hs.skipBlank rest, hv]
  rfl

/-- Canonical text reads back as the normal form of the value. The bound on the depth is what the
text is long. -/
theorem scanValue_canonicalText {j : Json} (h : j.WellFormed F) :
    ∀ {depth : Nat} {rest : Str}, (canonicalText j).length ≤ depth → Follows rest →
      scanValue F depth (canonicalText j ++ rest) = .ok (j.normal, rest) := by
  induction h with
  | null =>
    intro depth rest hd _
    cases depth with
    | zero => cases hd
    | succ depth => rfl
  | bool b =>
    intro depth rest hd _
    cases depth with
    | zero => cases b <;> cases hd
    | succ depth => cases b <;> rfl
  | @int n hn =>
    intro depth rest hd hr
    obtain ⟨c, cs, hcs, -⟩ := startsSolid_canonicalText (Json.WellFormed.int (F := F) hn)
    have hpos : 0 < depth := by
      rw [hcs, List.length_cons] at hd
      omega
    rw [canonicalText, ← integerText_render, scanValue_render (integerText_valid n) hr hpos,
      integerText_value F hn]
    rfl
  | @float r hfloat =>
    intro depth rest hd hr
    obtain ⟨c, cs, hcs, -⟩ := startsSolid_canonicalText (Json.WellFormed.float hfloat)
    have hpos : 0 < depth := by
      rw [hcs, List.length_cons] at hd
      omega
    rw [canonicalText]
    rcases hfloat with hspecial | ⟨t, ht, hfl, rfl, htext⟩
    · simp only [specialFloats, List.mem_cons, List.not_mem_nil, or_false] at hspecial
      cases depth with
      | zero => cases hpos
      | succ depth => rcases hspecial with rfl | rfl | rfl <;> rfl
    · rw [scanValue_render ht hr hpos, NumberText.value, if_pos hfl, htext]
      rfl
  | str s =>
    intro depth rest hd _
    cases depth with
    | zero => cases hd
    | succ depth =>
      rw [canonicalText, jsonString_append, scanValue, if_pos rfl, scanString_flatMap]
      rfl
  | @arr items hwf ih =>
    intro depth rest hd _
    rw [canonicalText_arr] at hd ⊢
    cases depth with
    | zero => cases hd
    | succ depth =>
      rw [List.length_cons, List.length_append, List.length_singleton] at hd
      have hread : ∀ x ∈ items,
          ReadsItem (ch ']') (scanValue F depth) canonicalText Json.normal x := by
        intro x hx
        have hlen := length_mem_join (Py.lit ",") (List.mem_map_of_mem (f := canonicalText) hx)
        refine ⟨startsSolid_canonicalText (hwf x hx), fun c rest hc => ?_⟩
        exact ih x hx (by omega) (follows_cons (by tauto) rest)
      have hscan := scanBracket_join (.inl rfl) hread rest
      rw [List.cons_append, List.append_assoc, scanValue, if_neg (by decide), if_pos rfl]
      rw [show [ch ']'] ++ rest = ch ']' :: rest from rfl, hscan, Json.normal, normalItems_eq]
      rfl
  | @obj fields hnodup hwf ih =>
    intro depth rest hd _
    rw [canonicalText_obj] at hd ⊢
    cases depth with
    | zero => cases hd
    | succ depth =>
      rw [List.length_cons, List.length_append, List.length_singleton] at hd
      have hread : ∀ m ∈ sortFields fields, ReadsItem (ch '\x7d') (scanMember (scanValue F depth))
          memberText (fun m => (m.1, m.2.normal)) m := by
        intro m hm
        have hmem := mem_sortFields.1 hm
        have hlen := length_mem_join (Py.lit ",") (List.mem_map_of_mem (f := memberText) hm)
        have hsub : (canonicalText m.2).length ≤ (memberText m).length := by
          rw [memberText, List.length_append]
          omega
        refine ⟨⟨ch '"', _, rfl, by decide, by decide, by decide, by decide⟩, fun c rest hc => ?_⟩
        exact scanMember_append (startsSolid_canonicalText (hwf m hmem))
          (ih m hmem (by omega) (follows_cons (by tauto) rest))
      have hscan := scanBracket_join (.inr rfl) hread rest
      have hnames : (((sortFields fields).map fun m => (m.1, m.2.normal)).map Prod.fst).Nodup := by
        rw [List.map_map]
        exact nodup_sortFields hnodup
      rw [List.cons_append, List.append_assoc, scanValue, if_neg (by decide), if_neg (by decide),
        if_pos rfl]
      rw [show [ch '\x7d'] ++ rest = ch '\x7d' :: rest from rfl, hscan, normal_obj]
      show Except.ok (Json.obj (dictOf _), rest) = _
      rw [dictOf_eq hnames]

/-- Canonical text reads back as the value with its members sorted. -/
theorem jsonLoads_canonicalText {j : Json} (h : j.WellFormed F) :
    jsonLoads F (canonicalText j) = .ok j.normal := by
  have hskip := (startsSolid_canonicalText h).skipBlank []
  rw [List.append_nil] at hskip
  have hscan := scanValue_canonicalText h (Nat.le_refl _) (show Follows [] from nofun)
  rw [List.append_nil] at hscan
  rw [jsonLoads, hskip, hscan]
  rfl

/-- Canonical text determines a well-formed value up to the order of members. -/
theorem normal_eq_of_canonicalText {j k : Json} (hj : j.WellFormed F) (hk : k.WellFormed F)
    (h : canonicalText j = canonicalText k) : j.normal = k.normal := by
  have h1 := jsonLoads_canonicalText hj
  rw [h, jsonLoads_canonicalText hk] at h1
  exact (Except.ok.inj h1).symm

/-! ## Normal forms -/

theorem sortFields_sortFields {α : Type} (fields : List (Str × α)) :
    sortFields (sortFields fields) = sortFields fields :=
  (List.pairwise_insertionSort _ fields).insertionSort_eq

theorem Json.WellFormed.normal {j : Json} (h : j.WellFormed F) : j.normal.WellFormed F := by
  induction h with
  | null => exact .null
  | bool b => exact .bool b
  | int hn => exact .int hn
  | float hr => exact .float hr
  | str s => exact .str s
  | arr _ ih =>
    rw [Json.normal, normalItems_eq]
    refine .arr fun x hx => ?_
    obtain ⟨y, hy, rfl⟩ := List.mem_map.1 hx
    exact ih y hy
  | obj hnodup _ ih =>
    rw [normal_obj]
    refine .obj (by rw [List.map_map]; exact nodup_sortFields hnodup) fun m hm => ?_
    obtain ⟨n, hn, rfl⟩ := List.mem_map.1 hm
    exact ih n (mem_sortFields.1 hn)

/-- A value and its normal form have one canonical text. -/
theorem canonicalText_normal {j : Json} (h : j.WellFormed F) :
    canonicalText j.normal = canonicalText j := by
  induction h with
  | null | bool | int | float | str => rfl
  | @arr items _ ih =>
    rw [Json.normal, normalItems_eq, canonicalText_arr, canonicalText_arr, List.map_map]
    have hmap : items.map (canonicalText ∘ Json.normal) = items.map canonicalText :=
      List.map_congr_left ih
    rw [hmap]
  | @obj fields _ _ ih =>
    rw [normal_obj, canonicalText_obj, canonicalText_obj, sortFields_map, sortFields_sortFields,
      List.map_map]
    have hmap : (sortFields fields).map (memberText ∘ fun m => (m.1, m.2.normal)) =
        (sortFields fields).map memberText := by
      refine List.map_congr_left fun m hm => ?_
      show jsonString m.1 ++ Py.lit ":" ++ canonicalText m.2.normal = _
      rw [ih m (mem_sortFields.1 hm), memberText]
    rw [hmap]

theorem renderableItems_eq (items : List Json) :
    renderableItems items = items.all Json.renderable := by
  induction items with
  | nil => rfl
  | cons x xs ih => rw [renderableItems, ih, List.all_cons]

theorem renderableFields_eq (fields : List (Str × Json)) :
    renderableFields fields = fields.all fun m => m.2.renderable := by
  induction fields with
  | nil => rfl
  | cons m fields ih => rw [renderableFields, ih, List.all_cons]

theorem Json.WellFormed.renderable {j : Json} (h : j.WellFormed F) : j.renderable = true := by
  induction h with
  | null | bool | float | str => rfl
  | int hn => rw [Json.renderable, decide_eq_true_eq]; exact hn
  | arr _ ih => rw [Json.renderable, renderableItems_eq, List.all_eq_true]; exact ih
  | obj _ _ ih => rw [Json.renderable, renderableFields_eq, List.all_eq_true]; exact ih

/-- `canonical_json` of a well-formed value succeeds. -/
theorem canonicalJson_wellFormed {j : Json} (h : j.WellFormed F) :
    canonicalJson j = .ok (canonicalText j) := by
  rw [canonicalJson, if_pos h.renderable]

/-! ## What the decoder returns -/

theorem span_all {p : CodePoint → Bool} {s a b : Str} (h : s.span p = (a, b)) :
    ∀ c ∈ a, p c = true := by
  rw [List.span_eq_takeWhile_dropWhile] at h
  obtain ⟨rfl, -⟩ := Prod.mk.inj h
  exact fun c hc => List.mem_takeWhile_imp hc

theorem scanDigits_digits {s digits rest : Str} (h : scanDigits s = some (digits, rest)) :
    NumberText.Digits digits := by
  unfold scanDigits at h
  split at h
  · cases h
  · next r hne =>
    have hspan := Option.some.inj h
    refine ⟨?_, span_all hspan⟩
    rintro rfl
    exact hne _ hspan

theorem scanUnsigned_valid {negative : Bool} {s : Str} {t : NumberText} {rest : Str}
    (h : scanUnsigned negative s = some (t, rest)) : t.Valid := by
  obtain ⟨⟨whole, r⟩, hw, ht⟩ := Option.map_eq_some_iff.1 h
  obtain ⟨rfl, -⟩ := Prod.mk.inj ht
  refine ⟨?_, ?_, ?_⟩
  · cases s with
    | nil => cases hw
    | cons c s =>
      rw [scanWhole] at hw
      split at hw
      · next hc =>
        obtain ⟨rfl, -⟩ := Prod.mk.inj (Option.some.inj hw)
        exact .inl (by rw [hc])
      · next hc =>
        split at hw
        · next hd =>
          have hspan := Option.some.inj hw
          rw [List.span_eq_takeWhile_dropWhile, List.takeWhile_cons_of_pos hd] at hspan
          obtain ⟨rfl, -⟩ := Prod.mk.inj hspan
          refine .inr ⟨c, _, rfl, hc, List.cons_ne_nil _ _, fun d hd' => ?_⟩
          rcases List.mem_cons.1 hd' with rfl | hd'
          · exact hd
          · exact List.mem_takeWhile_imp hd'
        · cases hw
  · intro digits hdig
    have hdig : (scanFraction r).1 = some digits := hdig
    cases r with
    | nil => cases hdig
    | cons c r =>
      rw [scanFraction] at hdig
      split at hdig
      · split at hdig
        · next hscan =>
          obtain rfl := Option.some.inj hdig
          exact scanDigits_digits hscan
        · cases hdig
      · cases hdig
  · intro e he
    have he : (scanExponent (scanFraction r).2).1 = some e := he
    cases hr : (scanFraction r).2 with
    | nil => rw [hr] at he; cases he
    | cons c r' =>
      rw [hr, scanExponent] at he
      split at he
      · next hc =>
        split at he
        · next hscan =>
          obtain rfl := Option.some.inj he
          refine ⟨hc, fun sign hs => ?_, scanDigits_digits hscan⟩
          have hs : (scanSign r').1 = some sign := hs
          cases r' with
          | nil => cases hs
          | cons d r' =>
            rw [scanSign] at hs
            split at hs
            · next hd => obtain rfl := Option.some.inj hs; exact hd
            · cases hs
        · cases he
      · cases he

theorem scanNumber_valid {s : Str} {t : NumberText} {rest : Str}
    (h : scanNumber s = some (t, rest)) : t.Valid := by
  cases s with
  | nil => cases h
  | cons c s =>
    rw [scanNumber] at h
    split at h <;> exact scanUnsigned_valid h

theorem decimalValue_lt {s : Str} (h : ∀ c ∈ s, isDecimal c = true) :
    decimalValue s < 10 ^ s.length := by
  have hfold : ∀ (s : Str) (n : Nat), (∀ c ∈ s, isDecimal c = true) →
      s.foldl (fun n c => 10 * n + (c.val - 48)) n < (n + 1) * 10 ^ s.length := by
    intro s
    induction s with
    | nil => intro n _; simp
    | cons c s ih =>
      intro n hs
      have hc := hs c List.mem_cons_self
      have hbounds : ('0' : Char).toNat = 48 ∧ ('9' : Char).toNat = 57 := by decide
      simp only [isDecimal, Py.inRange, hbounds, Bool.and_eq_true, decide_eq_true_eq] at hc
      have hrec := ih (10 * n + (c.val - 48)) fun d hd => hs d (List.mem_cons_of_mem c hd)
      refine Nat.lt_of_lt_of_le hrec ?_
      rw [List.length_cons, Nat.pow_succ, Nat.mul_comm (10 ^ s.length), ← Nat.mul_assoc]
      exact Nat.mul_le_mul_right _ (by omega)
  simpa [decimalValue] using hfold s 0 h

theorem NumberText.value_wellFormed {t : NumberText} (ht : t.Valid) {j : Json}
    (h : t.value F = .ok j) : j.WellFormed F := by
  unfold NumberText.value at h
  split at h
  · obtain rfl := Except.ok.inj h
    exact .float (F.isFloatText t ht)
  · split at h
    · next hlen =>
      obtain rfl := Except.ok.inj h
      have hall : ∀ c ∈ t.whole, isDecimal c = true := by
        rcases ht.whole with hw | ⟨_, _, _, _, _, hall⟩
        · intro c hc
          rw [hw, List.mem_singleton] at hc
          rw [hc]
          decide
        · exact hall
      have hlt : decimalValue t.whole < 10 ^ maxStrDigits :=
        Nat.lt_of_lt_of_le (decimalValue_lt hall) (Nat.pow_le_pow_right (by decide) hlen)
      refine .int ?_
      split
      · rw [Int.natAbs_neg]
        exact hlt
      · exact hlt
    · cases h

/-- Every item of a read sequence was returned by the reader of items. -/
theorem scanSequence_all {α : Type} {close : CodePoint} {item : Str → Except Exn (α × Str)}
    {Q : α → Prop} (hitem : ∀ s x rest, item s = .ok (x, rest) → Q x) {bound : Nat} {s : Str}
    {xs : List α} {rest : Str} (h : scanSequence close item bound s = .ok (xs, rest)) :
    ∀ x ∈ xs, Q x := by
  induction bound generalizing s xs rest with
  | zero => cases h
  | succ bound ih =>
    rw [scanSequence] at h
    obtain ⟨⟨x, r⟩, hx, h⟩ := exceptBind_ok h
    simp only at h
    split at h
    · cases h
    · split at h
      · obtain ⟨rfl, -⟩ := Prod.mk.inj (Except.ok.inj h)
        intro y hy
        rw [List.mem_singleton] at hy
        exact hy ▸ hitem s x r hx
      · split at h
        · obtain ⟨⟨ys, r'⟩, hys, h⟩ := exceptBind_ok h
          obtain ⟨rfl, -⟩ := Prod.mk.inj (Except.ok.inj h)
          intro y hy
          rcases List.mem_cons.1 hy with rfl | hy
          · exact hitem s y r hx
          · exact ih hys y hy
        · cases h

theorem scanBracket_all {α : Type} {close : CodePoint} {item : Str → Except Exn (α × Str)}
    {Q : α → Prop} (hitem : ∀ s x rest, item s = .ok (x, rest) → Q x) {s : Str}
    {xs : List α} {rest : Str} (h : scanBracket close item s = .ok (xs, rest)) :
    ∀ x ∈ xs, Q x := by
  unfold scanBracket at h
  split at h
  · cases h
  · split at h
    · obtain ⟨rfl, -⟩ := Prod.mk.inj (Except.ok.inj h)
      simp
    · exact scanSequence_all hitem h

/-- Putting in a member keeps the names distinct. -/
theorem setMember_spec {α : Type} {d : List (Str × α)} (m : Str × α)
    (hd : (d.map Prod.fst).Nodup) :
    ((setMember d m).map Prod.fst).Nodup ∧ ∀ n ∈ setMember d m, n ∈ d ∨ n = m := by
  unfold setMember
  split
  · next hm =>
    refine ⟨?_, fun n hn => ?_⟩
    · have hnames : (d.map fun e => if e.1 = m.1 then m else e).map Prod.fst =
          d.map Prod.fst := by
        rw [List.map_map]
        refine List.map_congr_left fun e _ => ?_
        simp only [Function.comp_apply]
        split
        · next he => exact he.symm
        · rfl
      rw [hnames]
      exact hd
    · obtain ⟨e, he, rfl⟩ := List.mem_map.1 hn
      split
      · exact .inr rfl
      · exact .inl he
  · next hm =>
    refine ⟨?_, fun n hn => by simpa using hn⟩
    rw [List.map_append, List.nodup_append]
    refine ⟨hd, by simp, ?_⟩
    rintro a ha b hb rfl
    obtain rfl : a = m.1 := by simpa using hb
    exact hm ha

/-- A dictionary has distinct names, and its members are among the pairs. -/
theorem dictOf_spec {α : Type} (pairs : List (Str × α)) :
    ((dictOf pairs).map Prod.fst).Nodup ∧ ∀ m ∈ dictOf pairs, m ∈ pairs := by
  have hfold : ∀ (rest d : List (Str × α)), (d.map Prod.fst).Nodup →
      ((rest.foldl setMember d).map Prod.fst).Nodup ∧
        ∀ m ∈ rest.foldl setMember d, m ∈ d ∨ m ∈ rest := by
    intro rest
    induction rest with
    | nil => exact fun d hd => ⟨hd, fun m hm => .inl hm⟩
    | cons m rest ih =>
      intro d hd
      have hset := setMember_spec m hd
      obtain ⟨h1, h2⟩ := ih (setMember d m) hset.1
      refine ⟨h1, fun n hn => ?_⟩
      rcases h2 n hn with hn | hn
      · rcases hset.2 n hn with hn | rfl
        · exact .inl hn
        · exact .inr List.mem_cons_self
      · exact .inr (List.mem_cons_of_mem m hn)
  obtain ⟨h1, h2⟩ := hfold pairs [] (by simp)
  exact ⟨h1, fun m hm => (h2 m hm).resolve_left (by simp)⟩

theorem lookup_cons_eq {α : Type} (e : Str × α) (d : List (Str × α)) (name : Str) :
    (e :: d).lookup name = if name = e.1 then some e.2 else d.lookup name := by
  rw [List.lookup_cons]
  by_cases h : name = e.1
  · simp [h]
  · rw [if_neg h, beq_false_of_ne h]

/-- A member that is put into a dictionary is looked up there, and no other changes. -/
theorem lookup_setMember {α : Type} (d : List (Str × α)) (m : Str × α) (name : Str) :
    (setMember d m).lookup name = if name = m.1 then some m.2 else d.lookup name := by
  have hreplace (d : List (Str × α)) : (d.map fun e => if e.1 = m.1 then m else e).lookup name =
      if name = m.1 ∧ m.1 ∈ d.map Prod.fst then some m.2 else d.lookup name := by
    induction d with
    | nil => simp
    | cons e d ih =>
      rw [List.map_cons, lookup_cons_eq, lookup_cons_eq, ih]
      simp only [List.map_cons, List.mem_cons]
      by_cases hm : e.1 = m.1
      · by_cases hname : name = m.1 <;> simp [hm, hname]
      · by_cases hname : name = e.1
        · simp [hname, hm]
        · have hm' : ¬ m.1 = e.1 := fun h => hm h.symm
          simp only [if_neg hm, if_neg hname, or_iff_right hm']
  unfold setMember
  split
  · next hmem => rw [hreplace]; simp [hmem]
  · next hmem =>
    rw [List.lookup_append]
    by_cases hname : name = m.1
    · have hnone : d.lookup name = none := by
        rw [List.lookup_eq_none_iff]
        rintro e he
        rw [hname, bne_iff_ne]
        rintro heq
        exact hmem (heq ▸ List.mem_map_of_mem he)
      rw [hnone, lookup_cons_eq, if_pos hname, if_pos hname, Option.none_or]
    · rw [lookup_cons_eq, if_neg hname, if_neg hname, List.lookup_nil, Option.or_none]

theorem scanScalar_wellFormed {s : Str} {j : Json} {rest : Str}
    (h : scanScalar F s = .ok (j, rest)) : j.WellFormed F := by
  unfold scanScalar at h
  split at h
  · next k hk =>
    obtain ⟨rfl, -⟩ := Prod.mk.inj (Except.ok.inj h)
    have hmem := List.mem_of_find?_eq_some hk
    simp only [constants, List.mem_cons, List.not_mem_nil, or_false] at hmem
    rcases hmem with rfl | rfl | rfl | rfl | rfl | rfl
    · exact .null
    · exact .bool true
    · exact .bool false
    · exact .float (.inl (by simp [specialFloats]))
    · exact .float (.inl (by simp [specialFloats]))
    · exact .float (.inl (by simp [specialFloats]))
  · split at h
    · cases h
    · next hscan =>
      obtain ⟨x, hx, h⟩ := exceptBind_ok h
      obtain ⟨rfl, -⟩ := Prod.mk.inj (Except.ok.inj h)
      exact NumberText.value_wellFormed (scanNumber_valid hscan) hx

/-- What the value reader returns is well formed: the induction is on the depth. -/
theorem scanValue_wellFormed {depth : Nat} {s : Str} {j : Json} {rest : Str}
    (h : scanValue F depth s = .ok (j, rest)) : j.WellFormed F := by
  induction depth generalizing s j rest with
  | zero => cases s <;> cases h
  | succ depth ih =>
    cases s with
    | nil => cases h
    | cons c s =>
      rw [scanValue] at h
      split at h
      · obtain ⟨⟨text, r⟩, -, h⟩ := exceptBind_ok h
        obtain ⟨rfl, -⟩ := Prod.mk.inj (Except.ok.inj h)
        exact .str text
      split at h
      · obtain ⟨⟨items, r⟩, hitems, h⟩ := exceptBind_ok h
        obtain ⟨rfl, -⟩ := Prod.mk.inj (Except.ok.inj h)
        exact .arr (scanBracket_all (fun s x r hx => ih hx) hitems)
      split at h
      · obtain ⟨⟨members, r⟩, hmembers, h⟩ := exceptBind_ok h
        obtain ⟨rfl, -⟩ := Prod.mk.inj (Except.ok.inj h)
        obtain ⟨hnames, hsub⟩ := dictOf_spec members
        refine .obj hnames fun m hm => ?_
        have hall := scanBracket_all (Q := fun m : Str × Json => m.2.WellFormed F)
          (fun s m r hm => ?_) hmembers
        · exact hall m (hsub m hm)
        · cases s with
          | nil => cases hm
          | cons d s =>
            rw [scanMember] at hm
            split at hm
            · obtain ⟨⟨name, r₁⟩, -, hm⟩ := exceptBind_ok hm
              simp only at hm
              split at hm
              · cases hm
              · split at hm
                · obtain ⟨⟨x, r₂⟩, hx, hm⟩ := exceptBind_ok hm
                  obtain ⟨rfl, -⟩ := Prod.mk.inj (Except.ok.inj hm)
                  exact ih hx
                · cases hm
            · cases hm
      · exact scanScalar_wellFormed h

theorem jsonLoads_wellFormed {s : Str} {j : Json} (h : jsonLoads F s = .ok j) :
    j.WellFormed F := by
  obtain ⟨⟨x, r⟩, hx, h⟩ := exceptBind_ok h
  simp only at h
  split at h
  · obtain rfl := Except.ok.inj h
    exact scanValue_wellFormed hx
  · cases h

end

end AgencyRuntime
