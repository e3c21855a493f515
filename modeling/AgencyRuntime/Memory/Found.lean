import AgencyRuntime.Memory.Search

/-!
# What a search finds

On rows whose only letters with another lower case are those of ASCII, and for tokens without the
characters that `LIKE` or JSON give a meaning, the clauses of both stores say that the token occurs
in the content or in a tag. A search then returns the first of these rows by confidence.
-/

namespace AgencyRuntime.Memory

open Py (lit)
open Tables

variable {τ : Type}

/-! ## Letter case -/

theorem asciiLowerChar_of_not_capital {c : CodePoint} (h : isCapital c = false) :
    asciiLowerChar c = c := by
  rw [asciiLowerChar, h]
  rfl

/-- What `asciiLowerChar` writes is not a capital. -/
theorem isCapital_asciiLowerChar (c : CodePoint) : isCapital (asciiLowerChar c) = false := by
  rw [asciiLowerChar]
  cases hc : isCapital c with
  | false => simpa using hc
  | true =>
    simp only [isCapital, Py.inRange, Bool.and_eq_true, decide_eq_true_eq] at hc
    have h1 : 65 ≤ c.val := hc.1
    have h2 : c.val ≤ 90 := hc.2
    have hval : (Fin.ofNat 0x110000 (c.val + 32)).val = c.val + 32 := by
      simp only [Fin.ofNat]
      omega
    rw [if_pos rfl, isCapital, Py.inRange, hval, Bool.and_eq_false_iff]
    exact .inr (decide_eq_false (by change ¬ c.val + 32 ≤ 90; omega))

theorem asciiLower_asciiLower (s : Str) : asciiLower (asciiLower s) = asciiLower s := by
  rw [asciiLower, asciiLower, List.map_map]
  exact List.map_congr_left fun c _ =>
    asciiLowerChar_of_not_capital (isCapital_asciiLowerChar c)

theorem Casing.Plain.append {C : Casing} {s t : Str} (hs : C.Plain s) (ht : C.Plain t) :
    C.Plain (s ++ t) := by
  intro c hc
  rcases List.mem_append.1 hc with hc | hc
  · exact hs c hc
  · exact ht c hc

theorem val_lt_of_isascii {s : Str} (h : Py.isascii s = true) {c : CodePoint} (hc : c ∈ s) :
    c.val < 128 := of_decide_eq_true (List.all_eq_true.1 h c hc)

section
variable {C : Casing} (hC : C.Lawful)
include hC

/-- A lower-case character of Python is one of SQLite. -/
theorem Casing.Lawful.asciiLowerChar {c : CodePoint} (h : C.lower [c] = [c]) :
    asciiLowerChar c = c := by
  by_cases hc : c.val < 128
  · exact (List.cons.inj ((hC.ascii c hc).symm.trans h)).1
  · refine asciiLowerChar_of_not_capital ?_
    rw [isCapital, Py.inRange, Bool.and_eq_false_iff]
    exact .inr (decide_eq_false (by change ¬ c.val ≤ 90; omega))

theorem Casing.Lawful.plain_of_isascii {s : Str} (h : Py.isascii s = true) : C.Plain s :=
  fun c hc => hC.ascii c (val_lt_of_isascii h hc)

end

/-! ## Tokens -/

/-- The words of a text have characters, no blank, and only characters of the text. -/
theorem words_spec {word s : Str} (hword : ∀ c ∈ word, Py.isSpace c = false) {t : Str}
    (ht : t ∈ words word s) :
    t ≠ [] ∧ ∀ c ∈ t, Py.isSpace c = false ∧ (c ∈ word ∨ c ∈ s) := by
  induction s generalizing word with
  | nil =>
    rw [words] at ht
    split at ht
    · cases ht
    next hne =>
      obtain rfl := List.mem_singleton.1 ht
      exact ⟨hne, fun c hc => ⟨hword c hc, .inl hc⟩⟩
  | cons d s ih =>
    rw [words] at ht
    have hnil : ∀ c ∈ ([] : Str), Py.isSpace c = false := List.forall_mem_nil _
    cases hd : Py.isSpace d with
    | true =>
      have hrest (h : t ∈ words [] s) :
          t ≠ [] ∧ ∀ c ∈ t, Py.isSpace c = false ∧ (c ∈ word ∨ c ∈ d :: s) := by
        obtain ⟨hne, hchars⟩ := ih hnil h
        refine ⟨hne, fun c hc => ⟨(hchars c hc).1, .inr (List.mem_cons_of_mem d ?_)⟩⟩
        rcases (hchars c hc).2 with h | h
        · cases h
        · exact h
      rw [hd, if_pos rfl] at ht
      split at ht
      · exact hrest ht
      next hne =>
        rcases List.mem_cons.1 ht with rfl | ht
        · exact ⟨hne, fun c hc => ⟨hword c hc, .inl hc⟩⟩
        · exact hrest ht
    | false =>
      rw [hd, if_neg Bool.false_ne_true] at ht
      have hword' : ∀ c ∈ word ++ [d], Py.isSpace c = false := by
        intro c hc
        rcases List.mem_append.1 hc with hc | hc
        · exact hword c hc
        · rw [List.mem_singleton.1 hc, hd]
      obtain ⟨hne, hchars⟩ := ih hword' ht
      refine ⟨hne, fun c hc => ⟨(hchars c hc).1, ?_⟩⟩
      have h := (hchars c hc).2
      rw [List.mem_append, List.mem_singleton, or_assoc] at h
      rwa [List.mem_cons]

theorem tokensOf_spec {C : Casing} {query t : Str} (ht : t ∈ tokensOf C query) :
    t ≠ [] ∧ ∀ c ∈ t, Py.isSpace c = false ∧ c ∈ C.lower query := by
  rw [tokensOf, List.mem_eraseDups, List.mem_filter] at ht
  obtain ⟨hne, hchars⟩ := words_spec (List.forall_mem_nil _) ht.1
  exact ⟨hne, fun c hc => ⟨(hchars c hc).1, (hchars c hc).2.resolve_left List.not_mem_nil⟩⟩

/-- A character that neither `LIKE` nor a JSON list gives a meaning, and that a statement takes. -/
def isLiteral (c : CodePoint) : Bool :=
  !Py.oneOf "%_\\\"[]," c && c.val ≠ 0 && !Py.isSurrogate c

/-- What a search knows of a token that is written in literal characters. -/
structure LiteralToken (C : Casing) (t : Str) : Prop where
  ne_nil : t ≠ []
  literal : ∀ c ∈ t, isLiteral c = true
  not_space : ∀ c ∈ t, Py.isSpace c = false
  lower : ∀ c ∈ t, C.lower [c] = [c]

theorem LiteralToken.of_mem {C : Casing} (hC : C.Lawful) {query t : Str}
    (ht : t ∈ tokensOf C query) (hliteral : ∀ c ∈ t, isLiteral c = true) : LiteralToken C t :=
  have hspec := tokensOf_spec ht
  ⟨hspec.1, hliteral, fun c hc => (hspec.2 c hc).1,
    fun c hc => hC.lowered query c (hspec.2 c hc).2⟩

/-- A literal character is none of the special ones. -/
theorem isLiteral_ne {c : CodePoint} (h : isLiteral c = true) :
    c.val ≠ 0x25 ∧ c.val ≠ 0x5F ∧ c.val ≠ 0x5C ∧ c.val ≠ 0x22 ∧ c.val ≠ 0x5B ∧ c.val ≠ 0x5D ∧
      c.val ≠ 0x2C ∧ c.val ≠ 0 := by
  simp only [isLiteral, Bool.and_eq_true, Bool.not_eq_true', decide_eq_true_eq] at h
  have hone := h.1.1
  have hzero := h.1.2
  rw [Py.oneOf, show "%_\\\"[],".toList = ['%', '_', '\\', '"', '[', ']', ','] by rfl] at hone
  simp only [List.any_cons, List.any_nil, Bool.or_false, Bool.or_eq_false_iff, beq_eq_false_iff_ne]
    at hone
  obtain ⟨h1, h2, h3, h4, h5, h6, h7⟩ := hone
  exact ⟨Ne.symm h1, Ne.symm h2, Ne.symm h3, Ne.symm h4, Ne.symm h5, Ne.symm h6, Ne.symm h7, hzero⟩

/-! ## What a clause says -/

/-- The token is in the content or in a tag, case aside. -/
def Occurs (C : Casing) (t : Str) (record : MemoryRecord τ) : Prop :=
  t <:+: C.lower record.content ∨ ∃ tag ∈ record.tags, t <:+: C.lower tag

/-- A record whose only capitals are those of ASCII, without NUL, and with tags that JSON writes as
they are. -/
structure PlainRecord (C : Casing) (record : MemoryRecord τ) : Prop where
  content : C.Plain record.content
  content_nul : ∀ c ∈ record.content, c.val ≠ 0
  tags : ∀ tag ∈ record.tags, C.Plain tag
  tags_json : ∀ tag ∈ record.tags, ∀ c ∈ tag, jsonEscape c = [c]

theorem asciiLower_append (s t : Str) : asciiLower (s ++ t) = asciiLower s ++ asciiLower t :=
  List.map_append

theorem asciiLower_join (sep : Str) (parts : List Str) :
    asciiLower (Py.join sep parts) = Py.join (asciiLower sep) (parts.map asciiLower) := by
  induction parts with
  | nil => rfl
  | cons p parts ih =>
    cases parts with
    | nil => simp [Py.join]
    | cons q parts =>
      simp only [Py.join, List.intersperse_cons_cons, List.flatten_cons, List.map_cons,
        asciiLower_append] at ih ⊢
      rw [ih]

theorem asciiLowerChar_ne_zero {c : CodePoint} (h : c.val ≠ 0) : (asciiLowerChar c).val ≠ 0 := by
  rw [asciiLowerChar]
  split
  next hc =>
    have h2 : c.val ≤ 90 := by
      rw [isCapital, Py.inRange, Bool.and_eq_true, decide_eq_true_eq, decide_eq_true_eq] at hc
      exact hc.2
    simp only [Fin.ofNat]
    omega
  · exact h

section
variable {C : Casing} {t : Str} (ht : LiteralToken C t)
include ht

theorem LiteralToken.asciiLower (hC : C.Lawful) : asciiLower t = t := by
  rw [Memory.asciiLower]
  exact (List.map_congr_left fun c hc => hC.asciiLowerChar (ht.lower c hc)).trans (List.map_id t)

theorem LiteralToken.plain (hC : C.Lawful) : C.Plain t := by
  intro c hc
  rw [ht.lower c hc, hC.asciiLowerChar (ht.lower c hc)]

theorem LiteralToken.wildcard_plain (hC : C.Lawful) : C.Plain (wildcard t) :=
  have hpercent : C.Plain (lit "%") := hC.plain_of_isascii (by decide)
  hpercent.append ((ht.plain hC).append hpercent)

theorem LiteralToken.asciiLower_wildcard (hC : C.Lawful) :
    Memory.asciiLower (wildcard t) = wildcard t := by
  rw [wildcard, asciiLower_append, asciiLower_append, ht.asciiLower hC]
  rfl

/-- The pattern is the token between two `%`. -/
theorem LiteralToken.wild :
    (wildcard t).map Memory.wild = .many :: (t.map .char ++ [.many]) := by
  have hchars : t.map Memory.wild = t.map .char := by
    refine List.map_congr_left fun c hc => ?_
    have hne := isLiteral_ne (ht.literal c hc)
    rw [Memory.wild, if_neg hne.1, if_neg hne.2.1]
  rw [wildcard, List.map_append, List.map_append, hchars]
  rfl

theorem LiteralToken.mem_wildcard {c : CodePoint} (hc : c ∈ wildcard t) :
    c.val ≠ 0 ∧ c.val ≠ 0x5C := by
  have hpercent : ∀ d ∈ lit "%", d.val ≠ 0 ∧ d.val ≠ 0x5C := by
    intro d hd
    obtain rfl := List.mem_singleton.1 (show d ∈ [(0x25 : CodePoint)] from hd)
    decide
  rw [wildcard, List.mem_append, List.mem_append] at hc
  rcases hc with hc | hc | hc
  · exact hpercent c hc
  · have hne := isLiteral_ne (ht.literal c hc)
    exact ⟨hne.2.2.2.2.2.2.2, hne.2.2.1⟩
  · exact hpercent c hc

/-- A character that is not literal is not in the token. -/
theorem LiteralToken.not_mem {c : CodePoint} (hc : isLiteral c = false) : c ∉ t := fun h =>
  Bool.false_ne_true (hc.symm.trans (ht.literal c h))

end

theorem untilNul_eq {s : Str} (h : ∀ c ∈ s, c.val ≠ 0) : Sqlite.untilNul s = s := by
  rw [Sqlite.untilNul, List.takeWhile_eq_self_iff]
  exact fun c hc => decide_eq_true (h c hc)

theorem pattern_eq_map {s : Str} (h : ∀ c ∈ s, c.val ≠ 0x5C) : Postgres.pattern s = s.map wild := by
  induction s with
  | nil => rfl
  | cons c s ih =>
    cases s with
    | nil => rfl
    | cons d s =>
      rw [Postgres.pattern, if_neg (h c List.mem_cons_self),
        ih fun e he => h e (List.mem_cons_of_mem c he)]
      rfl

/-- SQLite finds the token in the text. -/
theorem matchesLike_wildcard {C : Casing} (hC : C.Lawful) {t text : Str} (ht : LiteralToken C t)
    (htext : ∀ c ∈ text, c.val ≠ 0) :
    Sqlite.matchesLike (wildcard t) text = true ↔ t <:+: asciiLower text := by
  have hnul : ∀ c ∈ asciiLower text, c.val ≠ 0 := by
    intro c hc
    obtain ⟨d, hd, rfl⟩ := List.mem_map.1 hc
    exact asciiLowerChar_ne_zero (htext d hd)
  rw [Sqlite.matchesLike, ht.asciiLower_wildcard hC,
    untilNul_eq fun c hc => (ht.mem_wildcard hc).1, untilNul_eq hnul, ht.wild, like_contains]

/-- PostgreSQL finds the token in the text. -/
theorem matchesIlike_wildcard {C : Casing} (hC : C.Lawful) {t text : Str} (ht : LiteralToken C t)
    (htext : C.Plain text) :
    Postgres.matchesIlike C (wildcard t) text = true ↔ t <:+: asciiLower text := by
  rw [Postgres.matchesIlike, hC.ilike _ (ht.wildcard_plain hC), hC.ilike _ htext,
    ht.asciiLower_wildcard hC, pattern_eq_map fun c hc => (ht.mem_wildcard hc).2, ht.wild,
    like_contains]

/-- The text of a list of tags, with the separator of the store. -/
def tagList (sep : Str) (tags : List Str) : Str :=
  lit "[" ++ (Py.join sep (tags.map jsonString) ++ lit "]")

theorem canonicalTextItems_str (tags : List Str) :
    canonicalTextItems (tags.map .str) = tags.map jsonString := by
  induction tags with
  | nil => rfl
  | cons tag tags ih => rw [List.map_cons, List.map_cons, canonicalTextItems, ih, canonicalText]

theorem canonicalText_tags (tags : List Str) :
    canonicalText (.arr (tags.map .str)) = tagList (lit ",") tags := by
  rw [canonicalText, canonicalTextItems_str, tagList, List.append_assoc]

theorem jsonString_plain {tag : Str} (h : ∀ c ∈ tag, jsonEscape c = [c]) :
    jsonString tag = 0x22 :: (tag ++ [0x22]) := by
  have hmap : tag.flatMap jsonEscape = tag := by
    induction tag with
    | nil => rfl
    | cons c tag ih =>
      rw [List.flatMap_cons, h c List.mem_cons_self,
        ih fun d hd => h d (List.mem_cons_of_mem c hd)]
      rfl
  rw [jsonString, hmap]
  rfl

/-- A token is in the text of the tags where it is in one of them. -/
theorem infix_tagList {C : Casing} {t sep : Str} (ht : LiteralToken C t) {tags : List Str}
    (htags : ∀ tag ∈ tags, ∀ c ∈ tag, jsonEscape c = [c]) (hsep : sep ≠ [])
    (havoid : ∀ c ∈ asciiLower sep, c ∉ t) :
    t <:+: asciiLower (tagList sep tags) ↔ ∃ tag ∈ tags, t <:+: asciiLower tag := by
  have hbrackets : asciiLower (tagList sep tags) =
      0x5B :: (asciiLower (Py.join sep (tags.map jsonString)) ++ [0x5D]) := by
    rw [tagList, asciiLower_append, asciiLower_append]
    rfl
  have hparts : ∀ tag ∈ tags, t <:+: asciiLower (jsonString tag) ↔ t <:+: asciiLower tag := by
    intro tag htag
    have hquoted : asciiLower (jsonString tag) = 0x22 :: (asciiLower tag ++ [0x22]) := by
      rw [jsonString_plain (htags tag htag), asciiLower, List.map_cons, List.map_append]
      rfl
    rw [hquoted, infix_bracketed ht.ne_nil (ht.not_mem (by decide)) (ht.not_mem (by decide))]
  have hsep' : asciiLower sep ≠ [] := fun h => hsep (List.map_eq_nil_iff.1 h)
  rw [hbrackets, infix_bracketed ht.ne_nil (ht.not_mem (by decide)) (ht.not_mem (by decide)),
    asciiLower_join, Py.join, infix_join ht.ne_nil hsep' havoid]
  simp only [List.mem_map, exists_exists_and_eq_and]
  exact exists_congr fun tag => and_congr_right (hparts tag)

theorem sep_ne_nil : lit "," ≠ [] ∧ lit ", " ≠ [] := by decide

section
variable {C : Casing} (hC : C.Lawful) {t : Str} {row : MemoryRow τ}
  (hrow : PlainRecord C row.toMemoryRecord)
include hC hrow

/-- What `Occurs` says on a plain record. -/
theorem occurs_iff : Occurs C t row.toMemoryRecord ↔
    t <:+: asciiLower row.content ∨ ∃ tag ∈ row.tags, t <:+: asciiLower tag := by
  rw [Occurs, hC.lower _ hrow.content]
  refine or_congr_right (exists_congr fun tag => and_congr_right fun htag => ?_)
  rw [hC.lower _ (hrow.tags tag htag)]

omit hC in
theorem content_ne_zero : ∀ c ∈ asciiLower row.content, c.val ≠ 0 := by
  intro c hc
  obtain ⟨d, hd, rfl⟩ := List.mem_map.1 hc
  exact asciiLowerChar_ne_zero (hrow.content_nul d hd)

omit hC in
theorem tag_ne_zero {tag : Str} (htag : tag ∈ row.tags) : ∀ c ∈ tag, c.val ≠ 0 := by
  rintro c hc h0
  have hescape := hrow.tags_json tag htag c hc
  obtain rfl : c = 0 := Fin.ext h0
  exact absurd hescape (by decide)

/-- The text of the tags, with a separator of plain characters. -/
theorem tagList_spec {sep : Str} (hsep : ∀ c ∈ sep, c.val < 128 ∧ c.val ≠ 0) :
    C.Plain (tagList sep row.tags) ∧ ∀ c ∈ tagList sep row.tags, c.val ≠ 0 := by
  have hlit : ∀ c ∈ [(0x5B : CodePoint), 0x5D, 0x22], C.lower [c] = [asciiLowerChar c] ∧
      c.val ≠ 0 := by
    intro c hc
    have hval : c.val < 128 ∧ c.val ≠ 0 := by
      simp only [List.mem_cons, List.not_mem_nil, or_false] at hc
      rcases hc with rfl | rfl | rfl <;> decide
    exact ⟨hC.ascii c hval.1, hval.2⟩
  have hall : ∀ c ∈ tagList sep row.tags, C.lower [c] = [asciiLowerChar c] ∧ c.val ≠ 0 := by
    intro c hc
    rw [tagList, List.mem_append, List.mem_append] at hc
    rcases hc with hc | hc | hc
    · exact hlit c (List.mem_singleton.1 (show c ∈ [(0x5B : CodePoint)] from hc) ▸ by simp)
    · rcases Py.mem_join hc with hc | ⟨part, hpart, hc⟩
      · exact ⟨hC.ascii c (hsep c hc).1, (hsep c hc).2⟩
      · obtain ⟨tag, htag, rfl⟩ := List.mem_map.1 hpart
        rw [jsonString_plain (hrow.tags_json tag htag), List.mem_cons, List.mem_append,
          List.mem_singleton] at hc
        rcases hc with rfl | hc | rfl
        · exact hlit _ (by simp)
        · exact ⟨hrow.tags tag htag c hc, tag_ne_zero hrow htag c hc⟩
        · exact hlit _ (by simp)
    · exact hlit c (List.mem_singleton.1 (show c ∈ [(0x5D : CodePoint)] from hc) ▸ by simp)
  exact ⟨fun c hc => (hall c hc).1, fun c hc => (hall c hc).2⟩

/-- The clause of SQLite. -/
theorem Sqlite.selects_iff (ht : LiteralToken C t) :
    Sqlite.selects t row = true ↔ Occurs C t row.toMemoryRecord := by
  have hsep : ∀ c ∈ asciiLower (lit ","), c ∉ t := by
    intro c hc
    obtain rfl := List.mem_singleton.1 (show c ∈ [(0x2C : CodePoint)] from hc)
    exact ht.not_mem (by decide)
  have hspec : C.Plain (tagList (lit ",") row.tags) ∧ ∀ c ∈ tagList (lit ",") row.tags, c.val ≠ 0 :=
    tagList_spec hC hrow fun c hc => by
      obtain rfl := List.mem_singleton.1 (show c ∈ [(0x2C : CodePoint)] from hc)
      decide
  have hnul : ∀ c ∈ asciiLower (tagList (lit ",") row.tags), c.val ≠ 0 := by
    intro c hc
    obtain ⟨d, hd, rfl⟩ := List.mem_map.1 hc
    exact asciiLowerChar_ne_zero (hspec.2 d hd)
  rw [Sqlite.selects, Bool.or_eq_true, canonicalText_tags,
    matchesLike_wildcard hC ht (content_ne_zero hrow), matchesLike_wildcard hC ht hnul,
    asciiLower_asciiLower, asciiLower_asciiLower, occurs_iff hC hrow,
    infix_tagList ht hrow.tags_json sep_ne_nil.1 hsep]

/-- The clause of PostgreSQL. -/
theorem Postgres.selects_iff (ht : LiteralToken C t) :
    Postgres.selects C t row = true ↔ Occurs C t row.toMemoryRecord := by
  have hmem {c : CodePoint} (hc : c ∈ [(0x2C : CodePoint), 0x20]) : c = 0x2C ∨ c = 0x20 := by
    simpa using hc
  have hsep : ∀ c ∈ asciiLower (lit ", "), c ∉ t := by
    intro c hc
    rcases hmem hc with rfl | rfl
    · exact ht.not_mem (by decide)
    · exact fun h => absurd (ht.not_space _ h) (by decide)
  have hspec : C.Plain (tagList (lit ", ") row.tags) ∧
      ∀ c ∈ tagList (lit ", ") row.tags, c.val ≠ 0 :=
    tagList_spec hC hrow fun c hc => by rcases hmem hc with rfl | rfl <;> decide
  rw [Postgres.selects, Bool.or_eq_true, matchesIlike_wildcard hC ht hrow.content,
    show Postgres.tagsText row.tags = tagList (lit ", ") row.tags from rfl,
    matchesIlike_wildcard hC ht hspec.1, occurs_iff hC hrow,
    infix_tagList ht hrow.tags_json sep_ne_nil.2 hsep]

end

/-! ## What a search returns -/

/-- The query asks for the record. -/
structure Asked (C : Casing) (owner : Str) (minConfidence : ℚ) (tokens : List Str)
    (row : MemoryRow τ) : Prop where
  owner : row.owner = owner
  confident : minConfidence ≤ row.confidence
  occurs : ∀ t ∈ tokens, Occurs C t row.toMemoryRecord

/-- The results are records that the query asks for, within the limit and ordered by score. -/
structure Found (C : Casing) (owner : Str) (minConfidence : ℚ) (tokens : List Str) (limit : ℤ)
    (rows : List (MemoryRow τ)) (results : List (MemorySearchResult τ)) : Prop where
  asked : ∀ x ∈ results, ∃ row ∈ rows, row.toMemoryRecord = x.record ∧
    Asked C owner minConfidence tokens row
  bounded : (results.length : ℤ) ≤ limit
  scored : ∀ x ∈ results, x.score = scoreOf C tokens x.record
  ordered : results.Pairwise fun x y => y.score ≤ x.score

/-- No record is left out that scores above one that is returned. -/
def BestByScore (C : Casing) (owner : Str) (minConfidence : ℚ) (tokens : List Str)
    (rows : List (MemoryRow τ)) (results : List (MemorySearchResult τ)) : Prop :=
  ∀ row ∈ rows, Asked C owner minConfidence tokens row →
    row.toMemoryRecord ∉ results.map (·.record) →
    ∀ x ∈ results, scoreOf C tokens row.toMemoryRecord ≤ x.score

/-- A record is left out only where the limit is reached, by records of at least its confidence. -/
def FirstByConfidence (C : Casing) (owner : Str) (minConfidence : ℚ) (tokens : List Str)
    (limit : ℤ) (rows : List (MemoryRow τ)) (results : List (MemorySearchResult τ)) : Prop :=
  ∀ row ∈ rows, Asked C owner minConfidence tokens row →
    row.toMemoryRecord ∉ results.map (·.record) →
    results.length = limit ∧ ∀ x ∈ results, row.confidence ≤ x.record.confidence

/-- A call that a search accepts, with tokens of literal characters. -/
structure LiteralQuery (C : Casing) (owner query : Str) (limit : ℤ) (minConfidence : ℚ) :
    Prop where
  confidence : 0 ≤ minConfidence ∧ minConfidence ≤ 1
  limit : 1 ≤ limit ∧ limit ≤ 100
  tokens : tokensOf C query ≠ []
  literal : ∀ t ∈ tokensOf C query, ∀ c ∈ t, isLiteral c = true
  owner : Py.encodable owner = true ∧ owner.contains 0 = false

section
variable [LinearOrder τ] {C : Casing} {owner query : Str} {limit : ℤ} {minConfidence : ℚ}
  {selects : Str → MemoryRow τ → Bool} {rows : List (MemoryRow τ)}

theorem mem_selectRows {tokens : List Str} {n : ℕ} {row : MemoryRow τ}
    (h : row ∈ selectRows selects owner minConfidence tokens n rows) :
    row ∈ rows ∧ row.owner = owner ∧ minConfidence ≤ row.confidence ∧
      ∀ t ∈ tokens, selects t row = true := by
  have hmem := List.mem_of_mem_take h
  rw [List.mem_insertionSort, List.mem_filter] at hmem
  simpa [and_assoc] using hmem

/-- A row that comes first has at least the confidence. -/
theorem confidence_le_of_rowKey {r s : MemoryRow τ} (h : rowKey r ≤ rowKey s) :
    s.confidence ≤ r.confidence := by
  rcases Prod.Lex.toLex_le_toLex.1 h with hlt | ⟨heq, -⟩
  · exact le_of_lt (OrderDual.toDual_lt_toDual.1 hlt)
  · exact le_of_eq (OrderDual.toDual.injective heq).symm

/-- A row that the clauses select is left out where the limit is reached, after its betters. -/
theorem omitted_selectRows {tokens : List Str} {n : ℕ} {row : MemoryRow τ} (hrow : row ∈ rows)
    (howner : row.owner = owner) (hconfident : minConfidence ≤ row.confidence)
    (hselects : ∀ t ∈ tokens, selects t row = true)
    (homitted : row ∉ selectRows selects owner minConfidence tokens n rows) :
    (selectRows selects owner minConfidence tokens n rows).length = n ∧
      ∀ r ∈ selectRows selects owner minConfidence tokens n rows,
        row.confidence ≤ r.confidence := by
  rw [selectRows] at homitted ⊢
  generalize hsorted : (rows.filter fun row => row.owner = owner &&
    minConfidence ≤ row.confidence && tokens.all (selects · row)).insertionSort
      (fun r s => rowKey r ≤ rowKey s) = sorted at homitted ⊢
  have hpairwise : sorted.Pairwise fun r s => rowKey r ≤ rowKey s := by
    rw [← hsorted]
    exact List.pairwise_insertionSort _ _
  have hmem : row ∈ sorted := by
    rw [← hsorted, List.mem_insertionSort, List.mem_filter]
    simpa [howner, hconfident] using ⟨hrow, hselects⟩
  rw [← List.take_append_drop n sorted, List.mem_append] at hmem
  have hdrop := hmem.resolve_left homitted
  have hlength : n ≤ sorted.length := by
    by_contra hlt
    rw [List.drop_eq_nil_of_le (by omega)] at hdrop
    cases hdrop
  refine ⟨by rw [List.length_take, Nat.min_eq_left hlength], fun r hr => ?_⟩
  rw [← List.take_append_drop n sorted, List.pairwise_append] at hpairwise
  exact confidence_le_of_rowKey (hpairwise.2.2 r hr row hdrop)

/-- A search whose clauses say that the token occurs returns the first records by confidence. -/
theorem search_found {bind : List Str → Except Exn Unit}
    (hquery : LiteralQuery C owner query limit minConfidence)
    (hbind : bind (owner :: (tokensOf C query).map wildcard) = .ok ())
    (hselects : ∀ row ∈ rows, row.owner = owner → minConfidence ≤ row.confidence →
      ∀ t ∈ tokensOf C query, selects t row = true ↔ Occurs C t row.toMemoryRecord) :
    ∃ results, search C bind selects owner rows none query limit minConfidence = .ok results ∧
      Found C owner minConfidence (tokensOf C query) limit rows results ∧
      FirstByConfidence C owner minConfidence (tokensOf C query) limit rows results := by
  let found := selectRows selects owner minConfidence (tokensOf C query) limit.toNat rows
  let results := (found.map fun row => (⟨row.toMemoryRecord,
    scoreOf C (tokensOf C query) row.toMemoryRecord⟩ : MemorySearchResult τ)).insertionSort
      fun x y => resultKey x ≤ resultKey y
  have hsearch : search C bind selects owner rows none query limit minConfidence = .ok results := by
    rw [search, (check_ok (u := ())).2 hquery.confidence, (check_ok (u := ())).2 hquery.limit]
    simp only [(check_ok (u := ())).2 hquery.tokens, hbind]
    rfl
  have hmem {x : MemorySearchResult τ} (hx : x ∈ results) : ∃ row ∈ found,
      x = ⟨row.toMemoryRecord, scoreOf C (tokensOf C query) row.toMemoryRecord⟩ := by
    rw [List.mem_insertionSort] at hx
    obtain ⟨row, hrow, rfl⟩ := List.mem_map.1 hx
    exact ⟨row, hrow, rfl⟩
  have hlength : results.length = found.length := by
    rw [List.length_insertionSort, List.length_map]
  refine ⟨results, hsearch, ⟨fun x hx => ?_, ?_, fun x hx => ?_, ?_⟩, fun row hrow hasked hout => ?_⟩
  · obtain ⟨row, hrow, rfl⟩ := hmem hx
    obtain ⟨hin, howner, hconfident, hsel⟩ := mem_selectRows hrow
    exact ⟨row, hin, rfl, howner, hconfident,
      fun t ht => (hselects row hin howner hconfident t ht).1 (hsel t ht)⟩
  · have hle : found.length ≤ limit.toNat := List.length_take_le _ _
    have := hquery.limit.1
    omega
  · obtain ⟨row, -, rfl⟩ := hmem hx
    rfl
  · refine (List.pairwise_insertionSort _ _).imp fun {x y} h => ?_
    rcases Prod.Lex.toLex_le_toLex.1 h with hlt | ⟨heq, -⟩
    · exact le_of_lt (neg_lt_neg_iff.1 hlt)
    · exact le_of_eq (neg_injective heq).symm
  · have homitted : row ∉ found := fun hin =>
      hout (List.mem_map.2 ⟨_, (List.mem_insertionSort _).2 (List.mem_map.2 ⟨row, hin, rfl⟩), rfl⟩)
    obtain ⟨hfull, hfirst⟩ := omitted_selectRows hrow hasked.owner hasked.confident
      (fun t ht => (hselects row hrow hasked.owner hasked.confident t ht).2 (hasked.occurs t ht))
      homitted
    refine ⟨?_, fun x hx => ?_⟩
    · have := hquery.limit.1
      rw [hlength, hfull]
      omega
    · obtain ⟨r, hr, rfl⟩ := hmem hx
      exact hfirst r hr

/-- The texts of the query can be bound. -/
theorem LiteralQuery.bindable (hC : C.Lawful)
    (hquery : LiteralQuery C owner query limit minConfidence) :
    ∀ s ∈ owner :: (tokensOf C query).map wildcard,
      Py.encodable s = true ∧ s.contains 0 = false := by
  intro s hs
  rcases List.mem_cons.1 hs with rfl | hs
  · exact hquery.owner
  · obtain ⟨t, ht, rfl⟩ := List.mem_map.1 hs
    have htoken := LiteralToken.of_mem hC ht (hquery.literal t ht)
    have hencodable : Py.encodable t = true := by
      refine List.all_eq_true.2 fun c hc => ?_
      have hliteral := hquery.literal t ht c hc
      rw [isLiteral, Bool.and_eq_true] at hliteral
      exact hliteral.2
    have hpercent : Py.encodable (lit "%") = true := by decide
    refine ⟨?_, ?_⟩
    · rw [wildcard, Py.encodable, List.all_append, List.all_append]
      exact Bool.and_eq_true_iff.2 ⟨hpercent, Bool.and_eq_true_iff.2 ⟨hencodable, hpercent⟩⟩
    · rw [← Bool.not_eq_true, List.contains_iff_mem]
      exact fun h0 => (htoken.mem_wildcard h0).1 rfl

end

/-! ## Two records -/

/-- The case mappings on ASCII texts. -/
def asciiCasing : Casing := ⟨asciiLower, asciiLower⟩

theorem asciiCasing_lawful : asciiCasing.Lawful where
  ascii _ _ := rfl
  lower _ _ := rfl
  ilike _ _ := rfl
  lowered s c hc := by
    obtain ⟨d, -, rfl⟩ := List.mem_map.1 hc
    exact congrArg (fun e => [e]) (asciiLowerChar_of_not_capital (isCapital_asciiLowerChar d))

/-- Certain, with the word in its content. -/
def certainRow : MemoryRow ℕ where
  memoryId := lit "mem-1"
  observationId := lit "obs-1"
  owner := lit "default"
  content := lit "Greenlight"
  provenance := .null
  confidence := 1
  tags := []
  observedAt := 1
  storedAt := 1

/-- Less certain, tagged with the word. -/
def taggedRow : MemoryRow ℕ :=
  { certainRow with
    memoryId := lit "mem-2", observationId := lit "obs-2", confidence := 15 / 16
    content := lit "plan", tags := [lit "greenlight"] }

theorem plainRecord_ascii {row : MemoryRow ℕ} (h : row ∈ [certainRow, taggedRow]) :
    PlainRecord asciiCasing row.toMemoryRecord := by
  have hchecks : ∀ r ∈ [certainRow, taggedRow], (r.content.all fun c => c.val ≠ 0) = true ∧
      (r.tags.all fun tag => tag.all fun c => jsonEscape c = [c]) = true := by
    simp only [List.forall_mem_cons]
    refine ⟨by decide, by decide, List.forall_mem_nil _⟩
  obtain ⟨hcontent, htags⟩ := hchecks row h
  refine ⟨fun _ _ => rfl, fun c hc => ?_, fun _ _ _ _ => rfl, fun tag htag c hc => ?_⟩
  · exact of_decide_eq_true (List.all_eq_true.1 hcontent c hc)
  · exact of_decide_eq_true (List.all_eq_true.1 (List.all_eq_true.1 htags tag htag) c hc)

theorem tokensOf_greenlight : tokensOf asciiCasing (lit "greenlight") = [lit "greenlight"] := by
  decide

theorem literalQuery_greenlight :
    LiteralQuery asciiCasing (lit "default") (lit "greenlight") 1 0 where
  confidence := by decide
  limit := by decide
  tokens := by rw [tokensOf_greenlight]; exact List.cons_ne_nil _ _
  literal := by
    rw [tokensOf_greenlight]
    intro t ht c hc
    obtain rfl := List.mem_singleton.1 ht
    have hall : (lit "greenlight").all isLiteral = true := by decide
    exact List.all_eq_true.1 hall c hc
  owner := by decide

end AgencyRuntime.Memory
