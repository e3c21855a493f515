import AgencyRuntime.Python.Decode
import Mathlib.Data.List.TakeDrop

/-!
# Canonical JSON reads back

The decoder on canonical text: each scanner is shown to read exactly what the encoder wrote, at any
text that does not go on with it (`Follows` for numbers). The decoder returns the value with its
members sorted (`Json.normal`), so canonical text determines a value up to the order of members.
-/

namespace AgencyRuntime

/-- The text does not go on with a number. -/
def Follows (rest : Str) : Prop :=
  ∀ c ∈ rest.head?, isDecimal c = false ∧ c ≠ ch '.' ∧ c ≠ ch 'e' ∧ c ≠ ch 'E'

theorem span_append {p : CodePoint → Bool} {s rest : Str} (hs : ∀ c ∈ s, p c = true)
    (hr : ∀ c ∈ rest.head?, p c = false) : (s ++ rest).span p = (s, rest) := by
  have hnone : rest.takeWhile p = [] ∧ rest.dropWhile p = rest := by
    cases rest with
    | nil => exact ⟨rfl, rfl⟩
    | cons c rest => simp [hr c (by simp)]
  rw [List.span_eq_takeWhile_dropWhile, List.takeWhile_append_of_pos hs,
    List.dropWhile_append_of_pos hs, hnone.1, hnone.2, List.append_nil]

/-- The head of a text in front of another one. -/
theorem head?_cons_append {c : CodePoint} {s rest : Str} {d : CodePoint}
    (h : d ∈ ((c :: s) ++ rest).head?) : d = c := by
  simpa [eq_comm] using h

/-! ## Numbers -/

section
variable {t : NumberText} {rest : Str}

theorem scanDigits_append {s : Str} (hs : NumberText.Digits s)
    (hr : ∀ c ∈ rest.head?, isDecimal c = false) : scanDigits (s ++ rest) = some (s, rest) := by
  obtain ⟨hne, hall⟩ := hs
  rw [scanDigits, span_append hall hr]
  cases s with
  | nil => exact absurd rfl hne
  | cons c s => rfl

theorem scanWhole_append (ht : t.Valid) (hr : ∀ c ∈ rest.head?, isDecimal c = false) :
    scanWhole (t.whole ++ rest) = some (t.whole, rest) := by
  rcases ht.whole with h | ⟨c, cs, h, hne, -, hall⟩
  · rw [h]
    rfl
  · rw [h] at hall ⊢
    have hspan := span_append hall hr
    rw [List.cons_append] at hspan ⊢
    rw [scanWhole, if_neg hne, if_pos (hall c List.mem_cons_self), hspan]

/-- The text of an optional fraction. -/
def fractionText (fraction : Option Str) : Str := fraction.elim [] fun digits => ch '.' :: digits

/-- The text of an optional exponent. -/
def exponentText (e : Option (CodePoint × Option CodePoint × Str)) : Str :=
  e.elim [] fun e => e.1 :: (e.2.1.toList ++ e.2.2)

theorem scanFraction_append {fraction : Option Str}
    (hf : ∀ digits ∈ fraction, NumberText.Digits digits)
    (hr : ∀ c ∈ rest.head?, isDecimal c = false ∧ c ≠ ch '.') :
    scanFraction (fractionText fraction ++ rest) = (fraction, rest) := by
  cases fraction with
  | none =>
    cases rest with
    | nil => rfl
    | cons c rest => simp [fractionText, scanFraction, (hr c (by simp)).2]
  | some digits =>
    simp only [fractionText, Option.elim_some, List.cons_append, scanFraction, if_true]
    rw [scanDigits_append (hf digits rfl) fun c hc => (hr c hc).1]

theorem scanExponent_append {e : Option (CodePoint × Option CodePoint × Str)}
    (he : ∀ e' ∈ e, (e'.1 = ch 'e' ∨ e'.1 = ch 'E') ∧
      (∀ s ∈ e'.2.1, s = ch '+' ∨ s = ch '-') ∧ NumberText.Digits e'.2.2)
    (hr : Follows rest) : scanExponent (exponentText e ++ rest) = (e, rest) := by
  have hrd : ∀ c ∈ rest.head?, isDecimal c = false := fun c hc => (hr c hc).1
  rcases e with _ | ⟨c, sign, digits⟩
  · cases rest with
    | nil => rfl
    | cons c rest =>
      have := hr c (by simp)
      simp [exponentText, scanExponent, this.2.2]
  · obtain ⟨hc, hsign, hd⟩ := he _ rfl
    have hscan : scanSign (sign.toList ++ digits ++ rest) = (sign, digits ++ rest) := by
      cases sign with
      | some s => simp [scanSign, hsign s rfl]
      | none =>
        obtain ⟨hne, hall⟩ := hd
        cases digits with
        | nil => exact absurd rfl hne
        | cons d ds =>
          have hdec := hall d List.mem_cons_self
          have : ¬ (d = ch '+' ∨ d = ch '-') := by
            rintro (rfl | rfl) <;> exact absurd hdec (by decide)
          simp [scanSign, this]
    simp only [exponentText, Option.elim_some, List.cons_append, scanExponent, hc, if_true, hscan,
      scanDigits_append hd hrd]

theorem render_eq (t : NumberText) :
    t.render = (if t.negative then [ch '-'] else []) ++
      (t.whole ++ (fractionText t.fraction ++ exponentText t.exponent)) := by
  simp [NumberText.render, fractionText, exponentText]

theorem scanUnsigned_append (ht : t.Valid) (hr : Follows rest) :
    scanUnsigned t.negative (t.whole ++ (fractionText t.fraction ++
      (exponentText t.exponent ++ rest))) = some (t, rest) := by
  have hexp : ∀ c ∈ (exponentText t.exponent ++ rest).head?, isDecimal c = false ∧ c ≠ ch '.' := by
    intro c hc
    cases he : t.exponent with
    | none =>
      rw [he] at hc
      exact ⟨(hr c hc).1, (hr c hc).2.1⟩
    | some e =>
      rw [he] at hc
      obtain rfl := head?_cons_append hc
      rcases (ht.exponent e he).1 with h | h <;> rw [h] <;> decide
  have hfrac : ∀ c ∈ (fractionText t.fraction ++ (exponentText t.exponent ++ rest)).head?,
      isDecimal c = false := by
    intro c hc
    cases hf : t.fraction with
    | none =>
      rw [hf] at hc
      exact (hexp c hc).1
    | some digits =>
      rw [hf] at hc
      obtain rfl := head?_cons_append hc
      decide
  rw [scanUnsigned, scanWhole_append ht hfrac, Option.map_some]
  simp only [scanFraction_append ht.fraction hexp, scanExponent_append ht.exponent hr]

/-- A valid number starts with a digit after its sign. -/
theorem NumberText.Valid.head (ht : t.Valid) :
    ∃ c cs, t.whole = c :: cs ∧ isDecimal c = true := by
  rcases ht.whole with h | ⟨c, cs, h, -, -, hall⟩
  · exact ⟨_, _, h, by decide⟩
  · exact ⟨c, cs, h, hall c (by rw [h]; exact List.mem_cons_self)⟩

/-- A number text reads back as its parts. -/
theorem scanNumber_append (ht : t.Valid) (hr : Follows rest) :
    scanNumber (t.render ++ rest) = some (t, rest) := by
  have hscan := scanUnsigned_append ht hr
  obtain ⟨c, cs, hw, hc⟩ := ht.head
  rw [render_eq]
  cases hn : t.negative with
  | true =>
    rw [hn] at hscan
    simpa [scanNumber] using hscan
  | false =>
    rw [hn, hw] at hscan
    have hne : c ≠ ch '-' := by
      rintro rfl
      exact absurd hc (by decide)
    simpa [scanNumber, hw, hne] using hscan

end

/-! ## Integers -/

theorem isDecimal_ofChar {c : Char} (h : c.isDigit = true) :
    isDecimal (ch c) = true ∧ (ch c).val = c.toNat := by
  simp only [Char.isDigit, ge_iff_le, Bool.and_eq_true, decide_eq_true_eq] at h
  have h1 : 48 ≤ c.toNat := h.1
  have h2 : c.toNat ≤ 57 := h.2
  have hval : (ch c).val = c.toNat := by
    simp only [ch, Fin.ofNat]
    omega
  have hbounds : ('0' : Char).toNat = 48 ∧ ('9' : Char).toNat = 57 := by decide
  refine ⟨?_, hval⟩
  simp only [isDecimal, Py.inRange, hval, hbounds, Bool.and_eq_true, decide_eq_true_eq]
  exact ⟨h1, h2⟩

theorem ofNat_eq (n : Nat) : Py.ofNat n = (Nat.toDigits 10 n).map ch := by
  rw [Py.ofNat, Py.lit, show toString n = n.repr from rfl, Nat.toList_repr]
  rfl

theorem digit_of_mem {n : Nat} {c : Char} (h : c ∈ Nat.toDigits 10 n) : c.isDigit = true :=
  Nat.isDigit_of_mem_toDigits (by decide) (by decide) h

theorem digits_ofNat (n : Nat) : NumberText.Digits (Py.ofNat n) := by
  rw [ofNat_eq]
  refine ⟨by simp [Nat.toDigits_ne_nil], fun c hc => ?_⟩
  obtain ⟨d, hd, rfl⟩ := List.mem_map.1 hc
  exact (isDecimal_ofChar (digit_of_mem hd)).1

/-- The decimal text of a number denotes it. -/
theorem decimalValue_ofNat (n : Nat) : decimalValue (Py.ofNat n) = n := by
  have hmap : ∀ (l : List Char) (k : Nat), (∀ c ∈ l, c.isDigit = true) →
      (l.map ch).foldl (fun n c => 10 * n + (c.val - 48)) k =
        l.foldl (fun n c => 10 * n + (c.toNat - 48)) k := by
    intro l
    induction l with
    | nil => exact fun _ _ => rfl
    | cons c l ih =>
      intro k hl
      rw [List.map_cons, List.foldl_cons, List.foldl_cons,
        (isDecimal_ofChar (hl c List.mem_cons_self)).2]
      exact ih _ fun d hd => hl d (List.mem_cons_of_mem c hd)
  rw [decimalValue, ofNat_eq, hmap _ _ fun c hc => digit_of_mem hc]
  have h := @Nat.ofDigitChars_ten_toDigits n
  rw [Nat.ofDigitChars_eq_foldl] at h
  exact h

/-- No decimal text but that of zero starts with a zero. -/
theorem toDigits_head {n : Nat} (h : 0 < n) :
    ∃ c cs, Nat.toDigits 10 n = c :: cs ∧ c ≠ '0' ∧ c.isDigit = true := by
  induction n using Nat.strongRecOn with
  | _ n ih =>
    by_cases hlt : n < 10
    · refine ⟨n.digitChar, [], Nat.toDigits_of_lt_base hlt, ?_, ?_⟩
      · have hall : ∀ k : Fin 10, 0 < k.val → k.val.digitChar ≠ '0' := by decide
        exact hall ⟨n, hlt⟩ h
      · exact digit_of_mem (n := n) (by simp [Nat.toDigits_of_lt_base hlt])
    · obtain ⟨c, cs, hcs, hne, hd⟩ := ih (n / 10) (by omega) (by omega)
      exact ⟨c, _, by rw [Nat.toDigits_of_base_le (by decide) (by omega), hcs]; rfl, hne, hd⟩

/-- The number text of an integer. -/
def integerText (n : Int) : NumberText := ⟨decide (n < 0), Py.ofNat n.natAbs, none, none⟩

theorem integerText_render (n : Int) : (integerText n).render = Py.ofInt n := by
  cases n with
  | ofNat n => simp [integerText, NumberText.render, Py.ofInt]
  | negSucc n =>
    simp only [integerText, NumberText.render, Py.ofInt, Int.negSucc_lt_zero, decide_true, if_true,
      Option.elim_none, List.append_nil, Int.natAbs_negSucc]
    rfl

theorem integerText_valid (n : Int) : (integerText n).Valid where
  whole := by
    show Py.ofNat n.natAbs = _ ∨ _
    by_cases h0 : n.natAbs = 0
    · rw [h0]
      exact .inl rfl
    · obtain ⟨c, cs, hcs, hne, hd⟩ := toDigits_head (n := n.natAbs) (by omega)
      have heq : Py.ofNat n.natAbs = ch c :: cs.map ch := by rw [ofNat_eq, hcs]; rfl
      refine .inr ⟨ch c, cs.map ch, heq, ?_, digits_ofNat _⟩
      intro hc
      have h1 := congrArg Fin.val hc
      rw [(isDecimal_ofChar hd).2] at h1
      have h2 : (ch '0').val = 48 := by decide
      rw [h2] at h1
      exact hne (Char.ext (UInt32.toNat_inj.1 h1))
  fraction := nofun
  exponent := nofun

theorem length_ofNat_le {n : Nat} (h : n < 10 ^ maxStrDigits) :
    (Py.ofNat n).length ≤ maxStrDigits := by
  rw [ofNat_eq, List.length_map]
  exact (Nat.length_toDigits_le_iff (by decide) (by decide)).2 h

/-- The text of an integer that can be written reads back as the integer. -/
theorem integerText_value (F : Floats) {n : Int} (h : n.natAbs < 10 ^ maxStrDigits) :
    (integerText n).value F = .ok (.int n) := by
  have hlen := length_ofNat_le h
  have hwhole : (integerText n).whole = Py.ofNat n.natAbs := rfl
  rw [NumberText.value, if_neg (by simp [NumberText.isFloat, integerText]), hwhole, if_pos hlen,
    decimalValue_ofNat]
  simp only [integerText, decide_eq_true_eq, Except.ok.injEq, Json.int.injEq]
  split <;> omega

/-! ## Strings -/

/-- One more character in front of a scanned string. -/
def consText (c : CodePoint) (x : Except Exn (Str × Str)) : Except Exn (Str × Str) :=
  x.map fun r => (c :: r.1, r.2)

theorem joinPair_low {high : Nat} (h : high < 0xD800) (low : Nat) : joinPair high low = none :=
  if_neg (by omega)

theorem scanString_unicode {a b c d : CodePoint} {code : Nat} (h : hex4 a b c d = some code)
    (hlow : code < 0xD800) (s : Str) :
    scanString (ch '\\' :: ch 'u' :: a :: b :: c :: d :: s) =
      consText (Fin.ofNat _ code) (scanString s) := by
  have hbs : ch '\\' ≠ ch '"' := by decide
  rw [scanString.eq_def]
  simp only [hbs, if_false, if_true]
  split
  · next hn => rw [h] at hn; cases hn
  · next high b₀ b₁ a' b' c' d' s' hs =>
    obtain rfl : high = code := Option.some.inj (hs.symm.trans h)
    have hnone : (if b₀ = ch '\\' ∧ b₁ = ch 'u' then (hex4 a' b' c' d').bind (joinPair high)
        else none) = none := by
      split
      · cases hex4 a' b' c' d' with
        | none => rfl
        | some low => exact joinPair_low hlow low
      · rfl
    rw [hnone]
    cases scanString (b₀ :: b₁ :: a' :: b' :: c' :: d' :: s') <;> rfl
  · next s' code' hcode _ =>
    obtain rfl : code' = code := Option.some.inj (hcode.symm.trans h)
    cases scanString s' <;> rfl

theorem scanString_escape {e x : CodePoint} (h : unescape e = some x) (s : Str) :
    scanString (ch '\\' :: e :: s) = consText x (scanString s) := by
  have hbs : ch '\\' ≠ ch '"' := by decide
  have he : e ≠ ch 'u' := by
    rintro rfl
    rw [show unescape (ch 'u') = none from rfl] at h
    cases h
  rw [scanString.eq_def]
  simp only [hbs, if_false, if_true, he, h]
  cases scanString s <;> rfl

theorem scanString_plain {c : CodePoint} (h1 : c ≠ ch '"') (h2 : c ≠ ch '\\') (h3 : ¬ c.val < 0x20)
    (s : Str) : scanString (c :: s) = consText c (scanString s) := by
  rw [scanString.eq_def]
  simp only [h1, h2, h3, if_false]
  cases scanString s <;> rfl

/-- The hexadecimal digit that `json.dumps` writes. -/
theorem hexValue_lower {k : Nat} (h : k < 16) :
    hexValue (if k < 10 then Fin.ofNat _ (0x30 + k) else Fin.ofNat _ (0x57 + k)) = some k := by
  have hall : ∀ k : Fin 16, hexValue (if k.val < 10 then Fin.ofNat _ (0x30 + k.val)
      else Fin.ofNat _ (0x57 + k.val)) = some k.val := by decide
  exact hall ⟨k, h⟩

/-- An escaped character reads back as itself. -/
theorem scanString_jsonEscape (c : CodePoint) (s : Str) :
    scanString (jsonEscape c ++ s) = consText c (scanString s) := by
  have hval : ∀ d : CodePoint, c.val = d.val → c = d := fun d h => Fin.ext h
  unfold jsonEscape
  split
  · next h => rw [hval (ch '"') h]; exact scanString_escape rfl s
  split
  · next h => rw [hval (ch '\\') h]; exact scanString_escape rfl s
  split
  · next h => rw [hval 8 h]; exact scanString_escape rfl s
  split
  · next h => rw [hval 9 h]; exact scanString_escape rfl s
  split
  · next h => rw [hval 10 h]; exact scanString_escape rfl s
  split
  · next h => rw [hval 12 h]; exact scanString_escape rfl s
  split
  · next h => rw [hval 13 h]; exact scanString_escape rfl s
  split
  · next hctl =>
    have hlit : Py.lit "\\u00" = [ch '\\', ch 'u', ch '0', ch '0'] := rfl
    have hhigh : ∃ d, Py.lit (if c.val < 0x10 then "0" else "1") = [d] ∧
        hexValue d = some (c.val / 16) := by
      by_cases hlow : c.val < 0x10
      · rw [if_pos hlow, Nat.div_eq_of_lt hlow]
        exact ⟨ch '0', rfl, rfl⟩
      · have : c.val / 16 = 1 := by omega
        rw [if_neg hlow, this]
        exact ⟨ch '1', rfl, rfl⟩
    obtain ⟨d, hd, hdv⟩ := hhigh
    have hdigit := hexValue_lower (k := c.val % 16) (Nat.mod_lt _ (by decide))
    have hzero : hexValue (ch '0') = some 0 := rfl
    have hex : hex4 (ch '0') (ch '0') d (if c.val % 16 < 10 then Fin.ofNat _ (0x30 + c.val % 16)
        else Fin.ofNat _ (0x57 + c.val % 16)) = some c.val := by
      rw [hex4, hzero, hdv, hdigit]
      simp only [Option.pure_def, Option.bind_eq_bind, Option.bind_some, Option.some.injEq]
      omega
    have := scanString_unicode hex (by omega) s
    rw [show (Fin.ofNat _ c.val : CodePoint) = c from Fin.ext (Nat.mod_eq_of_lt c.isLt)] at this
    rw [hlit, hd]
    exact this
  · next hq hb _ _ _ _ _ hctl =>
    exact scanString_plain (fun h => hq (by rw [h]; rfl)) (fun h => hb (by rw [h]; rfl)) hctl s

/-- An encoded string reads back. -/
theorem scanString_flatMap (s rest : Str) :
    scanString (s.flatMap jsonEscape ++ ch '"' :: rest) = .ok (s, rest) := by
  induction s with
  | nil => simp [scanString.eq_def]
  | cons c s ih => rw [List.flatMap_cons, List.append_assoc, scanString_jsonEscape, ih]; rfl

theorem jsonString_append (s rest : Str) :
    jsonString s ++ rest = ch '"' :: (s.flatMap jsonEscape ++ ch '"' :: rest) := by
  simp [jsonString]
  rfl

end AgencyRuntime
